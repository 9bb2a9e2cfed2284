import FieldQuery.Json.Numeral
import FieldQuery.Text.Utf8

/-!
# Reading JSON text

Octets are read into a `Draft`: the value as far as the text goes. Where the text breaks the
grammar the draft has a hole, so that whoever makes sense of the draft from left to right meets
faults in the order of the text. Numerals without a value and strings that are no text are kept as
such; they are faults only for a reader that needs them.
-/
namespace FieldQuery

inductive Draft where
  | null
  | bool (b : Bool)
  | num (value : Option Numeral)
  | str (text : Option String)
  /-- `closed` says whether the closing bracket was reached. -/
  | arr (items : List Draft) (closed : Bool)
  | obj (members : List (Draft × Draft)) (closed : Bool)
  /-- The text breaks off or breaks the grammar here. -/
  | hole
deriving Repr, Inhabited

namespace Draft

abbrev Octets := List UInt8

def isChar (b : UInt8) (c : Char) : Bool := b.toNat == c.toNat

def isDigit (b : UInt8) : Bool := 0x30 ≤ b.toNat && b.toNat ≤ 0x39

def isSpace (b : UInt8) : Bool := isChar b ' ' || isChar b '\n' || isChar b '\t' || isChar b '\r'

def skipSpace (bs : Octets) : Octets := bs.dropWhile isSpace

def digitChars (bs : Octets) : List Char := bs.map fun b => Char.ofNat b.toNat

def takeDigits (bs : Octets) : List Char × Octets :=
  (digitChars (bs.takeWhile isDigit), bs.dropWhile isDigit)

/-- A fraction, if a point follows: none if no digit stands behind the point. -/
def takeFraction (bs : Octets) : Option (Option (List Char) × Octets) :=
  match bs with
  | b :: rest =>
    if isChar b '.' then
      let (ds, rest') := takeDigits rest
      if ds.isEmpty then none else some (some ds, rest')
    else some (none, bs)
  | [] => some (none, [])

def takeExponent (bs : Octets) : Option (Option Int × Octets) :=
  match bs with
  | b :: rest =>
    if isChar b 'e' || isChar b 'E' then
      let (negative, rest) : Bool × Octets := match rest with
        | s :: r => if isChar s '-' then (true, r) else if isChar s '+' then (false, r)
          else (false, s :: r)
        | [] => (false, [])
      let (ds, rest') := takeDigits rest
      if ds.isEmpty then none
      else some (some (if negative then -(digitsValue ds : Int) else digitsValue ds), rest')
    else some (none, bs)
  | [] => some (none, [])

/-- A numeral behind its sign. A first digit zero stands alone. -/
def takeNumeral (negative : Bool) (bs : Octets) : Option (NumeralText × Octets) :=
  let (whole, rest) := takeDigits bs
  if whole.isEmpty || (whole.head? == some '0' && whole.length != 1) then none
  else do
    let (fraction, rest) ← takeFraction rest
    let (exponent, rest) ← takeExponent rest
    some (⟨negative, whole, fraction, exponent⟩, rest)

def readNumeral (negative : Bool) (bs : Octets) : Draft × Octets :=
  match takeNumeral negative bs with
  | some (t, rest) => (.num t.value?, rest)
  | none => (.hole, [])

/-- A unit of a string: octets of its own, or half of a pair that stands for one character. -/
inductive Piece where
  | octets (bs : Octets)
  | half (n : Nat)

def hexOf (b : UInt8) : Option Nat :=
  let n := b.toNat
  if 0x30 ≤ n ∧ n ≤ 0x39 then some (n - 0x30)
  else if 0x41 ≤ n ∧ n ≤ 0x46 then some (n - 0x41 + 10)
  else if 0x61 ≤ n ∧ n ≤ 0x66 then some (n - 0x61 + 10)
  else none

def takeUnit : Octets → Option (Nat × Octets)
  | a :: b :: c :: d :: rest => do
    let a ← hexOf a
    let b ← hexOf b
    let c ← hexOf c
    let d ← hexOf d
    some (((a * 16 + b) * 16 + c) * 16 + d, rest)
  | _ => none

def escaped? (b : UInt8) : Option Char :=
  if isChar b '"' then some '"'
  else if isChar b '\\' then some '\\'
  else if isChar b '/' then some '/'
  else if isChar b 'b' then some '\x08'
  else if isChar b 'f' then some '\x0c'
  else if isChar b 'n' then some '\n'
  else if isChar b 'r' then some '\r'
  else if isChar b 't' then some '\t'
  else none

def isHalf (n : Nat) : Bool := 0xD800 ≤ n && n < 0xE000

/-- The pieces up to the closing quote, and what follows it; none if the string does not end. -/
def takePieces : Octets → Option (List Piece × Octets)
  | [] => none
  | b :: rest =>
    if isChar b '"' then some ([], rest)
    else if isChar b '\\' then
      match rest with
      | u :: a :: b :: c :: d :: rest' =>
        if isChar u 'u' then do
          let (n, _) ← takeUnit [a, b, c, d]
          let (ps, after) ← takePieces rest'
          some ((if isHalf n then .half n else .octets (Text.Utf8.encodeChar (Char.ofNat n))) :: ps,
            after)
        else do
          let ch ← escaped? u
          let (ps, after) ← takePieces (a :: b :: c :: d :: rest')
          some (.octets (Text.Utf8.encodeChar ch) :: ps, after)
      | u :: rest' => do
        let ch ← escaped? u
        let (ps, after) ← takePieces rest'
        some (.octets (Text.Utf8.encodeChar ch) :: ps, after)
      | [] => none
    else if b.toNat < 0x20 then none
    else do
      let (ps, after) ← takePieces rest
      some (.octets [b] :: ps, after)

/-- Joins pieces; a half must be the first of a pair. -/
def joinPieces : List Piece → Option Octets
  | [] => some []
  | .octets bs :: ps => (joinPieces ps).map (bs ++ ·)
  | .half h :: .half l :: ps =>
    if h < 0xDC00 ∧ 0xDC00 ≤ l then
      let n := 0x10000 + (h - 0xD800) * 0x400 + (l - 0xDC00)
      (joinPieces ps).map (Text.Utf8.encodeChar (Char.ofNat n) ++ ·)
    else none
  | .half _ :: _ => none

/-- The text that pieces stand for, unless a half has no partner or the octets are no text. -/
def textOf (ps : List Piece) : Option String := do
  let bs ← joinPieces ps
  match Text.Utf8.decode bs with
  | .ok cs => some (String.ofList cs)
  | .error _ => none

/-- A string behind its opening quote. -/
def readString (bs : Octets) : Draft × Octets :=
  match takePieces bs with
  | some (ps, rest) => (.str (textOf ps), rest)
  | none => (.hole, [])

def takeWord (word : List Char) (bs : Octets) : Option Octets :=
  match word, bs with
  | [], rest => some rest
  | c :: cs, b :: rest => if isChar b c then takeWord cs rest else none
  | _ :: _, [] => none

def readWord (word : String) (value : Draft) (bs : Octets) : Draft × Octets :=
  match takeWord word.toList bs with
  | some rest => (value, rest)
  | none => (.hole, [])

def readScalar (b : UInt8) (rest : Octets) : Draft × Octets :=
  if isChar b '"' then readString rest
  else if isChar b '-' then readNumeral true rest
  else if isDigit b then readNumeral false (b :: rest)
  else if isChar b 'n' then readWord "null" .null (b :: rest)
  else if isChar b 't' then readWord "true" (.bool true) (b :: rest)
  else if isChar b 'f' then readWord "false" (.bool false) (b :: rest)
  else (.hole, [])

def isHole : Draft → Bool
  | hole => true
  | _ => false

/-- A draft that was left open: reading cannot go on behind it. -/
def isOpen : Draft → Bool
  | hole => true
  | arr _ closed => !closed
  | obj _ closed => !closed
  | _ => false

mutual

/-- Reads a value, leading blanks included; each step spends fuel. -/
def readValue : Nat → Octets → Draft × Octets
  | 0, _ => (.hole, [])
  | fuel + 1, bs =>
    match skipSpace bs with
    | [] => (.hole, [])
    | b :: rest =>
      if isChar b '[' then
        match skipSpace rest with
        | [] => (.arr [] false, [])
        | c :: rest' =>
          if isChar c ']' then (.arr [] true, rest')
          else
            let (items, closed, after) := readItems fuel (c :: rest')
            (.arr items closed, after)
      else if isChar b '\x7b' then
        match skipSpace rest with
        | [] => (.obj [] false, [])
        | c :: rest' =>
          if isChar c '\x7d' then (.obj [] true, rest')
          else
            let (members, closed, after) := readMembers fuel (c :: rest')
            (.obj members closed, after)
      else readScalar b rest

/-- Reads elements up to the closing bracket. -/
def readItems : Nat → Octets → List Draft × Bool × Octets
  | 0, _ => ([], false, [])
  | fuel + 1, bs =>
    let (item, rest) := readValue fuel bs
    if item.isOpen then ([item], false, [])
    else match skipSpace rest with
      | [] => ([item], false, [])
      | c :: rest' =>
        if isChar c ']' then ([item], true, rest')
        else if isChar c ',' then
          let (items, closed, after) := readItems fuel rest'
          (item :: items, closed, after)
        else ([item], false, [])

/-- Reads members up to the closing brace. A key that is no string ends the object. -/
def readMembers : Nat → Octets → List (Draft × Draft) × Bool × Octets
  | 0, _ => ([], false, [])
  | fuel + 1, bs =>
    let (key, rest) := readValue fuel bs
    match key, skipSpace rest with
    | .str _, c :: rest' =>
      if isChar c ':' then
        let (value, rest) := readValue fuel rest'
        if value.isOpen then ([(key, value)], false, [])
        else match skipSpace rest with
          | [] => ([(key, value)], false, [])
          | c :: rest' =>
            if isChar c '\x7d' then ([(key, value)], true, rest')
            else if isChar c ',' then
              let (members, closed, after) := readMembers fuel rest'
              ((key, value) :: members, closed, after)
            else ([(key, value)], false, [])
      else ([(key, .hole)], false, [])
    | _, _ => ([(key, .hole)], false, [])

end

/-- Reads a whole text: the draft, and whether nothing but blanks follows it. -/
def read (bs : Octets) : Draft × Bool :=
  let (d, rest) := readValue (2 * bs.length + 2) bs
  (d, !d.isOpen && (skipSpace rest).isEmpty)

mutual

/-- The draft of a finished value. -/
def ofJson : Json → Draft
  | .null => .null
  | .bool b => .bool b
  | .num n => .num (some n)
  | .str s => .str (some s)
  | .arr items => .arr (ofItems items) true
  | .obj members => .obj (ofMembers members) true

def ofItems : List Json → List Draft
  | [] => []
  | j :: rest => ofJson j :: ofItems rest

def ofMembers : List (String × Json) → List (Draft × Draft)
  | [] => []
  | (k, v) :: rest => (.str (some k), ofJson v) :: ofMembers rest

end

mutual

/-- Whether a draft keeps to the grammar, whatever its strings and numerals stand for. -/
def grammatical : Draft → Bool
  | hole => false
  | arr items closed => closed && grammaticalItems items
  | obj members closed => closed && grammaticalMembers members
  | _ => true

def grammaticalItems : List Draft → Bool
  | [] => true
  | d :: rest => d.grammatical && grammaticalItems rest

def grammaticalMembers : List (Draft × Draft) → Bool
  | [] => true
  | (_, v) :: rest => v.grammatical && grammaticalMembers rest

end

end Draft

end FieldQuery
