import FieldQuery.Text.Run

/-!
# Arguments

A command line is a list of words. Options are written `--name value`, `--name=value`, or with one
letter, `-n value` or `-nvalue`; letters of options without a value may share a word. All other
words are positional. Each option may come once. After `--` every word is positional.

Words are understood from left to right; the first one that breaks the rules, or after which words
no longer matter, decides. A value in a word of its own is examined when the next option or
positional word comes, or when the words end; the name of a command leaves it waiting.
-/
namespace FieldQuery

/-- An option that a command knows. -/
structure OptionShape where
  name : String
  letter : Option Char := none
  /-- Which values the option admits; nothing if no value belongs to it. -/
  admits : Option (String → Bool) := some fun _ => true
  /-- Whether the words after the option no longer matter. -/
  isLast : Bool := false

namespace OptionShape

def hasValue (s : OptionShape) : Bool := s.admits.isSome

/-- Whether a value may be given; an option without a value is given the empty one. -/
def accepts (s : OptionShape) (value : String) : Bool :=
  match s.admits with
  | none => value.isEmpty
  | some admits => admits value

end OptionShape

structure Grammar where
  shapes : List OptionShape
  /-- Words that name a command and end the options. -/
  isCommand : String → Bool := fun _ => false
  /-- How many positional words there may be. -/
  places : Nat := 0

structure Arguments where
  /-- Options by name, with their values; an option without a value has the empty one. -/
  options : List (String × String) := []
  /-- An option whose value has not been examined. -/
  waiting : Option (OptionShape × String) := none
  positional : List String := []
  /-- The command that a word named, with the words after it. -/
  command : Option (String × List String) := none
  /-- The option after which words no longer matter. -/
  last : Option String := none

namespace Arguments

def value? (a : Arguments) (name : String) : Option String :=
  (a.options.find? (·.1 = name)).map (·.2)

/-- Takes in an option, unless it was given before or does not accept the value. -/
def take (a : Arguments) (s : OptionShape) (value : String) : Option Arguments :=
  if a.options.any (·.1 = s.name) || !s.accepts value then none
  else some { a with
    options := a.options ++ [(s.name, value)]
    last := if s.isLast then some s.name else none }

/-- Takes in the option that waits. -/
def settle (a : Arguments) : Option Arguments :=
  match a.waiting with
  | none => some a
  | some (s, value) => { a with waiting := none }.take s value

def place (a : Arguments) (g : Grammar) (words : List String) : Option Arguments :=
  if a.positional.length + words.length ≤ g.places then
    some { a with positional := a.positional ++ words }
  else none

inductive WordForm where
  /-- Two dashes alone. -/
  | stop
  | long (name : List Char) (value : Option (List Char))
  | short (letter : Char) (rest : List Char)
  | plain
deriving DecidableEq, Repr

/-- The form of a word; a single dash alone is plain. -/
def formOf : List Char → WordForm
  | ['-', '-'] => .stop
  | '-' :: '-' :: rest =>
    let name := rest.takeWhile (· ≠ '=')
    match rest.dropWhile (· ≠ '=') with
    | [] => .long name none
    | _ :: value => .long name (some value)
  | '-' :: c :: rest => .short c rest
  | _ => .plain

/-- The value that a letter option has in its own word, where a sign of equality may come first. -/
def attached : List Char → Option (List Char)
  | [] => none
  | '=' :: value => some value
  | value => some value

/-- Takes in an option at its word. If its value is still to come, the option is given back. -/
def meet (a : Arguments) (s : OptionShape) (value : Option (List Char)) :
    Option (Arguments × Option OptionShape) :=
  a.settle.bind fun a =>
    match s.hasValue, value with
    | true, none => some (a, some s)
    | true, some value => (a.take s (String.ofList value)).map fun a => (a, none)
    | false, none => (a.take s "").map fun a => (a, none)
    | false, some _ => none

/-- Takes in the letters of a word, one after the other, until one of them has a value, which is the
rest of the word, or is the last option that matters. -/
def meetLetters (shapes : List OptionShape) (a : Arguments) :
    List Char → Option (Arguments × Option OptionShape)
  | [] => some (a, none)
  | letter :: rest =>
    match shapes.find? (·.letter = some letter) with
    | none => none
    | some s =>
      if s.hasValue then a.meet s (attached rest)
      else (a.meet s none).bind fun (a, _) =>
        if s.isLast then some (a, none) else meetLetters shapes a rest

def meetWord (shapes : List OptionShape) (a : Arguments) :
    WordForm → Option (Arguments × Option OptionShape)
  | .long name value => (shapes.find? (·.name.toList = name)).bind fun s => a.meet s value
  | .short letter rest => meetLetters shapes a (letter :: rest)
  | _ => none

/-- Understands words; nothing if they break the rules. A word that names a command ends the
options, unless it is a value. -/
def read (g : Grammar) (a : Arguments) : List String → Option Arguments
  | [] => a.settle
  | word :: rest =>
    if g.isCommand word then some { a with command := some (word, rest) }
    else match formOf word.toList with
      | .stop => a.settle.bind fun a => a.place g rest
      | .plain => (a.settle.bind fun a => a.place g [word]).bind fun a => read g a rest
      | form =>
        match meetWord g.shapes a form with
        | none => none
        | some (a, none) => if a.last.isSome then some a else read g a rest
        | some (a, some s) =>
          match rest with
          | [] => none
          | value :: rest =>
            if formOf value.toList = .plain then read g { a with waiting := some (s, value) } rest
            else none

end Arguments

end FieldQuery
