import FieldQuery.Statement.Lexeme
import FieldQuery.Statement.Plan

/-!
# Qualifiers

A column is written with the name of the item that its rows are taken from before it. Databases
compare these names ignoring the case of ASCII letters, so a name is answered to by every item whose
own name differs in case only.
-/
namespace FieldQuery

namespace Statement

/-- The names that stand before a dot. -/
def qualifiers : List Lexeme → List String
  | [] => []
  | .name s :: rest =>
    (if rest.head? = some (.sign '.') then [String.ofList s] else []) ++ qualifiers rest
  | _ :: rest => qualifiers rest

/-- Lexemes that do not go on with a column begun before them, and qualify columns by good names
only. -/
def Refers (good : String → Prop) (ls : List Lexeme) : Prop :=
  ls.head? ≠ some (.sign '.') ∧ ∀ name ∈ qualifiers ls, good name

end Statement

def OrderKey.column : OrderKey → ColumnRef
  | isNull c | folded c | plain c => c

/-- The condition of the caller, if a conjunct is one. -/
def Conjunct.raw? : Conjunct → Option Fragment
  | raw f => some f
  | group _ _ | notDeleted _ => none

namespace Plan

/-- The names of the items that rows are taken from: the table, or what stands in for it, and the
joins. -/
def sources (p : Plan) : List String := p.table :: p.joins.map (·.label)

/-- How many items answer to a name. -/
def answering (p : Plan) (name : String) : Nat :=
  p.sources.countP (Text.eqIgnoreAsciiCase · name)

def raws (p : Plan) : List Fragment := p.base.toList ++ p.conjuncts.filterMap (·.raw?)

end Plan

end FieldQuery
