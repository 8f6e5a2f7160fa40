import DomFlow.Assoc

/-! # Values of TOML

A document is a table: values under keys. Numbers that are not integers and dates are kept as they are
written. -/

namespace DomFlow.Toml

inductive Value where
  | text (s : String)
  | integer (n : Int)
  | float (written : String)
  | bool (b : Bool)
  | moment (written : String)
  | array (items : List Value)
  | table (entries : List (String × Value))
deriving Repr, Inhabited

abbrev Table := List (String × Value)

/-- The keys of a table in order of their characters. -/
def Table.sortedKeys (t : Table) : List String := (Assoc.inOrder t).map Prod.fst

end DomFlow.Toml
