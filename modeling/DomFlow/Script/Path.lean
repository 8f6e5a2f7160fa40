import DomFlow.Script.Ast
import DomFlow.Text.Decimal
import DomFlow.Text.Quoted

/-! # Access paths

The text by which patterns know a place: names joined by points, a call as a pair of parentheses, an
unknown key as `[?]`, and any other base as `<expr>`. -/

namespace DomFlow.Script

def unknownBase : String := "<expr>"

def unknownIndex : String := "[?]"

/-- What a call adds to the path of its callee. -/
def callSuffix : String := "()"

/-- The text that an expression spells without being evaluated: a string, or a template without
substitutions, whose text counts as written. -/
def Expr.spelled? : Expr → Option String
  | .str s => some s
  | .template quasis [] => quasis.head?.map (·.raw)
  | _ => none

/-- The name of a key that is known without evaluation. -/
def Key.name? : Key → Option String
  | .name n => some n
  | .hidden n => some ("#" ++ n)
  | .str s => some s
  | .num v => some (Text.positionalText v)
  | .bigint v => some (toString v)
  | .computed e => e.spelled?

/-- What an access by this key adds to the path of its base. -/
def Key.suffix (k : Key) : String :=
  match k.name? with
  | some n => "." ++ n
  | none => match k with
    | .computed (.num v) => "[" ++ Text.positionalText v ++ "]"
    | _ => unknownIndex

/-- The access path of an expression. -/
def Expr.path : Expr → String
  | .ident n => n
  | .thisRef => "this"
  | .member o k => o.path ++ k.suffix
  | .optMember _ o k => o.path ++ k.suffix
  | .call f _ => f.path ++ callSuffix
  | .optCall _ f _ => f.path ++ callSuffix
  | .superCall _ => "super" ++ callSuffix
  | .importCall _ => "import" ++ callSuffix
  | .paren e => e.path
  | _ => unknownBase

def Expr.calleePath? : Expr → Option String
  | .call f _ => some f.path
  | .superCall _ => some "super"
  | .importCall _ => some "import"
  | _ => none

/-- The path that an assignment writes; a pattern has none. -/
def Target.path? : Target → Option String
  | .ident n => some n
  | .member o k => some (o.path ++ k.suffix)
  | .paren e => some e.path
  | .superMember _ => none
  | .pattern _ => none

/-- A short text of an expression, as evidence. -/
def Expr.describe : Expr → String
  | .str s => Text.quoted s
  | .num v => Text.positionalText v
  | .bool b => if b then "true" else "false"
  | .null => "null"
  | .binary op l r => l.describe ++ " " ++ op.text ++ " " ++ r.describe
  | .template _ _ => "`...`"
  | e => e.path

end DomFlow.Script
