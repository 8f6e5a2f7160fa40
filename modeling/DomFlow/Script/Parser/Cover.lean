import DomFlow.Script.Ast

/-! # Literals that turn out to be patterns

A list in parentheses, an array literal or an object literal is read as an expression first. When an
arrow or an equals sign follows, it is read again as a pattern. -/

namespace DomFlow.Script

/-- Whether an expression denotes one place that can be assigned. -/
def Expr.isSimpleTarget (strict : Bool) : Expr → Bool
  | .ident n => !(strict && (n == "eval" || n == "arguments"))
  | .paren e => e.isSimpleTarget strict
  | .member base _ =>
    match base with
    | .member o k => (Expr.member o k).isSimpleTarget strict
    | .optMember .. | .optCall .. => false
    | _ => true
  | .superMember _ => true
  | _ => false

def Target.toPat : Target → Pat
  | .ident n => .ident n
  | .member o k => .target (.member o k)
  | .superMember k => .target (.superMember k)
  | .paren e => .target (.paren e)
  | .pattern p => p

mutual

def Expr.toPat? (strict : Bool) : Expr → Option Pat
  | .ident n => if strict && (n == "eval" || n == "arguments") then none else some (.ident n)
  | .array elems => (Elem.toPats? strict elems).map .array
  | .object props => (Property.toPatProps? strict props).map .object
  | .assign .plain t value => some (.withDefault t.toPat value)
  | e => if e.isSimpleTarget strict then some (.target e) else none

/-- Elements of an array literal as elements of a pattern; only the last may gather the rest. -/
def Elem.toPats? (strict : Bool) : List Elem → Option (List (Option Pat))
  | [] => some []
  | [.spread e] =>
    match e.toPat? strict with
    | none | some (.withDefault ..) => none
    | some p => some [some (.rest p)]
  | .spread _ :: _ => none
  | .hole :: r => (Elem.toPats? strict r).map (none :: ·)
  | .item e :: r =>
    match e.toPat? strict, Elem.toPats? strict r with
    | some p, some ps => some (some p :: ps)
    | _, _ => none

/-- Properties of an object literal as properties of a pattern; only the last may gather the rest. -/
def Property.toPatProps? (strict : Bool) : List Property → Option (List PatProp)
  | [] => some []
  | [.spread e] =>
    match e.toPat? strict with
    | some (.ident n) => some [.rest (.ident n)]
    | some (.target t) => some [.rest (.target t)]
    | _ => none
  | .keyValue k v :: r =>
    match v.toPat? strict, Property.toPatProps? strict r with
    | some p, some ps => some (.keyValue k p :: ps)
    | _, _ => none
  | .shorthand n :: r => (Property.toPatProps? strict r).map (.shorthand n none :: ·)
  | .cover n d :: r => (Property.toPatProps? strict r).map (.shorthand n (some d) :: ·)
  | _ :: _ => none

end

/-- The left side of an assignment with `=`. -/
def Expr.toTarget? (strict : Bool) : Expr → Option Target
  | .ident n => if strict && (n == "eval" || n == "arguments") then none else some (.ident n)
  | .member o k => if (Expr.member o k).isSimpleTarget strict then some (.member o k) else none
  | .superMember k => some (.superMember k)
  | .paren e => if e.isSimpleTarget strict then some (.paren e) else none
  | .array elems => (Elem.toPats? strict elems).map fun ps => .pattern (.array ps)
  | .object props => (Property.toPatProps? strict props).map fun ps => .pattern (.object ps)
  | _ => none

/-- The left side of an assignment that reads the place first. -/
def Expr.toSimpleTarget? (strict : Bool) : Expr → Option Target
  | .array _ | .object _ => none
  | e => e.toTarget? strict

mutual

def Pat.bindsNames : Pat → Bool
  | .ident _ => true
  | .array elems => Pat.allBindNames elems
  | .object props => PatProp.allBindNames props
  | .rest p => p.bindsNames
  | .withDefault p _ => p.bindsNames
  | .target _ => false

def Pat.allBindNames : List (Option Pat) → Bool
  | [] => true
  | none :: r => Pat.allBindNames r
  | some p :: r => p.bindsNames && Pat.allBindNames r

def PatProp.allBindNames : List PatProp → Bool
  | [] => true
  | .keyValue _ p :: r => p.bindsNames && PatProp.allBindNames r
  | .shorthand _ _ :: r => PatProp.allBindNames r
  | .rest p :: r => p.bindsNames && PatProp.allBindNames r

end

end DomFlow.Script
