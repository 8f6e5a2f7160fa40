import DomFlow.Script.Ast

/-! # The names an expression reads

Names in read position, left to right. Names of properties are not reads, and functions and classes are
not entered. -/

namespace DomFlow.Script

mutual

/-- The names an expression reads, with repetitions. -/
def Expr.reads : Expr → List String
  | .ident n => [n]
  | .member o k => o.reads ++ k.reads
  | .optMember _ o k => o.reads ++ k.reads
  | .call f args => f.reads ++ Elem.allReads args
  | .optCall _ f args => f.reads ++ Elem.allReads args
  | .superCall args => Elem.allReads args
  | .importCall args => Elem.allReads args
  | .new f args => f.reads ++ Elem.allReads args
  | .binary _ l r => l.reads ++ r.reads
  | .unary _ e => e.reads
  | .update _ _ e => e.reads
  | .assign _ t v => t.reads ++ v.reads
  | .cond test yes no => test.reads ++ yes.reads ++ no.reads
  | .paren e => e.reads
  | .seq es => Expr.allReads es
  | .array elems => Elem.allReads elems
  | .object props => Property.allReads props
  | .template _ es => Expr.allReads es
  | .tagged tag _ es => tag.reads ++ Expr.allReads es
  | .await e => e.reads
  | _ => []

def Expr.allReads : List Expr → List String
  | [] => []
  | e :: r => e.reads ++ Expr.allReads r

def Elem.allReads : List Elem → List String
  | [] => []
  | .hole :: r => Elem.allReads r
  | .item e :: r => e.reads ++ Elem.allReads r
  | .spread e :: r => e.reads ++ Elem.allReads r

def Property.allReads : List Property → List String
  | [] => []
  | .keyValue k v :: r => k.reads ++ v.reads ++ Property.allReads r
  | .shorthand n :: r => n :: Property.allReads r
  | .spread e :: r => e.reads ++ Property.allReads r
  | _ :: r => Property.allReads r

def Key.reads : Key → List String
  | .computed e => e.reads
  | _ => []

/-- Of the left side of an assignment, the object whose member is written. -/
def Target.reads : Target → List String
  | .member o _ => o.reads
  | _ => []

end

/-- The names an expression depends on, each once, in the order of their first occurrence. -/
def Expr.dependencies (e : Expr) : List String :=
  e.reads.eraseDups

end DomFlow.Script
