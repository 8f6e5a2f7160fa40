import DomFlow.Script.Ast

/-! # Declared names

Which names code declares, and where they belong: `var` reaches up to the function around it, `let`,
`const` and classes stay in their block, and functions belong to their block or function. -/

namespace DomFlow.Script

mutual

def Pat.names : Pat → List String
  | .ident n => [n]
  | .array elems => Pat.allNames elems
  | .object props => PatProp.allNames props
  | .rest p => p.names
  | .withDefault p _ => p.names
  | .target _ => []

def Pat.allNames : List (Option Pat) → List String
  | [] => []
  | none :: r => Pat.allNames r
  | some p :: r => p.names ++ Pat.allNames r

def PatProp.allNames : List PatProp → List String
  | [] => []
  | .keyValue _ p :: r => p.names ++ PatProp.allNames r
  | .shorthand n _ :: r => n :: PatProp.allNames r
  | .rest p :: r => p.names ++ PatProp.allNames r

end

def paramNames (ps : List Pat) : List String := ps.flatMap Pat.names

def Declarator.names : Declarator → List String
  | .mk p _ => p.names

def declaratorNames (ds : List Declarator) : List String := ds.flatMap Declarator.names

mutual

/-- The names that `var` declares in a statement, however deep. -/
def Stmt.varNames : Stmt → List String
  | .var .var decls => declaratorNames decls
  | .block body => Stmt.allVarNames body
  | .withObject _ body => body.varNames
  | .labeled _ body => body.varNames
  | .ifElse _ yes none => yes.varNames
  | .ifElse _ yes (some no) => yes.varNames ++ no.varNames
  | .switch _ cases => SwitchCase.allVarNames cases
  | .tryCatch block handler finalizer =>
    Stmt.allVarNames block ++
      (match handler with
        | some c => c.varNames
        | none => []) ++
      (match finalizer with
        | some body => Stmt.allVarNames body
        | none => [])
  | .whileLoop _ body => body.varNames
  | .doWhile body _ => body.varNames
  | .forLoop init _ _ body =>
    (match init with
      | some s => s.varNames
      | none => []) ++ body.varNames
  | .forIn head _ body => head.varNames ++ body.varNames
  | .forOf _ head _ body => head.varNames ++ body.varNames
  | _ => []

def Stmt.allVarNames : List Stmt → List String
  | [] => []
  | s :: r => s.varNames ++ Stmt.allVarNames r

def SwitchCase.allVarNames : List SwitchCase → List String
  | [] => []
  | .mk _ body :: r => Stmt.allVarNames body ++ SwitchCase.allVarNames r

def Catch.varNames : Catch → List String
  | .mk _ body => Stmt.allVarNames body

def ForHead.varNames : ForHead → List String
  | .decl .var p _ => p.names
  | _ => []

end

def Stmt.functionName? : Stmt → Option String
  | .func name _ _ _ => some name
  | .labeled _ s => s.functionName?
  | _ => none

/-- The names that `let` and classes declare in a list of statements itself. -/
def letNames (body : List Stmt) : List String :=
  body.flatMap fun
    | .var .letKind decls => declaratorNames decls
    | .classDecl name _ _ => [name]
    | _ => []

def constNames (body : List Stmt) : List String :=
  body.flatMap fun
    | .var .constKind decls => declaratorNames decls
    | _ => []

def functionNames (body : List Stmt) : List String := body.filterMap Stmt.functionName?

/-- Whether a body begins with a directive for strict mode. -/
def hasStrictDirective : List Stmt → Bool
  | .expr (.str s) :: r => s == "use strict" || hasStrictDirective r
  | _ => false

def caseStatements (cases : List SwitchCase) : List Stmt :=
  cases.flatMap fun
    | .mk _ body => body

def hasPlainParams (params : List Pat) : Bool :=
  params.all fun
    | .ident _ => true
    | _ => false

/-- The number of parameters before the first default or rest. -/
def expectedCount (params : List Pat) : Nat :=
  (params.takeWhile fun
    | .withDefault .. | .rest _ => false
    | _ => true).length

end DomFlow.Script
