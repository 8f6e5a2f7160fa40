import DomFlow.Flow.Step

/-! # From scripts to steps

Every construct becomes the steps of its parts in the order in which they run, with the scopes it opens.
Classes and the bodies of `with` are not entered. Which keys are sinks decides how object literals are
read, so the test for sinks is a parameter. -/

namespace DomFlow.Script

variable (sink : String → Bool)

/-- The scope that a declaration of this kind binds in. -/
def VarKind.target : VarKind → BindTarget
  | .var => .function
  | .letKind | .constKind => .current

def Elem.exprs : List Elem → List Expr
  | [] => []
  | .hole :: r => Elem.exprs r
  | .item e :: r => e :: Elem.exprs r
  | .spread e :: r => e :: Elem.exprs r

def defineSteps (name : String) : List Step :=
  [.clean, .declare .current name, .forget]

mutual

def Expr.steps : Expr → List Step
  | .assign op t v =>
    v.steps ++ [.note v] ++ t.steps (op = .plain) ++
      (match t.path? with
        | some path => [.checkAssign path v]
        | none => []) ++ [.forget]
  | .call f args => f.steps ++ Elem.steps args ++ [.checkCall f.path (Elem.exprs args)]
  | .superCall args => Elem.steps args ++ [.checkCall "super" (Elem.exprs args)]
  | .importCall args => Elem.steps args ++ [.checkCall "import" (Elem.exprs args)]
  | .new f args => f.steps ++ Elem.steps args ++ [.checkCall f.path (Elem.exprs args)]
  | .optCall _ f args => f.steps ++ Elem.steps args ++ [.checkCall f.path (Elem.exprs args)]
  | .object props => Property.steps props
  | .func name _ params body =>
    [.enter .function] ++ (name.map defineSteps).getD [] ++
      [.enter .function] ++ Pat.paramSteps params ++ Stmt.allSteps body ++ [.leave] ++ [.leave]
  | .arrow _ params body =>
    [.enter .function] ++ Pat.paramSteps params ++ Stmt.allSteps body ++ [.leave]
  | .paren e => e.steps
  | .seq es => Expr.allSteps es
  | .binary _ l r => l.steps ++ r.steps
  | .cond test yes no => test.steps ++ yes.steps ++ no.steps
  | .unary _ e => e.steps
  | .update _ _ e => e.steps
  | .await e => e.steps
  | .yield _ (some e) => e.steps
  | .array elems => Elem.steps elems
  | .template _ es => Expr.allSteps es
  | .tagged tag _ es => tag.steps ++ Expr.allSteps es
  | .member o k => o.steps ++ k.steps
  | .optMember _ o k => o.steps ++ k.steps
  | _ => []

def Expr.allSteps : List Expr → List Step
  | [] => []
  | e :: r => e.steps ++ Expr.allSteps r

def Elem.steps : List Elem → List Step
  | [] => []
  | .hole :: r => Elem.steps r
  | .item e :: r => e.steps ++ Elem.steps r
  | .spread e :: r => e.steps ++ Elem.steps r

def Key.steps : Key → List Step
  | .computed e => e.steps
  | _ => []

/-- The value under the key of a sink is checked, any other value runs. -/
def Property.steps : List Property → List Step
  | [] => []
  | .keyValue k v :: r =>
    k.steps ++
      (match k.name? with
        | some n => if sink n then [.checkProperty n v] else v.steps
        | none => v.steps) ++ Property.steps r
  | .shorthand n :: r =>
    (if sink n then [.checkProperty n (.ident n)] else []) ++ Property.steps r
  | .spread e :: r => e.steps ++ Property.steps r
  | .method _ _ params body :: r =>
    [.enter .function] ++ Pat.paramSteps params ++ Stmt.allSteps body ++ [.leave] ++ Property.steps r
  | .getter _ body :: r => [.enter .function] ++ Stmt.allSteps body ++ [.leave] ++ Property.steps r
  | .setter _ param body :: r =>
    [.enter .function, .clean] ++ param.bindSteps .current ++ [.forget] ++ Stmt.allSteps body ++
      [.leave] ++ Property.steps r
  | .cover _ _ :: r => Property.steps r

/-- Writes the latest taint to the left side of an assignment. -/
def Target.steps (plain : Bool) : Target → List Step
  | .ident n => [.assign plain n]
  | .member o k => o.steps ++ k.steps
  | .pattern p => p.assignSteps plain
  | .superMember _ | .paren _ => []

/-- Declares the names of a pattern with the latest taint, or with that of their defaults. -/
def Pat.bindSteps (target : BindTarget) : Pat → List Step
  | .ident n => [.declare target n]
  | .array elems => Pat.bindAllSteps target elems
  | .object props => PatProp.bindSteps target props
  | .rest p => p.bindSteps target
  | .withDefault p d => d.steps ++ [.noteDefault d] ++ p.bindSteps target ++ [.forget]
  | .target _ => []

def Pat.bindAllSteps (target : BindTarget) : List (Option Pat) → List Step
  | [] => []
  | none :: r => Pat.bindAllSteps target r
  | some p :: r => p.bindSteps target ++ Pat.bindAllSteps target r

def PatProp.bindSteps (target : BindTarget) : List PatProp → List Step
  | [] => []
  | .keyValue _ p :: r => p.bindSteps target ++ PatProp.bindSteps target r
  | .shorthand n none :: r => [.declare target n] ++ PatProp.bindSteps target r
  | .shorthand n (some d) :: r =>
    d.steps ++ [.noteDefault d, .declare target n, .forget] ++ PatProp.bindSteps target r
  | .rest p :: r => p.bindSteps target ++ PatProp.bindSteps target r

def Pat.paramSteps : List Pat → List Step
  | [] => []
  | p :: r => [.clean] ++ p.bindSteps .current ++ [.forget] ++ Pat.paramSteps r

/-- Assigns the latest taint to the names of a pattern; defaults do not run. -/
def Pat.assignSteps (plain : Bool) : Pat → List Step
  | .ident n => [.assign plain n]
  | .array elems => Pat.assignAllSteps plain elems
  | .object props => PatProp.assignSteps plain props
  | .rest p => p.assignSteps plain
  | .withDefault p _ => p.assignSteps plain
  | .target e => e.steps

def Pat.assignAllSteps (plain : Bool) : List (Option Pat) → List Step
  | [] => []
  | none :: r => Pat.assignAllSteps plain r
  | some p :: r => p.assignSteps plain ++ Pat.assignAllSteps plain r

def PatProp.assignSteps (plain : Bool) : List PatProp → List Step
  | [] => []
  | .keyValue _ p :: r => p.assignSteps plain ++ PatProp.assignSteps plain r
  | .shorthand n _ :: r => [.assign plain n] ++ PatProp.assignSteps plain r
  | .rest p :: r => p.assignSteps plain ++ PatProp.assignSteps plain r

def Declarator.steps (target : BindTarget) : List Declarator → List Step
  | [] => []
  | .mk p (some e) :: r =>
    e.steps ++ [.note e] ++ p.bindSteps target ++ [.forget] ++ Declarator.steps target r
  | .mk p none :: r => [.clean] ++ p.bindSteps target ++ [.forget] ++ Declarator.steps target r

/-- Gives the latest taint to the names of a loop's head. -/
def ForHead.steps : ForHead → List Step
  | .decl kind p _ => p.bindSteps kind.target
  | .target p => p.assignSteps true

def SwitchCase.steps : List SwitchCase → List Step
  | [] => []
  | .mk (some e) body :: r => e.steps ++ Stmt.allSteps body ++ SwitchCase.steps r
  | .mk none body :: r => Stmt.allSteps body ++ SwitchCase.steps r

def Catch.steps : Catch → List Step
  | .mk (some p) body =>
    [.enter .block, .clean] ++ p.bindSteps .current ++ [.forget] ++ Stmt.allSteps body ++ [.leave]
  | .mk none body => [.enter .block] ++ Stmt.allSteps body ++ [.leave]

def Stmt.steps : Stmt → List Step
  | .expr e => e.steps
  | .block body => [.enter .block] ++ Stmt.allSteps body ++ [.leave]
  | .ifElse test yes none => test.steps ++ yes.steps
  | .ifElse test yes (some no) => test.steps ++ yes.steps ++ no.steps
  | .ret (some e) => e.steps
  | .whileLoop test body => test.steps ++ body.steps
  | .doWhile body test => body.steps ++ test.steps
  | .forLoop init test update body =>
    [.enter .block] ++
      (match init with
        | some s => s.steps
        | none => []) ++
      (match test with
        | some e => e.steps
        | none => []) ++
      (match update with
        | some e => e.steps
        | none => []) ++ body.steps ++ [.leave]
  | .forIn head e body =>
    [.enter .block] ++ e.steps ++ [.note e] ++ head.steps ++ [.forget] ++ body.steps ++ [.leave]
  | .forOf _ head e body =>
    [.enter .block] ++ e.steps ++ [.note e] ++ head.steps ++ [.forget] ++ body.steps ++ [.leave]
  | .tryCatch block handler finalizer =>
    [.enter .block] ++ Stmt.allSteps block ++ [.leave] ++
      (match handler with
        | some c => c.steps
        | none => []) ++
      (match finalizer with
        | some body => [.enter .block] ++ Stmt.allSteps body ++ [.leave]
        | none => [])
  | .switch e cases => e.steps ++ [.enter .block] ++ SwitchCase.steps cases ++ [.leave]
  | .labeled _ body => body.steps
  | .throw e => e.steps
  | .var kind decls => Declarator.steps kind.target decls
  | .func name _ params body =>
    defineSteps name ++
      [.enter .function] ++ Pat.paramSteps params ++ Stmt.allSteps body ++ [.leave]
  | .classDecl name _ _ => defineSteps name
  | _ => []

def Stmt.allSteps : List Stmt → List Step
  | [] => []
  | s :: r => s.steps ++ Stmt.allSteps r

end

end DomFlow.Script

namespace DomFlow.WalkState

/-- Walks a script from a state. -/
def walk (p : Patterns) (s : WalkState) (script : Script) : WalkState :=
  s.run p (Script.Stmt.allSteps p.isSink script)

def findings (s : WalkState) : List Finding := s.flows.map Flow.finding

end DomFlow.WalkState
