import DomFlow.Sandbox.Compile
import DomFlow.Sandbox.RegExp

/-! # Errors found before a script runs

The grammar lets through scripts that must not start: names declared twice, jumps to no target, hidden
names that no class declares, malformed regular expressions. -/

namespace DomFlow.Script

structure Surrounding where
  strict : Bool := false
  labels : List String := []
  /-- Labels of loops, to which `continue` can go. -/
  loopLabels : List String := []
  /-- Labels right before the statement. -/
  ownLabels : List String := []
  inLoop : Bool := false
  inSwitch : Bool := false
  inAsync : Bool := false
  hidden : List String := []

namespace Surrounding

def inFunction (c : Surrounding) (strict isAsync : Bool) : Surrounding :=
  { strict := c.strict || strict, inAsync := isAsync, hidden := c.hidden }

def loop (c : Surrounding) : Surrounding :=
  { c with inLoop := true, loopLabels := c.ownLabels ++ c.loopLabels, ownLabels := [] }

def plain (c : Surrounding) : Surrounding := { c with ownLabels := [] }

end Surrounding

def disjoint (a b : List String) : Bool := a.all fun n => !b.contains n

/-- The names of a function body or of a script do not clash. -/
def bodyNamesOk (body : List Stmt) : Bool :=
  let lexical := letNames body ++ constNames body
  lexical.Nodup && disjoint lexical (Stmt.allVarNames body ++ functionNames body)

/-- The names of a block do not clash; sloppy code may declare a function twice. -/
def blockNamesOk (strict : Bool) (body : List Stmt) : Bool :=
  let lexical := letNames body ++ constNames body
  let functions := functionNames body
  lexical.Nodup && disjoint lexical functions && (!strict || functions.Nodup) &&
    disjoint (lexical ++ functions) (Stmt.allVarNames body)

/-- The parameters of a function are allowed with its body. -/
def paramsOk (strict unique : Bool) (params : List Pat) (body : List Stmt) : Bool :=
  let names := paramNames params
  let plain := hasPlainParams params
  (plain || !hasStrictDirective body) && (!(strict || unique || !plain) || names.Nodup) &&
    disjoint names (letNames body ++ constNames body)

/-- Hidden names that a class declares, with the role they are declared in. -/
def declaredHidden (members : List ClassMember) : List (String × MethodRole × Bool) :=
  members.filterMap fun
    | .method isStatic role (.hidden n) _ _ _ => some (n, role, isStatic)
    | .field isStatic (.hidden n) _ => some (n, .method, isStatic)
    | _ => none

/-- A hidden name is declared once, or once as a getter and once as a setter. -/
def hiddenOk (members : List ClassMember) : Bool :=
  let all := declaredHidden members
  all.all fun (n, _, _) =>
    n != "constructor" && (match all.filter (·.1 == n) with
      | [_] => true
      | [(_, a, s), (_, b, t)] => s == t && ((a == .getter && b == .setter) || (a == .setter && b == .getter))
      | _ => false)

def constructorCount (members : List ClassMember) : Nat :=
  (members.filter fun
    | .method false .constructor _ _ _ _ => true
    | _ => false).length

/-- At most one property of a literal sets the prototype. -/
def protoOk (props : List Property) : Bool :=
  (props.filter fun
    | .keyValue k _ => k.setsProto
    | _ => false).length ≤ 1

mutual

def Expr.ok (c : Surrounding) : Expr → Bool
  | .regex source flags => (Sandbox.RegExp.compile? source flags).isSome
  | .template _ es => Expr.allOk c es
  | .tagged tag _ es => tag.ok c && Expr.allOk c es
  | .array elems => Elem.allOk c elems
  | .object props => protoOk props && Property.allOk c props
  | .func _ kind params body =>
    let inner := c.inFunction (hasStrictDirective body) kind.isAsync
    paramsOk inner.strict false params body && bodyNamesOk body && Pat.listOk inner params && Stmt.allOk inner body
  | .arrow isAsync params body =>
    let inner := c.inFunction (hasStrictDirective body) isAsync
    paramsOk inner.strict true params body && bodyNamesOk body && Pat.listOk inner params && Stmt.allOk inner body
  | .classExpr _ parent members =>
    hiddenOk members && constructorCount members ≤ 1 &&
      (match parent with
        | some e => e.ok { c with strict := true }
        | none => true) &&
      ClassMember.allOk { c with strict := true, hidden := (declaredHidden members).map (·.1) ++ c.hidden } members
  | .unary _ e => e.ok c
  | .update _ _ e => e.ok c
  | .binary _ l r => l.ok c && r.ok c
  | .assign _ t v => t.ok c && v.ok c
  | .cond test yes no => test.ok c && yes.ok c && no.ok c
  | .call f args => f.ok c && Elem.allOk c args
  | .superCall args => Elem.allOk c args
  | .importCall args => Elem.allOk c args
  | .new f args => f.ok c && Elem.allOk c args
  | .member o k => o.ok c && k.ok c
  | .superMember k => k.ok c
  | .optMember _ o k => o.ok c && k.ok c
  | .optCall _ f args => f.ok c && Elem.allOk c args
  | .seq es => Expr.allOk c es
  | .paren e => e.ok c
  | .await e => e.ok c
  | .yield _ (some e) => e.ok c
  | .hiddenName n => c.hidden.contains n
  | _ => true

def Expr.allOk (c : Surrounding) : List Expr → Bool
  | [] => true
  | e :: r => e.ok c && Expr.allOk c r

def Elem.allOk (c : Surrounding) : List Elem → Bool
  | [] => true
  | .hole :: r => Elem.allOk c r
  | .item e :: r => e.ok c && Elem.allOk c r
  | .spread e :: r => e.ok c && Elem.allOk c r

def Key.ok (c : Surrounding) : Key → Bool
  | .hidden n => c.hidden.contains n
  | .computed e => e.ok c
  | _ => true

def Property.allOk (c : Surrounding) : List Property → Bool
  | [] => true
  | .keyValue k v :: r => k.ok c && v.ok c && Property.allOk c r
  | .shorthand _ :: r => Property.allOk c r
  | .cover .. :: _ => false
  | .spread e :: r => e.ok c && Property.allOk c r
  | .method k kind params body :: r =>
    let inner := c.inFunction (hasStrictDirective body) kind.isAsync
    k.ok c && paramsOk inner.strict true params body && bodyNamesOk body && Pat.listOk inner params &&
      Stmt.allOk inner body && Property.allOk c r
  | .getter k body :: r =>
    k.ok c && bodyNamesOk body && Stmt.allOk (c.inFunction (hasStrictDirective body) false) body && Property.allOk c r
  | .setter k param body :: r =>
    let inner := c.inFunction (hasStrictDirective body) false
    k.ok c && paramsOk inner.strict true [param] body && bodyNamesOk body && param.ok inner &&
      Stmt.allOk inner body && Property.allOk c r

def ClassMember.allOk (c : Surrounding) : List ClassMember → Bool
  | [] => true
  | .method _ _ k kind params body :: r =>
    let inner := c.inFunction true kind.isAsync
    k.ok c && paramsOk true true params body && bodyNamesOk body && Pat.listOk inner params &&
      Stmt.allOk inner body && ClassMember.allOk c r
  | .field _ k value :: r =>
    k.ok c &&
      (match value with
        | some e => e.ok (c.inFunction true false)
        | none => true) && ClassMember.allOk c r
  | .staticBlock body :: r =>
    bodyNamesOk body && Stmt.allOk (c.inFunction true false) body && ClassMember.allOk c r

def Pat.ok (c : Surrounding) : Pat → Bool
  | .ident _ => true
  | .array elems => Pat.allOk c elems
  | .object props => PatProp.allOk c props
  | .rest p => p.ok c
  | .withDefault p d => p.ok c && d.ok c
  | .target e => e.ok c

def Pat.allOk (c : Surrounding) : List (Option Pat) → Bool
  | [] => true
  | none :: r => Pat.allOk c r
  | some p :: r => p.ok c && Pat.allOk c r

def Pat.listOk (c : Surrounding) : List Pat → Bool
  | [] => true
  | p :: r => p.ok c && Pat.listOk c r

def PatProp.allOk (c : Surrounding) : List PatProp → Bool
  | [] => true
  | .keyValue k p :: r => k.ok c && p.ok c && PatProp.allOk c r
  | .shorthand _ none :: r => PatProp.allOk c r
  | .shorthand _ (some d) :: r => d.ok c && PatProp.allOk c r
  | .rest p :: r => p.ok c && PatProp.allOk c r

def Target.ok (c : Surrounding) : Target → Bool
  | .ident _ => true
  | .member o k => o.ok c && k.ok c
  | .superMember k => k.ok c
  | .paren e => e.ok c
  | .pattern p => p.ok c

def Declarator.allOk (c : Surrounding) : List Declarator → Bool
  | [] => true
  | .mk p (some e) :: r => p.ok c && e.ok c && Declarator.allOk c r
  | .mk p none :: r => p.ok c && Declarator.allOk c r

/-- The names of a loop's head are distinct, and its body declares none of them by `var`. -/
def ForHead.ok (c : Surrounding) (vars : List String) : ForHead → Bool
  | .decl .var p none => p.ok c
  | .decl .letKind p none => p.ok c && p.names.Nodup && disjoint p.names vars
  | .decl .constKind p none => p.ok c && p.names.Nodup && disjoint p.names vars
  | .decl _ _ (some _) => false
  | .target p => p.ok c

def SwitchCase.allOk (c : Surrounding) : List SwitchCase → Bool
  | [] => true
  | .mk (some e) body :: r => e.ok c && Stmt.allOk c body && SwitchCase.allOk c r
  | .mk none body :: r => Stmt.allOk c body && SwitchCase.allOk c r

def Catch.ok (c : Surrounding) : Catch → Bool
  | .mk (some p) body =>
    let names := p.names
    let plain := match p with
      | .ident _ => true
      | _ => false
    names.Nodup && p.ok c && disjoint names (letNames body ++ constNames body ++ functionNames body) &&
      (plain || disjoint names (Stmt.allVarNames body)) && blockNamesOk c.strict body && Stmt.allOk c body
  | .mk none body => blockNamesOk c.strict body && Stmt.allOk c body

def Stmt.ok (c : Surrounding) : Stmt → Bool
  | .expr e => e.ok c
  | .block body => blockNamesOk c.strict body && Stmt.allOk c.plain body
  | .withObject e body => !c.strict && e.ok c && body.ok c.plain
  | .ret (some e) => e.ok c
  | .labeled l body =>
    !c.labels.contains l && !(c.strict && body.functionName?.isSome) &&
      body.ok { c with labels := l :: c.labels, ownLabels := l :: c.ownLabels }
  | .breakTo none => c.inLoop || c.inSwitch
  | .breakTo (some l) => c.labels.contains l
  | .continueTo none => c.inLoop
  | .continueTo (some l) => c.loopLabels.contains l
  | .ifElse test yes none => test.ok c && yes.ok c.plain
  | .ifElse test yes (some no) => test.ok c && yes.ok c.plain && no.ok c.plain
  | .switch e cases =>
    e.ok c && blockNamesOk c.strict (caseStatements cases) &&
      SwitchCase.allOk { c.plain with inSwitch := true } cases
  | .throw e => e.ok c
  | .tryCatch block handler finalizer =>
    blockNamesOk c.strict block && Stmt.allOk c.plain block &&
      (match handler with
        | some h => h.ok c.plain
        | none => true) &&
      (match finalizer with
        | some body => blockNamesOk c.strict body && Stmt.allOk c.plain body
        | none => true)
  | .whileLoop test body => test.ok c && body.ok c.loop
  | .doWhile body test => test.ok c && body.ok c.loop
  | .forLoop init test update body =>
    let names := match init with
      | some (.var .letKind decls) => declaratorNames decls
      | some (.var .constKind decls) => declaratorNames decls
      | _ => []
    names.Nodup && disjoint names body.varNames &&
      (match init with
        | some s => s.ok c.plain
        | none => true) &&
      (match test with
        | some e => e.ok c
        | none => true) &&
      (match update with
        | some e => e.ok c
        | none => true) && body.ok c.loop
  | .forIn head e body => head.ok c body.varNames && e.ok c && body.ok c.loop
  | .forOf isAwait head e body =>
    (!isAwait || c.inAsync) && head.ok c body.varNames && e.ok c && body.ok c.loop
  | .var _ decls => Declarator.allOk c decls
  | .func _ kind params body =>
    let inner := c.inFunction (hasStrictDirective body) kind.isAsync
    paramsOk inner.strict false params body && bodyNamesOk body && Pat.listOk inner params && Stmt.allOk inner body
  | .classDecl _ parent members =>
    hiddenOk members && constructorCount members ≤ 1 &&
      (match parent with
        | some e => e.ok { c with strict := true }
        | none => true) &&
      ClassMember.allOk { c with strict := true, hidden := (declaredHidden members).map (·.1) ++ c.hidden } members
  | _ => true

def Stmt.allOk (c : Surrounding) : List Stmt → Bool
  | [] => true
  | s :: r => s.ok c && Stmt.allOk c r

end

def mayStart (script : Script) : Bool :=
  bodyNamesOk script && Stmt.allOk { strict := hasStrictDirective script } script

end DomFlow.Script
