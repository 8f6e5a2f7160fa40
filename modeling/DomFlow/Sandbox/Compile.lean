import DomFlow.Sandbox.Code
import DomFlow.Script.Declared
import DomFlow.Text.Decimal

/-! # From scripts to code

Every expression becomes code that leaves one operand, every statement code that leaves none. An
optional chain is compiled with the rest of the chain inside its first link, so that a link which ends
the chain skips exactly that rest. -/

namespace DomFlow.Script

open Sandbox
open Text (CodeUnits)

structure Emit where
  strict : Bool
  /-- The name for a function that has none. -/
  name : CodeUnits := .empty
  /-- Whether the receiver for a call is wanted below the value. -/
  wantThis : Bool := false
  /-- Whether the expression is a link of a chain, whose end skips the rest too. -/
  inChain : Bool := false
  rest : Code := []

namespace Emit

def done (c : Emit) (code : Code) : Code :=
  code ++ (if c.wantThis then [.simple (.push .undefined), .simple .swap] else []) ++ c.rest

def value (strict : Bool) : Emit := { strict }

def named (strict : Bool) (name : CodeUnits) : Emit := { strict, name }

/-- How the object of a link is compiled: the link and what follows it in the chain are its rest. -/
def link (c : Emit) (short wantThis : Bool) (extra : Nat) (code : Code) : Emit :=
  let tail := code ++ (if c.inChain then c.rest else [])
  { strict := c.strict, wantThis, inChain := true, rest := if short then [.shortCircuit extra tail] else tail }

def afterChain (c : Emit) : Code := if c.inChain then [] else c.rest

end Emit

def pushText (s : CodeUnits) : Instr := .simple (.push (.str s))

/-- The name under which a hidden name is bound in its class. -/
def hiddenBinding (name : String) : CodeUnits := "#" ++ name

def Key.text? : Key → Option CodeUnits
  | .name n | .str n => some n
  | .num x => some (Text.numberText x)
  | .bigint n => some (toString n)
  | .hidden _ | .computed _ => none

def Key.isHidden : Key → Bool
  | .hidden _ => true
  | _ => false

def Key.methodName (k : Key) : CodeUnits :=
  match k with
  | .hidden n => hiddenBinding n
  | _ => k.text?.getD .empty

def Key.setsProto : Key → Bool
  | .name n | .str n => n == "__proto__"
  | _ => false

def hiddenNames (members : List ClassMember) : List CodeUnits :=
  (members.filterMap fun
    | .method _ _ (.hidden n) _ _ _ => some (hiddenBinding n)
    | .field _ (.hidden n) _ => some (hiddenBinding n)
    | _ => none).foldl (fun acc n => if acc.contains n then acc else acc ++ [n]) []

def staticKeys (props : List PatProp) : List CodeUnits :=
  props.filterMap fun
    | .keyValue k _ => k.text?
    | .shorthand n _ => some n
    | .rest _ => none

def hasRest (props : List PatProp) : Bool :=
  props.any fun
    | .rest _ => true
    | _ => false

def unitsOf (names : List String) : List CodeUnits := names.map CodeUnits.ofString

def distinct (names : List CodeUnits) : List CodeUnits :=
  names.foldl (fun acc n => if acc.contains n then acc else acc ++ [n]) []

def blockDecls (body : List Stmt) : Decls :=
  { vars := distinct (unitsOf (functionNames body))
    lets := distinct (unitsOf (letNames body))
    consts := distinct (unitsOf (constNames body)) }

def inScope (d : Decls) (body : Code) : Code := if d.isEmpty then body else [.scope d [] body]

def hoistCode (functions : List (Name × Func)) : Code :=
  functions.flatMap fun (n, f) => [.closure f false, .simple (.initName n)]

/-- Puts a function together. Parameters that are more than names have a scope of their own around the
body. -/
def makeFunc (strict : Bool) (name : CodeUnits) (kind : FuncKind) (role : FuncRole) (params : List Pat)
    (body : List Stmt) (setup : Code) (functions : List (Name × Func)) (code : Code) : Func :=
  let strict := strict || hasStrictDirective body
  let plain := hasPlainParams params
  let names := distinct (unitsOf (paramNames params))
  let vars := distinct ((unitsOf (Stmt.allVarNames body)).filter (· != CodeUnits.ofString "arguments") ++
    unitsOf (functionNames body))
  let inner : Decls := { vars, lets := distinct (unitsOf (letNames body)), consts := distinct (unitsOf (constNames body)) }
  let all := hoistCode functions ++ code
  let info : FuncInfo :=
    { name, kind, role, strict, arity := expectedCount params
      shared := if plain && !strict then unitsOf (paramNames params) else []
      decls := if plain then { inner with vars := distinct (names ++ vars) } else { lets := names } }
  { info, setup, body := if plain then all else [.scope inner (vars.filter names.contains) all] }

def defaultConstructor (name : CodeUnits) (derived : Bool) : Func :=
  { info := { name, role := if derived then .derived else .base, strict := true }
    setup := []
    body := if derived then [.simple (.restArguments 0), .simple .superCall, .simple .drop] else [] }

/-- A class, from the code of its parts. Its name and its hidden names have a scope of their own. -/
def classCode (bound : Option String) (name : CodeUnits) (members : List ClassMember) (parent : Option Code)
    (constructor : Option Func) (memberCode : Code) : Code :=
  let hidden := hiddenNames members
  let bound := bound.map CodeUnits.ofString
  let func := constructor.getD (defaultConstructor name parent.isSome)
  [.scope { consts := bound.toList ++ hidden } []
    (hidden.map (fun n => .simple (.makeHidden n)) ++ parent.getD [] ++
      [.classStart func parent.isSome] ++ memberCode ++ [.simple (.classFinish bound)])]

def Target.givenName : Target → CodeUnits
  | .ident n => n
  | _ => .empty

/-- A call with its arguments: one by one, or collected if some are spread. -/
def callCode (spread : Bool) (args : Code) (single : Nat → Simple) (collected : Simple) (count : Nat) : Code :=
  if spread then [.simple .newArray] ++ args ++ [.simple collected] else args ++ [.simple (single count)]

def hasSpread (args : List Elem) : Bool :=
  args.any fun
    | .spread _ => true
    | _ => false

def caseTails : List (Option Code × Code) → List (Option Code × Code)
  | [] => []
  | (test, body) :: r =>
    let tails := caseTails r
    (test, body ++ ((tails.head?.map (·.2)).getD [])) :: tails

/-- Runs the tests, then the statements of the first case that fits, else of the default. -/
def selectCase (otherwise : Code) : List (Option Code × Code) → Code
  | [] => .simple .drop :: otherwise
  | (none, _) :: r => selectCase otherwise r
  | (some test, tail) :: r =>
    [.simple .dup] ++ test ++
      [.simple (.binary .eqEqEq), .branch (.simple .drop :: tail) (selectCase otherwise r)]

def casesCode (cases : List (Option Code × Code)) : Code :=
  let tails := caseTails cases
  let otherwise := ((tails.find? (·.1.isNone)).map (·.2)).getD []
  selectCase otherwise tails

/-- Assignment with a logical operator: the value is computed only if the old one asks for it. Below the
old value lie `n` operands of the target. -/
def logicalAssign (op : BinaryOp) (n : Nat) (assign : Code) : Code :=
  let keep : Code := [.simple (.lower n)] ++ List.replicate n (.simple .drop)
  let change : Code := .simple .drop :: assign
  match op with
  | .logicalAnd => [.simple .dup, .branch change keep]
  | .logicalOr => [.simple .dup, .branch keep change]
  | _ => [.simple .dup, .simple (.push .null), .simple (.binary .eqEq), .branch change keep]

/-- Assigns through a target with `n` operands: they lie on the stack, `read` leaves the old value above
them, and `write` takes them with the new one. -/
def assignCode (op : AssignOp) (n : Nat) (keep read value write : Code) : Code :=
  match op with
  | .plain => value ++ write
  | .compound .logicalAnd => keep ++ read ++ logicalAssign .logicalAnd n (value ++ write)
  | .compound .logicalOr => keep ++ read ++ logicalAssign .logicalOr n (value ++ write)
  | .compound .coalesce => keep ++ read ++ logicalAssign .coalesce n (value ++ write)
  | .compound op => keep ++ read ++ value ++ [.simple (.binary op)] ++ write

/-- Increments or decrements through a target, leaving the new value or the old one. -/
def updateCode (op : UpdateOp) (before : Bool) (n : Nat) (keep read write : Code) : Code :=
  let step : Instr := .simple (.update op)
  keep ++ read ++ [.simple .toNumeric] ++
    (if before then [step] ++ write
     else [.simple .dup, .simple (.lower (n + 1)), step] ++ write ++ [.simple .drop])

mutual

def Expr.code (c : Emit) : Expr → Code
  | .ident n => if c.wantThis then .simple (.getCallee n) :: c.rest else .simple (.getName n) :: c.rest
  | .thisRef => c.done [.simple .thisRef]
  | .null => c.done [.simple (.push .null)]
  | .bool b => c.done [.simple (.push (.bool b))]
  | .num x => c.done [.simple (.push (.num x))]
  | .bigint n => c.done [.simple (.push (.bigint (Int.ofNat n)))]
  | .str s => c.done [pushText s]
  | .regex source flags => c.done [.simple (.regex source flags)]
  | .template quasis es =>
    c.done (match quasis with
      | [] => [pushText .empty]
      | q :: qs => pushText (q.cooked.getD "") :: Expr.templateCode c.strict qs es)
  | .tagged tag quasis es =>
    c.done (tag.code { strict := c.strict, wantThis := true } ++
      [.simple (.templateObject (quasis.map fun q => q.cooked.map CodeUnits.ofString)
        (quasis.map fun q => CodeUnits.ofString q.raw))] ++
      Expr.allCode c.strict es ++ [.simple (.call (es.length + 1))])
  | .array elems => c.done (.simple .newArray :: Elem.appendCode c.strict elems)
  | .object props => c.done (.simple .newObject :: Property.allCode c.strict props)
  | .func name kind params body =>
    let inner := c.strict || hasStrictDirective body
    c.done [.closure (makeFunc c.strict ((name.map CodeUnits.ofString).getD c.name) kind .plain params body
      (Pat.paramCode inner 0 params) (Stmt.functionList inner body) (Stmt.bodyCode inner body)) name.isSome]
  | .arrow isAsync params body =>
    let inner := c.strict || hasStrictDirective body
    c.done [.closure (makeFunc c.strict c.name { isAsync } .arrow params body
      (Pat.paramCode inner 0 params) (Stmt.functionList inner body) (Stmt.bodyCode inner body)) false]
  | .classExpr name parent members =>
    c.done (classCode name ((name.map CodeUnits.ofString).getD c.name) members
      (match parent with
        | some e => some (e.code (.value true))
        | none => none)
      (ClassMember.constructor? ((name.map CodeUnits.ofString).getD c.name) parent.isSome members)
      (ClassMember.allCode members))
  | .unary .typeOf (.ident n) => c.done [.simple (.peekName n), .simple (.unary .typeOf)]
  | .unary .delete (.ident n) => c.done [.simple (.deleteName n)]
  | .unary .delete (.member o k) => c.done (o.code (.value c.strict) ++ k.pushCode c.strict ++ [.simple .deleteMember])
  | .unary .delete (.paren (.member o k)) =>
    c.done (o.code (.value c.strict) ++ k.pushCode c.strict ++ [.simple .deleteMember])
  | .unary .delete (.optMember short o k) =>
    o.code (c.link short false 0 (k.pushCode c.strict ++ [.simple .deleteMember])) ++ c.afterChain
  | .unary op e => c.done (e.code (.value c.strict) ++ [.simple (.unary op)])
  | .update op before e => c.done (e.stepCode c.strict op before)
  | .binary .logicalAnd l r => c.done (l.code (.value c.strict) ++ [.logical .logicalAnd (r.code (.value c.strict))])
  | .binary .logicalOr l r => c.done (l.code (.value c.strict) ++ [.logical .logicalOr (r.code (.value c.strict))])
  | .binary .coalesce l r => c.done (l.code (.value c.strict) ++ [.logical .coalesce (r.code (.value c.strict))])
  | .binary .isIn (.hiddenName n) r =>
    c.done (.simple (.getName (hiddenBinding n)) :: r.code (.value c.strict) ++ [.simple .hasHidden])
  | .binary op l r => c.done (l.code (.value c.strict) ++ r.code (.value c.strict) ++ [.simple (.binary op)])
  | .assign op t v => c.done (t.assignTo c.strict op (v.code (.named c.strict t.givenName)))
  | .cond test yes no =>
    c.done (test.code (.value c.strict) ++ [.branch (yes.code (.value c.strict)) (no.code (.value c.strict))])
  | .call f args =>
    c.done (f.code { strict := c.strict, wantThis := true } ++
      callCode (hasSpread args) (Elem.argCode c.strict (hasSpread args) args) .call .callSpread args.length)
  | .superCall args =>
    c.done (.simple .newArray :: Elem.argCode c.strict true args ++ [.simple .superCall])
  | .importCall args => c.done (.simple .newArray :: Elem.argCode c.strict true args ++ [.simple .importCall])
  | .new f args =>
    c.done (f.code (.value c.strict) ++
      callCode (hasSpread args) (Elem.argCode c.strict (hasSpread args) args) .construct .constructSpread args.length)
  | .member o k => o.code (.value c.strict) ++ k.readCode c.strict c.wantThis ++ c.rest
  | .superMember k =>
    (if c.wantThis then [.simple .thisRef] else []) ++ k.pushCode c.strict ++ [.simple .superGet] ++ c.rest
  | .optMember short o k =>
    o.code (c.link short false 0 (k.readCode c.strict c.wantThis)) ++ c.afterChain
  | .optCall short f args =>
    f.code (c.link short true 1
      (callCode (hasSpread args) (Elem.argCode c.strict (hasSpread args) args) .call .callSpread args.length ++
        (if c.wantThis then [.simple (.push .undefined), .simple .swap] else []))) ++ c.afterChain
  | .seq es => c.done (Expr.seqCode c.strict es)
  | .paren e => e.code { c with inChain := false, rest := [] } ++ c.rest
  | .await e => c.done (e.code (.value c.strict) ++ [.simple .await])
  | .yield delegate arg =>
    c.done ((match arg with
      | some e => e.code (.value c.strict)
      | none => [.simple (.push .undefined)]) ++ [.simple (if delegate then .delegate else .yield)])
  | .newTarget => c.done [.simple .newTarget]
  | .hiddenName n => c.done [.simple (.getName (hiddenBinding n))]

def Expr.allCode (strict : Bool) : List Expr → Code
  | [] => []
  | e :: r => e.code (.value strict) ++ Expr.allCode strict r

/-- Substitutions of a template, each followed by the text after it. -/
def Expr.templateCode (strict : Bool) : List Quasi → List Expr → Code
  | qs, e :: r =>
    let text : CodeUnits := ((qs.head?.bind (·.cooked)).getD "")
    e.code (.value strict) ++ [.simple .appendText, pushText text, .simple .appendText] ++
      Expr.templateCode strict (qs.drop 1) r
  | _, [] => []

def Expr.seqCode (strict : Bool) : List Expr → Code
  | [] => [.simple (.push .undefined)]
  | [e] => e.code (.value strict)
  | e :: e' :: r => e.code (.value strict) ++ [.simple .drop] ++ Expr.seqCode strict (e' :: r)

def Expr.stepCode (strict : Bool) (op : UpdateOp) (before : Bool) : Expr → Code
  | .ident n => updateCode op before 0 [] [.simple (.getName n)] [.simple (.setName n)]
  | .member o k =>
    match k.text? with
    | some n =>
      o.code (.value strict) ++
        updateCode op before 1 [.simple .dup] [.simple (.getField n)] [.simple (.setField n)]
    | none =>
      o.code (.value strict) ++ k.pushCode strict ++
        updateCode op before 2 [.simple .dupPair] [.simple (if k.isHidden then .getHidden else .getMember)]
          [.simple (if k.isHidden then .setHidden else .setMember)]
  | .superMember k =>
    k.pushCode strict ++ updateCode op before 1 [.simple .dup] [.simple .superGet] [.simple .superSet]
  | .paren e => e.stepCode strict op before
  | _ => [.simple (.push .undefined), .simple .toNumeric]

/-- Stores the top of the stack where an expression refers to, and takes it off. -/
def Expr.storeCode (strict : Bool) : Expr → Code
  | .ident n => [.simple (.setName n), .simple .drop]
  | .member o k =>
    match k.text? with
    | some n => o.code (.value strict) ++ [.simple .swap, .simple (.setField n), .simple .drop]
    | none =>
      o.code (.value strict) ++ k.pushCode strict ++
        [.simple (.lift 2), .simple (if k.isHidden then .setHidden else .setMember), .simple .drop]
  | .superMember k => k.pushCode strict ++ [.simple .swap, .simple .superSet, .simple .drop]
  | .paren e => e.storeCode strict
  | _ => [.simple .drop]

/-- Adds the elements of an array literal to the array on the stack. -/
def Elem.appendCode (strict : Bool) : List Elem → Code
  | [] => []
  | .hole :: r => .simple .appendHole :: Elem.appendCode strict r
  | .item e :: r => e.code (.value strict) ++ [.simple .appendItem] ++ Elem.appendCode strict r
  | .spread e :: r => e.code (.value strict) ++ [.simple .appendSpread] ++ Elem.appendCode strict r

/-- Arguments, collected in an array on the stack or one by one. -/
def Elem.argCode (strict collected : Bool) : List Elem → Code
  | [] => []
  | .hole :: r => Elem.argCode strict collected r
  | .item e :: r =>
    e.code (.value strict) ++ (if collected then [.simple .appendItem] else []) ++ Elem.argCode strict collected r
  | .spread e :: r => e.code (.value strict) ++ [.simple .appendSpread] ++ Elem.argCode strict collected r

def Key.readCode (strict wantThis : Bool) : Key → Code
  | .name n => [.simple (if wantThis then .getMethodNamed n else .getField n)]
  | .str n => [.simple (if wantThis then .getMethodNamed n else .getField n)]
  | .num x => [.simple (if wantThis then .getMethodNamed (Text.numberText x) else .getField (Text.numberText x))]
  | .bigint n => [.simple (if wantThis then .getMethodNamed (toString n) else .getField (toString n))]
  | .hidden n =>
    (if wantThis then [.simple .dup] else []) ++ [.simple (.getName (hiddenBinding n)), .simple .getHidden]
  | .computed e => e.code (.value strict) ++ [.simple (if wantThis then .getMethod else .getMember)]

def Key.pushCode (strict : Bool) : Key → Code
  | .name n => [pushText n]
  | .str n => [pushText n]
  | .num x => [pushText (Text.numberText x)]
  | .bigint n => [pushText (toString n)]
  | .hidden n => [.simple (.getName (hiddenBinding n))]
  | .computed e => e.code (.value strict) ++ [.simple .toKey]

/-- Adds the properties of a literal to the object on the stack. -/
def Property.allCode (strict : Bool) : List Property → Code
  | [] => []
  | .keyValue k v :: r =>
    (if k.setsProto then v.code (.value strict) ++ [.simple .setProto]
     else k.pushCode strict ++ v.code (.named strict k.methodName) ++ [.simple .defineField]) ++
      Property.allCode strict r
  | .shorthand n :: r =>
    [pushText n, .simple (.getName n), .simple .defineField] ++ Property.allCode strict r
  | .cover n _ :: r => [pushText n, .simple (.getName n), .simple .defineField] ++ Property.allCode strict r
  | .spread e :: r => e.code (.value strict) ++ [.simple .copyFields] ++ Property.allCode strict r
  | .method k kind params body :: r =>
    let inner := strict || hasStrictDirective body
    k.pushCode strict ++
      [.closure (makeFunc strict k.methodName kind .method params body
        (Pat.paramCode inner 0 params) (Stmt.functionList inner body) (Stmt.bodyCode inner body)) false,
       .simple (.defineMethod .value)] ++ Property.allCode strict r
  | .getter k body :: r =>
    let inner := strict || hasStrictDirective body
    k.pushCode strict ++
      [.closure (makeFunc strict k.methodName {} .method [] body []
        (Stmt.functionList inner body) (Stmt.bodyCode inner body)) false,
       .simple (.defineMethod .getter)] ++ Property.allCode strict r
  | .setter k param body :: r =>
    let inner := strict || hasStrictDirective body
    k.pushCode strict ++
      [.closure (makeFunc strict k.methodName {} .method [param] body
        (.simple (.argument 0) :: param.bindCode inner true)
        (Stmt.functionList inner body) (Stmt.bodyCode inner body)) false,
       .simple (.defineMethod .setter)] ++ Property.allCode strict r

/-- The function of a class's constructor, if it declares one. -/
def ClassMember.constructor? (name : CodeUnits) (derived : Bool) : List ClassMember → Option Func
  | [] => none
  | .method false .constructor _ kind params body :: _ =>
    some (makeFunc true name kind (if derived then .derived else .base) params body
      (Pat.paramCode true 0 params) (Stmt.functionList true body) (Stmt.bodyCode true body))
  | _ :: r => ClassMember.constructor? name derived r

/-- Adds the members to the class and the prototype on the stack. -/
def ClassMember.allCode : List ClassMember → Code
  | [] => []
  | .method false .constructor _ _ _ _ :: r => ClassMember.allCode r
  | .method isStatic role k kind params body :: r =>
    k.pushCode true ++
      [.closure (makeFunc true k.methodName kind .method params body
        (Pat.paramCode true 0 params) (Stmt.functionList true body) (Stmt.bodyCode true body)) false,
       .simple (.classMethod isStatic k.isHidden (match role with
         | .getter => .getter
         | .setter => .setter
         | _ => .value))] ++ ClassMember.allCode r
  | .field isStatic k value :: r =>
    k.pushCode true ++
      (match value with
        | some e =>
          [.closure { info := { name := k.methodName, role := .method, strict := true }, setup := [],
                      body := e.code (.named true k.methodName) ++ [.simple .ret] } false]
        | none => [.simple (.push .undefined)]) ++
      [.simple (.classField isStatic k.isHidden)] ++ ClassMember.allCode r
  | .staticBlock body :: r =>
    [.closure (makeFunc true .empty {} .method [] body [] (Stmt.functionList true body) (Stmt.bodyCode true body)) false,
     .simple .classBlock] ++ ClassMember.allCode r

/-- Binds the top of the stack to a pattern and takes it off; names are declared or assigned. -/
def Pat.bindCode (strict declare : Bool) : Pat → Code
  | .ident n => if declare then [.simple (.initName n)] else [.simple (.setName n), .simple .drop]
  | .array elems => [.destructure (Pat.elemCode strict declare elems)]
  | .object props =>
    .simple .requireObject ::
      (if hasRest props then [.simple .newArray, .simple .swap] else []) ++
      PatProp.bindCode strict declare (hasRest props) (staticKeys props) props
  | .rest p => p.bindCode strict declare
  | .withDefault p d =>
    .orDefault (d.code (.named strict (match p with
      | .ident n => n
      | _ => .empty))) :: p.bindCode strict declare
  | .target e => e.storeCode strict

def Pat.elemCode (strict declare : Bool) : List (Option Pat) → Code
  | [] => []
  | none :: r => [.simple .iterStep, .simple .drop] ++ Pat.elemCode strict declare r
  | some (.rest p) :: r => .simple .iterRest :: p.bindCode strict declare ++ Pat.elemCode strict declare r
  | some p :: r => .simple .iterStep :: p.bindCode strict declare ++ Pat.elemCode strict declare r

/-- Takes the fields of an object apart, and the object off the stack. -/
def PatProp.bindCode (strict declare tracked : Bool) (keys : List CodeUnits) : List PatProp → Code
  | [] => if tracked then [] else [.simple .drop]
  | .rest p :: _ => .simple (.restObject keys) :: p.bindCode strict declare
  | .shorthand n none :: r =>
    [.simple .dup, .simple (.getField n)] ++
      (if declare then [.simple (.initName n)] else [.simple (.setName n), .simple .drop]) ++
      PatProp.bindCode strict declare tracked keys r
  | .shorthand n (some d) :: r =>
    [.simple .dup, .simple (.getField n), .orDefault (d.code (.named strict n))] ++
      (if declare then [.simple (.initName n)] else [.simple (.setName n), .simple .drop]) ++
      PatProp.bindCode strict declare tracked keys r
  | .keyValue k p :: r =>
    .simple .dup ::
      (match k.text? with
        | some n => [.simple (.getField n)]
        | none => k.pushCode strict ++ (if tracked then [.simple .excludeKey] else []) ++ [.simple .getMember]) ++
      p.bindCode strict declare ++ PatProp.bindCode strict declare tracked keys r

/-- Binds parameters to arguments, from the `i`th on. -/
def Pat.paramCode (strict : Bool) (i : Nat) : List Pat → Code
  | [] => []
  | .rest p :: _ => .simple (.restArguments i) :: p.bindCode strict true
  | p :: r => .simple (.argument i) :: p.bindCode strict true ++ Pat.paramCode strict (i + 1) r

/-- Assigns what the code `value` leaves, and leaves it. -/
def Target.assignTo (strict : Bool) (op : AssignOp) (value : Code) : Target → Code
  | .ident n => assignCode op 0 [] [.simple (.getName n)] value [.simple (.setName n)]
  | .member o k =>
    match k.text? with
    | some n =>
      o.code (.value strict) ++
        assignCode op 1 [.simple .dup] [.simple (.getField n)] value [.simple (.setField n)]
    | none =>
      o.code (.value strict) ++ k.pushCode strict ++
        assignCode op 2 [.simple .dupPair] [.simple (if k.isHidden then .getHidden else .getMember)] value
          [.simple (if k.isHidden then .setHidden else .setMember)]
  | .superMember k =>
    k.pushCode strict ++ assignCode op 1 [.simple .dup] [.simple .superGet] value [.simple .superSet]
  | .paren e => (match op with
      | .plain => value
      | .compound op => e.code (.value strict) ++ value ++ [.simple (.binary op)]) ++
      .simple .dup :: e.storeCode strict
  | .pattern p => value ++ .simple .dup :: p.bindCode strict false

/-- Declares names, in the current scope or by assignment to those that exist. -/
def Declarator.allCode (strict declare : Bool) : List Declarator → Code
  | [] => []
  | .mk p (some e) :: r =>
    e.code (.named strict (match p with
      | .ident n => n
      | _ => .empty)) ++ p.bindCode strict declare ++ Declarator.allCode strict declare r
  | .mk p none :: r =>
    (if declare then .simple (.push .undefined) :: p.bindCode strict declare else []) ++
      Declarator.allCode strict declare r

/-- A round of a loop over keys or items: binds what is on the stack, then runs the body. -/
def ForHead.roundCode (strict : Bool) (body : Code) : ForHead → Code
  | .decl .var p _ => p.bindCode strict false ++ body
  | .decl .letKind p _ => [.scope { lets := unitsOf p.names } [] (p.bindCode strict true ++ body)]
  | .decl .constKind p _ => [.scope { consts := unitsOf p.names } [] (p.bindCode strict true ++ body)]
  | .target p => p.bindCode strict false ++ body

def SwitchCase.allCode (strict : Bool) : List SwitchCase → List (Option Code × Code)
  | [] => []
  | .mk (some e) body :: r => (some (e.code (.value strict)), Stmt.bodyCode strict body) :: SwitchCase.allCode strict r
  | .mk none body :: r => (none, Stmt.bodyCode strict body) :: SwitchCase.allCode strict r

def SwitchCase.functionList (strict : Bool) : List SwitchCase → List (Name × Func)
  | [] => []
  | .mk _ body :: r => Stmt.functionList strict body ++ SwitchCase.functionList strict r

def Catch.code (strict : Bool) : Catch → Code
  | .mk (some p) body =>
    [.scope { lets := unitsOf p.names } [] (p.bindCode strict true ++
      inScope (blockDecls body) (hoistCode (Stmt.functionList strict body) ++ Stmt.bodyCode strict body))]
  | .mk none body =>
    .simple .drop :: inScope (blockDecls body) (hoistCode (Stmt.functionList strict body) ++ Stmt.bodyCode strict body)

def Stmt.code (strict : Bool) (labels : List Name) : Stmt → Code
  | .expr e => e.code (.value strict) ++ [.simple .drop]
  | .block body =>
    inScope (blockDecls body) (hoistCode (Stmt.functionList strict body) ++ Stmt.bodyCode strict body)
  | .empty | .debugger => []
  | .withObject e body => e.code (.value strict) ++ [.withScope (body.code strict [])]
  | .ret arg =>
    (match arg with
      | some e => e.code (.value strict)
      | none => [.simple (.push .undefined)]) ++ [.simple .ret]
  | .labeled l body => [.leavable [CodeUnits.ofString l] false (body.code strict (CodeUnits.ofString l :: labels))]
  | .breakTo l => [.simple (.exitTo (l.map CodeUnits.ofString))]
  | .continueTo l => [.simple (.nextOf (l.map CodeUnits.ofString))]
  | .ifElse test yes no =>
    test.code (.value strict) ++
      [.branch (inScope (blockDecls [yes]) (hoistCode (yes.ownFunction strict) ++ yes.code strict []))
        (match no with
          | some s => inScope (blockDecls [s]) (hoistCode (s.ownFunction strict) ++ s.code strict [])
          | none => [])]
  | .switch e cases =>
    e.code (.value strict) ++
      [.leavable labels true (inScope (blockDecls (caseStatements cases))
        (hoistCode (SwitchCase.functionList strict cases) ++ casesCode (SwitchCase.allCode strict cases)))]
  | .throw e => e.code (.value strict) ++ [.simple .raise]
  | .tryCatch block handler finalizer =>
    [.tryCatch (inScope (blockDecls block) (hoistCode (Stmt.functionList strict block) ++ Stmt.bodyCode strict block))
      (match handler with
        | some c => some (c.code strict)
        | none => none)
      (match finalizer with
        | some body => some (inScope (blockDecls body)
            (hoistCode (Stmt.functionList strict body) ++ Stmt.bodyCode strict body))
        | none => none)]
  | .whileLoop test body =>
    [.loop { labels, copied := [], test := .simple .round :: test.code (.value strict), update := []
             body := body.code strict [] } true]
  | .doWhile body test =>
    [.loop { labels, copied := [], test := .simple .round :: test.code (.value strict), update := []
             body := body.code strict [] } false]
  | .forLoop init test update body =>
    let lets := match init with
      | some (.var .letKind decls) => unitsOf (declaratorNames decls)
      | _ => []
    let consts := match init with
      | some (.var .constKind decls) => unitsOf (declaratorNames decls)
      | _ => []
    inScope { lets, consts }
      ((match init with
        | some s => s.code strict []
        | none => []) ++
      [.loop { labels, copied := lets
               test := match test with
                 | some e => e.code (.value strict)
                 | none => [.simple (.push (.bool true))]
               update := .simple .round :: match update with
                 | some e => e.code (.value strict) ++ [.simple .drop]
                 | none => []
               body := body.code strict [] } true])
  | .forIn head e body =>
    e.code (.value strict) ++ [.keyLoop labels (head.roundCode strict (body.code strict []))]
  | .forOf isAwait head e body =>
    e.code (.value strict) ++ (if isAwait then [.simple .await] else []) ++
      [.itemLoop labels (head.roundCode strict (body.code strict []))]
  | .var kind decls => Declarator.allCode strict (kind != .var) decls
  | .func .. => []
  | .classDecl name parent members =>
    classCode (some name) name members
      (match parent with
        | some e => some (e.code (.value true))
        | none => none)
      (ClassMember.constructor? name parent.isSome members)
      (ClassMember.allCode members) ++ [.simple (.initName name)]

def Stmt.bodyCode (strict : Bool) : List Stmt → Code
  | [] => []
  | s :: r => s.code strict [] ++ Stmt.bodyCode strict r

def Stmt.ownFunction (strict : Bool) : Stmt → List (Name × Func)
  | .func name kind params body =>
    let inner := strict || hasStrictDirective body
    [(name, makeFunc strict name kind .plain params body
      (Pat.paramCode inner 0 params) (Stmt.functionList inner body) (Stmt.bodyCode inner body))]
  | .labeled _ s => s.ownFunction strict
  | _ => []

def Stmt.functionList (strict : Bool) : List Stmt → List (Name × Func)
  | [] => []
  | s :: r => s.ownFunction strict ++ Stmt.functionList strict r

end

end DomFlow.Script
