import DomFlow.Sandbox.Iterate

/-! # Names and scopes of a running script

A name is looked for in the current scope and then in those around it. The outermost scope has the global
object behind it, and the scope of a `with` statement the object that it names. -/

namespace DomFlow.Sandbox

open Text (CodeUnits)

inductive Place where
  | variable (scope : ScopeRef)
  | property (object : ObjId) (isWith : Bool)
  /-- The arguments of the call that a scope belongs to. -/
  | arguments (scope : ScopeRef)
  | nowhere
deriving Inhabited

def argumentsName : Name := "arguments"

/-- Whether an object takes a name out of the scope of `with`. -/
def Machine.isUnscopable (m : Machine) (object : ObjId) (n : Name) : Bool :=
  match m.property? object (.symbol WellKnown.unscopables) with
  | some { content := .value (.obj u), .. } => match m.property? u n with
    | some { content := .value (.bool b), .. } => b
    | _ => false
  | _ => false

/-- Looks for a name from a scope outward; `fuel` bounds the number of scopes. -/
def Machine.findName (m : Machine) (n : Name) : Nat → ScopeRef → Place
  | 0, _ => .nowhere
  | fuel + 1, s =>
    let sc := m.scope s
    if sc.names.contains n then .variable s
    else
      let here : Option Place := match sc.object with
        | some o =>
          if (m.property? o n).isSome && !(sc.isWith && m.isUnscopable o n) then some (.property o sc.isWith)
          else none
        | none => if sc.call.isSome && n == argumentsName then some (.arguments s) else none
      match here, sc.parent with
      | some p, _ => p
      | none, some p => m.findName n fuel p
      | none, none => .nowhere

def findName (n : Name) (scope : ScopeRef) : Eval Place := do
  return (← get).findName n (scope + 1) scope

def newScope (s : LiveScope) : Eval ScopeRef :=
  modifyGet fun m => (m.scopes.size, { m with scopes := m.scopes.push s })

def Decls.bindings (d : Decls) : Std.HashMap Name Binding :=
  let b := d.vars.foldl (fun b n => b.insert n { value := some .undefined }) {}
  let b := d.lets.foldl (fun b n => b.insert n { value := none }) b
  d.consts.foldl (fun b n => b.insert n { value := none, mutable := false }) b

def modifyScope (s : ScopeRef) (f : LiveScope → LiveScope) : Eval Unit :=
  modify fun m => { m with scopes := m.scopes.modify s f }

def modifyBinding (s : ScopeRef) (n : Name) (f : Binding → Binding) : Eval Unit :=
  modifyScope s fun sc => { sc with names := sc.names.modify n f }

def initBinding (s : ScopeRef) (n : Name) (v : Val) : Eval Unit := do
  if (((← get).scope s).names.contains n) then modifyBinding s n fun b => { b with value := some v }
  else modifyScope s fun sc => { sc with names := sc.names.insert n { value := some v } }

def unboundName {α : Type} (n : Name) : Eval α := fail .referenceError (n.toString ++ " is not defined")

/-- The call that a scope is part of, if any; `fuel` bounds the number of scopes. -/
def Machine.callOf (m : Machine) : Nat → ScopeRef → Option (ScopeRef × CallInfo)
  | 0, _ => none
  | fuel + 1, s =>
    let sc := m.scope s
    match sc.call, sc.parent with
    | some c, _ => some (s, c)
    | none, some p => m.callOf fuel p
    | none, none => none

def callOf (s : ScopeRef) : Eval (Option (ScopeRef × CallInfo)) := return (← get).callOf (s + 1) s

def thisOf (scope : ScopeRef) : Eval Val := do
  match ← callOf scope with
  | none => return .obj Intrinsic.globalObject.id
  | some (_, c) => match c.this with
    | some v => return v
    | none => fail .referenceError "this is not initialized"

/-- The closure that an object is, if it is one. -/
def closureOf? (id : ObjId) : Eval (Option Closure) := do
  match (← getObj id).kind with
  | .closure c => return some c
  | _ => return none

/-- The object of arguments of a call: it shares the parameters of a sloppy function. -/
def makeArguments (s : ScopeRef) : Eval Val := do
  match ((← get).scope s).call with
  | none => return .undefined
  | some c =>
    let shared := match ← closureOf? c.func with
      | some f => f.func.info.shared
      | none => []
    let named := shared.zipIdx.map fun (n, i) =>
      if i < c.args.size && !(shared.drop (i + 1)).contains n then some n else none
    let id ← newOf .objectProto (.arguments s named)
    modifyObj id fun o => c.args.toList.zipIdx.foldl (fun o (v, i) => o.withSlot (.ofNat i) (.plain v)) o
    writeSlot id lengthName (.quiet (.ofNat c.args.size))
    writeSlot id "callee" (.quiet (.obj c.func))
    match (← get).own? Intrinsic.arrayProto.id (.symbol WellKnown.iterator) with
    | some slot => writeSlot id (.symbol WellKnown.iterator) slot
    | none => pure ()
    modifyScope s fun sc => { sc with names := sc.names.insert argumentsName { value := some (.obj id) } }
    return .obj id

/-- The value of a variable; it has none before its declaration ran. -/
def readBinding (s : ScopeRef) (n : Name) : Eval Val := do
  match (((← get).scope s).names[n]?).bind (·.value) with
  | some v => return v
  | none => fail .referenceError ("cannot access " ++ n.toString ++ " before initialization")

/-- The value of a name, and the receiver for calling it; nothing if it is unbound. -/
def lookupName (n : Name) (scope : ScopeRef) : Run (Option (Val × Val)) := do
  match ← findName n scope with
  | .variable s => return some (← readBinding s n, .undefined)
  | .property o isWith => return some (← getProp o n, if isWith then .obj o else .undefined)
  | .arguments s => return some (← makeArguments s, .undefined)
  | .nowhere => return none

def getName (n : Name) (scope : ScopeRef) : Run Val := do
  match ← lookupName n scope with
  | some (v, _) => return v
  | none => unboundName n

/-- Assigns to a name; sloppy code makes an unbound name global. -/
def setName (strict : Bool) (n : Name) (v : Val) (scope : ScopeRef) : Run Unit := do
  match ← findName n scope with
  | .variable s =>
    match ((← get).scope s).names[n]? with
    | some b =>
      if b.value.isNone then fail .referenceError ("cannot access " ++ n.toString ++ " before initialization")
      if b.mutable then modifyBinding s n fun b => { b with value := some v }
      else if b.guarded || strict then typeFault "assignment to constant variable"
    | none => return
  | .property o _ => putOf strict (.obj o) n v
  | .arguments s => initBinding s n v
  | .nowhere => if strict then unboundName n else putOf false (.obj Intrinsic.globalObject.id) n v

def deleteName (n : Name) (scope : ScopeRef) : Eval Bool := do
  match ← findName n scope with
  | .variable _ | .arguments _ => return false
  | .property o _ => remove o n
  | .nowhere => return true

end DomFlow.Sandbox
