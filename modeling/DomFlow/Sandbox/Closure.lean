import DomFlow.Sandbox.Builtin.Object
import DomFlow.Sandbox.Naming

/-! # Functions and classes of scripts

Making functions and classes, and starting a call or a construction: both end in an activation that is
ready to run. -/

namespace DomFlow.Sandbox

open Text (CodeUnits)

/-- A slot of a function that can be redefined, but not written. -/
def Slot.fixedQuiet (v : Val) : Slot :=
  { content := .value v, writable := false, enumerable := false }

/-- Whether a function can be called with `new`. -/
def FuncInfo.constructs (f : FuncInfo) : Bool :=
  match f.role with
  | .plain => !f.kind.isAsync && !f.kind.isGenerator
  | .base | .derived => true
  | .arrow | .method => false

/-- A function object for a piece of code in a scope. -/
def makeClosure (f : Func) (scope : ScopeRef) : Eval ObjId := do
  let info := f.info
  let proto : Intrinsic := if info.kind.isGenerator then .generatorFunctionProto else .functionProto
  let id ← alloc (Obj.ofSlots (.closure { func := f, scope }) (some proto.id)
    [("length", .fixedQuiet (.ofNat info.arity)), ("name", .fixedQuiet (.str info.name))])
  if info.kind.isGenerator then
    let p ← newOf (if info.kind.isAsync then .asyncGeneratorProto else .generatorProto) .plain
    writeSlot id "prototype" { content := .value (.obj p), enumerable := false, configurable := false }
  else if info.role = .plain && !info.kind.isAsync then
    let p ← newPlain
    writeSlot p "constructor" (.quiet (.obj id))
    writeSlot id "prototype" { content := .value (.obj p), enumerable := false, configurable := false }
  return id

/-- A function that can refer to itself by its name. -/
def makeNamedClosure (f : Func) (scope : ScopeRef) : Eval ObjId := do
  let own ← newScope { parent := some scope }
  let id ← makeClosure f own
  modifyScope own fun sc =>
    { sc with names := sc.names.insert f.info.name { value := some (.obj id), mutable := false, guarded := false } }
  return id

def modifyClosure (id : ObjId) (f : Closure → Closure) : Eval Unit :=
  modifyObj id fun o => match o.kind with
    | .closure c => { o with kind := .closure (f c) }
    | _ => o

def setHome (f : Val) (home : ObjId) : Eval Unit :=
  match f with
  | .obj id => modifyClosure id fun c => { c with home := some home }
  | _ => return

/-- Puts a method under a key, as a value or as an accessor. -/
def placeMethod (target : ObjId) (k : PropKey) (f : Val) (place : MethodPlace) (enumerable : Bool) : Eval Unit := do
  let d : Descriptor := { enumerable := some enumerable, configurable := some true }
  let done ← define target k (match place with
    | .value => { d with value := some f, writable := some true }
    | .getter => { d with getter := some f }
    | .setter => { d with setter := some f })
  unless done do typeFault "cannot define property"

def checkLimits : Eval Unit := do
  let m ← get
  if m.limits.recursion ≤ m.depth || m.limits.stack ≤ 8 * m.depth then throw .limit

/-- The value of `this` in a function. -/
def boundThis (info : FuncInfo) (this : Val) : Eval Val := do
  if info.strict then return this
  match this with
  | .undefined | .null => return .obj Intrinsic.globalObject.id
  | v => return .obj (← toObject v)

/-- An activation of a function; `this` is absent where the parent class has yet to make it. -/
def activate (id : ObjId) (c : Closure) (this : Option Val) (args : List Val) (newTarget : Val) : Eval Activation := do
  let info := c.func.info
  let args := args.toArray
  let call : Option CallInfo := if info.role = .arrow then none else some { this, func := id, newTarget, args }
  let scope ← newScope { parent := some c.scope, names := info.decls.bindings, call }
  let start : Code := if info.kind.isGenerator then c.func.setup ++ [.simple .suspend] else c.func.setup
  return { control := [.code start, .code c.func.body], scope, args, strict := info.strict }

/-- Starts a call of a function that is no class. -/
def beginCall (id : ObjId) (c : Closure) (this : Val) (args : List Val) : Eval Activation := do
  let info := c.func.info
  if info.role = .base || info.role = .derived then typeFault "class constructor cannot be called without new"
  activate id c (some (← boundThis info this)) args .undefined

/-- Gives an object a hidden property, which it must not have yet. -/
def addHidden (id : ObjId) (k : PropKey) (s : Slot) : Eval Unit := do
  if (← getOwn id k).isSome then typeFault "cannot add a private member twice"
  modifyObj id fun o => o.withSlot k s

/-- Adds one half of a hidden accessor to the other. -/
def addHiddenAccessor (id : ObjId) (k : PropKey) (getter setter : Val) : Eval Unit := do
  match ← getOwn id k with
  | some { content := .accessor g t, .. } =>
    let content := Content.accessor (if getter.isUndefined then g else getter) (if setter.isUndefined then t else setter)
    modifyObj id fun o => o.withSlot k { content }
  | _ => modifyObj id fun o => o.withSlot k { content := .accessor getter setter }

def fillField (id : ObjId) (f : Field) : Run Unit := do
  match f.init with
  | .value init =>
    let v ← if init.isUndefined then pure .undefined else call init (.obj id) []
    match f.key with
    | .hidden _ => addHidden id f.key (.plain v)
    | _ => createOrFail id f.key v
  | .method m => addHidden id f.key { content := .value m, writable := false }
  | .getter g => addHiddenAccessor id f.key g .undefined
  | .setter s => addHiddenAccessor id f.key .undefined s
  | .block b => discard (call b (.obj id) [])

/-- Fills the fields that a class gives to its instances: hidden methods first. -/
def fillFields (id : ObjId) (fields : List Field) : Run Unit := do
  let isMethod (f : Field) : Bool := match f.init with
    | .method _ | .getter _ | .setter _ => true
    | _ => false
  for f in fields.filter isMethod ++ fields.filter (fun f => !isMethod f) do fillField id f

def beginConstruct (id : ObjId) (c : Closure) (args : List Val) (newTarget : Val) : Run Activation := do
  let info := c.func.info
  unless info.constructs do typeFault "not a constructor"
  let this ← if info.role = .derived then pure none
    else do
      let made ← alloc { proto := some (← protoFor newTarget .objectProto) }
      fillFields made c.fields
      pure (some (Val.obj made))
  let a ← activate id c this args newTarget
  return { a with returns := .construct a.scope }

/-- What a construction gives: an object that the function returned, else `this`. -/
def constructed (scope : ScopeRef) (v : Val) : Eval Val := do
  match v with
  | .obj _ => return v
  | _ => match ((← get).scope scope).call with
    | some { this := some t, .. } => return t
    | _ => fail .referenceError "super constructor has not been called"

/-- The prototypes that a class and its instances take from a parent class. -/
def parentProtos (parent : Val) : Run (Option ObjId × ObjId) := do
  match parent with
  | .null => return (none, Intrinsic.functionProto.id)
  | .obj p =>
    let constructs := match (← getObj p).kind with
      | .closure c => c.func.info.constructs
      | .native _ b => b
      | .bound .. => true
      | _ => false
    unless constructs do typeFault "class heritage is not a constructor"
    match ← getProp p "prototype" with
    | .obj proto => return (some proto, p)
    | .null => return (none, p)
    | _ => typeFault "class heritage has no prototype object"
  | _ => typeFault "class heritage is not a constructor"

def startClass (f : Func) (scope : ScopeRef) (parent : Option Val) : Run (ObjId × ObjId) := do
  let (protoParent, classParent) ← match parent with
    | some v => parentProtos v
    | none => pure (some Intrinsic.objectProto.id, Intrinsic.functionProto.id)
  let proto ← alloc { proto := protoParent }
  let cls ← makeClosure f scope
  modifyObj cls fun o => { o with proto := some classParent }
  modifyClosure cls fun c => { c with home := some proto }
  writeSlot cls "prototype" { content := .value (.obj proto), writable := false, enumerable := false, configurable := false }
  writeSlot proto "constructor" (.quiet (.obj cls))
  return (cls, proto)

/-- The key that an operand stands for in a class. -/
def memberKey (k : Val) (hidden : Bool) : Run PropKey := do
  match k, hidden with
  | .symbol id, true => return .hidden id
  | _, _ => toKey k

def addClassMethod (cls proto : ObjId) (k : Val) (f : Val) (isStatic hidden : Bool) (place : MethodPlace) : Run Unit := do
  let key ← memberKey k hidden
  let target := if isStatic then cls else proto
  setHome f target
  if hidden then
    let init : FieldInit := match place with
      | .value => .method f
      | .getter => .getter f
      | .setter => .setter f
    if isStatic then fillField cls { key, init }
    else modifyClosure cls fun c => { c with fields := c.fields ++ [{ key, init }] }
  else placeMethod target key f place false

/-- Adds a field or a block to a class, to be filled or run later. -/
def addClassField (cls proto : ObjId) (isStatic : Bool) (field : Field) (f : Val) : Eval Unit := do
  setHome f (if isStatic then cls else proto)
  modifyClosure cls fun c =>
    if isStatic then { c with statics := c.statics ++ [field] } else { c with fields := c.fields ++ [field] }

/-- Fills the static fields of a class and runs its blocks. -/
def finishClass (cls : ObjId) : Run Unit := do
  match ← closureOf? cls with
  | some c => for f in c.statics do fillField cls f
  | none => return

end DomFlow.Sandbox
