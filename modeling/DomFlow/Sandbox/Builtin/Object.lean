import DomFlow.Sandbox.Iterate

/-! # Functions on objects

The constructor `Object`, its functions, the methods that every object has, and `Reflect`. -/

namespace DomFlow.Sandbox.Builtin

open Text (CodeUnits)

def toDescriptor (v : Val) : Run Descriptor := do
  match v with
  | .obj id =>
    let part (name : String) : Run (Option Val) := do
      if ← hasProp id name then return some (← getProp id name) else return none
    let enumerable := (← part "enumerable").map toBool
    let configurable := (← part "configurable").map toBool
    let value ← part "value"
    let writable := (← part "writable").map toBool
    let getter ← part "get"
    let setter ← part "set"
    for f in [getter, setter] do
      match f with
      | some f => unless f.isUndefined || (← isCallable f) do typeFault "accessor is not callable"
      | none => pure ()
    let d : Descriptor := { value, getter, setter, writable, enumerable, configurable }
    if d.isAccessor && d.isData then typeFault "invalid property descriptor"
    return d
  | _ => typeFault "property description must be an object"

def ofSlot (s : Slot) : Eval Val := do
  let content : List (PropKey × Slot) := match s.content with
    | .value v => [("value", .plain v), ("writable", .plain (.bool s.writable))]
    | .accessor g t => [("get", .plain g), ("set", .plain t)]
  let flags : List (PropKey × Slot) :=
    [("enumerable", .plain (.bool s.enumerable)), ("configurable", .plain (.bool s.configurable))]
  return .obj (← alloc (Obj.ofSlots .plain (some Intrinsic.objectProto.id) (content ++ flags)))

/-- The texts under which an object itself has enumerable properties. -/
def enumerableTexts (id : ObjId) : Eval (List CodeUnits) := do
  let m ← get
  return (m.ownKeys id).filterMap fun k => match k with
    | .str t => if (m.own? id k).any (·.enumerable) then some t else none
    | _ => none

/-- Copies the enumerable properties of a value, except those under given keys. -/
def copyFields (source : Val) (skip : List PropKey) (write : PropKey → Val → Run Unit) : Run Unit := do
  match source with
  | .undefined | .null => return
  | _ =>
    let id ← toObject source
    for k in (← get).ownKeys id do
      unless skip.contains k do
        if (← getOwn id k).any (·.enumerable) then write k (← getPropFor id k source)

/-- Changes the prototype of an object, and tells whether that was allowed. -/
def setProtoOf (id : ObjId) (proto : Option ObjId) : Eval Bool := do
  let o ← getObj id
  if o.proto == proto then return true
  if !o.extensible then return false
  match proto with
  | some p =>
    if p == id || (← hasProto p id) then return false
  | none => pure ()
  modifyObj id fun o => { o with proto }
  return true

def protoValue (proto : Option ObjId) : Val := (proto.map Val.obj).getD .null

def protoOfValue (v : Val) : Eval (Option ObjId) :=
  match v with
  | .obj p => return some p
  | .null => return none
  | _ => typeFault "prototype must be an object or null"

/-- Makes an object fixed; a frozen one cannot be written to either. -/
def fixObject (id : ObjId) (freeze : Bool) : Eval Unit := do
  modifyObj id fun o => { o with extensible := false }
  for k in (← get).ownKeys id do
    match ← getOwn id k with
    | some s =>
      let data := match s.content with
        | .value _ => true
        | .accessor .. => false
      discard (define id k
        { configurable := some false, writable := if freeze && data then some false else none })
    | none => pure ()

def isFixed (id : ObjId) (frozen : Bool) : Eval Bool := do
  let m ← get
  if (m.obj id).extensible then return false
  return (m.ownKeys id).all fun k => match m.own? id k with
    | some s => !s.configurable && !(frozen && s.writable && (match s.content with
      | .value _ => true
      | .accessor .. => false))
    | none => true

def defineAll (id : ObjId) (descriptors : Val) : Run Unit := do
  let source ← toObject descriptors
  for k in (← get).ownKeys source do
    if (← getOwn source k).any (·.enumerable) then
      let d ← toDescriptor (← getProp source k)
      unless ← define id k d do typeFault "cannot redefine property"

def objectArg (i : Invocation) (n : Nat) : Eval ObjId :=
  match i.arg n with
  | .obj id => return id
  | _ => typeFault "not an object"

def makeObject (i : Invocation) : Run Val := do
  match i.newTarget, i.arg 0 with
  | .undefined, .undefined | .undefined, .null => return .obj (← newPlain)
  | .undefined, v => return .obj (← toObject v)
  | t, v =>
    if v.isNullish then return .obj (← alloc { proto := some (← protoFor t .objectProto) })
    return .obj (← toObject v)

def objectStatics : Array Method := #[
  { key := "keys", arity := 1, run := fun i => do
      newArray ((← enumerableTexts (← toObject (i.arg 0))).map Val.str) },
  { key := "values", arity := 1, run := fun i => do
      let id ← toObject (i.arg 0)
      newArray (← (← enumerableTexts id).mapM fun (t : CodeUnits) => getProp id t) },
  { key := "entries", arity := 1, run := fun i => do
      let id ← toObject (i.arg 0)
      newArray (← (← enumerableTexts id).mapM fun (t : CodeUnits) => do newArray [.str t, ← getProp id t]) },
  { key := "assign", arity := 2, run := fun i => do
      let id ← toObject (i.arg 0)
      for source in i.args.drop 1 do copyFields source [] fun k v => put id k v
      return .obj id },
  { key := "create", arity := 2, run := fun i => do
      let id ← alloc { proto := ← protoOfValue (i.arg 0) }
      unless (i.arg 1).isUndefined do defineAll id (i.arg 1)
      return .obj id },
  { key := "defineProperty", arity := 3, run := fun i => do
      let id ← objectArg i 0
      let k ← toKey (i.arg 1)
      let d ← toDescriptor (i.arg 2)
      unless ← define id k d do typeFault "cannot redefine property"
      return .obj id },
  { key := "defineProperties", arity := 2, run := fun i => do
      let id ← objectArg i 0
      defineAll id (i.arg 1)
      return .obj id },
  { key := "getPrototypeOf", arity := 1, run := fun i => do
      return protoValue (← getObj (← toObject (i.arg 0))).proto },
  { key := "setPrototypeOf", arity := 2, run := fun i => do
      if (i.arg 0).isNullish then typeFault "not an object"
      let proto ← protoOfValue (i.arg 1)
      match i.arg 0 with
      | .obj id => unless ← setProtoOf id proto do typeFault "cannot set prototype"
      | _ => pure ()
      return i.arg 0 },
  { key := "freeze", arity := 1, run := fun i => do
      match i.arg 0 with
      | .obj id => fixObject id true
      | _ => pure ()
      return i.arg 0 },
  { key := "isFrozen", arity := 1, run := fun i => do
      match i.arg 0 with
      | .obj id => return .bool (← isFixed id true)
      | _ => return .bool true },
  { key := "seal", arity := 1, run := fun i => do
      match i.arg 0 with
      | .obj id => fixObject id false
      | _ => pure ()
      return i.arg 0 },
  { key := "isSealed", arity := 1, run := fun i => do
      match i.arg 0 with
      | .obj id => return .bool (← isFixed id false)
      | _ => return .bool true },
  { key := "preventExtensions", arity := 1, run := fun i => do
      match i.arg 0 with
      | .obj id => modifyObj id fun o => { o with extensible := false }
      | _ => pure ()
      return i.arg 0 },
  { key := "isExtensible", arity := 1, run := fun i => do
      match i.arg 0 with
      | .obj id => return .bool (← getObj id).extensible
      | _ => return .bool false },
  { key := "getOwnPropertyNames", arity := 1, run := fun i => do
      let id ← toObject (i.arg 0)
      newArray (((← get).ownKeys id).filterMap fun k => match k with
        | .str t => some (.str t)
        | _ => none) },
  { key := "getOwnPropertySymbols", arity := 1, run := fun i => do
      let id ← toObject (i.arg 0)
      newArray (((← get).ownKeys id).filterMap fun k => match k with
        | .symbol s => some (.symbol s)
        | _ => none) },
  { key := "getOwnPropertyDescriptor", arity := 2, run := fun i => do
      let id ← toObject (i.arg 0)
      match ← getOwn id (← toKey (i.arg 1)) with
      | some s => ofSlot s
      | none => return .undefined },
  { key := "getOwnPropertyDescriptors", arity := 1, run := fun i => do
      let id ← toObject (i.arg 0)
      let out ← newPlain
      for k in (← get).ownKeys id do
        match ← getOwn id k with
        | some s => createOrFail out k (← ofSlot s)
        | none => pure ()
      return .obj out },
  { key := "fromEntries", arity := 1, run := fun i => do
      let out ← newPlain
      forEachItem (i.arg 0) fun entry => do
        match entry with
        | .obj e =>
          let k ← toKey (← getProp e "0")
          createOrFail out k (← getProp e "1")
        | _ => typeFault "entry is not an object"
      return .obj out },
  { key := "is", arity := 2, run := fun i => return .bool (sameValue (i.arg 0) (i.arg 1)) },
  { key := "hasOwn", arity := 2, run := fun i => do
      let id ← toObject (i.arg 0)
      return .bool (← getOwn id (← toKey (i.arg 1))).isSome }]

/-- What kind of object a value is, as `Object.prototype.toString` names it. -/
def kindTag (v : Val) : Run String := do
  match v with
  | .undefined => return "Undefined"
  | .null => return "Null"
  | _ =>
    let id ← toObject v
    let builtin := match (← getObj id).kind with
      | .array .. => "Array"
      | .closure _ | .native .. | .bound .. => "Function"
      | .error _ => "Error"
      | .boxed (.bool _) => "Boolean"
      | .boxed (.num _) => "Number"
      | .boxed (.str _) => "String"
      | .regexp _ => "RegExp"
      | .arguments .. => "Arguments"
      | _ => "Object"
    match ← getPropFor id (.symbol WellKnown.toStringTag) v with
    | .str s => return s.toString
    | _ => return builtin

def objectMethods : Array Method := #[
  { key := "hasOwnProperty", arity := 1, run := fun i => do
      let k ← toKey (i.arg 0)
      return .bool (← getOwn (← toObject i.this) k).isSome },
  { key := "isPrototypeOf", arity := 1, run := fun i => do
      match i.arg 0 with
      | .obj v => return .bool (← hasProto v (← toObject i.this))
      | _ => return .bool false },
  { key := "propertyIsEnumerable", arity := 1, run := fun i => do
      let k ← toKey (i.arg 0)
      return .bool ((← getOwn (← toObject i.this) k).any (·.enumerable)) },
  { key := "toString", arity := 0, run := fun i => do
      return .str ("[object " ++ (← kindTag i.this) ++ "]") },
  { key := "toLocaleString", arity := 0, run := fun i => invoke i.this "toString" [] },
  { key := "valueOf", arity := 0, run := fun i => return .obj (← toObject i.this) },
  { key := "__proto__", arity := 0, place := .getter, run := fun i => do
      return protoValue (← getObj (← toObject i.this)).proto },
  { key := "__proto__", arity := 1, place := .setter, run := fun i => do
      match i.this, i.arg 0 with
      | .obj id, .obj p => unless ← setProtoOf id (some p) do typeFault "cannot set prototype"
      | .obj id, .null => unless ← setProtoOf id none do typeFault "cannot set prototype"
      | .undefined, _ | .null, _ => typeFault "not an object"
      | _, _ => pure ()
      return .undefined }]

def reflectStatics : Array Method := #[
  { key := "ownKeys", arity := 1, run := fun i => do
      newArray (((← get).ownKeys (← objectArg i 0)).map PropKey.value) },
  { key := "has", arity := 2, run := fun i => do
      let id ← objectArg i 0
      return .bool (← hasProp id (← toKey (i.arg 1))) },
  { key := "get", arity := 2, run := fun i => do
      let id ← objectArg i 0
      getPropFor id (← toKey (i.arg 1)) (if i.args.length > 2 then i.arg 2 else i.arg 0) },
  { key := "set", arity := 3, run := fun i => do
      let id ← objectArg i 0
      return .bool (← setProp id (← toKey (i.arg 1)) (i.arg 2) (if i.args.length > 3 then i.arg 3 else i.arg 0)) },
  { key := "apply", arity := 3, run := fun i => do
      unless ← isCallable (i.arg 0) do typeFault "not a function"
      match i.arg 2 with
      | .obj _ => call (i.arg 0) (i.arg 1) (← argumentList (i.arg 2))
      | _ => typeFault "arguments are not an object" },
  { key := "construct", arity := 2, run := fun i => do
      construct (i.arg 0) (← argumentList (i.arg 1)) (if i.args.length > 2 then i.arg 2 else i.arg 0) },
  { key := "getPrototypeOf", arity := 1, run := fun i => do
      return protoValue (← getObj (← objectArg i 0)).proto },
  { key := "setPrototypeOf", arity := 2, run := fun i => do
      return .bool (← setProtoOf (← objectArg i 0) (← protoOfValue (i.arg 1))) },
  { key := "defineProperty", arity := 3, run := fun i => do
      let id ← objectArg i 0
      let k ← toKey (i.arg 1)
      return .bool (← define id k (← toDescriptor (i.arg 2))) },
  { key := "deleteProperty", arity := 2, run := fun i => do
      let id ← objectArg i 0
      return .bool (← remove id (← toKey (i.arg 1))) },
  { key := "getOwnPropertyDescriptor", arity := 2, run := fun i => do
      let id ← objectArg i 0
      match ← getOwn id (← toKey (i.arg 1)) with
      | some s => ofSlot s
      | none => return .undefined },
  { key := "isExtensible", arity := 1, run := fun i => do
      return .bool (← getObj (← objectArg i 0)).extensible },
  { key := "preventExtensions", arity := 1, run := fun i => do
      modifyObj (← objectArg i 0) fun o => { o with extensible := false }
      return .bool true }]

end DomFlow.Sandbox.Builtin
