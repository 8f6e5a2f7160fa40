import DomFlow.Sandbox.Numeral
import DomFlow.Sandbox.Value

/-! # Objects and their properties

A property is looked up on an object and then along its prototypes. Arrays keep their items apart from
their properties, texts as objects have their units as properties, and shared arguments read and write
the parameters of their function. -/

namespace DomFlow.Sandbox

open Text (CodeUnits)

/-- Objects that exist before a script runs; each has its place in the heap. -/
inductive Intrinsic where
  | globalObject | objectProto | functionProto | arrayProto | stringProto | numberProto | booleanProto
  | symbolProto | bigintProto | errorProto | typeErrorProto | rangeErrorProto | referenceErrorProto
  | syntaxErrorProto | evalErrorProto | uriErrorProto | regexpProto | mapProto | setProto | promiseProto
  | iteratorProto | generatorProto | generatorFunctionProto | asyncGeneratorProto
  | listIteratorProto | textIteratorProto | mapIteratorProto
  | math | json | reflect | location | document | element
deriving DecidableEq, Repr, Inhabited

namespace Intrinsic

def all : List Intrinsic := [
  globalObject, objectProto, functionProto, arrayProto, stringProto, numberProto, booleanProto,
  symbolProto, bigintProto, errorProto, typeErrorProto, rangeErrorProto, referenceErrorProto,
  syntaxErrorProto, evalErrorProto, uriErrorProto, regexpProto, mapProto, setProto, promiseProto,
  iteratorProto, generatorProto, generatorFunctionProto, asyncGeneratorProto,
  listIteratorProto, textIteratorProto, mapIteratorProto,
  math, json, reflect, location, document, element]

def id (i : Intrinsic) : ObjId := i.ctorIdx

end Intrinsic

def ErrorKind.proto : ErrorKind → Intrinsic
  | plain => .errorProto
  | typeError => .typeErrorProto
  | rangeError => .rangeErrorProto
  | referenceError => .referenceErrorProto
  | syntaxError => .syntaxErrorProto
  | evalError => .evalErrorProto
  | uriError => .uriErrorProto

/-- A text as an array index: digits without a redundant zero, below `2^32 - 1`. -/
def indexOfText? (u : CodeUnits) : Option Nat :=
  let ds := u.data
  if ds.isEmpty || ds.size > 10 then none
  else if ds.all (fun d => 48 ≤ d && d ≤ 57) then
    if ds.size > 1 && ds[0]? == some 48 then none
    else
      let n := ds.foldl (fun n d => n * 10 + (d.toNat - 48)) 0
      if n < 4294967295 then some n else none
  else none

def PropKey.index? : PropKey → Option Nat
  | .str t => indexOfText? t
  | _ => none

def PropKey.ofNat (n : Nat) : PropKey := .str (toString n)

def lengthName : CodeUnits := "length"

namespace Obj

def slot? (o : Obj) (k : PropKey) : Option Slot := (o.slots[k]?).map (·.2)

/-- Sets a property among the slots, in its old place or as the last one. -/
def withSlot (o : Obj) (k : PropKey) (s : Slot) : Obj :=
  match o.slots[k]? with
  | some (place, _) => { o with slots := o.slots.insert k (place, s) }
  | none => { o with slots := o.slots.insert k (o.fresh, s), fresh := o.fresh + 1 }

def withoutSlot (o : Obj) (k : PropKey) : Obj := { o with slots := o.slots.erase k }

def ofSlots (kind : Kind) (proto : Option ObjId) (slots : List (PropKey × Slot)) : Obj :=
  slots.foldl (fun o (k, s) => o.withSlot k s) { kind, proto }

end Obj

namespace Machine

def obj (m : Machine) (id : ObjId) : Obj := m.heap.getD id default

def scope (m : Machine) (id : ScopeRef) : LiveScope := m.scopes.getD id default

def sharedValue (m : Machine) (scope : ScopeRef) (names : List (Option Name)) (i : Nat) : Option Val :=
  match names[i]?.join with
  | some n => ((m.scope scope).names[n]?).bind (·.value)
  | none => none

/-- The property that an object itself has under a key. -/
def own? (m : Machine) (id : ObjId) (k : PropKey) : Option Slot :=
  let o := m.obj id
  match o.kind, k with
  | .array items length, .str t =>
    if t == lengthName then
      some { content := .value (.ofNat length), writable := (o.slot? k).isNone, enumerable := false,
             configurable := false }
    else match indexOfText? t with
      | some i => match items[i]? with
        | some (some v) => some (.plain v)
        | _ => o.slot? k
      | none => o.slot? k
  | .boxed (.str s), .str t =>
    if t == lengthName then
      some { content := .value (.ofNat s.size), writable := false, enumerable := false, configurable := false }
    else match (indexOfText? t).bind s.at? with
      | some u => some { content := .value (.str u), writable := false, configurable := false }
      | none => o.slot? k
  | .arguments scope names, _ =>
    match o.slot? k, k.index? with
    | some s, some i => match m.sharedValue scope names i with
      | some v => some { s with content := .value v }
      | none => some s
    | s, _ => s
  | _, _ => o.slot? k

/-- The property that an object has under a key, itself or from its prototypes. -/
def lookup? (m : Machine) (k : PropKey) : Nat → ObjId → Option Slot
  | 0, _ => none
  | fuel + 1, id =>
    match m.own? id k with
    | some s => some s
    | none => match (m.obj id).proto with
      | some p => m.lookup? k fuel p
      | none => none

def property? (m : Machine) (id : ObjId) (k : PropKey) : Option Slot :=
  m.lookup? k (m.heap.size + 1) id

def protoChain (m : Machine) : Nat → ObjId → List ObjId
  | 0, _ => []
  | fuel + 1, id => match (m.obj id).proto with
    | some p => p :: m.protoChain fuel p
    | none => []

/-- The keys of an object: indices in order, then texts and then symbols as they were made. -/
def ownKeys (m : Machine) (id : ObjId) : List PropKey :=
  let o := m.obj id
  let entries := (o.slots.toList.filter fun (k, _) => match k with
    | .hidden _ => false
    | _ => true).mergeSort fun a b => decide (a.2.1 ≤ b.2.1)
  let keys := entries.map (·.1)
  let items := match o.kind with
    | .array items _ => (List.range items.size).filter fun i => (items[i]?.join).isSome
    | .boxed (.str s) => List.range s.size
    | _ => []
  let indices := (items ++ keys.filterMap PropKey.index?).mergeSort fun a b => decide (a ≤ b)
  let quiet : List PropKey := match o.kind with
    | .array .. | .boxed (.str _) => [.str lengthName]
    | _ => []
  let texts := keys.filter fun k => match k with
    | .str t => (indexOfText? t).isNone && !(t == lengthName && !quiet.isEmpty)
    | _ => false
  let symbols := keys.filter fun k => match k with
    | .symbol _ => true
    | _ => false
  indices.map PropKey.ofNat ++ quiet ++ texts ++ symbols

def isCallable (m : Machine) (id : ObjId) : Bool :=
  match (m.obj id).kind with
  | .closure _ | .native .. | .bound .. => true
  | _ => false

end Machine

def getObj (id : ObjId) : Eval Obj := return (← get).obj id

def modifyObj (id : ObjId) (f : Obj → Obj) : Eval Unit :=
  modify fun m => { m with heap := m.heap.modify id f }

def alloc (o : Obj) : Eval ObjId :=
  modifyGet fun m => (m.heap.size, { m with heap := m.heap.push o })

def newOf (proto : Intrinsic) (kind : Kind) : Eval ObjId :=
  alloc { kind, proto := some proto.id }

def newPlain : Eval ObjId := newOf .objectProto .plain

def newArray (items : List Val) : Eval Val := do
  let items := (items.map some).toArray
  return .obj (← alloc { kind := .array items items.size, proto := some Intrinsic.arrayProto.id })

def getOwn (id : ObjId) (k : PropKey) : Eval (Option Slot) := return (← get).own? id k

/-- Arrays pad with holes up to this many places; items farther away become properties. -/
def paddingBound : Nat := 100000

def writeSlot (id : ObjId) (k : PropKey) (s : Slot) : Eval Unit := do
  let shared := match (← getObj id).kind, k.index? with
    | .arguments scope names, some i => (names[i]?.join).map fun n => (scope, n)
    | _, _ => none
  match shared, s.content with
  | some (scope, n), .value v =>
    modify fun m => { m with scopes := m.scopes.modify scope fun sc =>
      { sc with names := sc.names.insert n { value := some v } } }
  | _, _ => pure ()
  modifyObj id fun o =>
    match o.kind, k with
    | .array items length, .str t =>
      if t == lengthName then o.withSlot k s
      else match indexOfText? t, s with
        | some i, ⟨.value v, true, true, true⟩ =>
          let o := { o with kind := .plain }
          if i < items.size then
            { o.withoutSlot k with kind := .array (items.setIfInBounds i (some v)) (max length (i + 1)) }
          else if i ≤ items.size + paddingBound then
            let padded := items ++ Array.replicate (i - items.size) none
            { o.withoutSlot k with kind := .array (padded.push (some v)) (max length (i + 1)) }
          else { o.withSlot k s with kind := .array items (max length (i + 1)) }
        | some i, _ =>
          let o := { o with kind := .plain }
          { o.withSlot k s with kind := .array (items.setIfInBounds i none) (max length (i + 1)) }
        | none, _ => o.withSlot k s
    | _, _ => o.withSlot k s

def removeSlot (id : ObjId) (k : PropKey) : Eval Unit :=
  modifyObj id fun o =>
    match o.kind, k.index? with
    | .array items length, some i =>
      { o.withoutSlot k with kind := .array (items.setIfInBounds i none) length }
    | .arguments scope names, some i =>
      { o.withoutSlot k with kind := .arguments scope (names.set i none) }
    | _, _ => o.withoutSlot k

def setLength (id : ObjId) (n : Nat) : Eval Unit :=
  modifyObj id fun o =>
    match o.kind with
    | .array items _ =>
      let far := o.slots.toList.filterMap fun (k, _) => match k.index? with
        | some i => if i ≥ n then some k else none
        | none => none
      let o := far.foldl (fun o k => o.withoutSlot k) o
      { o with kind := .array (items.extract 0 (min n items.size)) n }
    | _ => o

def fail {α : Type} (kind : ErrorKind) (message : String) : Eval α := do
  let id ← alloc (Obj.ofSlots (.error kind) (some kind.proto.id) [("message", .quiet message)])
  throw (.thrown (.obj id))

def typeFault {α : Type} (message : String) : Eval α := fail .typeError message

def tick : Eval Unit := do
  let m ← get
  if m.budget = 0 then throw .timeout
  set { m with budget := m.budget - 1 }

def isCallable : Val → Eval Bool
  | .obj id => return (← get).isCallable id
  | _ => return false

/-- What is asked of a property; absent parts stay or take their defaults. -/
structure Descriptor where
  value : Option Val := none
  getter : Option Val := none
  setter : Option Val := none
  writable : Option Bool := none
  enumerable : Option Bool := none
  configurable : Option Bool := none
deriving Inhabited

def Descriptor.isAccessor (d : Descriptor) : Bool := d.getter.isSome || d.setter.isSome

def Descriptor.isData (d : Descriptor) : Bool := d.value.isSome || d.writable.isSome

/-- Whether two values are the same; zeros of different sign are not, and what is no number is itself. -/
def sameValue : Val → Val → Bool
  | .undefined, .undefined | .null, .null => true
  | .bool a, .bool b => a == b
  | .num a, .num b => (a.isNaN && b.isNaN) || a.toBits == b.toBits
  | .bigint a, .bigint b => a == b
  | .str a, .str b => a == b
  | .symbol a, .symbol b => a == b
  | .obj a, .obj b => a == b
  | _, _ => false

/-- The slot that a descriptor makes where there was none. -/
def Descriptor.fresh (d : Descriptor) : Slot :=
  let content : Content := if d.isAccessor then .accessor (d.getter.getD .undefined) (d.setter.getD .undefined)
    else .value (d.value.getD .undefined)
  { content, writable := d.writable.getD false, enumerable := d.enumerable.getD false,
    configurable := d.configurable.getD false }

/-- The slot that a descriptor makes of another one, unless that one forbids it. -/
def Descriptor.change? (d : Descriptor) (s : Slot) : Option Slot :=
  let fixed := !s.configurable
  if fixed && (d.configurable == some true || d.enumerable.any (· != s.enumerable)) then none
  else
    let enumerable := d.enumerable.getD s.enumerable
    let configurable := d.configurable.getD s.configurable
    match s.content with
    | .value v =>
      if d.isAccessor then
        if fixed then none
        else some { content := .accessor (d.getter.getD .undefined) (d.setter.getD .undefined), writable := false,
                    enumerable, configurable }
      else if fixed && !s.writable &&
          (d.writable == some true || d.value.any (fun w => !sameValue w v)) then none
      else some { content := .value (d.value.getD v), writable := d.writable.getD s.writable, enumerable,
                  configurable }
    | .accessor g t =>
      if d.isData then
        if fixed then none
        else some { content := .value (d.value.getD .undefined), writable := d.writable.getD false, enumerable,
                    configurable }
      else if fixed && (d.getter.any (fun x => !sameValue x g) || d.setter.any (fun x => !sameValue x t)) then none
      else some { content := .accessor (d.getter.getD g) (d.setter.getD t), enumerable, configurable }

/-- Defines a property as a descriptor asks, and tells whether the object allowed it. -/
def define (id : ObjId) (k : PropKey) (d : Descriptor) : Eval Bool := do
  match ← getOwn id k with
  | some s => match d.change? s with
    | some t =>
      match (← getObj id).kind, k with
      | .array .., .str name =>
        if name == lengthName then
          match t.content with
          | .value (.num x) => setLength id x.toUInt64.toNat
          | _ => pure ()
          unless t.writable do modifyObj id fun o => o.withSlot k t
        else writeSlot id k t
      | _, _ => writeSlot id k t
      return true
    | none => return false
  | none =>
    if (← getObj id).extensible then
      writeSlot id k d.fresh
      return true
    return false

def createField (id : ObjId) (k : PropKey) (v : Val) : Eval Bool :=
  define id k { value := some v, writable := some true, enumerable := some true, configurable := some true }

/-- Removes a property, and tells whether the object allowed it. -/
def remove (id : ObjId) (k : PropKey) : Eval Bool := do
  match ← getOwn id k with
  | none => return true
  | some s =>
    if s.configurable then
      removeSlot id k
      return true
    return false

def readSlot (s : Option Slot) (receiver : Val) : Run Val :=
  match s with
  | none => return .undefined
  | some s => match s.content with
    | .value v => return v
    | .accessor g _ => if g.isUndefined then return .undefined else call g receiver []

def getProp (id : ObjId) (k : PropKey) : Run Val := do
  readSlot ((← get).property? id k) (.obj id)

def getPropFor (id : ObjId) (k : PropKey) (receiver : Val) : Run Val := do
  readSlot ((← get).property? id k) receiver

def hasProp (id : ObjId) (k : PropKey) : Eval Bool := return ((← get).property? id k).isSome

def writeOwn (r : ObjId) (k : PropKey) (v : Val) : Eval Bool := do
  match ← getOwn r k with
  | some s => match s.content with
    | .accessor .. => return false
    | .value _ =>
      if s.writable then
        match (← getObj r).kind, k, v with
        | .array .., .str t, .num x =>
          if t == lengthName then setLength r x.toUInt64.toNat else writeSlot r k { s with content := .value v }
        | _, _, _ => writeSlot r k { s with content := .value v }
        return true
      return false
  | none =>
    if (← getObj r).extensible then
      writeSlot r k (.plain v)
      return true
    return false

/-- Writes a property, and tells whether that was allowed. The length of an array must be given as a
number. -/
def setProp (id : ObjId) (k : PropKey) (v receiver : Val) : Run Bool := do
  match (← get).property? id k with
  | some { content := .accessor _ setter, .. } =>
    if setter.isUndefined then return false
    discard (call setter receiver [v])
    return true
  | some { content := .value _, writable := false, .. } => return false
  | _ => match receiver with
    | .obj r => writeOwn r k v
    | _ => return false

end DomFlow.Sandbox
