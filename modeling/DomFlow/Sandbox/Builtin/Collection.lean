import DomFlow.Sandbox.Builtin.Array

/-! # Maps, sets, iterators and promises

The entries of maps and sets stay in the order of their insertion; a removed one leaves a gap, so that
iterators keep their place. Promises never settle in a way that a script could see. -/

namespace DomFlow.Sandbox.Builtin

open Text (CodeUnits)

def thisMap (i : Invocation) : Eval (ObjId × Array (Option (Val × Val))) := do
  match i.this with
  | .obj id => match (← getObj id).kind with
    | .map entries => return (id, entries)
    | _ => typeFault "not a map"
  | _ => typeFault "not a map"

def thisSet (i : Invocation) : Eval (ObjId × Array (Option Val)) := do
  match i.this with
  | .obj id => match (← getObj id).kind with
    | .set items => return (id, items)
    | _ => typeFault "not a set"
  | _ => typeFault "not a set"

def entryPlace? (entries : Array (Option (Val × Val))) (k : Val) : Option Nat :=
  entries.findIdx? fun e => e.any fun p => sameValueZero p.1 k

def memberPlace? (items : Array (Option Val)) (v : Val) : Option Nat :=
  items.findIdx? fun x => x.any (sameValueZero v)

def putEntry (entries : Array (Option (Val × Val))) (k v : Val) : Array (Option (Val × Val)) :=
  let k := match k with
    | .num x => if x == 0.0 then .num 0.0 else k
    | _ => k
  match entryPlace? entries k with
  | some n => entries.setIfInBounds n (some (k, v))
  | none => entries.push (some (k, v))

def putMember (items : Array (Option Val)) (v : Val) : Array (Option Val) :=
  if (memberPlace? items v).isSome then items else items.push (some v)

def setKind (id : ObjId) (kind : Kind) : Eval Unit := modifyObj id fun o => { o with kind }

def needsNew (i : Invocation) : Eval Unit := do
  if i.newTarget.isUndefined then typeFault "constructor requires new"

def makeMap (i : Invocation) : Run Val := do
  needsNew i
  let id ← alloc { kind := .map #[], proto := some (← protoFor i.newTarget .mapProto) }
  unless (i.arg 0).isNullish do
    let adder ← getProp id "set"
    forEachItem (i.arg 0) fun entry => do
      match entry with
      | .obj e => discard (call adder (.obj id) [← getProp e "0", ← getProp e "1"])
      | _ => typeFault "entry is not an object"
  return .obj id

def makeSet (i : Invocation) : Run Val := do
  needsNew i
  let id ← alloc { kind := .set #[], proto := some (← protoFor i.newTarget .setProto) }
  unless (i.arg 0).isNullish do
    let adder ← getProp id "add"
    forEachItem (i.arg 0) fun v => do discard (call adder (.obj id) [v])
  return .obj id

def newMapIterator (id : ObjId) (view : ListView) : Eval Val := do
  return .obj (← newOf .mapIteratorProto (.mapIterator id 0 view))

def mapMethods : Array Method := #[
  { key := "get", arity := 1, run := fun i => do
      let (_, entries) ← thisMap i
      let entry := (entryPlace? entries (i.arg 0)).bind fun n => entries[n]?.join
      return (entry.map (·.2)).getD .undefined },
  { key := "set", arity := 2, run := fun i => do
      let (id, entries) ← thisMap i
      setKind id (.map (putEntry entries (i.arg 0) (i.arg 1)))
      return i.this },
  { key := "has", arity := 1, run := fun i => do
      let (_, entries) ← thisMap i
      return .bool (entryPlace? entries (i.arg 0)).isSome },
  { key := "delete", arity := 1, run := fun i => do
      let (id, entries) ← thisMap i
      match entryPlace? entries (i.arg 0) with
      | some n =>
        setKind id (.map (entries.setIfInBounds n none))
        return .bool true
      | none => return .bool false },
  { key := "clear", arity := 0, run := fun i => do
      let (id, entries) ← thisMap i
      setKind id (.map (entries.map fun _ => none))
      return .undefined },
  { key := "size", arity := 0, place := .getter, run := fun i => do
      return .ofNat ((← thisMap i).2.filter (·.isSome)).size },
  { key := "forEach", arity := 1, run := fun i => do
      let (_, entries) ← thisMap i
      callback (i.arg 0)
      for e in entries do
        tick
        match e with
        | some (k, v) => discard (call (i.arg 0) (i.arg 1) [v, k, i.this])
        | none => pure ()
      return .undefined },
  { key := "keys", arity := 0, run := fun i => do newMapIterator (← thisMap i).1 .keys },
  { key := "values", arity := 0, run := fun i => do newMapIterator (← thisMap i).1 .values },
  { key := "entries", arity := 0, run := fun i => do newMapIterator (← thisMap i).1 .entries },
  { key := .symbol WellKnown.iterator, arity := 0, run := fun i => do
      newMapIterator (← thisMap i).1 .entries }]

def setMethods : Array Method := #[
  { key := "add", arity := 1, run := fun i => do
      let (id, items) ← thisSet i
      setKind id (.set (putMember items (i.arg 0)))
      return i.this },
  { key := "has", arity := 1, run := fun i => do
      return .bool (memberPlace? (← thisSet i).2 (i.arg 0)).isSome },
  { key := "delete", arity := 1, run := fun i => do
      let (id, items) ← thisSet i
      match memberPlace? items (i.arg 0) with
      | some n =>
        setKind id (.set (items.setIfInBounds n none))
        return .bool true
      | none => return .bool false },
  { key := "clear", arity := 0, run := fun i => do
      let (id, items) ← thisSet i
      setKind id (.set (items.map fun _ => none))
      return .undefined },
  { key := "size", arity := 0, place := .getter, run := fun i => do
      return .ofNat ((← thisSet i).2.filter (·.isSome)).size },
  { key := "forEach", arity := 1, run := fun i => do
      let (_, items) ← thisSet i
      callback (i.arg 0)
      for e in items do
        tick
        match e with
        | some v => discard (call (i.arg 0) (i.arg 1) [v, v, i.this])
        | none => pure ()
      return .undefined },
  { key := "keys", arity := 0, run := fun i => do newMapIterator (← thisSet i).1 .values },
  { key := "values", arity := 0, run := fun i => do newMapIterator (← thisSet i).1 .values },
  { key := "entries", arity := 0, run := fun i => do newMapIterator (← thisSet i).1 .entries },
  { key := .symbol WellKnown.iterator, arity := 0, run := fun i => do
      newMapIterator (← thisSet i).1 .values }]

/-- The entry of a map or a set at the first place from `n` on that is no gap, and that place. -/
def nextEntry (entries : List (Option (Val × Val))) (n : Nat) : Option ((Val × Val) × Nat) :=
  (entries.drop n).zipIdx.findSome? fun (e, k) => e.map fun p => (p, n + k)

/-- What a view shows of a key and a value. -/
def viewed (view : ListView) (k v : Val) : Eval Val :=
  match view with
  | .keys => return k
  | .values => return v
  | .entries => newArray [k, v]

/-- One step of an iterator that is not written in scripts. -/
def iteratorNext (i : Invocation) : Run Val := do
  match i.this with
  | .obj id => match (← getObj id).kind with
    | .listIterator list n view =>
      match list with
      | .obj l =>
        if n < (← lengthOf l) then
          setKind id (.listIterator list (n + 1) view)
          let v ← if view = .keys then pure .undefined else item l n
          iterResult (← viewed view (.ofNat n) v) false
        else
          setKind id (.listIterator .undefined n view)
          iterResult .undefined true
      | _ => iterResult .undefined true
    | .textIterator text n =>
      match text.codePointAt? n with
      | some (_, width) =>
        setKind id (.textIterator text (n + width))
        iterResult (.str (text.slice n (n + width))) false
      | none => iterResult .undefined true
    | .mapIterator m n view =>
      let entries := match (← getObj m).kind with
        | .map entries => entries.toList
        | .set items => items.toList.map fun x => x.map fun v => (v, v)
        | _ => []
      match nextEntry entries n with
      | some ((k, v), place) =>
        setKind id (.mapIterator m (place + 1) view)
        iterResult (← viewed view k v) false
      | none =>
        setKind id (.mapIterator m entries.length view)
        iterResult .undefined true
    | _ => typeFault "not an iterator"
  | _ => typeFault "not an iterator"

def listIteratorMethods : Array Method := #[
  { key := "next", arity := 0, run := iteratorNext }]

def iteratorMethods : Array Method := #[
  { key := .symbol WellKnown.iterator, arity := 0, run := fun i => return i.this },
  { key := .symbol WellKnown.asyncIterator, arity := 0, run := fun i => return i.this }]

private def resumeThis (i : Invocation) (mode : ResumeMode) : Run Val := fun calls => do
  match i.this with
  | .obj id => calls.resume id mode (i.arg 0)
  | _ => typeFault "not a generator"

def generatorMethods : Array Method := #[
  { key := "next", arity := 1, run := fun i => resumeThis i .next },
  { key := "return", arity := 1, run := fun i => resumeThis i .ret },
  { key := "throw", arity := 1, run := fun i => resumeThis i .raise }]

def inert : Native := ⟨.host, 0⟩

def newPromise : Eval Val := do return .obj (← newOf .promiseProto .promise)

def makePromise (i : Invocation) : Run Val := do
  needsNew i
  callback (i.arg 0)
  let settle := .obj (← newOf .functionProto (.native inert false))
  let id ← alloc { kind := .promise, proto := some (← protoFor i.newTarget .promiseProto) }
  discard (catching (call (i.arg 0) .undefined [settle, settle]) fun _ => return .undefined)
  return .obj id

private def combinator (name : String) : Method :=
  { key := name, arity := 1, run := fun i => do
      discard (catching (collect (i.arg 0)) fun _ => return [])
      newPromise }

def promiseStatics : Array Method := #[
  { key := "resolve", arity := 1, run := fun i => do
      match i.arg 0 with
      | .obj id => match (← getObj id).kind with
        | .promise => return i.arg 0
        | _ => newPromise
      | _ => newPromise },
  { key := "reject", arity := 1, run := fun _ => newPromise },
  combinator "all", combinator "allSettled", combinator "any", combinator "race"]

private def reaction (name : String) (arity : Nat) : Method :=
  { key := name, arity, run := fun i => do
      match i.this with
      | .obj id => match (← getObj id).kind with
        | .promise => newPromise
        | _ => typeFault "not a promise"
      | _ => typeFault "not a promise" }

def promiseMethods : Array Method := #[reaction "then" 2, reaction "catch" 1, reaction "finally" 1]

end DomFlow.Sandbox.Builtin
