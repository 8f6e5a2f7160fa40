import DomFlow.Sandbox.Convert

/-! # Iteration

A value is iterated by the object that its iterator method gives; each step calls that object's `next`. -/

namespace DomFlow.Sandbox

/-- Runs a handler on a value that was thrown; bounds that were met pass through. -/
def catching {α : Type} (x : Run α) (handle : Val → Run α) : Run α :=
  tryCatch x fun
    | .thrown v => handle v
    | a => throw a

def beginIteration (v : Val) : Run Iteration := do
  let f ← getOf v (.symbol WellKnown.iterator)
  unless ← isCallable f do typeFault "value is not iterable"
  let iterator ← call f v []
  match iterator with
  | .obj _ => return { iterator, next := ← getOf iterator "next" }
  | _ => typeFault "iterator is not an object"

def askIteration (it : Iteration) (args : List Val) : Run Val := do
  match ← call it.next it.iterator args with
  | .obj id => return .obj id
  | _ => typeFault "iterator result is not an object"

def stepIteration (it : Iteration) : Run (Option Val) := do
  tick
  let r ← askIteration it []
  if toBool (← getOf r "done") then return none
  return some (← getOf r "value")

def closeIteration (it : Iteration) : Run Unit := do
  let f ← getMethodOf it.iterator "return"
  unless f.isUndefined do
    match ← call f it.iterator [] with
    | .obj _ => return
    | _ => typeFault "iterator result is not an object"

/-- Closes an iterator on account of an error, which is the one that counts. -/
def closeQuietly (it : Iteration) : Run Unit :=
  catching (closeIteration it) fun _ => return

def collectFrom (it : Iteration) : Nat → List Val → Run (List Val)
  | 0, _ => throw .timeout
  | fuel + 1, acc => do
    match ← stepIteration it with
    | none => return acc.reverse
    | some v => collectFrom it fuel (v :: acc)

def collectRest (it : Iteration) : Run (List Val) := do
  collectFrom it ((← get).budget + 1) []

def collect (v : Val) : Run (List Val) := do
  collectRest (← beginIteration v)

/-- Does something with every value, closing the iterator if that fails; `fuel` bounds the steps. -/
def forEachFrom (it : Iteration) (f : Val → Run Unit) : Nat → Run Unit
  | 0 => throw .timeout
  | fuel + 1 => do
    match ← stepIteration it with
    | none => return
    | some v =>
      catching (f v) fun e => do
        closeQuietly it
        throw (.thrown e)
      forEachFrom it f fuel

def forEachItem (v : Val) (f : Val → Run Unit) : Run Unit := do
  forEachFrom (← beginIteration v) f ((← get).budget + 1)

def iterResult (v : Val) (done : Bool) : Eval Val := do
  return .obj (← alloc (Obj.ofSlots .plain (some Intrinsic.objectProto.id)
    [("value", .plain v), ("done", .plain (.bool done))]))

/-- The items of an array or of what looks like one, as arguments of a call. -/
def argumentList (v : Val) : Run (List Val) := do
  match v with
  | .undefined | .null => return []
  | .obj id =>
    match (← getObj id).kind with
    | .array items length =>
      if items.size == length && items.all (·.isSome) then return items.toList.map (·.getD .undefined)
      else (List.range length).mapM fun i => getProp id (.ofNat i)
    | _ => (List.range (← lengthOf id)).mapM fun i => do
      tick
      getProp id (.ofNat i)
  | _ => typeFault "arguments are not an object"

/-- The prototype for what a constructor makes: that of its target, or the default. -/
def protoFor (newTarget : Val) (default : Intrinsic) : Run ObjId := do
  match newTarget with
  | .obj f => match ← getProp f "prototype" with
    | .obj p => return p
    | _ => return default.id
  | _ => return default.id

end DomFlow.Sandbox
