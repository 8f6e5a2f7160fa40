import DomFlow.Sandbox.Iterate

/-! # Functions on arrays

The methods work on anything with a length and items under indices. -/

namespace DomFlow.Sandbox.Builtin

open Text (CodeUnits)

/-- The object that a method of arrays is called on, and its length. -/
def receiver (i : Invocation) : Run (ObjId × Nat) := do
  let id ← toObject i.this
  return (id, ← lengthOf id)

def item (id : ObjId) (n : Nat) : Run Val := do
  match (← getObj id).kind with
  | .array items _ => match items[n]? with
    | some (some v) => return v
    | _ => getProp id (.ofNat n)
  | _ => getProp id (.ofNat n)

def hasItem (id : ObjId) (n : Nat) : Eval Bool := hasProp id (.ofNat n)

def setItem (id : ObjId) (n : Nat) (v : Val) : Run Unit := put id (.ofNat n) v

def removeItem (id : ObjId) (n : Nat) : Eval Unit := do
  unless ← remove id (.ofNat n) do typeFault "cannot delete property"

def putLength (id : ObjId) (n : Nat) : Run Unit := put id lengthName (.ofNat n)

def callback (v : Val) : Eval Unit := do
  unless ← isCallable v do typeFault "not a function"

/-- Does something with every place that is filled, in order. -/
def eachItem (id : ObjId) (length : Nat) (f : Nat → Val → Run Unit) : Run Unit := do
  for n in [0:length] do
    tick
    if ← hasItem id n then f n (← item id n)

/-- The place of the `k`th item from the front or from the back. -/
def placeFrom (back : Bool) (length k : Nat) : Nat := if back then length - 1 - k else k

/-- The first item, from the front or from the back, to which a function says yes. -/
def findPlace (i : Invocation) (back : Bool) : Run (Option (Nat × Val)) := do
  let (id, length) ← receiver i
  callback (i.arg 0)
  for k in [0:length] do
    tick
    let n := placeFrom back length k
    let v ← item id n
    if toBool (← call (i.arg 0) (i.arg 1) [v, .ofNat n, .obj id]) then return some (n, v)
  return none

/-- Combines the items from the front or from the back. -/
def fold (i : Invocation) (back : Bool) : Run Val := do
  let (id, length) ← receiver i
  callback (i.arg 0)
  let mut acc : Option Val := i.args[1]?
  for k in [0:length] do
    tick
    let n := placeFrom back length k
    if ← hasItem id n then
      let v ← item id n
      acc ← match acc with
        | some a => some <$> call (i.arg 0) .undefined [a, v, .ofNat n, .obj id]
        | none => pure (some v)
  match acc with
  | some v => return v
  | none => typeFault "reduce of empty array with no initial value"

def joinItems (id : ObjId) (length : Nat) (separator : CodeUnits) : Run Val := do
  let mut parts : Array CodeUnits := #[]
  for n in [0:length] do
    tick
    let v ← item id n
    parts := parts.push (← if v.isNullish then pure CodeUnits.empty else toText v)
  return .str (CodeUnits.join separator parts.toList)

/-- Moves items within an array, holes included; a move toward the end begins with the last item. -/
def moveItems (id : ObjId) (source target count : Nat) : Run Unit := do
  for k in [0:count] do
    tick
    let n := placeFrom (decide (source < target)) count k
    if ← hasItem id (source + n) then setItem id (target + n) (← item id (source + n))
    else removeItem id (target + n)

/-- Whether `concat` adds the items of a value rather than the value. -/
def isSpreadable (v : Val) : Run Bool := do
  match v with
  | .obj id =>
    let s ← getProp id (.symbol WellKnown.isConcatSpreadable)
    unless s.isUndefined do return toBool s
    match (← getObj id).kind with
    | .array .. => return true
    | _ => return false
  | _ => return false

def newArrayOf (items : Array (Option Val)) : Eval Val := do
  return .obj (← alloc { kind := .array items items.size, proto := some Intrinsic.arrayProto.id })

def itemsBetween (id : ObjId) (start stop : Nat) : Run (Array (Option Val)) := do
  let mut out := #[]
  for n in [start:stop] do
    tick
    out := out.push (← if ← hasItem id n then some <$> item id n else pure none)
  return out

def merge (le : Val → Val → Run Bool) : Nat → List Val → List Val → List Val → Run (List Val)
  | 0, acc, xs, ys => return acc.reverse ++ xs ++ ys
  | _ + 1, acc, [], ys => return acc.reverse ++ ys
  | _ + 1, acc, xs, [] => return acc.reverse ++ xs
  | fuel + 1, acc, x :: xs, y :: ys => do
    tick
    if ← le x y then merge le fuel (x :: acc) xs (y :: ys) else merge le fuel (y :: acc) (x :: xs) ys

/-- Sorts by merging halves; `depth` bounds the halving. -/
def sortValues (le : Val → Val → Run Bool) : Nat → List Val → Run (List Val)
  | 0, xs => return xs
  | depth + 1, xs =>
    if xs.length ≤ 1 then return xs
    else do
      let (a, b) := xs.splitAt (xs.length / 2)
      merge le xs.length [] (← sortValues le depth a) (← sortValues le depth b)

def sorted (compare : Val) (values : List Val) : Run (List Val) := do
  unless compare.isUndefined || (← isCallable compare) do typeFault "not a function"
  let (last, values) := values.partition Val.isUndefined
  let le (a b : Val) : Run Bool := do
    if compare.isUndefined then return !((← toText b).less (← toText a))
    let x ← toNumber (← call compare .undefined [a, b])
    return !(x > 0.0)
  return (← sortValues le 64 values) ++ last

def flatten : Nat → ObjId → Run (Array Val)
  | depth, id => do
    let length ← lengthOf id
    let mut out := #[]
    for n in [0:length] do
      tick
      if ← hasItem id n then
        let v ← item id n
        match depth, v with
        | d + 1, .obj inner => match (← getObj inner).kind with
          | .array .. => out := out ++ (← flatten d inner)
          | _ => out := out.push v
        | _, _ => out := out.push v
    return out

/-- Where to look up values that may be absent: the start given by an argument. -/
def startPlace (i : Invocation) (n : Nat) (length : Nat) : Run Nat := do
  return Numeral.relative (← toInteger (i.arg n)) length

def stopPlace (i : Invocation) (n : Nat) (length : Nat) : Run Nat := do
  if (i.arg n).isUndefined then return length
  return Numeral.relative (← toInteger (i.arg n)) length

/-- Start, number of removed items and new items of a splice. -/
def spliceParts (i : Invocation) (length : Nat) : Run (Nat × Nat × List Val) := do
  let start ← startPlace i 0 length
  let count ← match i.args with
    | [] => pure 0
    | [_] => pure (length - start)
    | _ => do pure (Numeral.clamp (← toInteger (i.arg 1)) (length - start))
  return (start, count, i.args.drop 2)

def newListIterator (v : Val) (view : ListView) : Eval Val := do
  return .obj (← newOf .listIteratorProto (.listIterator v 0 view))

def pushItems (id : ObjId) (args : List Val) : Run Nat := do
  let length ← lengthOf id
  let o ← getObj id
  let direct := match o.kind with
    | .array items n => items.size == n && o.extensible && (o.slot? lengthName).isNone
    | _ => false
  if direct then
    modifyObj id fun o => match o.kind with
      | .array items _ =>
        let o := { o with kind := .plain }
        let items := args.foldl (fun items v => items.push (some v)) items
        { o with kind := .array items items.size }
      | _ => o
  else
    for (v, k) in args.zipIdx do setItem id (length + k) v
    putLength id (length + args.length)
  return length + args.length

def makeArray (i : Invocation) : Run Val := do
  let proto ← protoFor i.newTarget .arrayProto
  match i.args with
  | [.num x] =>
    match Numeral.index? x with
    | some n => return .obj (← alloc { kind := .array #[] n, proto := some proto })
    | none => fail .rangeError "invalid array length"
  | args =>
    let items := (args.map some).toArray
    return .obj (← alloc { kind := .array items items.size, proto := some proto })

def arrayStatics : Array Method := #[
  { key := "isArray", arity := 1, run := fun i => do
      match i.arg 0 with
      | .obj id => match (← getObj id).kind with
        | .array .. => return .bool true
        | _ => return .bool false
      | _ => return .bool false },
  { key := "of", arity := 0, run := fun i => newArray i.args },
  { key := "from", arity := 1, run := fun i => do
      let f := i.arg 1
      unless f.isUndefined do callback f
      if (i.arg 0).isNullish then typeFault "cannot convert to object"
      let iterates ← getMethodOf (i.arg 0) (.symbol WellKnown.iterator)
      let values ← if iterates.isUndefined then argumentList (.obj (← toObject (i.arg 0))) else collect (i.arg 0)
      if f.isUndefined then newArray values
      else newArray (← values.zipIdx.mapM fun (v, n) => call f (i.arg 2) [v, .ofNat n]) }]

def arrayMethods : Array Method := #[
  { key := "at", arity := 1, run := fun i => do
      let (id, length) ← receiver i
      let x ← toInteger (i.arg 0)
      let x := if x < 0.0 then x + Numeral.ofNat length else x
      if x < 0.0 || x ≥ Numeral.ofNat length then return .undefined
      item id (Numeral.toInt x).toNat },
  { key := "concat", arity := 1, run := fun i => do
      let mut out : Array (Option Val) := #[]
      for v in .obj (← toObject i.this) :: i.args do
        if ← isSpreadable v then
          let id ← toObject v
          out := out ++ (← itemsBetween id 0 (← lengthOf id))
        else out := out.push (some v)
      newArrayOf out },
  { key := "copyWithin", arity := 2, run := fun i => do
      let (id, length) ← receiver i
      let target ← startPlace i 0 length
      let start ← startPlace i 1 length
      let stop ← stopPlace i 2 length
      moveItems id start target (min (stop - start) (length - target))
      return .obj id },
  { key := "entries", arity := 0, run := fun i => do newListIterator (.obj (← toObject i.this)) .entries },
  { key := "every", arity := 1, run := fun i => do
      let (id, length) ← receiver i
      callback (i.arg 0)
      for n in [0:length] do
        tick
        if ← hasItem id n then
          unless toBool (← call (i.arg 0) (i.arg 1) [← item id n, .ofNat n, .obj id]) do return .bool false
      return .bool true },
  { key := "fill", arity := 1, run := fun i => do
      let (id, length) ← receiver i
      let start ← startPlace i 1 length
      let stop ← stopPlace i 2 length
      for n in [start:stop] do
        tick
        setItem id n (i.arg 0)
      return .obj id },
  { key := "filter", arity := 1, run := fun i => do
      let (id, length) ← receiver i
      callback (i.arg 0)
      let mut out := #[]
      for n in [0:length] do
        tick
        if ← hasItem id n then
          let v ← item id n
          if toBool (← call (i.arg 0) (i.arg 1) [v, .ofNat n, .obj id]) then out := out.push (some v)
      newArrayOf out },
  { key := "find", arity := 1, run := fun i => do
      return ((← findPlace i false).map (·.2)).getD .undefined },
  { key := "findIndex", arity := 1, run := fun i => do
      return ((← findPlace i false).map fun p => Val.ofNat p.1).getD (.num (-1.0)) },
  { key := "findLast", arity := 1, run := fun i => do
      return ((← findPlace i true).map (·.2)).getD .undefined },
  { key := "findLastIndex", arity := 1, run := fun i => do
      return ((← findPlace i true).map fun p => Val.ofNat p.1).getD (.num (-1.0)) },
  { key := "flat", arity := 0, run := fun i => do
      let id ← toObject i.this
      let depth ← if (i.arg 0).isUndefined then pure 1.0 else toInteger (i.arg 0)
      newArray (← flatten (Numeral.clamp depth 1000) id).toList },
  { key := "flatMap", arity := 1, run := fun i => do
      let (id, length) ← receiver i
      callback (i.arg 0)
      let mut out : Array (Option Val) := #[]
      for n in [0:length] do
        tick
        if ← hasItem id n then
          let v ← call (i.arg 0) (i.arg 1) [← item id n, .ofNat n, .obj id]
          match v with
          | .obj inner => match (← getObj inner).kind with
            | .array .. =>
              out := out ++ (← itemsBetween inner 0 (← lengthOf inner)).filter (·.isSome)
            | _ => out := out.push (some v)
          | _ => out := out.push (some v)
      newArrayOf out },
  { key := "forEach", arity := 1, run := fun i => do
      let (id, length) ← receiver i
      callback (i.arg 0)
      eachItem id length fun n v => do discard (call (i.arg 0) (i.arg 1) [v, .ofNat n, .obj id])
      return .undefined },
  { key := "includes", arity := 1, run := fun i => do
      let (id, length) ← receiver i
      for n in [← startPlace i 1 length : length] do
        tick
        if sameValueZero (← item id n) (i.arg 0) then return .bool true
      return .bool false },
  { key := "indexOf", arity := 1, run := fun i => do
      let (id, length) ← receiver i
      for n in [← startPlace i 1 length : length] do
        tick
        if ← hasItem id n then
          if strictEquals (← item id n) (i.arg 0) then return .ofNat n
      return .num (-1.0) },
  { key := "join", arity := 1, run := fun i => do
      let (id, length) ← receiver i
      let separator ← if (i.arg 0).isUndefined then pure (CodeUnits.ofString ",") else toText (i.arg 0)
      joinItems id length separator },
  { key := "keys", arity := 0, run := fun i => do newListIterator (.obj (← toObject i.this)) .keys },
  { key := "lastIndexOf", arity := 1, run := fun i => do
      let (id, length) ← receiver i
      let start ← match i.args with
        | _ :: v :: _ => do
          let x ← toInteger v
          let x := if x < 0.0 then x + Numeral.ofNat length else x
          pure (if x < 0.0 then 0 else min length ((Numeral.toInt x).toNat + 1))
        | _ => pure length
      for k in [0:start] do
        tick
        let n := placeFrom true start k
        if ← hasItem id n then
          if strictEquals (← item id n) (i.arg 0) then return .ofNat n
      return .num (-1.0) },
  { key := "map", arity := 1, run := fun i => do
      let (id, length) ← receiver i
      callback (i.arg 0)
      let mut out := #[]
      for n in [0:length] do
        tick
        if ← hasItem id n then
          out := out.push (some (← call (i.arg 0) (i.arg 1) [← item id n, .ofNat n, .obj id]))
        else out := out.push none
      newArrayOf out },
  { key := "pop", arity := 0, run := fun i => do
      let (id, length) ← receiver i
      match length with
      | 0 =>
        putLength id 0
        return .undefined
      | n + 1 =>
        let v ← item id n
        removeItem id n
        putLength id n
        return v },
  { key := "push", arity := 1, run := fun i => do
      return .ofNat (← pushItems (← toObject i.this) i.args) },
  { key := "reduce", arity := 1, run := fun i => fold i false },
  { key := "reduceRight", arity := 1, run := fun i => fold i true },
  { key := "reverse", arity := 0, run := fun i => do
      let (id, length) ← receiver i
      let items ← itemsBetween id 0 length
      for (v, n) in items.toList.reverse.zipIdx do
        match v with
        | some v => setItem id n v
        | none => removeItem id n
      return .obj id },
  { key := "shift", arity := 0, run := fun i => do
      let (id, length) ← receiver i
      match length with
      | 0 =>
        putLength id 0
        return .undefined
      | n + 1 =>
        let v ← item id 0
        moveItems id 1 0 n
        removeItem id n
        putLength id n
        return v },
  { key := "slice", arity := 2, run := fun i => do
      let (id, length) ← receiver i
      let start ← startPlace i 0 length
      let stop ← stopPlace i 1 length
      newArrayOf (← itemsBetween id start stop) },
  { key := "some", arity := 1, run := fun i => do
      let (id, length) ← receiver i
      callback (i.arg 0)
      for n in [0:length] do
        tick
        if ← hasItem id n then
          if toBool (← call (i.arg 0) (i.arg 1) [← item id n, .ofNat n, .obj id]) then return .bool true
      return .bool false },
  { key := "sort", arity := 1, run := fun i => do
      unless (i.arg 0).isUndefined || (← isCallable (i.arg 0)) do typeFault "not a function"
      let (id, length) ← receiver i
      let filled := (← itemsBetween id 0 length).toList.filterMap fun v => v
      let values ← sorted (i.arg 0) filled
      for (v, n) in values.zipIdx do setItem id n v
      for n in [values.length : length] do
        if ← hasItem id n then removeItem id n
      return .obj id },
  { key := "splice", arity := 2, run := fun i => do
      let (id, length) ← receiver i
      let (start, count, items) ← spliceParts i length
      let removed ← itemsBetween id start (start + count)
      moveItems id (start + count) (start + items.length) (length - start - count)
      for n in [length - count + items.length : length] do removeItem id n
      for (v, k) in items.zipIdx do setItem id (start + k) v
      putLength id (length - count + items.length)
      newArrayOf removed },
  { key := "toLocaleString", arity := 0, run := fun i => do
      let (id, length) ← receiver i
      joinItems id length "," },
  { key := "toReversed", arity := 0, run := fun i => do
      let (id, length) ← receiver i
      newArray (← (List.range length).reverse.mapM fun n => item id n) },
  { key := "toSorted", arity := 1, run := fun i => do
      let (id, length) ← receiver i
      newArray (← sorted (i.arg 0) (← (List.range length).mapM fun n => item id n)) },
  { key := "toSpliced", arity := 2, run := fun i => do
      let (id, length) ← receiver i
      let (start, count, items) ← spliceParts i length
      let values ← (List.range length).mapM fun n => item id n
      newArray (values.take start ++ items ++ values.drop (start + count)) },
  { key := "toString", arity := 0, run := fun i => do
      let id ← toObject i.this
      let f ← getProp id "join"
      if ← isCallable f then call f (.obj id) [] else return "[object Object]" },
  { key := "unshift", arity := 1, run := fun i => do
      let (id, length) ← receiver i
      let count := i.args.length
      if count > 0 then
        moveItems id 0 count length
        for (v, k) in i.args.zipIdx do setItem id k v
      putLength id (length + count)
      return .ofNat (length + count) },
  { key := "values", arity := 0, run := fun i => do newListIterator (.obj (← toObject i.this)) .values },
  { key := .symbol WellKnown.iterator, arity := 0, run := fun i => do
      newListIterator (.obj (← toObject i.this)) .values },
  { key := "with", arity := 2, run := fun i => do
      let (id, length) ← receiver i
      let x ← toInteger (i.arg 0)
      let x := if x < 0.0 then x + Numeral.ofNat length else x
      if x < 0.0 || x ≥ Numeral.ofNat length then fail .rangeError "invalid index"
      let values ← (List.range length).mapM fun n => item id n
      newArray (values.set (Numeral.toInt x).toNat (i.arg 1)) }]

end DomFlow.Sandbox.Builtin
