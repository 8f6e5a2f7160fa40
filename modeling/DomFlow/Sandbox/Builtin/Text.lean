import DomFlow.Sandbox.Builtin.RegExp

/-! # Functions on text -/

namespace DomFlow.Sandbox.Builtin

open Text (CodeUnits)

def thisText (i : Invocation) : Run CodeUnits := do
  if i.this.isNullish then typeFault "called on null or undefined"
  toText i.this

def textBound : Nat := 268435456

def symbolText (id : SymbolId) : Eval CodeUnits := do
  let description := ((← get).symbols[id]?.join).getD CodeUnits.empty
  return "Symbol(" ++ description ++ ")"

def makeText (i : Invocation) : Run Val := do
  let text ← match i.args with
    | [] => pure CodeUnits.empty
    | .symbol id :: _ => if i.newTarget.isUndefined then symbolText id else toText (.symbol id)
    | v :: _ => toText v
  if i.newTarget.isUndefined then return .str text
  return .obj (← alloc { kind := .boxed (.str text), proto := some (← protoFor i.newTarget .stringProto) })

def textStatics : Array Method := #[
  { key := "fromCharCode", arity := 1, run := fun i => do
      let mut units := #[]
      for v in i.args do units := units.push (Numeral.toUint32 (← toNumber v)).toUInt16
      return .str ⟨units⟩ },
  { key := "fromCodePoint", arity := 1, run := fun i => do
      let mut units := #[]
      for v in i.args do
        let x ← toNumber v
        if x.floor != x || x < 0.0 || x > 1114111.0 then fail .rangeError "invalid code point"
        units := CodeUnits.pushCodePoint units (Numeral.toInt x).toNat
      return .str ⟨units⟩ },
  { key := "raw", arity := 1, run := fun i => do
      let raw ← toObject (← getOf (.obj (← toObject (i.arg 0))) "raw")
      let length ← lengthOf raw
      let mut out := CodeUnits.empty
      for n in [0:length] do
        tick
        out := out ++ (← toText (← item raw n))
        if n + 1 < length && n + 1 < i.args.length then out := out ++ (← toText (i.arg (n + 1)))
      return .str out }]

def plainPattern (v : Val) : Run CodeUnits := do
  if (← regexpOf? v).isSome then typeFault "a regular expression is not allowed here"
  toText v

/-- Pieces of a text between occurrences of a separator that is not empty; `fuel` bounds them. -/
def splitText (text separator : CodeUnits) : Nat → Nat → List Val
  | 0, _ => []
  | fuel + 1, p =>
    match text.indexOf? separator p with
    | some q => .str (text.slice p q) :: splitText text separator fuel (q + separator.size)
    | none => [.str (text.slice p text.size)]

/-- Places where a text occurs, without overlap; `fuel` bounds them. -/
def occurrences (text pattern : CodeUnits) : Nat → Nat → List Nat
  | 0, _ => []
  | fuel + 1, p =>
    match text.indexOf? pattern p with
    | some q => q :: occurrences text pattern fuel (q + max pattern.size 1)
    | none => []

def padding (i : Invocation) (text : CodeUnits) : Run CodeUnits := do
  let target ← toLength (i.arg 0)
  if target ≤ text.size then return CodeUnits.empty
  let filler ← if (i.arg 1).isUndefined then pure (CodeUnits.ofString " ") else toText (i.arg 1)
  if filler.isEmpty then return CodeUnits.empty
  if target > textBound then fail .rangeError "invalid string length"
  let missing := target - text.size
  return (filler.repeatTimes (missing / filler.size + 1)).slice 0 missing

/-- Replaces occurrences of a text, or matches of an expression. -/
def replaceIn (i : Invocation) (every : Bool) : Run Val := do
  if i.this.isNullish then typeFault "called on null or undefined"
  match ← regexpOf? (i.arg 0) with
  | some (id, r) =>
    if every && !hasFlag r 'g' then typeFault "replaceAll must be called with a global expression"
    replaceMatches id r (← toText i.this) (i.arg 1)
  | none =>
    let text ← toText i.this
    let pattern ← toText (i.arg 0)
    let substitute ← if ← isCallable (i.arg 1) then pure (i.arg 1) else do pure (.str (← toText (i.arg 1)))
    let places := if every then occurrences text pattern (text.size + 2) 0 else (text.indexOf? pattern 0).toList
    let ms := places.map fun p : Nat =>
      ({ text, start := p, stop := p + pattern.size, captures := [], groups := .undefined } : Replaced)
    return .str (← replaceRanges text substitute ms)

/-- The expression that a value stands for when it is to be matched. -/
def asRegExp (v : Val) (flags : CodeUnits) : Run (ObjId × RegExp) := do
  match ← regexpOf? v with
  | some p => return p
  | none =>
    let source ← if v.isUndefined then pure (CodeUnits.ofString "(?:)") else toText v
    match ← regexpOf? (← newRegExp source flags Intrinsic.regexpProto.id) with
    | some p => return p
    | none => typeFault "not a regular expression"

/-- The place that an argument gives, clamped to a text. -/
def placeArg (i : Invocation) (n : Nat) (text : CodeUnits) : Run Nat := do
  return Numeral.clamp (← toInteger (i.arg n)) text.size

def textMethods : Array Method := #[
  { key := "at", arity := 1, run := fun i => do
      let s ← thisText i
      let x ← toInteger (i.arg 0)
      let x := if x < 0.0 then x + Numeral.ofNat s.size else x
      if x < 0.0 then return .undefined
      return ((s.at? (Numeral.toInt x).toNat).map Val.str).getD .undefined },
  { key := "charAt", arity := 1, run := fun i => do
      let s ← thisText i
      let x ← toInteger (i.arg 0)
      if x < 0.0 || x ≥ Numeral.ofNat s.size then return ""
      return .str ((s.at? (Numeral.toInt x).toNat).getD CodeUnits.empty) },
  { key := "charCodeAt", arity := 1, run := fun i => do
      let s ← thisText i
      let x ← toInteger (i.arg 0)
      if x < 0.0 || x ≥ Numeral.ofNat s.size then return .num Numeral.nan
      return .ofNat ((s.unit? (Numeral.toInt x).toNat).getD 0).toNat },
  { key := "codePointAt", arity := 1, run := fun i => do
      let s ← thisText i
      let x ← toInteger (i.arg 0)
      if x < 0.0 || x ≥ Numeral.ofNat s.size then return .undefined
      return ((s.codePointAt? (Numeral.toInt x).toNat).map fun p => Val.ofNat p.1).getD .undefined },
  { key := "concat", arity := 1, run := fun i => do
      let mut s ← thisText i
      for v in i.args do s := s ++ (← toText v)
      return .str s },
  { key := "endsWith", arity := 1, run := fun i => do
      let s ← thisText i
      let p ← plainPattern (i.arg 0)
      let stop ← if (i.arg 1).isUndefined then pure s.size else placeArg i 1 s
      return .bool (p.size ≤ stop && s.hasAt p (stop - p.size)) },
  { key := "includes", arity := 1, run := fun i => do
      let s ← thisText i
      let p ← plainPattern (i.arg 0)
      return .bool (s.indexOf? p (← placeArg i 1 s)).isSome },
  { key := "indexOf", arity := 1, run := fun i => do
      let s ← thisText i
      let p ← toText (i.arg 0)
      return ((s.indexOf? p (← placeArg i 1 s)).map Val.ofNat).getD (.num (-1.0)) },
  { key := "lastIndexOf", arity := 1, run := fun i => do
      let s ← thisText i
      let p ← toText (i.arg 0)
      let x ← toNumber (i.arg 1)
      let start := if x.isNaN then s.size else Numeral.clamp (Numeral.truncate x) s.size
      return ((s.lastIndexOf? p start).map Val.ofNat).getD (.num (-1.0)) },
  { key := "localeCompare", arity := 1, run := fun i => do
      let s ← thisText i
      let t ← toText (i.arg 0)
      return .num (if s.less t then -1.0 else if t.less s then 1.0 else 0.0) },
  { key := "match", arity := 1, run := fun i => do
      let s ← thisText i
      let (id, r) ← asRegExp (i.arg 0) CodeUnits.empty
      if hasFlag r 'g' then
        put id "lastIndex" (.ofNat 0)
        let ms := allMatches r s
        if ms.isEmpty then return .null
        newArray (ms.map fun m => captured s (m[0]?.join))
      else match ← matchOnce id r s with
        | some m => matchArray r s m
        | none => return .null },
  { key := "matchAll", arity := 1, run := fun i => do
      let s ← thisText i
      let (_, r) ← asRegExp (i.arg 0) "g"
      unless hasFlag r 'g' do typeFault "matchAll must be called with a global expression"
      let arrays ← (allMatches r s).mapM fun m => matchArray r s m
      newListIterator (← newArray arrays) .values },
  { key := "normalize", arity := 0, run := fun i => return .str (← thisText i) },
  { key := "padEnd", arity := 2, run := fun i => do
      let s ← thisText i
      return .str (s ++ (← padding i s)) },
  { key := "padStart", arity := 2, run := fun i => do
      let s ← thisText i
      return .str ((← padding i s) ++ s) },
  { key := "repeat", arity := 1, run := fun i => do
      let s ← thisText i
      let x ← toInteger (i.arg 0)
      if x < 0.0 || x.isInf then fail .rangeError "invalid count value"
      let n := (Numeral.toInt x).toNat
      if n * s.size > textBound then fail .rangeError "invalid string length"
      if s.isEmpty then return ""
      return .str (s.repeatTimes n) },
  { key := "replace", arity := 2, run := fun i => replaceIn i false },
  { key := "replaceAll", arity := 2, run := fun i => replaceIn i true },
  { key := "search", arity := 1, run := fun i => do
      let s ← thisText i
      let (_, r) ← asRegExp (i.arg 0) CodeUnits.empty
      match r.search s 0 (hasFlag r 'y') with
      | some m => return .ofNat (((m[0]?.join).map (·.1)).getD 0)
      | none => return .num (-1.0) },
  { key := "slice", arity := 2, run := fun i => do
      let s ← thisText i
      let start ← startPlace i 0 s.size
      let stop ← stopPlace i 1 s.size
      return .str (s.slice start stop) },
  { key := "split", arity := 2, run := fun i => do
      if i.this.isNullish then typeFault "called on null or undefined"
      let found ← regexpOf? (i.arg 0)
      let s ← toText i.this
      let limit ← if (i.arg 1).isUndefined then pure 4294967295 else do pure (Numeral.toUint32 (← toNumber (i.arg 1)))
      let parts ← match found with
        | some (_, r) => pure (splitMatches r s)
        | none =>
          if (i.arg 0).isUndefined then pure [.str s]
          else do
            let separator ← toText (i.arg 0)
            if separator.isEmpty then pure (s.data.toList.map fun u => Val.str ⟨#[u]⟩)
            else pure (splitText s separator (s.size + 2) 0)
      newArray (parts.take limit) },
  { key := "startsWith", arity := 1, run := fun i => do
      let s ← thisText i
      let p ← plainPattern (i.arg 0)
      return .bool (s.hasAt p (← placeArg i 1 s)) },
  { key := "substring", arity := 2, run := fun i => do
      let s ← thisText i
      let a ← placeArg i 0 s
      let b ← if (i.arg 1).isUndefined then pure s.size else placeArg i 1 s
      return .str (s.slice (min a b) (max a b)) },
  { key := "toLowerCase", arity := 0, run := fun i => return .str (← thisText i).lower },
  { key := "toLocaleLowerCase", arity := 0, run := fun i => return .str (← thisText i).lower },
  { key := "toUpperCase", arity := 0, run := fun i => return .str (← thisText i).upper },
  { key := "toLocaleUpperCase", arity := 0, run := fun i => return .str (← thisText i).upper },
  { key := "toString", arity := 0, run := fun i => do
      match i.this with
      | .str s => return .str s
      | .obj id => match (← getObj id).kind with
        | .boxed (.str s) => return .str s
        | _ => typeFault "not a string"
      | _ => typeFault "not a string" },
  { key := "trim", arity := 0, run := fun i => return .str (← thisText i).trim },
  { key := "trimEnd", arity := 0, run := fun i => return .str (← thisText i).trimEnd },
  { key := "trimStart", arity := 0, run := fun i => return .str (← thisText i).trimStart },
  { key := "valueOf", arity := 0, run := fun i => do
      match i.this with
      | .str s => return .str s
      | .obj id => match (← getObj id).kind with
        | .boxed (.str s) => return .str s
        | _ => typeFault "not a string"
      | _ => typeFault "not a string" },
  { key := .symbol WellKnown.iterator, arity := 0, run := fun i => do
      return .obj (← newOf .textIteratorProto (.textIterator (← thisText i) 0)) }]

end DomFlow.Sandbox.Builtin
