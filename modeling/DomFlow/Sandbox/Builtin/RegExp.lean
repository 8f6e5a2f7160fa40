import DomFlow.Sandbox.Builtin.Array

/-! # Functions on regular expressions

Matching with the state that an expression keeps between matches, and the replacement of matches. -/

namespace DomFlow.Sandbox.Builtin

open Text (CodeUnits)

abbrev Captures := Array (Option (Nat × Nat))

def newRegExp (source flags : CodeUnits) (proto : ObjId) : Eval Val := do
  match RegExp.compile? source flags with
  | some r =>
    let lastIndex : Slot := { content := .value (.ofNat 0), enumerable := false, configurable := false }
    return .obj (← alloc (Obj.ofSlots (.regexp r) (some proto) [("lastIndex", lastIndex)]))
  | none => fail .syntaxError "invalid regular expression"

/-- The expression that a value is, if it is one. -/
def regexpOf? (v : Val) : Eval (Option (ObjId × RegExp)) := do
  match v with
  | .obj id => match (← getObj id).kind with
    | .regexp r => return some (id, r)
    | _ => return none
  | _ => return none

def thisRegExp (i : Invocation) : Eval (ObjId × RegExp) := do
  match ← regexpOf? i.this with
  | some p => return p
  | none => typeFault "not a regular expression"

def hasFlag (r : RegExp) (c : Char) : Bool := r.flags.data.contains c.toNat.toUInt16

/-- Matches once, from where a global or sticky expression left off. -/
def matchOnce (id : ObjId) (r : RegExp) (text : CodeUnits) : Run (Option Captures) := do
  let keeps := hasFlag r 'g' || hasFlag r 'y'
  let start ← toLength (← getProp id "lastIndex")
  let found := r.search text (if keeps then start else 0) (hasFlag r 'y')
  if keeps then
    match found with
    | some m => put id "lastIndex" (.ofNat (((m[0]?.join).map (·.2)).getD 0))
    | none => put id "lastIndex" (.ofNat 0)
  return found

/-- Matches from a place on, one after another; an empty match moves on by one; `fuel` bounds them. -/
def matchesFrom (r : RegExp) (text : CodeUnits) : Nat → Nat → List Captures
  | 0, _ => []
  | fuel + 1, place =>
    match r.search text place (hasFlag r 'y') with
    | none => []
    | some m =>
      let (start, stop) := (m[0]?.join).getD (place, place)
      let next := if stop == start then
          stop + (if r.unicode then ((text.codePointAt? stop).map (·.2)).getD 1 else 1)
        else stop
      m :: matchesFrom r text fuel next

def allMatches (r : RegExp) (text : CodeUnits) : List Captures := matchesFrom r text (text.size + 2) 0

def captured (text : CodeUnits) (range : Option (Nat × Nat)) : Val :=
  match range with
  | some (a, b) => .str (text.slice a b)
  | none => .undefined

def namedGroups (r : RegExp) (text : CodeUnits) (m : Captures) : Eval Val := do
  if r.names.isEmpty then return .undefined
  let id ← alloc {}
  for (name, n) in r.names do createOrFail id name (captured text (m[n]?.join))
  return .obj id

/-- A match as an array with the place and the text. -/
def matchArray (r : RegExp) (text : CodeUnits) (m : Captures) : Eval Val := do
  let a ← newArray (m.toList.map (captured text))
  match a with
  | .obj id =>
    createOrFail id "index" (.ofNat (((m[0]?.join).map (·.1)).getD 0))
    createOrFail id "input" (.str text)
    createOrFail id "groups" (← namedGroups r text m)
  | _ => pure ()
  return a

structure Replaced where
  text : CodeUnits
  start : Nat
  stop : Nat
  captures : List Val
  groups : Val

private def isDigitUnit (u : UInt16) : Bool := 48 ≤ u && u ≤ 57

/-- Writes out a replacement text, in which a dollar sign refers to parts of the match. -/
def expand (m : Replaced) : Nat → List UInt16 → Array UInt16 → Run CodeUnits
  | 0, _, acc => return ⟨acc⟩
  | _ + 1, [], acc => return ⟨acc⟩
  | fuel + 1, 36 :: c :: r, acc => do
    if c == 36 then expand m fuel r (acc.push 36)
    else if c == 38 then expand m fuel r (acc ++ (m.text.slice m.start m.stop).data)
    else if c == 96 then expand m fuel r (acc ++ (m.text.slice 0 m.start).data)
    else if c == 39 then expand m fuel r (acc ++ (m.text.slice m.stop m.text.size).data)
    else if isDigitUnit c then
      let one := c.toNat - 48
      let two := match r with
        | d :: _ => if isDigitUnit d then some (one * 10 + (d.toNat - 48)) else none
        | [] => none
      let known (n : Nat) : Bool := 1 ≤ n && n ≤ m.captures.length
      let textOf (n : Nat) : Run CodeUnits := match m.captures[n - 1]? with
        | some .undefined | none => return CodeUnits.empty
        | some v => toText v
      match two with
      | some n =>
        if known n then expand m fuel (r.drop 1) (acc ++ (← textOf n).data)
        else if known one then expand m fuel r (acc ++ (← textOf one).data)
        else expand m fuel (c :: r) (acc.push 36)
      | none =>
        if known one then expand m fuel r (acc ++ (← textOf one).data)
        else expand m fuel (c :: r) (acc.push 36)
    else if c == 60 && !m.groups.isUndefined && r.contains 62 then
      let name : CodeUnits := ⟨(r.takeWhile (· != 62)).toArray⟩
      let v ← getOf m.groups name
      let t ← if v.isUndefined then pure CodeUnits.empty else toText v
      expand m fuel (r.drop (name.size + 1)) (acc ++ t.data)
    else expand m fuel (c :: r) (acc.push 36)
  | fuel + 1, c :: r, acc => expand m fuel r (acc.push c)

def replacement (substitute : Val) (m : Replaced) : Run CodeUnits := do
  if ← isCallable substitute then
    let groups := if m.groups.isUndefined then [] else [m.groups]
    toText (← call substitute .undefined
      ([.str (m.text.slice m.start m.stop)] ++ m.captures ++ [.ofNat m.start, .str m.text] ++ groups))
  else
    let template ← toText substitute
    expand m (template.size + 1) template.data.toList #[]

def replaceRanges (text : CodeUnits) (substitute : Val) (ms : List Replaced) : Run CodeUnits := do
  let mut out := CodeUnits.empty
  let mut place := 0
  for m in ms do
    tick
    let t ← replacement substitute m
    if m.start ≥ place then
      out := out ++ text.slice place m.start ++ t
      place := m.stop
  return out ++ text.slice place text.size

def replacedOf (r : RegExp) (text : CodeUnits) (m : Captures) : Eval Replaced := do
  let (start, stop) := (m[0]?.join).getD (0, 0)
  return { text, start, stop, captures := (m.toList.drop 1).map (captured text),
           groups := ← namedGroups r text m }

def replaceMatches (id : ObjId) (r : RegExp) (text : CodeUnits) (substitute : Val) : Run Val := do
  let ms ← if hasFlag r 'g' then do
      put id "lastIndex" (.ofNat 0)
      pure (allMatches r text)
    else pure (← matchOnce id r text).toList
  return .str (← replaceRanges text substitute (← ms.mapM fun m => replacedOf r text m))

/-- The pieces of a text between matches; `fuel` bounds the places. -/
def splitFrom (r : RegExp) (text : CodeUnits) : Nat → Nat → Nat → List Val
  | 0, p, _ => [.str (text.slice p text.size)]
  | fuel + 1, p, q =>
    if q ≥ text.size then [.str (text.slice p text.size)]
    else match RegExp.matchAt r text q with
      | none => splitFrom r text fuel p (q + 1)
      | some m =>
        let stop := ((m[0]?.join).map (·.2)).getD q
        if stop == p then splitFrom r text fuel p (q + 1)
        else .str (text.slice p q) :: (m.toList.drop 1).map (captured text) ++ splitFrom r text fuel stop stop

def splitMatches (r : RegExp) (text : CodeUnits) : List Val :=
  if text.isEmpty then
    if (RegExp.matchAt r text 0).isSome then [] else [.str text]
  else splitFrom r text (2 * text.size + 2) 0 0

def makeRegExp (i : Invocation) : Run Val := do
  let proto ← protoFor i.newTarget .regexpProto
  match ← regexpOf? (i.arg 0) with
  | some (_, r) =>
    if i.newTarget.isUndefined && (i.arg 1).isUndefined then return i.arg 0
    let flags ← if (i.arg 1).isUndefined then pure r.flags else toText (i.arg 1)
    newRegExp r.source flags proto
  | none =>
    let source ← if (i.arg 0).isUndefined then pure (CodeUnits.ofString "(?:)") else toText (i.arg 0)
    let flags ← if (i.arg 1).isUndefined then pure CodeUnits.empty else toText (i.arg 1)
    newRegExp (if source.isEmpty then "(?:)" else source) flags proto

private def flagGetter (name : String) (c : Char) : Method :=
  { key := name, arity := 0, place := .getter, run := fun i => do
      let (_, r) ← thisRegExp i
      return .bool (hasFlag r c) }

def regexpMethods : Array Method := #[
  { key := "exec", arity := 1, run := fun i => do
      let (id, r) ← thisRegExp i
      let text ← toText (i.arg 0)
      match ← matchOnce id r text with
      | some m => matchArray r text m
      | none => return .null },
  { key := "test", arity := 1, run := fun i => do
      let (id, r) ← thisRegExp i
      return .bool (← matchOnce id r (← toText (i.arg 0))).isSome },
  { key := "toString", arity := 0, run := fun i => do
      let source ← toText (← getOf i.this "source")
      return .str ("/" ++ source ++ "/" ++ (← toText (← getOf i.this "flags"))) },
  { key := "source", arity := 0, place := .getter, run := fun i => do
      let (_, r) ← thisRegExp i
      return .str r.source },
  { key := "flags", arity := 0, place := .getter, run := fun i => do
      let (_, r) ← thisRegExp i
      return .str (String.ofList ("dgimsuvy".toList.filter (hasFlag r))) },
  flagGetter "hasIndices" 'd', flagGetter "global" 'g', flagGetter "ignoreCase" 'i',
  flagGetter "multiline" 'm', flagGetter "dotAll" 's', flagGetter "unicode" 'u', flagGetter "sticky" 'y']

end DomFlow.Sandbox.Builtin
