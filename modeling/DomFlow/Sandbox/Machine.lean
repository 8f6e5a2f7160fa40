import DomFlow.Sandbox.Builtin.Collection
import DomFlow.Sandbox.Builtin.RegExp
import DomFlow.Sandbox.Closure

/-! # The machine

A configuration is the activation that runs and those of its callers. One step takes the top frame of the
running activation's control: an instruction of code, or what is to be done after code. A value that is
thrown leaves frames, and then activations, until a handler takes it.

What leaves a run is its outcome: a run ends, or it stops where a generator yields or an asynchronous
function awaits. -/

namespace DomFlow.Sandbox

open Text (CodeUnits)

inductive Outcome where
  | returned (v : Val)
  | threw (v : Val)
  | yielded (v : Val) (a : Activation)
  | awaiting (a : Activation)
  /-- A generator whose parameters are bound. -/
  | started (a : Activation)
deriving Inhabited

inductive Progress where
  | go (a : Activation) (callers : List Activation)
  | stop (o : Outcome)
deriving Inhabited

def attempt {α : Type} (x : Run α) : Run (Except Val α) :=
  catching (do return .ok (← x)) fun v => return .error v

def Activation.push (a : Activation) (v : Val) : Activation := { a with operands := v :: a.operands }

def Activation.map1 (a : Activation) (f : Val → Run Val) : Run Activation := do
  match a.operands with
  | x :: r => return { a with operands := (← f x) :: r }
  | [] => return a

def Activation.map2 (a : Activation) (f : Val → Val → Run Val) : Run Activation := do
  match a.operands with
  | y :: x :: r => return { a with operands := (← f x y) :: r }
  | _ => return a

def Activation.map3 (a : Activation) (f : Val → Val → Val → Run Val) : Run Activation := do
  match a.operands with
  | z :: y :: x :: r => return { a with operands := (← f x y z) :: r }
  | _ => return a

/-- The slot of an object under a name that only a class can see. -/
def hiddenSlot (o n : Val) : Eval (ObjId × PropKey × Slot) := do
  match o, n with
  | .obj id, .symbol s => match ← getOwn id (.hidden s) with
    | some slot => return (id, .hidden s, slot)
    | none => typeFault "object has no such private member"
  | _, _ => typeFault "object has no such private member"

def getHidden (o n : Val) : Run Val := do
  let (_, _, slot) ← hiddenSlot o n
  match slot.content with
  | .value v => return v
  | .accessor g _ => if g.isUndefined then typeFault "private member has no getter" else call g o []

def setHidden (o n v : Val) : Run Unit := do
  let (id, k, slot) ← hiddenSlot o n
  match slot.content with
  | .value _ =>
    unless slot.writable do typeFault "private method cannot be assigned"
    modifyObj id fun o => o.withSlot k { slot with content := .value v }
  | .accessor _ s => if s.isUndefined then typeFault "private member has no setter" else discard (call s o [v])

/-- The parent of the object that the running method belongs to. -/
def superOf (scope : ScopeRef) : Eval (Option ObjId) := do
  match ← callOf scope with
  | some (_, c) => match ← closureOf? c.func with
    | some { home := some home, .. } => return (← getObj home).proto
    | _ => return none
  | none => return none

def getSuper (scope : ScopeRef) (k : Val) : Run Val := do
  let this ← thisOf scope
  match ← superOf scope with
  | some p => getPropFor p (← toKey k) this
  | none => typeFault "cannot read a property of undefined or null"

def setSuper (strict : Bool) (scope : ScopeRef) (k v : Val) : Run Unit := do
  let this ← thisOf scope
  match ← superOf scope with
  | some p =>
    let done ← setProp p (← toKey k) v this
    if !done && strict then typeFault "cannot set property"
  | none => typeFault "cannot set a property of undefined or null"

/-- Calls the parent class, which makes `this`, and fills the fields of the class. -/
def callSuper (scope : ScopeRef) (args : List Val) : Run Val := do
  match ← callOf scope with
  | none => fail .syntaxError "super outside of a constructor"
  | some (s, c) =>
    let parent := Builtin.protoValue (← getObj c.func).proto
    let v ← construct parent args c.newTarget
    match ((← get).scope s).call with
    | some { this := some _, .. } => fail .referenceError "super constructor was called twice"
    | _ => pure ()
    modifyScope s fun sc => { sc with call := sc.call.map fun c => { c with this := some v } }
    match v, ← closureOf? c.func with
    | .obj id, some f => fillFields id f.fields
    | _, _ => pure ()
    return v

/-- The keys that a loop over an object visits: its own, then those of its prototypes. -/
def Machine.loopKeys (m : Machine) (id : ObjId) : List CodeUnits :=
  let holders := id :: m.protoChain (m.heap.size + 1) id
  let entries := holders.flatMap fun h => (m.ownKeys h).filterMap fun k => match k with
    | .str t => some (t, (m.own? h k).any (·.enumerable))
    | _ => none
  let seen := entries.foldl (fun (seen : Std.HashMap CodeUnits Unit × List CodeUnits) (t, visible) =>
    if seen.1.contains t then seen else (seen.1.insert t (), if visible then t :: seen.2 else seen.2)) ({}, [])
  seen.2.reverse

/-- The array of texts that a tag is called with. -/
def templateObject (cooked : List (Option CodeUnits)) (raw : List CodeUnits) : Eval Val := do
  let texts ← newArray (cooked.map fun t => (t.map Val.str).getD .undefined)
  let sources ← newArray (raw.map Val.str)
  match texts, sources with
  | .obj t, .obj r =>
    Builtin.fixObject r true
    writeSlot t "raw" (.quiet sources)
    Builtin.fixObject t true
  | _, _ => pure ()
  return texts

/-- The fields of a value that a pattern has left. -/
def restOf (v seen : Val) (keys : List Name) : Run Val := do
  let computed ← (← argumentList seen).mapM toKey
  let id ← newPlain
  Builtin.copyFields v (keys.map PropKey.str ++ computed) fun k w => createOrFail id k w
  return .obj id

/-- Brings what lies below `n` others to the top. -/
def liftOperand (n : Nat) (ops : List Val) : List Val :=
  (ops[n]?).toList ++ ops.take n ++ ops.drop (n + 1)

/-- Puts the top below `n` others. -/
def lowerOperand (n : Nat) : List Val → List Val
  | [] => []
  | v :: r => r.take n ++ v :: r.drop n

def nameStep (s : Simple) (a : Activation) : Run Activation := do
  match s with
  | .getName n => return a.push (← getName n a.scope)
  | .peekName n => return a.push (((← lookupName n a.scope).map (·.1)).getD .undefined)
  | .getCallee n => match ← lookupName n a.scope with
    | some (f, this) => return (a.push this).push f
    | none => unboundName n
  | .setName n => a.map1 fun v => do
    setName a.strict n v a.scope
    return v
  | .initName n => match a.operands with
    | v :: r =>
      initBinding a.scope n v
      return { a with operands := r }
    | [] => return a
  | .deleteName n => return a.push (.bool (← deleteName n a.scope))
  | .thisRef => return a.push (← thisOf a.scope)
  | .newTarget => return a.push (((← callOf a.scope).map (·.2.newTarget)).getD .undefined)
  | .argument i => return a.push (a.args[i]?.getD .undefined)
  | .restArguments i => return a.push (← newArray (a.args.toList.drop i))
  | _ => return a

def memberStep (s : Simple) (a : Activation) : Run Activation := do
  match s with
  | .getMember => a.map2 fun o k => do
    if o.isNullish then typeFault "cannot read a property of undefined or null"
    getOf o (← toKey k)
  | .getField k => a.map1 fun o => getOf o k
  | .getMethod => match a.operands with
    | k :: o :: r =>
      if o.isNullish then typeFault "cannot read a property of undefined or null"
      return { a with operands := (← getOf o (← toKey k)) :: o :: r }
    | _ => return a
  | .getMethodNamed k => match a.operands with
    | o :: _ => return a.push (← getOf o k)
    | [] => return a
  | .setMember => a.map3 fun o k v => do
    if o.isNullish then typeFault "cannot set a property of undefined or null"
    putOf a.strict o (← toKey k) v
    return v
  | .setField k => a.map2 fun o v => do
    putOf a.strict o k v
    return v
  | .toKey => a.map1 fun v => do return (← toKey v).value
  | .deleteMember => a.map2 fun o k => do
    let id ← toObject o
    let done ← remove id (← toKey k)
    if !done && a.strict then typeFault "cannot delete property"
    return .bool done
  | .superGet => a.map1 (getSuper a.scope)
  | .superSet => a.map2 fun k v => do
    setSuper a.strict a.scope k v
    return v
  | .getHidden => a.map2 getHidden
  | .setHidden => a.map3 fun o n v => do
    setHidden o n v
    return v
  | .hasHidden => a.map2 fun n o => do
    match n, o with
    | .symbol s, .obj id => return .bool (← getOwn id (.hidden s)).isSome
    | _, _ => typeFault "not an object"
  | .makeHidden n => do
    let id ← modifyGet fun m => (m.symbols.size, { m with symbols := m.symbols.push (some n) })
    initBinding a.scope n (.symbol id)
    return a
  | _ => return a

def literalStep (s : Simple) (a : Activation) : Run Activation := do
  match s with
  | .newArray => return a.push (← newArray [])
  | .appendItem => a.map2 fun list v => do
    match list with
    | .obj id => discard (Builtin.pushItems id [v])
    | _ => pure ()
    return list
  | .appendHole => a.map1 fun list => do
    match list with
    | .obj id => modifyObj id fun o => match o.kind with
      | .array items _ => { o with kind := .array (items.push none) (items.size + 1) }
      | _ => o
    | _ => pure ()
    return list
  | .appendSpread => a.map2 fun list v => do
    let items ← collect v
    match list with
    | .obj id => discard (Builtin.pushItems id items)
    | _ => pure ()
    return list
  | .newObject => return a.push (.obj (← newPlain))
  | .defineField => a.map3 fun o k v => do
    match o with
    | .obj id => createOrFail id (← toKey k) v
    | _ => pure ()
    return o
  | .defineMethod place => a.map3 fun o k f => do
    match o with
    | .obj id =>
      setHome f id
      placeMethod id (← toKey k) f place true
    | _ => pure ()
    return o
  | .copyFields => a.map2 fun o v => do
    match o with
    | .obj id => Builtin.copyFields v [] fun k w => createOrFail id k w
    | _ => pure ()
    return o
  | .setProto => a.map2 fun o v => do
    match o, v with
    | .obj id, .obj p => modifyObj id fun o => { o with proto := some p }
    | .obj id, .null => modifyObj id fun o => { o with proto := none }
    | _, _ => pure ()
    return o
  | .regex source flags => return a.push (← Builtin.newRegExp source flags Intrinsic.regexpProto.id)
  | .templateObject cooked raw => return a.push (← templateObject cooked raw)
  | .appendText => a.map2 fun s v => do
    match s with
    | .str s => return .str (s ++ (← toText v))
    | _ => return s
  | .requireObject => a.map1 fun v => do
    if v.isNullish then typeFault "cannot destructure undefined or null"
    return v
  | .excludeKey => match a.operands with
    | k :: _ :: _ :: .obj seen :: _ =>
      discard (Builtin.pushItems seen [k])
      return a
    | _ => return a
  | .restObject keys => a.map2 fun seen v => restOf v seen keys
  | _ => return a

def classStep (s : Simple) (a : Activation) : Run Activation := do
  match s, a.operands with
  | .classMethod isStatic hidden place, f :: k :: .obj proto :: .obj cls :: r =>
    addClassMethod cls proto k f isStatic hidden place
    return { a with operands := .obj proto :: .obj cls :: r }
  | .classField isStatic hidden, f :: k :: .obj proto :: .obj cls :: r =>
    addClassField cls proto isStatic { key := ← memberKey k hidden, init := .value f } f
    return { a with operands := .obj proto :: .obj cls :: r }
  | .classBlock, f :: .obj proto :: .obj cls :: r =>
    addClassField cls proto true { key := default, init := .block f } f
    return { a with operands := .obj proto :: .obj cls :: r }
  | .classFinish name, _ :: .obj cls :: r =>
    match name with
    | some n => initBinding a.scope n (.obj cls)
    | none => pure ()
    finishClass cls
    return { a with operands := .obj cls :: r }
  | _, _ => return a

def operandStep (s : Simple) (a : Activation) : Run Activation := do
  match s with
  | .push c => return a.push c.value
  | .drop => return { a with operands := a.operands.drop 1 }
  | .dup => return { a with operands := a.operands.take 1 ++ a.operands }
  | .dupPair => return { a with operands := a.operands.take 2 ++ a.operands }
  | .swap => return { a with operands := lowerOperand 1 a.operands }
  | .lower n => return { a with operands := lowerOperand n a.operands }
  | .lift n => return { a with operands := liftOperand n a.operands }
  | .binary op => a.map2 (binaryValue op)
  | .unary op => a.map1 (unaryValue op)
  | .toNumeric => a.map1 toNumeric
  | .update op => a.map1 fun v => return updateValue op v
  | .round =>
    if (← get).limits.rounds ≤ a.rounds then throw .limit
    return { a with rounds := a.rounds + 1 }
  | .importCall => a.map1 fun list => do
    discard (catching (do toText ((← argumentList list).headD .undefined)) fun _ => return .empty)
    Builtin.newPromise
  | _ => return a

inductive Unwound where
  | resume (control : List Frame) (scope : ScopeRef) (operands : List Val)
  | escaped (c : Completion)
deriving Inhabited

/-- Whether leaving by a completion ends a statement with labels. -/
def Completion.exits (c : Completion) (labels : List Name) (plain : Bool) : Bool :=
  match c with
  | .exit none => plain
  | .exit (some n) => labels.contains n
  | _ => false

/-- Whether a completion goes on with the next round of a loop with labels. -/
def Completion.continues (c : Completion) (labels : List Name) : Bool :=
  match c with
  | .next none => true
  | .next (some n) => labels.contains n
  | _ => false

/-- Closes an iterator that a completion leaves: an error that is on its way stays, else a new one
counts. -/
def closeFor (c : Completion) (it : Iteration) : Run Completion := do
  match c with
  | .raise _ =>
    closeQuietly it
    return c
  | _ => match ← attempt (closeIteration it) with
    | .ok () => return c
    | .error v => return .raise v

def unwind : Completion → ScopeRef → List Frame → Run Unwound
  | c, _, [] => return .escaped c
  | c, scope, f :: rest => do
    match f, c with
    | .restore s, _ => unwind c s rest
    | .handler code, .raise v => return .resume (.code code :: rest) scope [v]
    | .finalizer code, _ => return .resume (.code code :: .pending c :: rest) scope []
    | .looped l, _ =>
      if c.continues l.labels then return .resume (f :: rest) scope []
      else if c.exits l.labels true then return .resume rest scope []
      else unwind c scope rest
    | .keys labels .., _ =>
      if c.continues labels then return .resume (f :: rest) scope []
      else if c.exits labels true then return .resume rest scope []
      else unwind c scope rest
    | .items labels it _, _ =>
      if c.continues labels then return .resume (f :: rest) scope []
      else
        let c' ← closeFor c it
        if c'.exits labels true then return .resume rest scope []
        unwind c' scope rest
    | .leavable labels plain, _ =>
      if c.exits labels plain then return .resume rest scope []
      unwind c scope rest
    | .iterating it, _ =>
      if it.finished then unwind c scope rest
      else unwind (← closeFor c it) scope rest
    | _, _ => unwind c scope rest

def leaveDepth : Eval Unit := modify fun m => { m with depth := m.depth - 1 }

/-- Raises a value in the first of some activations, and in its callers if it does not handle it. -/
def raiseIn (v : Val) : List Activation → Run Progress
  | [] => return .stop (.threw v)
  | a :: callers => do
    match ← unwind (.raise v) a.scope a.control with
    | .resume control scope operands => return .go { a with control, scope, operands } callers
    | .escaped c =>
      unless callers.isEmpty do leaveDepth
      match c with
      | .raise w => raiseIn w callers
      | _ => raiseIn v callers

def leave (a : Activation) (callers : List Activation) (v : Val) : Run Progress := do
  let result ← match a.returns with
    | .value => pure (.ok v)
    | .construct s => attempt (constructed s v)
  unless callers.isEmpty do leaveDepth
  match result, callers with
  | .ok v, [] => return .stop (.returned v)
  | .ok v, caller :: rest => return .go (caller.push v) rest
  | .error e, _ => raiseIn e callers

def complete (c : Completion) (a : Activation) (callers : List Activation) : Run Progress := do
  match ← unwind c a.scope a.control with
  | .resume control scope operands => return .go { a with control, scope, operands } callers
  | .escaped (.raise v) =>
    unless callers.isEmpty do leaveDepth
    raiseIn v callers
  | .escaped (.ret v) => leave a callers v
  | .escaped _ => leave a callers .undefined

def currentIteration? : List Frame → Option Iteration
  | [] => none
  | .iterating it :: _ => some it
  | _ :: r => currentIteration? r

/-- Notes that the iterator of the pattern at hand has no more values. -/
def markFinished : List Frame → List Frame
  | [] => []
  | .iterating it :: r => .iterating { it with finished := true } :: r
  | f :: r => f :: markFinished r

def Activation.finishIteration (a : Activation) : Activation := { a with control := markFinished a.control }

def iterStep (a : Activation) (callers : List Activation) : Run Progress := do
  match currentIteration? a.control with
  | none => return .go (a.push .undefined) callers
  | some it =>
    if it.finished then return .go (a.push .undefined) callers
    match ← attempt (stepIteration it) with
    | .ok (some v) => return .go (a.push v) callers
    | .ok none => return .go (a.finishIteration.push .undefined) callers
    | .error e => raiseIn e (a.finishIteration :: callers)

def iterRest (a : Activation) (callers : List Activation) : Run Progress := do
  match currentIteration? a.control with
  | none => return .go (a.push (← newArray [])) callers
  | some it =>
    if it.finished then return .go (a.push (← newArray [])) callers
    match ← attempt (collectRest it) with
    | .ok vs => return .go (a.finishIteration.push (← newArray vs)) callers
    | .error e => raiseIn e (a.finishIteration :: callers)

/-- Passes what was sent to a generator on to the iterator that it delegates to. -/
def delegate (it : Iteration) (mode : ResumeMode) (v : Val) (a : Activation) (callers : List Activation) :
    Run Progress := do
  let answer (r : Val) (finish : Val → Run Progress) : Run Progress := do
    match r with
    | .obj _ =>
      let value ← getOf r "value"
      if toBool (← getOf r "done") then finish value
      else return .stop (.yielded value { a with control := .delegating it :: a.control })
    | _ => typeFault "iterator result is not an object"
  match mode with
  | .next => do answer (← call it.next it.iterator [v]) fun w => return .go (a.push w) callers
  | .raise =>
    let f ← getMethodOf it.iterator "throw"
    if f.isUndefined then
      closeIteration it
      typeFault "iterator has no throw method"
    answer (← call f it.iterator [v]) fun w => return .go (a.push w) callers
  | .ret =>
    let f ← getMethodOf it.iterator "return"
    if f.isUndefined then complete (.ret v) a callers
    else answer (← call f it.iterator [v]) fun w => complete (.ret w) a callers

/-- Calls a function: one that is plain runs on this machine, any other by itself. -/
def enter (f this : Val) (args : List Val) (a : Activation) (callers : List Activation) : Run Progress := do
  match f with
  | .obj id => match (← getObj id).kind with
    | .closure c =>
      if c.func.info.kind.isAsync || c.func.info.kind.isGenerator then
        return .go (a.push (← call f this args)) callers
      checkLimits
      let b ← beginCall id c this args
      modify fun m => { m with depth := m.depth + 1 }
      return .go b (a :: callers)
    | _ => return .go (a.push (← call f this args)) callers
  | _ => typeFault "not a callable function"

/-- Constructs: a function of the script runs on this machine, any other by itself. -/
def enterNew (f : Val) (args : List Val) (a : Activation) (callers : List Activation) : Run Progress := do
  match f with
  | .obj id => match (← getObj id).kind with
    | .closure c =>
      checkLimits
      let b ← beginConstruct id c args f
      modify fun m => { m with depth := m.depth + 1 }
      return .go b (a :: callers)
    | _ => return .go (a.push (← construct f args f)) callers
  | _ => typeFault "not a constructor"

def controlStep (s : Simple) (a : Activation) (callers : List Activation) : Run Progress := do
  match s with
  | .call n => match a.operands.drop n with
    | f :: this :: r => enter f this (a.operands.take n).reverse { a with operands := r } callers
    | _ => return .go a callers
  | .callSpread => match a.operands with
    | list :: f :: this :: r => do enter f this (← argumentList list) { a with operands := r } callers
    | _ => return .go a callers
  | .construct n => match a.operands.drop n with
    | f :: r => enterNew f (a.operands.take n).reverse { a with operands := r } callers
    | _ => return .go a callers
  | .constructSpread => match a.operands with
    | list :: f :: r => do enterNew f (← argumentList list) { a with operands := r } callers
    | _ => return .go a callers
  | .superCall => do
    let a ← a.map1 fun list => do callSuper a.scope (← argumentList list)
    return .go a callers
  | .raise => throw (.thrown (a.operands.headD .undefined))
  | .ret => complete (.ret (a.operands.headD .undefined)) { a with operands := [] } callers
  | .exitTo label => complete (.exit label) a callers
  | .nextOf label => complete (.next label) a callers
  | .iterStep => iterStep a callers
  | .iterRest => iterRest a callers
  | .suspend => return .stop (.started a)
  | .yield => return .stop (.yielded (a.operands.headD .undefined) { a with operands := a.operands.drop 1 })
  | .delegate => do
    let it ← beginIteration (a.operands.headD .undefined)
    delegate it .next .undefined { a with operands := a.operands.drop 1 } callers
  | .await => return .stop (.awaiting a)
  | _ => return .go a callers

def simpleStep (s : Simple) (a : Activation) (callers : List Activation) : Run Progress := do
  match s with
  | .getName _ | .peekName _ | .getCallee _ | .setName _ | .initName _ | .deleteName _ | .thisRef | .newTarget
  | .argument _ | .restArguments _ => return .go (← nameStep s a) callers
  | .getMember | .getField _ | .getMethod | .getMethodNamed _ | .setMember | .setField _ | .toKey | .deleteMember
  | .superGet | .superSet | .getHidden | .setHidden | .hasHidden | .makeHidden _ =>
    return .go (← memberStep s a) callers
  | .newArray | .appendItem | .appendHole | .appendSpread | .newObject | .defineField | .defineMethod _
  | .copyFields | .setProto | .regex .. | .templateObject .. | .appendText | .requireObject | .excludeKey
  | .restObject _ => return .go (← literalStep s a) callers
  | .classMethod .. | .classField .. | .classBlock | .classFinish _ => return .go (← classStep s a) callers
  | .push _ | .drop | .dup | .dupPair | .swap | .lower _ | .lift _ | .binary _ | .unary _ | .toNumeric
  | .update _ | .round | .importCall => return .go (← operandStep s a) callers
  | _ => controlStep s a callers

/-- A scope for code: names, some of them with the values that they have around it. -/
def openScope (d : Decls) (copied : List Name) (parent : ScopeRef) : Eval ScopeRef := do
  let around := ((← get).scope parent).names
  let names := copied.foldl (fun (names : Std.HashMap Name Binding) n => match around[n]? with
    | some b => names.insert n b
    | none => names) d.bindings
  newScope { parent := some parent, names }

/-- Runs an instruction, after which `a` goes on. -/
def execute (i : Instr) (a : Activation) (callers : List Activation) : Run Progress := do
  let go (frames : List Frame) (operands : List Val) : Run Progress :=
    return .go { a with control := frames ++ a.control, operands } callers
  match i, a.operands with
  | .simple s, _ => simpleStep s a callers
  | .closure f named, ops =>
    let id ← if named then makeNamedClosure f a.scope else makeClosure f a.scope
    go [] (.obj id :: ops)
  | .classStart f true, parent :: r =>
    let (cls, proto) ← startClass f a.scope (some parent)
    go [] (.obj proto :: .obj cls :: r)
  | .classStart f _, ops =>
    let (cls, proto) ← startClass f a.scope none
    go [] (.obj proto :: .obj cls :: ops)
  | .branch yes no, v :: r => go [.code (if toBool v then yes else no)] r
  | .logical op rest, v :: r =>
    let keeps := match op with
      | .logicalAnd => !toBool v
      | .logicalOr => toBool v
      | _ => !v.isNullish
    if keeps then go [] (v :: r) else go [.code rest] r
  | .shortCircuit extra rest, v :: r =>
    if v.isNullish then go [] (.undefined :: r.drop extra) else go [.code rest] (v :: r)
  | .orDefault code, v :: r => if v.isUndefined then go [.code code] r else go [] (v :: r)
  | .scope d copied body, _ =>
    let scope ← openScope d copied a.scope
    return .go { a with control := .code body :: .restore a.scope :: a.control, scope } callers
  | .withScope body, v :: r =>
    let object ← toObject v
    let scope ← newScope { parent := some a.scope, object := some object, isWith := true }
    return .go { a with control := .code body :: .restore a.scope :: a.control, scope, operands := r } callers
  | .loop l testFirst, ops =>
    go (if testFirst then [.code l.test, .tested l] else [.code l.body, .looped l]) ops
  | .keyLoop labels body, v :: r =>
    if v.isNullish then go [] r
    else
      let id ← toObject v
      go [.keys labels id ((← get).loopKeys id) body] r
  | .itemLoop labels body, v :: r => go [.items labels (← beginIteration v) body] r
  | .leavable labels plain body, ops => go [.code body, .leavable labels plain] ops
  | .tryCatch body handler finalizer, ops =>
    go (.code body :: (handler.map Frame.handler).toList ++ (finalizer.map Frame.finalizer).toList) ops
  | .destructure body, v :: r => go [.code body, .iterating (← beginIteration v)] r
  | _, _ => return .go a callers

def countRound (a : Activation) : Run Activation := operandStep .round a

def step (a : Activation) (callers : List Activation) : Run Progress := do
  match a.control with
  | [] => leave a callers .undefined
  | .code [] :: k => return .go { a with control := k } callers
  | .code (i :: is) :: k => execute i { a with control := .code is :: k } callers
  | .restore s :: k => return .go { a with control := k, scope := s } callers
  | .tested l :: k => match a.operands with
    | v :: r =>
      return .go { a with control := if toBool v then .code l.body :: .looped l :: k else k, operands := r } callers
    | [] => return .go { a with control := k } callers
  | .looped l :: k =>
    let scope ← if l.copied.isEmpty then pure a.scope else newScope ((← get).scope a.scope)
    return .go { a with control := .code l.update :: .updated l :: k, scope } callers
  | .updated l :: k => return .go { a with control := .code l.test :: .tested l :: k } callers
  | .keys labels id rest body :: k =>
    let a ← countRound a
    let m ← get
    match rest.dropWhile fun t => (m.property? id (.str t)).isNone with
    | t :: rest =>
      return .go { a with control := .code body :: .keys labels id rest body :: k, operands := .str t :: a.operands } callers
    | [] => return .go { a with control := k } callers
  | .items labels it body :: k =>
    let a ← countRound a
    match ← attempt (stepIteration it) with
    | .ok (some v) =>
      return .go { a with control := .code body :: .items labels it body :: k, operands := v :: a.operands } callers
    | .ok none => return .go { a with control := k } callers
    | .error e => raiseIn e ({ a with control := k } :: callers)
  | .leavable .. :: k | .handler _ :: k => return .go { a with control := k } callers
  | .finalizer code :: k => return .go { a with control := .code code :: k } callers
  | .pending c :: k => complete c { a with control := k } callers
  | .iterating it :: k =>
    let a := { a with control := k }
    if it.finished then return .go a callers
    match ← attempt (closeIteration it) with
    | .ok () => return .go a callers
    | .error e => raiseIn e (a :: callers)
  | .delegating it :: k => delegate it .next .undefined { a with control := k } callers

/-- Steps until the run comes to an end or stops; `fuel` bounds the steps. -/
def steps : Nat → Activation → List Activation → Run Outcome
  | 0, _, _ => throw .timeout
  | fuel + 1, a, callers => do
    tick
    match ← attempt (step a callers) with
    | .ok (.go a callers) => steps fuel a callers
    | .ok (.stop o) => return o
    | .error v => match ← raiseIn v (a :: callers) with
      | .go a callers => steps fuel a callers
      | .stop o => return o

def runFrom (a : Activation) : Run Outcome := do steps ((← get).budget + 1) a []

def runOn : Progress → Run Outcome
  | .go a callers => do steps ((← get).budget + 1) a callers
  | .stop o => return o

end DomFlow.Sandbox
