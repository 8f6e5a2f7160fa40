import DomFlow.Sandbox.Builtin.Table
import DomFlow.Sandbox.Machine

/-! # Calling values

Functions of a table run at once; functions of a script run on a machine of their own. Such runs can nest,
since a function of a table may call back, and the depth of nesting is bounded. -/

namespace DomFlow.Sandbox

def deeper {α : Type} (x : Run α) : Run α := do
  let depth := (← get).depth
  modify fun m => { m with depth := depth + 1 }
  let r ← x
  modify fun m => { m with depth }
  return r

/-- The object of a generator that waits before its body. -/
def newGenerator (f : ObjId) (isAsync : Bool) (a : Activation) : Run Val := do
  let proto ← protoFor (.obj f) (if isAsync then .asyncGeneratorProto else .generatorProto)
  return .obj (← alloc { kind := .generator (.fresh a) isAsync, proto := some proto })

/-- What a call of a function gives, by its outcome. -/
def callResult (id : ObjId) (kind : Script.FuncKind) : Outcome → Run Val
  | .started a => newGenerator id kind.isAsync a
  | .returned v => if kind.isAsync then Builtin.newPromise else return v
  | .threw v => if kind.isAsync && !kind.isGenerator then Builtin.newPromise else throw (.thrown v)
  | .yielded .. | .awaiting _ => Builtin.newPromise

def callValue (f this : Val) (args : List Val) : Run Val := do
  match f with
  | .obj id => match (← getObj id).kind with
    | .native n _ =>
      checkLimits
      n.run { this, args }
    | .bound target boundThis boundArgs => call target boundThis (boundArgs ++ args)
    | .closure c =>
      checkLimits
      let a ← beginCall id c this args
      callResult id c.func.info.kind (← deeper (runFrom a))
    | _ => typeFault "not a callable function"
  | _ => typeFault "not a callable function"

def constructValue (f : Val) (args : List Val) (newTarget : Val) : Run Val := do
  match f with
  | .obj id => match (← getObj id).kind with
    | .native n true =>
      checkLimits
      n.run { this := .undefined, args, newTarget }
    | .bound target _ boundArgs =>
      construct target (boundArgs ++ args) (if sameValue f newTarget then target else newTarget)
    | .closure c =>
      checkLimits
      let a ← beginConstruct id c args newTarget
      callResult id c.func.info.kind (← deeper (runFrom a))
    | _ => typeFault "not a constructor"
  | _ => typeFault "not a constructor"

def setGenerator (id : ObjId) (s : GeneratorState) : Eval Unit :=
  modifyObj id fun o => match o.kind with
    | .generator _ isAsync => { o with kind := .generator s isAsync }
    | _ => o

def resumed (mode : ResumeMode) (v : Val) (a : Activation) : Run Progress := do
  match a.control, mode with
  | .delegating it :: k, _ =>
    let a := { a with control := k }
    match ← attempt (delegate it mode v a []) with
    | .ok p => return p
    | .error e => raiseIn e [a]
  | _, .next => return .go (a.push v) []
  | _, .raise => raiseIn v [a]
  | _, .ret => complete (.ret v) a []

def generatorResult (id : ObjId) : Outcome → Run Val
  | .yielded v a => do
    setGenerator id (.waiting a)
    iterResult v false
  | .returned v => do
    setGenerator id .finished
    iterResult v true
  | .threw v => do
    setGenerator id .finished
    throw (.thrown v)
  | .awaiting _ | .started _ => do
    setGenerator id .finished
    return .undefined

def resumeGenerator (id : ObjId) (mode : ResumeMode) (v : Val) : Run Val := do
  let run (p : Run Progress) : Run Val := do
    checkLimits
    setGenerator id .running
    generatorResult id (← deeper (do runOn (← p)))
  let finished : Run Val := match mode with
    | .next => iterResult .undefined true
    | .ret => iterResult v true
    | .raise => throw (.thrown v)
  match (← getObj id).kind with
  | .generator state isAsync =>
    let answer : Run Val := match state, mode with
      | .fresh a, .next => run (return .go a [])
      | .fresh _, _ => do
        setGenerator id .finished
        finished
      | .waiting a, _ => run (resumed mode v a)
      | .running, _ => typeFault "generator is already running"
      | .finished, _ => finished
    if isAsync then
      discard (attempt answer)
      Builtin.newPromise
    else answer
  | _ => typeFault "not a generator"

/-- Calls that nest at most to a depth. -/
def callsAt : Nat → Calls
  | 0 =>
    { call := fun _ _ _ => throw .limit
      construct := fun _ _ _ => throw .limit
      resume := fun _ _ _ => throw .limit }
  | n + 1 =>
    let inner := callsAt n
    { call := fun f this args => callValue f this args inner
      construct := fun f args newTarget => constructValue f args newTarget inner
      resume := fun id mode v => resumeGenerator id mode v inner }

end DomFlow.Sandbox
