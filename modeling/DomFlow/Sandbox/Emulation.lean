import DomFlow.Sandbox.Invoke
import DomFlow.Sandbox.World

/-! # Running a script in the sandbox

A script runs against a page of decoys, within bounds on its size, its steps and the depth of its calls.
The run is known by the calls of sinks that it made, in order, and by how it ended; a decoy among the texts
that reached a sink is a finding. -/

namespace DomFlow.Sandbox

structure Options where
  enabled : Bool := true
  /-- The time for a script, in thousandths of a second. -/
  timeoutMs : Nat := 5000
  loopLimit : Nat := 100000
  recursionLimit : Nat := 64
  stackLimit : Nat := 512 * 1024
  /-- Scripts of more bytes are not run at all. -/
  maxSourceBytes : Nat := 2 * 1024 * 1024
deriving DecidableEq, Repr, Inhabited

/-- Time is measured in steps of the machine: so many make a thousandth of a second. -/
def stepsPerMs : Nat := 20000

def Options.limits (o : Options) : Limits :=
  { rounds := o.loopLimit, recursion := o.recursionLimit, stack := o.stackLimit }

inductive Fault where
  | error (kind : ErrorKind)
  /-- A value that is no error. -/
  | value
  /-- A bound on loops or calls was met. -/
  | limit
deriving DecidableEq, Repr, Inhabited

inductive Stop where
  | tooLarge (actual limit : Nat)
  | timedOut (limitMs : Nat)
  | fault (f : Fault)
deriving DecidableEq, Repr, Inhabited

def Stop.message : Stop → String
  | .tooLarge actual limit =>
    "script is " ++ toString actual ++ " bytes, emulation limit is " ++ toString limit ++ " bytes"
  | .timedOut limit => "emulation did not finish within " ++ toString limit ++ " ms"
  | .fault _ => "script raised an error"

def Program.ofScript (script : Script) : Program :=
  let strict := Script.hasStrictDirective script
  { strict
    vars := Script.distinct (Script.unitsOf (Script.Stmt.allVarNames script))
    functions := Script.Stmt.functionList strict script
    decls :=
      { lets := Script.distinct (Script.unitsOf (Script.letNames script))
        consts := Script.distinct (Script.unitsOf (Script.constNames script)) }
    body := Script.Stmt.bodyCode strict script }

/-- The program of a text, if that is a script which may start. -/
def Program.ofText? (code : String) : Option Program := do
  let script ← (Script.parseWith dialect code).toOption
  guard (Script.mayStart script)
  return .ofScript script

/-- A global lexical name must not hide a fixed property of the global object. -/
def declareLexical (d : Decls) : Eval Unit := do
  for n in d.lets ++ d.consts do
    match ← getOwn Intrinsic.globalObject.id n with
    | some { configurable := false, .. } => fail .syntaxError "redeclared global name"
    | _ => pure ()
  modifyScope 0 fun sc => { sc with names := d.bindings }

def declareFunction (n : Name) (f : Func) : Eval Unit := do
  let v := Val.obj (← makeClosure f 0)
  let done ← match ← getOwn Intrinsic.globalObject.id n with
    | some { configurable := false, .. } =>
      define Intrinsic.globalObject.id n { value := some v, writable := some true, enumerable := some true }
    | _ => do
      define Intrinsic.globalObject.id n
        { value := some v, writable := some true, enumerable := some true, configurable := some false }
  unless done do typeFault "cannot declare global function"

def declareVar (n : Name) : Eval Unit := do
  if (← getOwn Intrinsic.globalObject.id n).isNone then
    writeSlot Intrinsic.globalObject.id n { content := .value .undefined, configurable := false }

def Program.run (p : Program) : Run Outcome := do
  declareLexical p.decls
  for (n, f) in p.functions do declareFunction n f
  for n in p.vars do declareVar n
  runFrom { control := [.code p.body], scope := 0, strict := p.strict }

/-- The depth to which calls may nest through functions that are not of the script. -/
def Limits.nesting (l : Limits) : Nat := min (l.recursion + 200) 2000

/-- A run of a script: the calls of sinks in order, and why it stopped if it did not end. -/
structure Trace where
  calls : List SinkCall
  stop : Option Stop
deriving DecidableEq, Repr, Inhabited

def Machine.faultOf (m : Machine) : Val → Fault
  | .obj id => match (m.obj id).kind with
    | .error kind => .error kind
    | _ => .value
  | _ => .value

def stopOf (o : Options) : EStateM.Result Abort Machine Outcome → Option Stop
  | .ok (.threw v) m => some (.fault (m.faultOf v))
  | .ok _ _ => none
  | .error (.thrown v) m => some (.fault (m.faultOf v))
  | .error .limit _ => some (.fault .limit)
  | .error .timeout _ => some (.timedOut o.timeoutMs)

def finalMachine : EStateM.Result Abort Machine Outcome → Machine
  | .ok _ m => m
  | .error _ m => m

/-- Runs a program in a fresh world. -/
def runProgram (o : Options) (p : Program) : Trace :=
  let start := { World.start with limits := o.limits, budget := o.timeoutMs * stepsPerMs, depth := 1 }
  let result := p.run (callsAt o.limits.nesting) start
  { calls := (finalMachine result).sinkCalls.toList, stop := stopOf o result }

/-- The trace of a script; one that is too large or may not start runs nothing. -/
def trace (o : Options) (code : String) : Trace :=
  if code.utf8ByteSize > o.maxSourceBytes then
    { calls := [], stop := some (.tooLarge code.utf8ByteSize o.maxSourceBytes) }
  else match Program.ofText? code with
    | some p => runProgram o p
    | none => { calls := [], stop := some (.fault (.error .syntaxError)) }

/-- The finding that a call of a sink is, if its text is a decoy. -/
def SinkCall.finding? (c : SinkCall) : Option Finding :=
  match c.text with
  | some t => if isDecoy t then some (Finding.ofDecoy c.sink.text t) else none
  | none => none

def Trace.findings (t : Trace) : List Finding := t.calls.filterMap SinkCall.finding?

end DomFlow.Sandbox
