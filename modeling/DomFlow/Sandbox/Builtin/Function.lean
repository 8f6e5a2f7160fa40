import DomFlow.Sandbox.Builtin.Text
import DomFlow.Sandbox.Closure
import DomFlow.Sandbox.EarlyError
import DomFlow.Script.Parse

/-! # Functions on functions, and errors

A function can be made from text while a script runs; the text is parsed as the sandbox parses scripts. -/

namespace DomFlow.Sandbox

open Text (CodeUnits)

def dialect : Script.Dialect :=
  { htmlComments := false, awaitReserved := false, functionInIf := true, joinsPairs := true }

namespace Builtin

/-- The function that parameters and a body denote as text. -/
def functionOfText? (kind : Script.FuncKind) (params body : String) : Option Func := do
  let open_ := "(" ++ (if kind.isAsync then "async " else "") ++ "function" ++
    (if kind.isGenerator then "*" else "") ++ " anonymous("
  let script ← (Script.parseWith dialect (open_ ++ params ++ "\n) \x7b\n" ++ body ++ "\n\x7d)")).toOption
  guard (Script.mayStart script)
  let _ ← (Script.parseWith dialect (open_ ++ params ++ "\n) \x7b\x7d)")).toOption
  let _ ← (Script.parseWith dialect (open_ ++ ") \x7b\n" ++ body ++ "\n\x7d)")).toOption
  match script with
  | [.expr e] => match e.code (.value false) with
    | .closure f _ :: _ => some f
    | _ => none
  | _ => none

def makeFunction (i : Invocation) : Run Val := do
  let texts ← i.args.mapM fun v => do return (← toText v).toString
  let params := String.intercalate "," texts.dropLast
  match functionOfText? {} params (texts.getLast?.getD "") with
  | some f => return .obj (← makeClosure f 0)
  | none => fail .syntaxError "malformed function"

def functionName (id : ObjId) : Eval CodeUnits := do
  match (← getOwn id "name") with
  | some { content := .value (.str s), .. } => return s
  | _ => return CodeUnits.empty

def thisFunction (i : Invocation) : Eval ObjId := do
  unless ← isCallable i.this do typeFault "not a function"
  match i.this with
  | .obj id => return id
  | _ => typeFault "not a function"

def functionMethods : Array Method := #[
  { key := "call", arity := 1, run := fun i => do
      discard (thisFunction i)
      call i.this (i.arg 0) (i.args.drop 1) },
  { key := "apply", arity := 2, run := fun i => do
      discard (thisFunction i)
      call i.this (i.arg 0) (← argumentList (i.arg 1)) },
  { key := "bind", arity := 1, run := fun i => do
      let id ← thisFunction i
      let args := i.args.drop 1
      let arity ← match ← getProp id "length" with
        | .num x => pure (Numeral.clamp x 1000000 - args.length)
        | _ => pure 0
      let name ← match ← getProp id "name" with
        | .str s => pure s
        | _ => pure CodeUnits.empty
      let proto := (← getObj id).proto
      return .obj (← alloc (Obj.ofSlots (.bound i.this (i.arg 0) args) proto
        [("length", .fixedQuiet (.ofNat arity)), ("name", .fixedQuiet (.str ("bound " ++ name)))])) },
  { key := "toString", arity := 0, run := fun i => do
      let name ← functionName (← thisFunction i)
      return .str ("function " ++ name ++ "() \x7b [native code] \x7d") },
  { key := .symbol WellKnown.hasInstance, arity := 1, run := fun i => do
      if ← isCallable i.this then return .bool (← ordinaryInstance (i.arg 0) (← unbound 1000 i.this))
      return .bool false }]

def makeError (kind : ErrorKind) (i : Invocation) : Run Val := do
  let proto ← protoFor i.newTarget kind.proto
  let id ← alloc { kind := .error kind, proto := some proto }
  unless (i.arg 0).isUndefined do writeSlot id "message" (.quiet (.str (← toText (i.arg 0))))
  match i.arg 1 with
  | .obj options =>
    if ← hasProp options "cause" then writeSlot id "cause" (.quiet (← getProp options "cause"))
  | _ => pure ()
  return .obj id

def errorMethods : Array Method := #[
  { key := "toString", arity := 0, run := fun i => do
      match i.this with
      | .obj id =>
        let name ← getProp id "name"
        let name ← if name.isUndefined then pure (CodeUnits.ofString "Error") else toText name
        let message ← getProp id "message"
        let message ← if message.isUndefined then pure CodeUnits.empty else toText message
        if name.isEmpty then return .str message
        if message.isEmpty then return .str name
        return .str (name ++ ": " ++ message)
      | _ => typeFault "not an object" }]

end Builtin

end DomFlow.Sandbox
