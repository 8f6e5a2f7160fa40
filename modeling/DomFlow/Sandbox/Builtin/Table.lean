import DomFlow.Sandbox.Builtin.Collection
import DomFlow.Sandbox.Builtin.Function
import DomFlow.Sandbox.Builtin.Global
import DomFlow.Sandbox.Builtin.Json

/-! # All functions that are not written in scripts

Among them the sinks of the page: they do nothing but note that they were called, and with what. -/

namespace DomFlow.Sandbox.Builtin

open Text (CodeUnits)

def sinkMethod (key : PropKey) (arity : Nat) (sink : HostSink) : Method :=
  { key, arity, run := fun i => do
      modify fun m => { m with sinkCalls := m.sinkCalls.push (.of sink (i.arg 0)) }
      return .undefined }

private def inertMethod (name : String) (arity : Nat) : Method :=
  { key := name, arity, run := fun _ => return .undefined }

private def elementMethod (name : String) : Method :=
  { key := name, arity := 1, run := fun _ => return .obj Intrinsic.element.id }

/-- Functions of the page; the first one is the function that does nothing. -/
def host : Array Method := #[
  inertMethod "" 0,
  sinkMethod "eval" 1 .eval,
  sinkMethod "setTimeout" 2 .setTimeout,
  sinkMethod "setInterval" 2 .setInterval,
  inertMethod "clearTimeout" 1, inertMethod "clearInterval" 1, inertMethod "alert" 1,
  sinkMethod "write" 1 .documentWrite,
  sinkMethod "writeln" 1 .documentWriteln,
  elementMethod "getElementById", elementMethod "querySelector", elementMethod "createElement",
  { key := "innerHTML", arity := 0, place := .getter, run := fun _ => return "" },
  { sinkMethod "innerHTML" 0 .innerHtml with place := .setter },
  { key := "outerHTML", arity := 0, place := .getter, run := fun _ => return "" },
  { sinkMethod "outerHTML" 0 .outerHtml with place := .setter },
  inertMethod "setAttribute" 2, inertMethod "appendChild" 1, inertMethod "addEventListener" 2,
  { key := "toString", arity := 0, run := fun _ => return .str Decoy.address },
  inertMethod "assign" 1, inertMethod "replace" 1]

def hostHolders : List (Intrinsic × List Nat) := [
  (.globalObject, [1, 2, 3, 4, 5, 6]),
  (.document, [7, 8, 9, 10, 11]),
  (.element, [12, 13, 14, 15, 16, 17, 18]),
  (.location, [19, 20, 21])]

def constructorList : List (Method × Intrinsic) := [
  ({ key := "Object", arity := 1, run := makeObject }, .objectProto),
  ({ key := "Function", arity := 1, run := makeFunction }, .functionProto),
  ({ key := "Array", arity := 1, run := makeArray }, .arrayProto),
  ({ key := "String", arity := 1, run := makeText }, .stringProto),
  ({ key := "Number", arity := 1, run := makeNumber }, .numberProto),
  ({ key := "Boolean", arity := 1, run := makeBool }, .booleanProto),
  ({ key := "Symbol", arity := 0, run := makeSymbol }, .symbolProto),
  ({ key := "BigInt", arity := 1, run := makeBigint }, .bigintProto),
  ({ key := "Error", arity := 1, run := makeError .plain }, .errorProto),
  ({ key := "TypeError", arity := 1, run := makeError .typeError }, .typeErrorProto),
  ({ key := "RangeError", arity := 1, run := makeError .rangeError }, .rangeErrorProto),
  ({ key := "ReferenceError", arity := 1, run := makeError .referenceError }, .referenceErrorProto),
  ({ key := "SyntaxError", arity := 1, run := makeError .syntaxError }, .syntaxErrorProto),
  ({ key := "EvalError", arity := 1, run := makeError .evalError }, .evalErrorProto),
  ({ key := "URIError", arity := 1, run := makeError .uriError }, .uriErrorProto),
  ({ key := "RegExp", arity := 2, run := makeRegExp }, .regexpProto),
  ({ key := "Map", arity := 0, run := makeMap }, .mapProto),
  ({ key := "Set", arity := 0, run := makeSet }, .setProto),
  ({ key := "Promise", arity := 1, run := makePromise }, .promiseProto)]

def constructors : Array Method := (constructorList.map (·.1)).toArray

end DomFlow.Sandbox.Builtin

namespace DomFlow.Sandbox

def Family.table : Family → Array Method
  | .globals => Builtin.globals
  | .constructors => Builtin.constructors
  | .host => Builtin.host
  | .objectStatics => Builtin.objectStatics
  | .objectMethods => Builtin.objectMethods
  | .functionMethods => Builtin.functionMethods
  | .arrayStatics => Builtin.arrayStatics
  | .arrayMethods => Builtin.arrayMethods
  | .stringStatics => Builtin.textStatics
  | .stringMethods => Builtin.textMethods
  | .numberStatics => Builtin.numberStatics
  | .numberMethods => Builtin.numberMethods
  | .booleanMethods => Builtin.booleanMethods
  | .symbolStatics => Builtin.symbolStatics
  | .symbolMethods => Builtin.symbolMethods
  | .bigintMethods => Builtin.bigintMethods
  | .errorMethods => Builtin.errorMethods
  | .mathStatics => Builtin.mathStatics
  | .jsonStatics => Builtin.jsonStatics
  | .reflectStatics => Builtin.reflectStatics
  | .regexpMethods => Builtin.regexpMethods
  | .mapMethods => Builtin.mapMethods
  | .setMethods => Builtin.setMethods
  | .promiseStatics => Builtin.promiseStatics
  | .promiseMethods => Builtin.promiseMethods
  | .generatorMethods => Builtin.generatorMethods
  | .listIteratorMethods => Builtin.listIteratorMethods
  | .iteratorMethods => Builtin.iteratorMethods

def Native.run (f : Native) (i : Invocation) : Run Val :=
  match f.family.table[f.index]? with
  | some m => m.run i
  | none => return .undefined

end DomFlow.Sandbox
