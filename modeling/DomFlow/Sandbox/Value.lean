import Std.Data.HashMap
import DomFlow.Sandbox.Code
import DomFlow.Sandbox.Decoy
import DomFlow.Sandbox.RegExp

/-! # Values and the state of the sandbox

Objects and scopes live in two arrays and are named by their index. A function that waits, such as a
generator, is data too: its activation holds the code that remains and its operands. -/

namespace DomFlow.Sandbox

open Text (CodeUnits)

abbrev ObjId := Nat
abbrev ScopeRef := Nat
abbrev SymbolId := Nat

inductive Val where
  | undefined
  | null
  | bool (value : Bool)
  | num (value : Float)
  | bigint (value : Int)
  | str (value : CodeUnits)
  | symbol (id : SymbolId)
  | obj (id : ObjId)
deriving Inhabited

def Const.value : Const → Val
  | .undefined => .undefined
  | .null => .null
  | .bool b => .bool b
  | .num x => .num x
  | .bigint n => .bigint n
  | .str s => .str s

instance : Coe String Val := ⟨fun s => .str s⟩
instance : Coe Bool Val := ⟨.bool⟩

def Val.ofNat (n : Nat) : Val := .num (Float.ofNat n)

def Val.isNullish : Val → Bool
  | .undefined | .null => true
  | _ => false

def Val.isUndefined : Val → Bool
  | .undefined => true
  | _ => false

/-- The key of a property; a hidden one is seen by its class only. -/
inductive PropKey where
  | str (text : CodeUnits)
  | symbol (id : SymbolId)
  | hidden (id : SymbolId)
deriving BEq, Hashable, Inhabited

instance : Coe String PropKey := ⟨fun s => .str s⟩
instance : Coe CodeUnits PropKey := ⟨.str⟩

namespace WellKnown

def iterator : SymbolId := 0
def asyncIterator : SymbolId := 1
def hasInstance : SymbolId := 2
def toPrimitive : SymbolId := 3
def toStringTag : SymbolId := 4
def isConcatSpreadable : SymbolId := 5
def unscopables : SymbolId := 6
def species : SymbolId := 7

def names : List String :=
  ["iterator", "asyncIterator", "hasInstance", "toPrimitive", "toStringTag", "isConcatSpreadable",
    "unscopables", "species"]

end WellKnown

/-- What a property holds: a value, or functions that read and write it. -/
inductive Content where
  | value (v : Val)
  | accessor (getter setter : Val)
deriving Inhabited

structure Slot where
  content : Content
  writable : Bool := true
  enumerable : Bool := true
  configurable : Bool := true
deriving Inhabited

def Slot.plain (v : Val) : Slot := { content := .value v }

def Slot.quiet (v : Val) : Slot := { content := .value v, enumerable := false }

inductive ErrorKind where
  | plain
  | typeError
  | rangeError
  | referenceError
  | syntaxError
  | evalError
  | uriError
deriving DecidableEq, Repr, Inhabited

def ErrorKind.text : ErrorKind → String
  | plain => "Error"
  | typeError => "TypeError"
  | rangeError => "RangeError"
  | referenceError => "ReferenceError"
  | syntaxError => "SyntaxError"
  | evalError => "EvalError"
  | uriError => "URIError"

/-- Tables of functions that are not written in scripts, by the object that has them. -/
inductive Family where
  | globals | constructors | host
  | objectStatics | objectMethods | functionMethods
  | arrayStatics | arrayMethods | stringStatics | stringMethods
  | numberStatics | numberMethods | booleanMethods | symbolStatics | symbolMethods | bigintMethods
  | errorMethods | mathStatics | jsonStatics | reflectStatics
  | regexpMethods | mapMethods | setMethods | promiseStatics | promiseMethods
  | generatorMethods | listIteratorMethods | iteratorMethods
deriving DecidableEq, Repr, Inhabited

structure Native where
  family : Family
  index : Nat
deriving DecidableEq, Repr, Inhabited

/-- Functions of the page that a script calls to put text into it, or to run text. -/
inductive HostSink where
  | eval
  | setTimeout
  | setInterval
  | documentWrite
  | documentWriteln
  | innerHtml
  | outerHtml
deriving DecidableEq, Repr, Inhabited

def HostSink.text : HostSink → String
  | eval => "eval"
  | setTimeout => "setTimeout"
  | setInterval => "setInterval"
  | documentWrite => "document.write"
  | documentWriteln => "document.writeln"
  | innerHtml => "element.innerHTML"
  | outerHtml => "element.outerHTML"

/-- A call of a sink: which one, and its first argument if that is a text. -/
structure SinkCall where
  sink : HostSink
  text : Option String
deriving DecidableEq, Repr, Inhabited

/-- The call of a sink with a value; only texts count. -/
def SinkCall.of (sink : HostSink) (value : Val) : SinkCall :=
  { sink
    text := match value with
      | .str s => some s.toString
      | _ => none }

/-- An iterator in use, and its method for the next step. -/
structure Iteration where
  iterator : Val
  next : Val
  finished : Bool := false
deriving Inhabited

inductive Completion where
  | raise (v : Val)
  | ret (v : Val)
  | exit (label : Option Name)
  | next (label : Option Name)
deriving Inhabited

inductive Frame where
  | code (is : Code)
  | restore (scope : ScopeRef)
  /-- The test of a loop has run. -/
  | tested (l : Loop)
  /-- A round of a loop has run. -/
  | looped (l : Loop)
  /-- The step of a loop from one round to the next has run. -/
  | updated (l : Loop)
  | keys (labels : List Name) (object : ObjId) (rest : List CodeUnits) (body : Code)
  | items (labels : List Name) (iteration : Iteration) (body : Code)
  | leavable (labels : List Name) (plainExit : Bool)
  | handler (code : Code)
  | finalizer (code : Code)
  /-- After a finalizer, what it interrupted goes on. -/
  | pending (c : Completion)
  | iterating (iteration : Iteration)
  | delegating (iteration : Iteration)
deriving Inhabited

inductive ReturnMode where
  | value
  /-- The function constructs: anything but an object gives way to `this` of the scope. -/
  | construct (scope : ScopeRef)
deriving Inhabited

structure Activation where
  control : List Frame
  operands : List Val := []
  scope : ScopeRef
  args : Array Val := #[]
  strict : Bool := false
  returns : ReturnMode := .value
  /-- Rounds of loops so far. -/
  rounds : Nat := 0
deriving Inhabited

inductive FieldInit where
  | value (f : Val)
  | method (f : Val)
  | getter (f : Val)
  | setter (f : Val)
  /-- A block that only runs. -/
  | block (f : Val)
deriving Inhabited

structure Field where
  key : PropKey
  init : FieldInit
deriving Inhabited

/-- A function of a script with the scope around it. -/
structure Closure where
  func : Func
  scope : ScopeRef
  /-- The object that a method belongs to. -/
  home : Option ObjId := none
  fields : List Field := []
  statics : List Field := []
deriving Inhabited

inductive GeneratorState where
  /-- Nothing of the body has run. -/
  | fresh (a : Activation)
  | waiting (a : Activation)
  | running
  | finished
deriving Inhabited

/-- What an iterator over the items of a list yields. -/
inductive ListView where
  | keys
  | values
  | entries
deriving DecidableEq, Repr, Inhabited

inductive Kind where
  | plain
  /-- Items from the front; places from `items.size` to `length` are holes unless a property fills them. -/
  | array (items : Array (Option Val)) (length : Nat)
  | closure (c : Closure)
  | native (f : Native) (constructs : Bool)
  | bound (target this : Val) (args : List Val)
  | error (kind : ErrorKind)
  /-- A primitive value as an object. -/
  | boxed (v : Val)
  | regexp (r : RegExp)
  /-- Arguments that share the parameters of a running function. -/
  | arguments (scope : ScopeRef) (names : List (Option Name))
  | generator (s : GeneratorState) (isAsync : Bool)
  | listIterator (list : Val) (position : Nat) (view : ListView)
  | textIterator (text : CodeUnits) (position : Nat)
  | mapIterator (map : ObjId) (position : Nat) (view : ListView)
  | map (entries : Array (Option (Val × Val)))
  | set (items : Array (Option Val))
  | promise
deriving Inhabited

structure Obj where
  kind : Kind := .plain
  proto : Option ObjId := none
  /-- Properties with the order in which they were made. -/
  slots : Std.HashMap PropKey (Nat × Slot) := {}
  /-- The place in order of the next property. -/
  fresh : Nat := 0
  extensible : Bool := true
deriving Inhabited

/-- A variable; without a value it cannot be used yet. -/
structure Binding where
  value : Option Val
  mutable : Bool := true
  /-- Whether writing to it although it is fixed is an error in sloppy code too. -/
  guarded : Bool := true
deriving Inhabited

structure CallInfo where
  /-- Absent in a constructor that has not called its parent class. -/
  this : Option Val
  func : ObjId
  newTarget : Val
  args : Array Val
deriving Inhabited

/-- A scope: its names, and an object whose properties are names too. -/
structure LiveScope where
  parent : Option ScopeRef
  names : Std.HashMap Name Binding := {}
  object : Option ObjId := none
  /-- Whether functions found on the object are called with it as `this`. -/
  isWith : Bool := false
  call : Option CallInfo := none
deriving Inhabited

structure Limits where
  rounds : Nat
  recursion : Nat
  stack : Nat
deriving Inhabited

structure Machine where
  heap : Array Obj := #[]
  scopes : Array LiveScope := #[]
  /-- Descriptions of symbols. -/
  symbols : Array (Option CodeUnits) := #[]
  /-- Symbols that can be found by their text. -/
  registry : List (CodeUnits × SymbolId) := []
  /-- Steps that are left. -/
  budget : Nat := 0
  /-- Functions that are running. -/
  depth : Nat := 0
  limits : Limits := default
  /-- Calls of sinks, in order. -/
  sinkCalls : Array SinkCall := #[]
deriving Inhabited

/-- What stops a run: a value that was thrown, or a bound that was met. -/
inductive Abort where
  | thrown (v : Val)
  | limit
  | timeout
deriving Inhabited

abbrev Eval := EStateM Abort Machine

inductive ResumeMode where
  | next
  | raise
  | ret
deriving DecidableEq, Repr, Inhabited

/-- How functions are called; whatever runs code is given this. -/
structure Calls where
  call : Val → Val → List Val → Eval Val
  construct : Val → List Val → Val → Eval Val
  resume : ObjId → ResumeMode → Val → Eval Val

abbrev Run := ReaderT Calls Eval

/-- Calls a function with `this` and arguments. -/
def call (f this : Val) (args : List Val) : Run Val := fun calls => calls.call f this args

def construct (f : Val) (args : List Val) (newTarget : Val) : Run Val :=
  fun calls => calls.construct f args newTarget

structure Invocation where
  this : Val
  args : List Val
  /-- Undefined unless the function constructs. -/
  newTarget : Val := .undefined
deriving Inhabited

def Invocation.arg (i : Invocation) (n : Nat) : Val := (i.args[n]?).getD .undefined

structure Method where
  key : PropKey
  arity : Nat
  place : MethodPlace := .value
  run : Invocation → Run Val

end DomFlow.Sandbox
