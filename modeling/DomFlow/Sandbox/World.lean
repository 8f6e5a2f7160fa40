import DomFlow.Sandbox.Builtin.Table

/-! # The world of a script

The objects that exist before a script runs: the library of the language, and a page with a location whose
parts are decoys. -/

namespace DomFlow.Sandbox

namespace Intrinsic

def proto : Intrinsic → Option Intrinsic
  | objectProto => none
  | typeErrorProto | rangeErrorProto | referenceErrorProto | syntaxErrorProto | evalErrorProto | uriErrorProto =>
    some errorProto
  | generatorProto | asyncGeneratorProto | listIteratorProto | textIteratorProto | mapIteratorProto =>
    some iteratorProto
  | generatorFunctionProto => some functionProto
  | _ => some objectProto

def kind : Intrinsic → Kind
  | functionProto => .native Builtin.inert false
  | arrayProto => .array #[] 0
  | stringProto => .boxed (.str .empty)
  | numberProto => .boxed (.num 0.0)
  | booleanProto => .boxed (.bool false)
  | _ => .plain

def family? : Intrinsic → Option Family
  | globalObject => some .globals
  | objectProto => some .objectMethods
  | functionProto => some .functionMethods
  | arrayProto => some .arrayMethods
  | stringProto => some .stringMethods
  | numberProto => some .numberMethods
  | booleanProto => some .booleanMethods
  | symbolProto => some .symbolMethods
  | bigintProto => some .bigintMethods
  | errorProto => some .errorMethods
  | regexpProto => some .regexpMethods
  | mapProto => some .mapMethods
  | setProto => some .setMethods
  | promiseProto => some .promiseMethods
  | iteratorProto => some .iteratorMethods
  | generatorProto | asyncGeneratorProto => some .generatorMethods
  | listIteratorProto | textIteratorProto | mapIteratorProto => some .listIteratorMethods
  | math => some .mathStatics
  | json => some .jsonStatics
  | reflect => some .reflectStatics
  | _ => none

def tag? : Intrinsic → Option String
  | symbolProto => some "Symbol"
  | mapProto => some "Map"
  | setProto => some "Set"
  | promiseProto => some "Promise"
  | generatorProto => some "Generator"
  | asyncGeneratorProto => some "AsyncGenerator"
  | listIteratorProto => some "Array Iterator"
  | textIteratorProto => some "String Iterator"
  | mapIteratorProto => some "Map Iterator"
  | math => some "Math"
  | json => some "JSON"
  | reflect => some "Reflect"
  | _ => none

end Intrinsic

namespace World

def fixedSlot (v : Val) : Slot :=
  { content := .value v, writable := false, enumerable := false, configurable := false }

def methodObject (family : Family) (index : Nat) (m : Method) (constructs : Bool) : Eval ObjId := do
  let name : Val := match m.key with
    | .str t => .str t
    | _ => ""
  alloc (Obj.ofSlots (.native ⟨family, index⟩ constructs) (some Intrinsic.functionProto.id)
    [("length", .fixedQuiet (.ofNat m.arity)), ("name", .fixedQuiet name)])

def install (holder : ObjId) (family : Family) (index : Nat) (enumerable : Bool) : Eval Unit := do
  match family.table[index]? with
  | some m =>
    let f ← methodObject family index m false
    placeMethod holder m.key (.obj f) m.place enumerable
  | none => return

def installAll (holder : ObjId) (family : Family) : Eval Unit := do
  for index in [0:family.table.size] do install holder family index false

def setSlots (holder : ObjId) (slots : List (PropKey × Slot)) : Eval Unit := do
  for (k, s) in slots do writeSlot holder k s

def statics? : Intrinsic → Option Family
  | .objectProto => some .objectStatics
  | .arrayProto => some .arrayStatics
  | .stringProto => some .stringStatics
  | .numberProto => some .numberStatics
  | .symbolProto => some .symbolStatics
  | .promiseProto => some .promiseStatics
  | _ => none

def constants : Intrinsic → List (PropKey × Slot)
  | .numberProto => [
      ("MAX_SAFE_INTEGER", fixedSlot (.num 9007199254740991.0)),
      ("MIN_SAFE_INTEGER", fixedSlot (.num (-9007199254740991.0))),
      ("MAX_VALUE", fixedSlot (.num 1.7976931348623157e308)), ("MIN_VALUE", fixedSlot (.num 5e-324)),
      ("EPSILON", fixedSlot (.num 2.220446049250313e-16)), ("NaN", fixedSlot (.num (0.0 / 0.0))),
      ("POSITIVE_INFINITY", fixedSlot (.num (1.0 / 0.0))), ("NEGATIVE_INFINITY", fixedSlot (.num (-1.0 / 0.0)))]
  | .symbolProto => WellKnown.names.zipIdx.map fun (n, i) => (n, fixedSlot (.symbol i))
  | .math => [
      ("PI", fixedSlot (.num 3.141592653589793)), ("E", fixedSlot (.num 2.718281828459045)),
      ("LN2", fixedSlot (.num 0.6931471805599453)), ("LN10", fixedSlot (.num 2.302585092994046)),
      ("LOG2E", fixedSlot (.num 1.4426950408889634)), ("LOG10E", fixedSlot (.num 0.4342944819032518)),
      ("SQRT2", fixedSlot (.num 1.4142135623730951)), ("SQRT1_2", fixedSlot (.num 0.7071067811865476))]
  | _ => []

/-- Makes a constructor, its link with the prototype, and its global name. -/
def installConstructor (index : Nat) (m : Method) (proto : Intrinsic) : Eval ObjId := do
  let f ← methodObject .constructors index m true
  writeSlot f "prototype" (fixedSlot (.obj proto.id))
  writeSlot proto.id "constructor" (.quiet (.obj f))
  match statics? proto with
  | some family => installAll f family
  | none => pure ()
  setSlots f (constants proto)
  writeSlot Intrinsic.globalObject.id m.key (.quiet (.obj f))
  return f

/-- The classes of errors: each has its name, and all have the plain one as parent. -/
def installErrors : Eval Unit := do
  let parent := match (← get).own? Intrinsic.errorProto.id "constructor" with
    | some { content := .value (.obj f), .. } => f
    | _ => Intrinsic.functionProto.id
  for kind in [ErrorKind.plain, .typeError, .rangeError, .referenceError, .syntaxError, .evalError, .uriError] do
    setSlots kind.proto.id [("name", .quiet kind.text), ("message", .quiet "")]
    if kind != .plain then
      match (← get).own? kind.proto.id "constructor" with
      | some { content := .value (.obj f), .. } => modifyObj f fun o => { o with proto := some parent }
      | _ => pure ()

def installLibrary : Eval Unit := do
  for i in Intrinsic.all do
    match i.family? with
    | some family => installAll i.id family
    | none => pure ()
  for (entry, index) in Builtin.constructorList.zipIdx do
    discard (installConstructor index entry.1 entry.2)
  installErrors
  for i in Intrinsic.all do
    match i.tag? with
    | some t => writeSlot i.id (.symbol WellKnown.toStringTag) (.fixedQuiet t)
    | none => pure ()
  setSlots Intrinsic.math.id (constants .math)
  setSlots Intrinsic.globalObject.id [
    ("globalThis", .quiet (.obj Intrinsic.globalObject.id)),
    ("Infinity", fixedSlot (.num (1.0 / 0.0))), ("NaN", fixedSlot (.num (0.0 / 0.0))),
    ("undefined", fixedSlot .undefined), ("Math", .quiet (.obj Intrinsic.math.id)),
    ("JSON", .quiet (.obj Intrinsic.json.id)), ("Reflect", .quiet (.obj Intrinsic.reflect.id))]

def origin : String := "https://victim.example"

def hostname : String := "victim.example"

/-- The page: a location, a document, and one element for everything that is asked for. -/
def installPage : Eval Unit := do
  setSlots Intrinsic.location.id [
    ("hash", .plain Decoy.fragment), ("search", .plain Decoy.query), ("href", .plain Decoy.address),
    ("pathname", .plain "/"), ("protocol", .plain "https:"), ("host", .plain hostname),
    ("hostname", .plain hostname), ("origin", .plain origin)]
  for (holder, indices) in Builtin.hostHolders do
    for index in indices do install holder.id .host index (holder == .element && index < 16)
  setSlots Intrinsic.element.id [("textContent", .plain "")]
  setSlots Intrinsic.document.id [
    ("body", .plain (.obj Intrinsic.element.id)), ("location", .plain (.obj Intrinsic.location.id)),
    ("URL", .plain Decoy.address), ("documentURI", .plain Decoy.address),
    ("cookie", .plain ""), ("referrer", .plain "")]
  let window := Val.obj Intrinsic.globalObject.id
  setSlots Intrinsic.globalObject.id [
    ("location", .plain (.obj Intrinsic.location.id)), ("document", .plain (.obj Intrinsic.document.id)),
    ("window", .plain window), ("self", .plain window), ("top", .plain window)]

/-- The machine before anything exists but bare intrinsic objects and the global scope. -/
def bare : Machine :=
  { heap := (Intrinsic.all.map fun i => { kind := i.kind, proto := i.proto.map Intrinsic.id : Obj }).toArray
    scopes := #[{ parent := none, object := some Intrinsic.globalObject.id }]
    symbols := (WellKnown.names.map fun n => some (Text.CodeUnits.ofString ("Symbol." ++ n))).toArray }

def start : Machine :=
  match (do installLibrary; installPage : Eval Unit).run bare with
  | .ok _ m => m
  | .error _ m => m

end World

end DomFlow.Sandbox
