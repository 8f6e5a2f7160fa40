import DomFlow.Sandbox.Object

/-! # Conversions and operators

Operators convert their operands; an object is first turned into a primitive by its own methods, which
may run code of the script. -/

namespace DomFlow.Sandbox

open Text (CodeUnits)
open Script (BinaryOp UnaryOp UpdateOp)

def primitiveProto : Val → Intrinsic
  | .str _ => .stringProto
  | .num _ => .numberProto
  | .bool _ => .booleanProto
  | .symbol _ => .symbolProto
  | .bigint _ => .bigintProto
  | _ => .objectProto

def toObject (v : Val) : Eval ObjId :=
  match v with
  | .obj id => return id
  | .undefined | .null => typeFault "cannot convert to object"
  | _ => newOf (primitiveProto v) (.boxed v)

def getOf (v : Val) (k : PropKey) : Run Val :=
  match v with
  | .obj id => getProp id k
  | .undefined | .null => typeFault "cannot read a property of undefined or null"
  | .str s => do
    match k with
    | .str t =>
      if t == lengthName then return .ofNat s.size
      match (indexOfText? t).bind s.at? with
      | some u => return .str u
      | none => getPropFor Intrinsic.stringProto.id k v
    | _ => getPropFor Intrinsic.stringProto.id k v
  | _ => getPropFor (primitiveProto v).id k v

/-- A method of a value, or undefined if it has none. -/
def getMethodOf (v : Val) (k : PropKey) : Run Val := do
  let f ← getOf v k
  if f.isNullish then return .undefined
  unless ← isCallable f do typeFault "not a function"
  return f

def invoke (v : Val) (k : PropKey) (args : List Val) : Run Val := do
  call (← getOf v k) v args

inductive Hint where
  | none
  | number
  | text
deriving DecidableEq, Repr, Inhabited

def Hint.name : Hint → String
  | .none => "default"
  | .number => "number"
  | .text => "string"

def ordinaryPrimitive (id : ObjId) (first second : String) : Run Val := do
  let attempt (name : String) : Run (Option Val) := do
    let f ← getProp id name
    if ← isCallable f then
      match ← call f (.obj id) [] with
      | .obj _ => return none
      | v => return some v
    else return none
  match ← attempt first with
  | some v => return v
  | none => match ← attempt second with
    | some v => return v
    | none => typeFault "cannot convert object to primitive value"

def toPrimitive (v : Val) (hint : Hint) : Run Val :=
  match v with
  | .obj id => do
    let exotic ← getMethodOf v (.symbol WellKnown.toPrimitive)
    if exotic.isUndefined then
      if hint = .text then ordinaryPrimitive id "toString" "valueOf"
      else ordinaryPrimitive id "valueOf" "toString"
    else match ← call exotic v [.str hint.name] with
      | .obj _ => typeFault "cannot convert object to primitive value"
      | p => return p
  | _ => return v

def toBool : Val → Bool
  | .undefined | .null => false
  | .bool b => b
  | .num x => !(x == 0.0 || x.isNaN)
  | .bigint n => n != 0
  | .str s => !s.isEmpty
  | .symbol _ | .obj _ => true

def primitiveText (v : Val) : Eval CodeUnits :=
  match v with
  | .undefined => return "undefined"
  | .null => return "null"
  | .bool b => return if b then "true" else "false"
  | .num x => return Text.numberText x
  | .bigint n => return toString n
  | .str s => return s
  | .symbol _ => typeFault "cannot convert a Symbol value to a string"
  | .obj _ => return "[object Object]"

def toText (v : Val) : Run CodeUnits := do
  match v with
  | .str s => return s
  | .obj _ => primitiveText (← toPrimitive v .text)
  | _ => primitiveText v

def primitiveNumber (v : Val) : Eval Float :=
  match v with
  | .undefined => return Numeral.nan
  | .null => return 0.0
  | .bool b => return if b then 1.0 else 0.0
  | .num x => return x
  | .str s => return Numeral.ofText s
  | .bigint _ => typeFault "cannot convert a BigInt value to a number"
  | .symbol _ => typeFault "cannot convert a Symbol value to a number"
  | .obj _ => return Numeral.nan

def toNumber (v : Val) : Run Float := do
  match v with
  | .num x => return x
  | .obj _ => primitiveNumber (← toPrimitive v .number)
  | _ => primitiveNumber v

def toNumeric (v : Val) : Run Val := do
  match v with
  | .num _ => return v
  | _ => match ← toPrimitive v .number with
    | .bigint n => return .bigint n
    | p => return .num (← primitiveNumber p)

/-- A number rounded toward zero; what is no number counts as zero. -/
def toInteger (v : Val) : Run Float := return Numeral.integerPart (← toNumber v)

def toLength (v : Val) : Run Nat := do
  let x ← toInteger v
  if x ≤ 0.0 then return 0
  return (Numeral.toInt (min x Numeral.maxSafe)).toNat

def toKey (v : Val) : Run PropKey := do
  match v with
  | .str s => return .str s
  | .symbol id => return .symbol id
  | .num x => match Numeral.index? x with
    | some n => return .ofNat n
    | none => return .str (Text.numberText x)
  | _ => match ← toPrimitive v .text with
    | .symbol id => return .symbol id
    | p => return .str (← primitiveText p)

def PropKey.value : PropKey → Val
  | .str s => .str s
  | .symbol id | .hidden id => .symbol id

/-- The length of an array or of what looks like one. -/
def lengthOf (id : ObjId) : Run Nat := do
  match (← getObj id).kind with
  | .array _ length => return length
  | _ => toLength (← getProp id lengthName)

def arrayLength (v : Val) : Run Val := do
  let x ← toNumber v
  if x == Numeral.ofNat (Numeral.toUint32 x) then return .num x
  fail .rangeError "invalid array length"

/-- Writes a property of any value; strict code fails where it is not allowed. -/
def putOf (strict : Bool) (target : Val) (k : PropKey) (v : Val) : Run Unit := do
  let done ← match target with
    | .obj id =>
      match (← getObj id).kind, k with
      | .array .., .str t =>
        if t == lengthName then do setProp id k (← arrayLength v) target else setProp id k v target
      | _, _ => setProp id k v target
    | .undefined | .null => typeFault "cannot set a property of undefined or null"
    | .str s => do
      let own := match k with
        | .str t => t == lengthName || ((indexOfText? t).bind s.at?).isSome
        | _ => false
      if own then pure false else setProp Intrinsic.stringProto.id k v target
    | _ => setProp (primitiveProto target).id k v target
  if !done && strict then typeFault "cannot set property"

/-- Writes a property of an object, failing where it is not allowed. -/
def put (id : ObjId) (k : PropKey) (v : Val) : Run Unit := putOf true (.obj id) k v

/-- Makes an ordinary property, failing where it is not allowed. -/
def createOrFail (id : ObjId) (k : PropKey) (v : Val) : Eval Unit := do
  unless ← createField id k v do typeFault "cannot define property"

def strictEquals : Val → Val → Bool
  | .num a, .num b => a == b
  | a, b => sameValue a b

/-- Same value, except that zeros of different sign are equal. -/
def sameValueZero : Val → Val → Bool
  | .num a, .num b => a == b || (a.isNaN && b.isNaN)
  | a, b => sameValue a b

def bigintOfText? (s : CodeUnits) : Option Int :=
  let value (base : Nat) (ds : List Char) : Option Int :=
    if ds.isEmpty || !ds.all (fun c => (Numeral.digit36? c).any fun d => decide (d < base)) then none
    else some (Int.ofNat (ds.foldl (fun n c => n * base + (Numeral.digit36? c).getD 0) 0))
  match s.trim.toChars with
  | [] => some 0
  | '0' :: 'x' :: ds | '0' :: 'X' :: ds => value 16 ds
  | '0' :: 'o' :: ds | '0' :: 'O' :: ds => value 8 ds
  | '0' :: 'b' :: ds | '0' :: 'B' :: ds => value 2 ds
  | '-' :: ds => (value 10 ds).map (- ·)
  | '+' :: ds => value 10 ds
  | ds => value 10 ds

/-- Compares a big integer with a number: below, equal, above, or nothing. -/
def compareBig (n : Int) (x : Float) : Option Ordering :=
  if x.isNaN then none
  else if x.isInf then some (if x > 0.0 then .lt else .gt)
  else
    let i := Numeral.toInt x
    if n < i then some .lt
    else if n > i then some .gt
    else
      let rest := x - Numeral.truncate x
      some (if rest > 0.0 then .lt else if rest < 0.0 then .gt else .eq)

/-- Equality of values of any kinds, after conversion; `fuel` bounds the conversions. -/
def looseEqualsFrom : Nat → Val → Val → Run Bool
  | 0, _, _ => return false
  | fuel + 1, a, b =>
    match a, b with
    | .undefined, .null | .null, .undefined => return true
    | .num x, .str s => return x == Numeral.ofText s
    | .str s, .num x => return Numeral.ofText s == x
    | .bigint n, .str s => return bigintOfText? s == some n
    | .str s, .bigint n => return bigintOfText? s == some n
    | .bigint n, .num x | .num x, .bigint n => return compareBig n x == some .eq
    | .bool x, .bool y => return x == y
    | .bool x, _ => looseEqualsFrom fuel (.num (if x then 1.0 else 0.0)) b
    | _, .bool y => looseEqualsFrom fuel a (.num (if y then 1.0 else 0.0))
    | .obj x, .obj y => return x == y
    | .obj _, .undefined | .obj _, .null | .undefined, .obj _ | .null, .obj _ => return false
    | .obj _, _ => do looseEqualsFrom fuel (← toPrimitive a .none) b
    | _, .obj _ => do looseEqualsFrom fuel a (← toPrimitive b .none)
    | _, _ => return strictEquals a b

def looseEquals (a b : Val) : Run Bool := looseEqualsFrom 4 a b

/-- How two primitives compare; nothing if one is no number. -/
def comparePrimitives (a b : Val) : Eval (Option Ordering) := do
  let ofFloats (x y : Float) : Option Ordering :=
    if x.isNaN || y.isNaN then none
    else if x < y then some .lt
    else if y < x then some .gt
    else some .eq
  match a, b with
  | .str s, .str t => return some (if s.less t then .lt else if t.less s then .gt else .eq)
  | .bigint m, .bigint n => return some (compare m n)
  | .bigint m, .str t => return (bigintOfText? t).map fun n => compare m n
  | .str s, .bigint n => return (bigintOfText? s).map fun m => compare m n
  | .bigint m, _ => return compareBig m (← primitiveNumber b)
  | _, .bigint n => return (compareBig n (← primitiveNumber a)).map Ordering.swap
  | _, _ => return ofFloats (← primitiveNumber a) (← primitiveNumber b)

def comparison (test : Ordering → Bool) (a b : Val) : Run Bool := do
  let x ← toPrimitive a .number
  let y ← toPrimitive b .number
  return ((← comparePrimitives x y).map test).getD false

def arithmetic (op : BinaryOp) (x y : Float) : Float :=
  match op with
  | .add => x + y
  | .sub => x - y
  | .mul => x * y
  | .div => x / y
  | .mod => Numeral.remainder x y
  | .exp => Numeral.power x y
  | .shiftLeft => Numeral.ofInt (Int.bmod (Numeral.toInt32 x * Int.ofNat (Nat.pow 2 (Numeral.toUint32 y % 32))) 4294967296)
  | .shiftRight => Numeral.ofInt (Int.fdiv (Numeral.toInt32 x) (Int.ofNat (Nat.pow 2 (Numeral.toUint32 y % 32))))
  | .shiftRightZero => Numeral.ofNat (Numeral.toUint32 x / Nat.pow 2 (Numeral.toUint32 y % 32))
  | .bitAnd => Numeral.ofInt (Int.bmod (Int.ofNat (Numeral.toUint32 x &&& Numeral.toUint32 y)) 4294967296)
  | .bitOr => Numeral.ofInt (Int.bmod (Int.ofNat (Numeral.toUint32 x ||| Numeral.toUint32 y)) 4294967296)
  | .bitXor => Numeral.ofInt (Int.bmod (Int.ofNat (Numeral.toUint32 x ^^^ Numeral.toUint32 y)) 4294967296)
  | _ => Numeral.nan

/-- Bits of an integer in two's complement, wide enough for both operands. -/
def bigBits (f : Nat → Nat → Nat) (a b : Int) : Int :=
  let width := max (Nat.log2 a.natAbs) (Nat.log2 b.natAbs) + 3
  let modulus := Int.ofNat (Nat.pow 2 width)
  Int.bmod (Int.ofNat (f (a % modulus).toNat (b % modulus).toNat)) (Nat.pow 2 width)

def bigArithmetic (op : BinaryOp) (a b : Int) : Eval Int :=
  match op with
  | .add => return a + b
  | .sub => return a - b
  | .mul => return a * b
  | .div => if b == 0 then fail .rangeError "division by zero" else return Int.tdiv a b
  | .mod => if b == 0 then fail .rangeError "division by zero" else return Int.tmod a b
  | .exp =>
    if b < 0 then fail .rangeError "negative exponent"
    else if b > 100000 && a.natAbs > 1 then fail .rangeError "maximum BigInt size exceeded"
    else return Int.pow a (if a.natAbs ≤ 1 then b.toNat % 2 + (if b == 0 then 0 else 2) else b.toNat)
  | .shiftLeft | .shiftRight =>
    let n := if op = .shiftLeft then b else -b
    if n > 1000000 then fail .rangeError "maximum BigInt size exceeded"
    else return if n ≥ 0 then a * Int.ofNat (Nat.pow 2 n.toNat) else Int.fdiv a (Int.ofNat (Nat.pow 2 (min n.natAbs 1000000)))
  | .bitAnd => return bigBits (· &&& ·) a b
  | .bitOr => return bigBits (· ||| ·) a b
  | .bitXor => return bigBits (· ^^^ ·) a b
  | _ => typeFault "BigInts have no unsigned right shift"

def numericBinary (op : BinaryOp) (a b : Val) : Eval Val :=
  match a, b with
  | .num x, .num y => return .num (arithmetic op x y)
  | .bigint m, .bigint n => return .bigint (← bigArithmetic op m n)
  | _, _ => typeFault "cannot mix BigInt and other types"

def addValues (a b : Val) : Run Val := do
  match a, b with
  | .num x, .num y => return .num (x + y)
  | .str s, .str t => return .str (s ++ t)
  | _, _ =>
    let x ← toPrimitive a .none
    let y ← toPrimitive b .none
    match x, y with
    | .str s, _ => return .str (s ++ (← primitiveText y))
    | _, .str t => return .str ((← primitiveText x) ++ t)
    | _, _ => numericBinary .add (← toNumeric x) (← toNumeric y)

/-- Whether one of an object's prototypes is the given one. -/
def hasProto (id proto : ObjId) : Eval Bool := do
  let m ← get
  return (m.protoChain (m.heap.size + 1) id).contains proto

/-- Whether a value is an instance of a function, by the function's own prototype property. -/
def ordinaryInstance (v f : Val) : Run Bool := do
  match v, f with
  | .obj id, .obj fid =>
    match ← getProp fid "prototype" with
    | .obj p => hasProto id p
    | _ => typeFault "prototype is not an object"
  | _, _ => return false

/-- Follows bound functions to what they are bound to; `fuel` bounds their number. -/
def unbound : Nat → Val → Eval Val
  | 0, f => return f
  | fuel + 1, f =>
    match f with
    | .obj id => do
      match (← getObj id).kind with
      | .bound target _ _ => unbound fuel target
      | _ => return f
    | _ => return f

def instanceOf (v f : Val) : Run Bool := do
  match f with
  | .obj _ =>
    let own ← getMethodOf f (.symbol WellKnown.hasInstance)
    if own.isUndefined then
      unless ← isCallable f do typeFault "right side of instanceof is not callable"
      ordinaryInstance v (← unbound 1000 f)
    else return toBool (← call own f [v])
  | _ => typeFault "right side of instanceof is not an object"

def binaryValue (op : BinaryOp) (a b : Val) : Run Val := do
  match op with
  | .add => addValues a b
  | .eqEqEq => return .bool (strictEquals a b)
  | .notEqEq => return .bool (!strictEquals a b)
  | .eqEq => return .bool (← looseEquals a b)
  | .notEq => return .bool (!(← looseEquals a b))
  | .lt => return .bool (← comparison (· == .lt) a b)
  | .ltEq => return .bool (← comparison (· != .gt) a b)
  | .gt => return .bool (← comparison (· == .gt) a b)
  | .gtEq => return .bool (← comparison (· != .lt) a b)
  | .instanceOf => return .bool (← instanceOf a b)
  | .isIn => match b with
    | .obj id => return .bool (← hasProp id (← toKey a))
    | _ => typeFault "right side of in is not an object"
  | .logicalOr | .logicalAnd | .coalesce => return b
  | _ => do
    let x ← toNumeric a
    let y ← toNumeric b
    numericBinary op x y

def typeText (v : Val) : Eval String := do
  match v with
  | .undefined => return "undefined"
  | .null => return "object"
  | .bool _ => return "boolean"
  | .num _ => return "number"
  | .bigint _ => return "bigint"
  | .str _ => return "string"
  | .symbol _ => return "symbol"
  | .obj id => return if (← get).isCallable id then "function" else "object"

def unaryValue (op : UnaryOp) (v : Val) : Run Val := do
  match op with
  | .minus => match ← toNumeric v with
    | .bigint n => return .bigint (-n)
    | p => return .num (-(← primitiveNumber p))
  | .plus => return .num (← toNumber v)
  | .not => return .bool (!toBool v)
  | .bitNot => match ← toNumeric v with
    | .bigint n => return .bigint (-n - 1)
    | p => return .num (Numeral.ofInt (-(Numeral.toInt32 (← primitiveNumber p)) - 1))
  | .typeOf => return .str (← typeText v)
  | .void => return .undefined
  | .delete => return .bool true

def updateValue (op : UpdateOp) : Val → Val
  | .bigint n => .bigint (if op = .increment then n + 1 else n - 1)
  | .num x => .num (if op = .increment then x + 1.0 else x - 1.0)
  | v => v

end DomFlow.Sandbox
