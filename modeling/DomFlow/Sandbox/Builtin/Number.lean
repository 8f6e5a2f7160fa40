import DomFlow.Sandbox.Builtin.Text

/-! # Functions on numbers, truth values, symbols and big integers -/

namespace DomFlow.Sandbox.Builtin

open Text (CodeUnits)

/-- The primitive that a value is or holds, if a test accepts it. -/
def thisPrimitive (i : Invocation) (test : Val → Bool) : Eval Val := do
  if test i.this then return i.this
  match i.this with
  | .obj id => match (← getObj id).kind with
    | .boxed v => if test v then return v else typeFault "wrong kind of value"
    | _ => typeFault "wrong kind of value"
  | _ => typeFault "wrong kind of value"

def thisNumber (i : Invocation) : Eval Float := do
  let v ← thisPrimitive i fun
    | .num _ => true
    | _ => false
  match v with
  | .num x => return x
  | _ => return Numeral.nan

/-- A primitive, or an object that holds it if it is constructed. -/
def boxedIf (i : Invocation) (v : Val) (proto : Intrinsic) : Run Val := do
  if i.newTarget.isUndefined then return v
  return .obj (← alloc { kind := .boxed v, proto := some (← protoFor i.newTarget proto) })

def makeNumber (i : Invocation) : Run Val := do
  let x ← match i.args with
    | [] => pure 0.0
    | v :: _ => match ← toNumeric v with
      | .bigint n => pure (Numeral.ofInt n)
      | p => primitiveNumber p
  boxedIf i (.num x) .numberProto

def makeBool (i : Invocation) : Run Val := boxedIf i (.bool (toBool (i.arg 0))) .booleanProto

def makeSymbol (i : Invocation) : Run Val := do
  unless i.newTarget.isUndefined do typeFault "Symbol is not a constructor"
  let description ← if (i.arg 0).isUndefined then pure none else some <$> toText (i.arg 0)
  modifyGet fun m => (.symbol m.symbols.size, { m with symbols := m.symbols.push description })

def makeBigint (i : Invocation) : Run Val := do
  unless i.newTarget.isUndefined do typeFault "BigInt is not a constructor"
  match ← toPrimitive (i.arg 0) .number with
  | .num x =>
    if x.isNaN || x.isInf || x.floor != x then fail .rangeError "not a whole number"
    return .bigint (Numeral.toInt x)
  | .bigint n => return .bigint n
  | .bool b => return .bigint (if b then 1 else 0)
  | .str s => match bigintOfText? s with
    | some n => return .bigint n
    | none => fail .syntaxError "cannot convert to a BigInt"
  | _ => typeFault "cannot convert to a BigInt"

private def isWhole (x : Float) : Bool := !x.isNaN && !x.isInf && x.floor == x

def numberStatics : Array Method := #[
  { key := "isFinite", arity := 1, run := fun i => match i.arg 0 with
      | .num x => return .bool (!x.isNaN && !x.isInf)
      | _ => return .bool false },
  { key := "isInteger", arity := 1, run := fun i => match i.arg 0 with
      | .num x => return .bool (isWhole x)
      | _ => return .bool false },
  { key := "isSafeInteger", arity := 1, run := fun i => match i.arg 0 with
      | .num x => return .bool (isWhole x && x.abs ≤ Numeral.maxSafe)
      | _ => return .bool false },
  { key := "isNaN", arity := 1, run := fun i => match i.arg 0 with
      | .num x => return .bool x.isNaN
      | _ => return .bool false },
  { key := "parseFloat", arity := 1, run := fun i => do
      return .num (Numeral.leadingFloat (← toText (i.arg 0))) },
  { key := "parseInt", arity := 2, run := fun i => do
      let s ← toText (i.arg 0)
      return .num (Numeral.leadingInteger s (Numeral.toInt32 (← toNumber (i.arg 1)))) }]

/-- The base that an argument gives, ten if it is absent. -/
def radixArg (v : Val) : Run Nat := do
  if v.isUndefined then return 10
  let x ← toInteger v
  if x < 2.0 || x > 36.0 then fail .rangeError "radix must be between 2 and 36"
  return (Numeral.toInt x).toNat

/-- Digits of a positive number rounded to `precision` places, and the exponent of the first one. -/
def roundedDigits (b : Text.Binary) (precision : Nat) : Nat × Int :=
  let i := b.interval
  let lead := Text.Binary.leadingExponent i.value i.denominator
  let shift := Int.ofNat precision - 1 - lead
  let n := Numeral.roundedQuotient (i.value * Nat.pow 10 shift.toNat) (i.denominator * Nat.pow 10 (-shift).toNat)
  if n ≥ Nat.pow 10 precision then (n / 10, lead + 1) else (n, lead)

def precisionText (x : Float) (precision : Nat) : String :=
  match Text.Double.ofFloat x with
  | .finite negative b =>
    let sign := if negative && x < 0.0 then "-" else ""
    let (n, e) := if b.mantissa == 0 then (0, 0) else roundedDigits b precision
    let ds := Nat.toDigits 10 n
    let ds := ds ++ List.replicate (precision - ds.length) '0'
    let body :=
      if e < -6 || e ≥ Int.ofNat precision then
        let fraction := if precision > 1 then '.' :: ds.drop 1 else []
        String.ofList (ds.take 1 ++ fraction) ++ (if e < 0 then "e-" else "e+") ++ toString e.natAbs
      else if e < 0 then "0." ++ String.ofList (List.replicate (e.natAbs - 1) '0' ++ ds)
      else
        let whole := e.toNat + 1
        String.ofList (if whole ≥ precision then ds else ds.take whole ++ '.' :: ds.drop whole)
    sign ++ body
  | _ => Text.numberText x

def numberMethods : Array Method := #[
  { key := "toString", arity := 1, run := fun i => do
      let x ← thisNumber i
      return .str (Numeral.radixText x (← radixArg (i.arg 0))) },
  { key := "toLocaleString", arity := 0, run := fun i => do return .str (Text.numberText (← thisNumber i)) },
  { key := "valueOf", arity := 0, run := fun i => do return .num (← thisNumber i) },
  { key := "toFixed", arity := 1, run := fun i => do
      let x ← thisNumber i
      let places ← toInteger (i.arg 0)
      if places < 0.0 || places > 100.0 then fail .rangeError "digits must be between 0 and 100"
      return .str (Numeral.fixedText x (Numeral.toInt places).toNat) },
  { key := "toPrecision", arity := 1, run := fun i => do
      let x ← thisNumber i
      if (i.arg 0).isUndefined then return .str (Text.numberText x)
      let p ← toInteger (i.arg 0)
      if x.isNaN || x.isInf then return .str (Text.numberText x)
      if p < 1.0 || p > 100.0 then fail .rangeError "precision must be between 1 and 100"
      return .str (precisionText x (Numeral.toInt p).toNat) }]

private def isBoolVal : Val → Bool
  | .bool _ => true
  | _ => false

private def isSymbolVal : Val → Bool
  | .symbol _ => true
  | _ => false

private def isBigintVal : Val → Bool
  | .bigint _ => true
  | _ => false

def booleanMethods : Array Method := #[
  { key := "toString", arity := 0, run := fun i => do
      return .str (← primitiveText (← thisPrimitive i isBoolVal)) },
  { key := "valueOf", arity := 0, run := fun i => thisPrimitive i isBoolVal }]

def symbolStatics : Array Method := #[
  { key := "for", arity := 1, run := fun i => do
      let s ← toText (i.arg 0)
      match (← get).registry.lookup s with
      | some id => return .symbol id
      | none => modifyGet fun m =>
          (.symbol m.symbols.size, { m with symbols := m.symbols.push (some s),
                                            registry := (s, m.symbols.size) :: m.registry }) },
  { key := "keyFor", arity := 1, run := fun i => do
      match i.arg 0 with
      | .symbol id => match (← get).registry.find? (·.2 == id) with
        | some (s, _) => return .str s
        | none => return .undefined
      | _ => typeFault "not a symbol" }]

def symbolMethods : Array Method := #[
  { key := "toString", arity := 0, run := fun i => do
      match ← thisPrimitive i isSymbolVal with
      | .symbol id => return .str (← symbolText id)
      | v => return v },
  { key := "valueOf", arity := 0, run := fun i => thisPrimitive i isSymbolVal },
  { key := "description", arity := 0, place := .getter, run := fun i => do
      match ← thisPrimitive i isSymbolVal with
      | .symbol id => return (((← get).symbols[id]?.join).map Val.str).getD .undefined
      | v => return v },
  { key := .symbol WellKnown.toPrimitive, arity := 1, run := fun i => thisPrimitive i isSymbolVal }]

def bigintMethods : Array Method := #[
  { key := "toString", arity := 0, run := fun i => do
      let radix ← radixArg (i.arg 0)
      match ← thisPrimitive i isBigintVal with
      | .bigint n =>
        let ds := String.ofList (Numeral.natDigits radix (Nat.log2 n.natAbs + 2) n.natAbs [])
        return .str (if n < 0 then "-" ++ ds else ds)
      | v => return v },
  { key := "valueOf", arity := 0, run := fun i => thisPrimitive i isBigintVal }]

private def unaryMath (name : String) (f : Float → Float) : Method :=
  { key := name, arity := 1, run := fun i => do return .num (f (← toNumber (i.arg 0))) }

def roundHalfUp (x : Float) : Float :=
  if x.isNaN || x.isInf || x == 0.0 then x
  else
    let r := x.floor
    let y := if x - r ≥ 0.5 then r + 1.0 else r
    if y == 0.0 && x < 0.0 then -0.0 else y

private def extreme (name : String) (start : Float) (better : Float → Float → Bool) : Method :=
  { key := name, arity := 2, run := fun i => do
      let mut best := start
      for v in i.args do
        let x ← toNumber v
        if x.isNaN || best.isNaN then best := Numeral.nan
        else if better x best then best := x
      return .num best }

def mathStatics : Array Method := #[
  unaryMath "abs" Float.abs, unaryMath "acos" Float.acos, unaryMath "acosh" Float.acosh,
  unaryMath "asin" Float.asin, unaryMath "asinh" Float.asinh, unaryMath "atan" Float.atan,
  unaryMath "atanh" Float.atanh, unaryMath "cbrt" Float.cbrt, unaryMath "ceil" Float.ceil,
  unaryMath "cos" Float.cos, unaryMath "cosh" Float.cosh, unaryMath "exp" Float.exp,
  unaryMath "floor" Float.floor, unaryMath "log" Float.log, unaryMath "log2" Float.log2,
  unaryMath "log10" Float.log10, unaryMath "round" roundHalfUp, unaryMath "sin" Float.sin,
  unaryMath "sinh" Float.sinh, unaryMath "sqrt" Float.sqrt, unaryMath "tan" Float.tan,
  unaryMath "tanh" Float.tanh, unaryMath "trunc" Numeral.truncate,
  unaryMath "expm1" (fun x => x.exp - 1.0), unaryMath "log1p" (fun x => (x + 1.0).log),
  unaryMath "fround" (fun x => x.toFloat32.toFloat),
  unaryMath "sign" (fun x => if x > 0.0 then 1.0 else if x < 0.0 then -1.0 else x),
  unaryMath "clz32" (fun x =>
    let n := Numeral.toUint32 x
    if n == 0 then 32.0 else Numeral.ofNat (31 - Nat.log2 n)),
  extreme "max" (-Numeral.infinity) (fun x y => decide (x > y)),
  extreme "min" Numeral.infinity (fun x y => decide (x < y)),
  { key := "pow", arity := 2, run := fun i => do
      let x ← toNumber (i.arg 0)
      return .num (Numeral.power x (← toNumber (i.arg 1))) },
  { key := "atan2", arity := 2, run := fun i => do
      let y ← toNumber (i.arg 0)
      return .num (Float.atan2 y (← toNumber (i.arg 1))) },
  { key := "imul", arity := 2, run := fun i => do
      let x ← toNumber (i.arg 0)
      let y ← toNumber (i.arg 1)
      return .num (Numeral.ofInt (Int.bmod (Numeral.toInt32 x * Numeral.toInt32 y) 4294967296)) },
  { key := "hypot", arity := 2, run := fun i => do
      let mut sum := 0.0
      for v in i.args do
        let x ← toNumber v
        sum := sum + x * x
      return .num sum.sqrt },
  { key := "random", arity := 0, run := fun _ => return .num 0.5 }]

end DomFlow.Sandbox.Builtin
