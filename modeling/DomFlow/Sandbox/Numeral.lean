import DomFlow.Script.Token
import DomFlow.Text.Decimal
import DomFlow.Text.CodeUnits

/-! # Numbers of scripts

Numbers are doubles. This module reads them from text, writes them in any base, and has the operations
that go through integers. -/

namespace DomFlow.Sandbox

open Text (CodeUnits)

namespace Numeral

def nan : Float := 0.0 / 0.0

def infinity : Float := 1.0 / 0.0

def maxSafe : Float := 9007199254740991.0

def truncate (x : Float) : Float := if x < 0.0 then x.ceil else x.floor

/-- The integer part of a finite number, exactly; zero for others. -/
def toInt (x : Float) : Int :=
  if x.abs < 9.0e15 then x.toInt64.toInt
  else match Text.Double.ofFloat x with
    | .finite negative b =>
      let n := if b.exponent < 0 then b.mantissa / Nat.pow 2 b.exponent.natAbs else b.mantissa * Nat.pow 2 b.exponent.toNat
      if negative then -(Int.ofNat n) else Int.ofNat n
    | _ => 0

/-- The integer part modulo `2^32`. -/
def toUint32 (x : Float) : Nat := (toInt x % 4294967296).toNat

/-- The integer part modulo `2^32`, as a signed number. -/
def toInt32 (x : Float) : Int := Int.bmod (toInt x) 4294967296

def ofInt (i : Int) : Float := Float.ofInt i

def ofNat (n : Nat) : Float := Float.ofNat n

/-- Rounds toward zero; a number that is none counts as zero. -/
def integerPart (x : Float) : Float := if x.isNaN then 0.0 else truncate x + 0.0

/-- An integer clamped to `0 … bound`. -/
def clamp (x : Float) (bound : Nat) : Nat :=
  if x ≤ 0.0 then 0 else if ofNat bound ≤ x then bound else (toInt x).toNat

/-- An index relative to the end when negative, clamped to `0 … bound`. -/
def relative (x : Float) (bound : Nat) : Nat :=
  if x < 0.0 then clamp (x + ofNat bound) bound else clamp x bound

/-- A number as an index, if it is one below `2^32 - 1`. -/
def index? (x : Float) : Option Nat :=
  if 0.0 ≤ x && x < 4294967295.0 && x.floor == x then some x.toUInt64.toNat else none

def remainder (a b : Float) : Float :=
  if a.isNaN || b.isNaN || a.isInf || b == 0.0 then nan
  else if b.isInf || a == 0.0 then a
  else match Text.Double.ofFloat a, Text.Double.ofFloat b with
    | .finite negative x, .finite _ y =>
      let low := min x.exponent y.exponent
      let m := x.mantissa * Nat.pow 2 (x.exponent - low).toNat
      let n := y.mantissa * Nat.pow 2 (y.exponent - low).toNat
      let r := (Float.ofNat (m % n)).scaleB low
      if negative then -r else r
    | _, _ => nan

def power (a b : Float) : Float :=
  if b.isNaN then nan
  else if b == 0.0 then 1.0
  else if (a == 1.0 || a == -1.0) && b.isInf then nan
  else Float.pow a b

/-- The digits at the front of a text, and the rest. -/
def digits (isDigit : Char → Bool) (cs : List Char) : List Char × List Char :=
  (cs.takeWhile isDigit, cs.dropWhile isDigit)

/-- Reads an unsigned decimal at the front of a text. -/
def unsignedPart? (cs : List Char) : Option (Float × List Char) :=
  let (whole, r) := digits Char.isDigit cs
  let (fraction, r) := match r with
    | '.' :: r' =>
      let (f, r'') := digits Char.isDigit r'
      if whole.isEmpty && f.isEmpty then ([], r) else (f, r'')
    | _ => ([], r)
  if whole.isEmpty && fraction.isEmpty then none
  else
    let (e, r) := match r with
      | m :: r' =>
        if m == 'e' || m == 'E' then
          let (negative, r'') := match r' with
            | '+' :: t => (false, t)
            | '-' :: t => (true, t)
            | t => (false, t)
          let (ds, rest) := digits Char.isDigit r''
          if ds.isEmpty then ((0 : Int), r)
          else
            let n := Int.ofNat (Script.Token.digitValue 10 ds)
            (if negative then -n else n, rest)
        else (0, r)
      | [] => (0, r)
    some (Script.Token.scientific (Script.Token.digitValue 10 (whole ++ fraction))
      (e - Int.ofNat fraction.length), r)

/-- Reads a decimal or an infinity with an optional sign at the front of a text. -/
def signedPart? (cs : List Char) : Option (Float × List Char) :=
  let (negative, r) := match cs with
    | '+' :: t => (false, t)
    | '-' :: t => (true, t)
    | t => (false, t)
  let unsigned := match Script.Token.after? "Infinity".toList r with
    | some rest => some (infinity, rest)
    | none => unsignedPart? r
  unsigned.map fun (x, rest) => (if negative then -x else x, rest)

def radixNumber (base : Nat) (ds : List Char) : Float :=
  if ds.isEmpty || !ds.all (fun c => match Text.hexDigit? c with
      | some d => d < base
      | none => false) then nan
  else ofNat (Script.Token.digitValue base ds)

def ofText (u : CodeUnits) : Float :=
  match u.trim.toChars with
  | [] => 0.0
  | '0' :: 'x' :: ds | '0' :: 'X' :: ds => radixNumber 16 ds
  | '0' :: 'o' :: ds | '0' :: 'O' :: ds => radixNumber 8 ds
  | '0' :: 'b' :: ds | '0' :: 'B' :: ds => radixNumber 2 ds
  | cs => match signedPart? cs with
    | some (x, []) => x
    | _ => nan

def leadingFloat (u : CodeUnits) : Float :=
  match signedPart? u.trimStart.toChars with
  | some (x, _) => x
  | none => nan

def digit36? (c : Char) : Option Nat :=
  if c.isDigit then some (c.toNat - 48)
  else if 'a' ≤ c && c ≤ 'z' then some (c.toNat - 87)
  else if 'A' ≤ c && c ≤ 'Z' then some (c.toNat - 55)
  else none

/-- The integer at the front of a text, in a base that the text may mark if none is given. -/
def leadingInteger (u : CodeUnits) (radix : Int) : Float :=
  let (negative, cs) := match u.trimStart.toChars with
    | '+' :: t => (false, t)
    | '-' :: t => (true, t)
    | t => (false, t)
  if radix ≠ 0 && (radix < 2 || radix > 36) then nan
  else
    let (base, cs) := match cs with
      | '0' :: 'x' :: r | '0' :: 'X' :: r => if radix == 0 || radix == 16 then (16, r) else (radix.toNat, cs)
      | _ => (if radix == 0 then 10 else radix.toNat, cs)
    let ds := cs.takeWhile fun c => match digit36? c with
      | some d => d < base
      | none => false
    if ds.isEmpty then nan
    else
      let n := ds.foldl (fun n c => n * base + (digit36? c).getD 0) 0
      if negative then -(ofNat n) else ofNat n

def digitChar (d : Nat) : Char :=
  if d < 10 then Char.ofNat (48 + d) else Char.ofNat (87 + d)

/-- Digits of a natural number, `fuel` of them at most. -/
def natDigits (base : Nat) : Nat → Nat → List Char → List Char
  | 0, _, acc => acc
  | fuel + 1, n, acc =>
    if n < base then digitChar n :: acc else natDigits base fuel (n / base) (digitChar (n % base) :: acc)

/-- Adds one to the last digit, carrying to the left. -/
def roundUp (base : Nat) : List Char → List Char
  | [] => []
  | c :: r =>
    let d := (digit36? c).getD 0 + 1
    if d < base then digitChar d :: r else roundUp base r

/-- Digits of a fraction, the latest first, until they tell it from its neighbours. -/
def fractionDigits (base : Nat) : Nat → Float → Float → List Char → List Char
  | 0, _, _, acc => acc
  | fuel + 1, fraction, delta, acc =>
    let fraction := fraction * ofNat base
    let delta := delta * ofNat base
    let d := fraction.floor
    let acc := digitChar d.toUInt64.toNat :: acc
    let fraction := fraction - d
    if (fraction > 0.5 || (fraction == 0.5 && d.toUInt64.toNat % 2 == 1)) && fraction + delta > 1.0 then
      roundUp base acc
    else if fraction ≥ delta then fractionDigits base fuel fraction delta acc
    else acc

def radixText (x : Float) (base : Nat) : String :=
  if base == 10 || x.isNaN || x.isInf then Text.numberText x
  else
    let a := x.abs
    let whole := a.floor
    let fraction := a - whole
    let next := Float.ofBits (a.toBits + 1)
    let delta := max (0.5 * (next - a)) (Float.ofBits 1)
    let wholeText := natDigits base 1100 (toInt whole).toNat []
    let fractionText := if fraction ≥ delta then '.' :: (fractionDigits base 1100 fraction delta []).reverse else []
    (if x < 0.0 then "-" else "") ++ String.ofList (wholeText ++ fractionText)

/-- `a / b` rounded to the nearest whole number, a half upward. -/
def roundedQuotient (a b : Nat) : Nat := (2 * a + b) / (2 * b)

def fixedText (x : Float) (places : Nat) : String :=
  if x.isNaN || x.abs ≥ 1.0e21 then Text.numberText x
  else match Text.Double.ofFloat x with
    | .finite negative b =>
      let scaled := b.mantissa * Nat.pow 10 places
      let n := if b.exponent < 0 then roundedQuotient scaled (Nat.pow 2 b.exponent.natAbs)
        else scaled * Nat.pow 2 b.exponent.toNat
      let ds := Nat.toDigits 10 n
      let ds := List.replicate (places + 1 - ds.length) '0' ++ ds
      let text := if places == 0 then ds
        else ds.take (ds.length - places) ++ '.' :: ds.drop (ds.length - places)
      (if negative && x < 0.0 then "-" else "") ++ String.ofList text
    | _ => Text.numberText x

end Numeral

end DomFlow.Sandbox
