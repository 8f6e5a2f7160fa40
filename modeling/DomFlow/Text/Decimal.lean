/-! # Shortest decimals of binary numbers

A finite binary number `m · 2^q` is written with the fewest decimal digits that read back to it. The
numbers that read back to it form an interval around it; the grids of multiples of `10^k` are tried from
coarse to fine, and on the first grid that meets the interval the point nearest to the number is taken.
Of two points at the same distance a rule for ties takes one. -/

namespace DomFlow.Text

/-- The decimal `digits · 10^exponent`. -/
structure Decimal where
  digits : Nat
  exponent : Int
deriving DecidableEq, Repr, Inhabited

/-- The nonnegative binary number `mantissa · 2^exponent`. -/
structure Binary where
  mantissa : Nat
  exponent : Int
deriving DecidableEq, Repr, Inhabited

inductive Double where
  | nan
  | infinite (negative : Bool)
  | finite (negative : Bool) (value : Binary)
deriving DecidableEq, Repr, Inhabited

/-- Splits the 64 bits of a double into sign, exponent and mantissa. -/
def Double.ofFloat (x : Float) : Double :=
  let bits := x.toBits.toNat
  let negative := bits / Nat.pow 2 63 = 1
  let biased := bits / Nat.pow 2 52 % Nat.pow 2 11
  let fraction := bits % Nat.pow 2 52
  if biased = 2047 then
    if fraction = 0 then .infinite negative else .nan
  else if biased = 0 then .finite negative ⟨fraction, -1074⟩
  else .finite negative ⟨Nat.pow 2 52 + fraction, Int.ofNat biased - 1075⟩

/-- Which of two decimals at the same distance is taken. -/
inductive Tie where
  | up
  | toEven
deriving DecidableEq, Repr, Inhabited

/-- Whether the point above a remainder of `unit` is to be taken, next to the point `d` below it. -/
def Tie.takesUpper (tie : Tie) (d remainder unit : Nat) : Bool :=
  match compare (2 * remainder) unit, tie with
  | .lt, _ => false
  | .gt, _ => true
  | .eq, .up => true
  | .eq, .toEven => d % 2 = 1

namespace Binary

/-- Numerators over one denominator: a number, and the ends of the interval of reals that round to it. -/
structure Interval where
  low : Nat
  value : Nat
  high : Nat
  denominator : Nat
  closed : Bool

/-- The interval reaches halfway to both neighbours; below a power of two the neighbours lie twice as
dense. The ends belong to it when the mantissa is even. -/
def interval (b : Binary) : Interval :=
  let shift := b.exponent - 2
  let scale := Nat.pow 2 shift.toNat
  let below := if b.mantissa = Nat.pow 2 52 ∧ b.exponent > -1074 then 1 else 2
  { low := (4 * b.mantissa - below) * scale
    value := 4 * b.mantissa * scale
    high := (4 * b.mantissa + 2) * scale
    denominator := Nat.pow 2 (-shift).toNat
    closed := b.mantissa % 2 = 0 }

/-- Whether `d · 10^k` lies in the interval. -/
def Interval.holds (i : Interval) (d : Nat) (k : Int) : Bool :=
  let point := d * Nat.pow 10 k.toNat * i.denominator
  let scale := Nat.pow 10 (-k).toNat
  if i.closed then i.low * scale ≤ point && point ≤ i.high * scale
  else i.low * scale < point && point < i.high * scale

/-- The exponent of the leading decimal digit of `n / d`, for positive `n` and `d`. -/
def leadingExponent (n d : Nat) : Int :=
  if d ≤ n then Int.ofNat ((Nat.toDigits 10 (n / d)).length - 1)
  else
    let places := (Nat.toDigits 10 (d / n)).length
    if d ≤ n * Nat.pow 10 (places - 1) then -(Int.ofNat (places - 1)) else -(Int.ofNat places)

/-- On the grid `10^k`, the point of the interval nearest to the value. -/
def nearestOnGrid (tie : Tie) (i : Interval) (k : Int) : Option Nat :=
  let numerator := i.value * Nat.pow 10 (-k).toNat
  let unit := i.denominator * Nat.pow 10 k.toNat
  let d := numerator / unit
  match d ≠ 0 && i.holds d k, i.holds (d + 1) k with
  | true, true => if tie.takesUpper d (numerator % unit) unit then some (d + 1) else some d
  | true, false => some d
  | false, true => some (d + 1)
  | false, false => none

/-- Tries the grid `10^k` and finer ones, `fuel` of them in all. -/
def firstGrid (tie : Tie) (i : Interval) : Nat → Int → Option Decimal
  | 0, _ => none
  | fuel + 1, k =>
    match nearestOnGrid tie i k with
    | some d => some ⟨d, k⟩
    | none => firstGrid tie i fuel (k - 1)

/-- The shortest decimal that reads back to the number; seventeen digits always suffice. -/
def shortest (tie : Tie) (b : Binary) : Decimal :=
  if b.mantissa = 0 then ⟨0, 0⟩
  else
    let i := b.interval
    (firstGrid tie i 20 (leadingExponent i.value i.denominator)).getD ⟨0, 0⟩

end Binary

namespace Decimal

/-- Drops trailing zeros of the digits, at most `fuel` of them. -/
def strip : Nat → Decimal → Decimal
  | 0, d => d
  | fuel + 1, d =>
    if d.digits ≠ 0 ∧ d.digits % 10 = 0 then strip fuel ⟨d.digits / 10, d.exponent + 1⟩ else d

/-- The digits, and the number of them that stand before the decimal point. -/
def digitsAndPoint (d : Decimal) : List Char × Int :=
  let s := strip 400 d
  let text := Nat.toDigits 10 s.digits
  (text, Int.ofNat text.length + s.exponent)

def positional (d : Decimal) : String :=
  if d.digits = 0 then "0"
  else
    let (text, point) := d.digitsAndPoint
    if point ≤ 0 then "0." ++ String.ofList (List.replicate (-point).toNat '0' ++ text)
    else if text.length ≤ point.toNat then
      String.ofList (text ++ List.replicate (point.toNat - text.length) '0')
    else String.ofList (text.take point.toNat ++ '.' :: text.drop point.toNat)

end Decimal

/-- Positional text of a number: shortest digits, ties up, never an exponent, `inf` and `NaN` by name. -/
def positionalText (x : Float) : String :=
  match Double.ofFloat x with
  | .nan => "NaN"
  | .infinite negative => if negative then "-inf" else "inf"
  | .finite negative b => (if negative then "-" else "") ++ (b.shortest .up).positional

/-- Text of a number in a script: shortest digits, ties to the even digit, positional from `1e-6` up to
`1e21`, else with an exponent. -/
def numberText (x : Float) : String :=
  match Double.ofFloat x with
  | .nan => "NaN"
  | .infinite negative => if negative then "-Infinity" else "Infinity"
  | .finite negative b =>
    if b.mantissa = 0 then "0"
    else
      let d := b.shortest .toEven
      let (text, point) := d.digitsAndPoint
      let body :=
        if -6 < point ∧ point ≤ 21 then d.positional
        else
          let e := point - 1
          let mark := if e < 0 then "e-" else "e+"
          let fraction := if text.length ≤ 1 then [] else '.' :: text.drop 1
          String.ofList (text.take 1 ++ fraction) ++ mark ++ toString e.natAbs
      (if negative then "-" else "") ++ body

end DomFlow.Text
