import DomFlow.Sandbox.Builtin.Number

/-! # Global functions

Reading numbers, and the escapes of addresses: a character is escaped as the bytes of its UTF-8 form. -/

namespace DomFlow.Sandbox.Builtin

open Text (CodeUnits)

private def isUnreserved (n : Nat) : Bool :=
  n < 128 && ((Char.ofNat n).isAlphanum || "-_.!~*\x27()".toList.any fun c => c.toNat == n)

private def isReserved (n : Nat) : Bool := ";/?:@&=+$,#".toList.any fun c => c.toNat == n

def utf8Bytes (n : Nat) : List Nat :=
  if n < 0x80 then [n]
  else if n < 0x800 then [0xC0 + n / 0x40, 0x80 + n % 0x40]
  else if n < 0x10000 then [0xE0 + n / 0x1000, 0x80 + n / 0x40 % 0x40, 0x80 + n % 0x40]
  else [0xF0 + n / 0x40000, 0x80 + n / 0x1000 % 0x40, 0x80 + n / 0x40 % 0x40, 0x80 + n % 0x40]

private def hexByte (n : Nat) : String :=
  let ds := (Nat.toDigits 16 n).map Char.toUpper
  "%" ++ String.ofList (List.replicate (2 - ds.length) '0' ++ ds)

def encodeAddress (keep : Nat → Bool) (text : CodeUnits) : Eval CodeUnits := do
  let mut out := CodeUnits.empty
  for n in text.codePoints do
    if keep n then out := out ++ CodeUnits.ofCodePoint n
    else if 0xD800 ≤ n && n ≤ 0xDFFF then fail .uriError "malformed URI"
    else out := out ++ CodeUnits.concat ((utf8Bytes n).map fun b => CodeUnits.ofString (hexByte b))
  return out

/-- The byte that an escape at the front stands for, and the rest. -/
def escapedByte? : List UInt16 → Option (Nat × List UInt16)
  | 37 :: a :: b :: r =>
    match Text.hexDigit? (Char.ofNat a.toNat), Text.hexDigit? (Char.ofNat b.toNat) with
    | some x, some y => some (x * 16 + y, r)
    | _, _ => none
  | _ => none

/-- Further bytes of a character, `count` of them. -/
def trailingBytes : Nat → Nat → List UInt16 → Option (Nat × List UInt16)
  | 0, acc, r => some (acc, r)
  | count + 1, acc, r =>
    match escapedByte? r with
    | some (b, r') => if 0x80 ≤ b && b < 0xC0 then trailingBytes count (acc * 0x40 + b % 0x40) r' else none
    | none => none

/-- The character that escapes at the front stand for, and the rest. -/
def escapedChar? (cs : List UInt16) : Option (Nat × List UInt16) :=
  match escapedByte? cs with
  | none => none
  | some (b, r) =>
    if b < 0x80 then some (b, r)
    else
      let (count, start, low) := if b < 0xC2 then (0, 0, 0)
        else if b < 0xE0 then (1, b % 0x20, 0x80)
        else if b < 0xF0 then (2, b % 0x10, 0x800)
        else if b < 0xF5 then (3, b % 0x08, 0x10000)
        else (0, 0, 0)
      if count == 0 then none
      else match trailingBytes count start r with
        | some (n, r') =>
          if n < low || n > 0x10FFFF || (0xD800 ≤ n && n ≤ 0xDFFF) then none else some (n, r')
        | none => none

/-- Undoes escapes, except those of characters to keep; `fuel` bounds the length. -/
def decodeAddress (keep : Nat → Bool) : Nat → List UInt16 → Array UInt16 → Eval CodeUnits
  | 0, _, acc => return ⟨acc⟩
  | _ + 1, [], acc => return ⟨acc⟩
  | fuel + 1, c :: r, acc =>
    if c == 37 then
      match escapedChar? (c :: r) with
      | some (n, r') =>
        if keep n then decodeAddress keep fuel r' (acc ++ ((c :: r).take (r.length + 1 - r'.length)).toArray)
        else decodeAddress keep fuel r' (CodeUnits.pushCodePoint acc n)
      | none => fail .uriError "malformed URI"
    else decodeAddress keep fuel r (acc.push c)

private def decoder (name : String) (keep : Nat → Bool) : Method :=
  { key := name, arity := 1, run := fun i => do
      let s ← toText (i.arg 0)
      return .str (← decodeAddress keep (s.size + 1) s.data.toList #[]) }

private def encoder (name : String) (keep : Nat → Bool) : Method :=
  { key := name, arity := 1, run := fun i => do return .str (← encodeAddress keep (← toText (i.arg 0))) }

def globals : Array Method := #[
  { key := "parseInt", arity := 2, run := fun i => do
      let s ← toText (i.arg 0)
      return .num (Numeral.leadingInteger s (Numeral.toInt32 (← toNumber (i.arg 1)))) },
  { key := "parseFloat", arity := 1, run := fun i => do
      return .num (Numeral.leadingFloat (← toText (i.arg 0))) },
  { key := "isNaN", arity := 1, run := fun i => do return .bool (← toNumber (i.arg 0)).isNaN },
  { key := "isFinite", arity := 1, run := fun i => do
      let x ← toNumber (i.arg 0)
      return .bool (!x.isNaN && !x.isInf) },
  decoder "decodeURI" isReserved,
  decoder "decodeURIComponent" (fun _ => false),
  encoder "encodeURI" (fun n => isUnreserved n || isReserved n),
  encoder "encodeURIComponent" isUnreserved]

end DomFlow.Sandbox.Builtin
