import DomFlow.Text.LetterCase

/-! # Text as UTF-16 units

Scripts count and cut text in units of sixteen bits, so they can take a character outside the basic plane
apart. Such text is an array of units, which need not be well formed. -/

namespace DomFlow.Text

/-- Text as UTF-16 units; a unit may be one half of a pair. -/
structure CodeUnits where
  data : Array UInt16
deriving BEq, Hashable, Repr, Inhabited

namespace CodeUnits

def empty : CodeUnits := ⟨#[]⟩

def size (u : CodeUnits) : Nat := u.data.size

def isEmpty (u : CodeUnits) : Bool := u.data.isEmpty

def append (a b : CodeUnits) : CodeUnits := ⟨a.data ++ b.data⟩

instance : Append CodeUnits := ⟨append⟩

def pushCodePoint (units : Array UInt16) (n : Nat) : Array UInt16 :=
  if n < 0x10000 then units.push n.toUInt16
  else
    let m := n - 0x10000
    (units.push (0xD800 + m / 0x400).toUInt16).push (0xDC00 + m % 0x400).toUInt16

def ofCodePoint (n : Nat) : CodeUnits := ⟨pushCodePoint #[] n⟩

def ofChars (cs : List Char) : CodeUnits := ⟨cs.foldl (fun units c => pushCodePoint units c.toNat) #[]⟩

def ofString (s : String) : CodeUnits := ofChars s.toList

instance : Coe String CodeUnits := ⟨ofString⟩

def isHighHalf (u : UInt16) : Bool := 0xD800 ≤ u && u ≤ 0xDBFF

def isLowHalf (u : UInt16) : Bool := 0xDC00 ≤ u && u ≤ 0xDFFF

def pairValue (high low : UInt16) : Nat :=
  0x10000 + (high.toNat - 0xD800) * 0x400 + (low.toNat - 0xDC00)

/-- Code points of a text; a half without its partner stands for itself. -/
def codePointsOf : List UInt16 → List Nat
  | [] => []
  | [u] => [u.toNat]
  | u :: v :: r =>
    if isHighHalf u && isLowHalf v then pairValue u v :: codePointsOf r
    else u.toNat :: codePointsOf (v :: r)

def codePoints (u : CodeUnits) : List Nat := codePointsOf u.data.toList

/-- The characters of a text; a lone half becomes the replacement character. -/
def toChars (u : CodeUnits) : List Char :=
  u.codePoints.map fun n => if 0xD800 ≤ n && n ≤ 0xDFFF then Char.ofNat 0xFFFD else Char.ofNat n

def toString (u : CodeUnits) : String := String.ofList u.toChars

def unit? (u : CodeUnits) (i : Nat) : Option UInt16 := u.data[i]?

def slice (u : CodeUnits) (start stop : Nat) : CodeUnits := ⟨u.data.extract start stop⟩

def at? (u : CodeUnits) (i : Nat) : Option CodeUnits := (u.data[i]?).map fun x => ⟨#[x]⟩

/-- The code point at a place and the number of its units. -/
def codePointAt? (u : CodeUnits) (i : Nat) : Option (Nat × Nat) :=
  match u.data[i]? with
  | none => none
  | some x =>
    match u.data[i + 1]? with
    | some y => if isHighHalf x && isLowHalf y then some (pairValue x y, 2) else some (x.toNat, 1)
    | none => some (x.toNat, 1)

/-- Whether `p` stands at place `i`. -/
def hasAt (u p : CodeUnits) (i : Nat) : Bool :=
  i + p.size ≤ u.size && (List.range p.size).all fun k => u.data[i + k]? == p.data[k]?

/-- The first place from `i` on where `p` stands, among `fuel` places. -/
def findFrom (u p : CodeUnits) : Nat → Nat → Option Nat
  | 0, _ => none
  | fuel + 1, i => if u.hasAt p i then some i else findFrom u p fuel (i + 1)

def indexOf? (u p : CodeUnits) (start : Nat) : Option Nat :=
  u.findFrom p (u.size + 1 - start) start

/-- The last place up to `i` where `p` stands. -/
def lastIndexOf? (u p : CodeUnits) : Nat → Option Nat
  | 0 => if u.hasAt p 0 then some 0 else none
  | i + 1 => if u.hasAt p (i + 1) then some (i + 1) else lastIndexOf? u p i

def lessList : List UInt16 → List UInt16 → Bool
  | _, [] => false
  | [], _ :: _ => true
  | a :: as, b :: bs => if a = b then lessList as bs else decide (a < b)

def less (a b : CodeUnits) : Bool := lessList a.data.toList b.data.toList

def isTrimmed (u : UInt16) : Bool :=
  let n := u.toNat
  (9 ≤ n && n ≤ 13) || n == 0x20 || n == 0xA0 || n == 0x1680 || (0x2000 ≤ n && n ≤ 0x200A) ||
    n == 0x2028 || n == 0x2029 || n == 0x202F || n == 0x205F || n == 0x3000 || n == 0xFEFF

def trimStart (u : CodeUnits) : CodeUnits := ⟨(u.data.toList.dropWhile isTrimmed).toArray⟩

def trimEnd (u : CodeUnits) : CodeUnits := ⟨(u.data.toList.reverse.dropWhile isTrimmed).reverse.toArray⟩

def trim (u : CodeUnits) : CodeUnits := u.trimStart.trimEnd

def wideUpper : List (Nat × String) :=
  [(0xDF, "SS"), (0x149, "ʼN"), (0xFB00, "FF"), (0xFB01, "FI"), (0xFB02, "FL"), (0xFB03, "FFI"),
    (0xFB04, "FFL"), (0xFB05, "ST"), (0xFB06, "ST")]

def mapChars (f : Char → List Char) (u : CodeUnits) : CodeUnits :=
  ⟨u.codePoints.foldl (fun units n =>
    if 0xD800 ≤ n && n ≤ 0xDFFF then units.push n.toUInt16
    else (f (Char.ofNat n)).foldl (fun acc c => pushCodePoint acc c.toNat) units) #[]⟩

def lower (u : CodeUnits) : CodeUnits := u.mapChars fun c => [lowerChar c]

def upper (u : CodeUnits) : CodeUnits :=
  u.mapChars fun c => match wideUpper.lookup c.toNat with
    | some s => s.toList
    | none => [upperChar c]

def join (separator : CodeUnits) : List CodeUnits → CodeUnits
  | [] => empty
  | u :: us => us.foldl (fun acc v => acc ++ separator ++ v) u

def concat (parts : List CodeUnits) : CodeUnits := ⟨parts.foldl (fun acc p => acc ++ p.data) #[]⟩

/-- A text `n` times. -/
def repeatTimes (u : CodeUnits) (n : Nat) : CodeUnits :=
  ⟨(List.range n).foldl (fun acc _ => acc ++ u.data) #[]⟩

end CodeUnits

end DomFlow.Text
