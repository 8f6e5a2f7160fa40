import DomFlow.Text.Category
import DomFlow.Toml.Value

/-! # Strings, numbers and dates of TOML

Each reader takes a value from the front of the text and leaves the rest, or refuses the text. -/

namespace DomFlow.Toml

abbrev Reader (α : Type) := List Char → Option (α × List Char)

/-- Characters that text may hold as they are: a tab, and whatever is no control character. -/
def isTextChar (c : Char) : Bool :=
  c == '\t' || (0x20 ≤ c.toNat && c.toNat ≤ 0x7E) || 0x80 ≤ c.toNat

def isBlank (c : Char) : Bool := c == ' ' || c == '\t'

def skipBlanks (cs : List Char) : List Char := cs.dropWhile isBlank

def newline? : List Char → Option (List Char)
  | '\n' :: r => some r
  | '\r' :: '\n' :: r => some r
  | _ => none

def codeChar (count : Nat) (cs : List Char) : Option (Char × List Char) := do
  guard (count ≤ cs.length)
  let ds ← (cs.take count).mapM Text.hexDigit?
  let n := ds.foldl (fun n d => n * 16 + d) 0
  guard (n < 0xD800 || (0xE000 ≤ n && n ≤ 0x10FFFF))
  return (Char.ofNat n, cs.drop count)

def escaped : Reader Char
  | 'b' :: r => some ('\x08', r)
  | 't' :: r => some ('\t', r)
  | 'n' :: r => some ('\n', r)
  | 'f' :: r => some ('\x0c', r)
  | 'r' :: r => some ('\r', r)
  | '\x22' :: r => some ('\x22', r)
  | '\\' :: r => some ('\\', r)
  | 'u' :: r => codeChar 4 r
  | 'U' :: r => codeChar 8 r
  | _ => none

/-- A string on one line, after its opening quote; `acc` holds what was read, last first, and `fuel` bounds
the length. -/
def basicString : Nat → List Char → Reader String
  | 0, _, _ => none
  | _ + 1, _, [] => none
  | fuel + 1, acc, c :: r =>
    if c == '\x22' then some (String.ofList acc.reverse, r)
    else if c == '\\' then match escaped r with
      | some (e, r') => basicString fuel (e :: acc) r'
      | none => none
    else if isTextChar c then basicString fuel (c :: acc) r
    else none

/-- A string without escapes on one line, after its opening quote. -/
def literalString (cs : List Char) : Option (String × List Char) :=
  let body := cs.takeWhile fun c => c != '\x27'
  match cs.dropWhile fun c => c != '\x27' with
  | _ :: r => if body.all isTextChar then some (String.ofList body, r) else none
  | [] => none

def skipLines : List Char → List Char
  | ' ' :: r | '\t' :: r | '\n' :: r => skipLines r
  | '\r' :: '\n' :: r => skipLines r
  | cs => cs

/-- A string over lines, after its first line end; `quote` closes it when written three times, and only in
one with escapes a backslash has a meaning. -/
def longString (quote : Char) (escapes : Bool) : Nat → List Char → Reader String
  | 0, _, _ => none
  | _ + 1, _, [] => none
  | fuel + 1, acc, c :: r =>
    if c == quote then
      let count := min 5 ((c :: r).takeWhile (· == quote)).length
      let rest := (c :: r).drop count
      if 3 ≤ count then some (String.ofList (List.replicate (count - 3) quote ++ acc).reverse, rest)
      else longString quote escapes fuel (List.replicate count quote ++ acc) rest
    else if escapes && c == '\\' then
      match newline? (skipBlanks r) with
      | some r' => longString quote escapes fuel acc (skipLines r')
      | none => match escaped r with
        | some (e, r') => longString quote escapes fuel (e :: acc) r'
        | none => none
    else match newline? (c :: r) with
      | some r' => longString quote escapes fuel ('\n' :: acc) r'
      | none => if isTextChar c then longString quote escapes fuel (c :: acc) r else none

/-- What follows the line end that a long string may start with. -/
def afterFirstLine (cs : List Char) : List Char := (newline? cs).getD cs

def string : Reader String
  | '\x22' :: '\x22' :: '\x22' :: r => longString '\x22' true (r.length + 1) [] (afterFirstLine r)
  | '\x22' :: r => basicString (r.length + 1) [] r
  | '\x27' :: '\x27' :: '\x27' :: r => longString '\x27' false (r.length + 1) [] (afterFirstLine r)
  | '\x27' :: r => literalString r
  | _ => none

def moreDigits (isDigit : Char → Bool) : List Char → List Char × List Char
  | [] => ([], [])
  | [c] => if isDigit c then ([c], []) else ([], [c])
  | c :: d :: r =>
    if isDigit c then
      let (ds, rest) := moreDigits isDigit (d :: r)
      (c :: ds, rest)
    else if c == '_' && isDigit d then
      let (ds, rest) := moreDigits isDigit r
      (d :: ds, rest)
    else ([], c :: d :: r)

def digits (isDigit : Char → Bool) : Reader (List Char)
  | c :: r => if isDigit c then some (c :: (moreDigits isDigit r).1, (moreDigits isDigit r).2) else none
  | [] => none

def sign : List Char → Bool × List Char
  | '-' :: r => (true, r)
  | '+' :: r => (false, r)
  | cs => (false, cs)

def plainDigits : Reader (List Char)
  | '0' :: r => some (['0'], r)
  | cs => digits Char.isDigit cs

def valueOf (base : Nat) (ds : List Char) : Nat := ds.foldl (fun n c => n * base + (Text.hexDigit? c).getD 0) 0

/-- An integer in the range of 64 bits with a sign. -/
def inRange (n : Int) : Option Int := if -9223372036854775808 ≤ n ∧ n < 9223372036854775808 then some n else none

def basedInteger (base : Nat) (isDigit : Char → Bool) (cs : List Char) : Option (Int × List Char) := do
  let (ds, r) ← digits isDigit cs
  return (← inRange (valueOf base ds), r)

def isHexDigit (c : Char) : Bool := (Text.hexDigit? c).isSome

def isOctalDigit (c : Char) : Bool := '0' ≤ c && c ≤ '7'

def isBinaryDigit (c : Char) : Bool := c == '0' || c == '1'

def integer : Reader Int
  | '0' :: 'x' :: r => basedInteger 16 isHexDigit r
  | '0' :: 'o' :: r => basedInteger 8 isOctalDigit r
  | '0' :: 'b' :: r => basedInteger 2 isBinaryDigit r
  | cs => do
    let (negative, r) := sign cs
    let (ds, r) ← plainDigits r
    let n : Int := valueOf 10 ds
    return (← inRange (if negative then -n else n), r)

def exponent : Reader (List Char)
  | 'e' :: r | 'E' :: r =>
    let (negative, r) := sign r
    (digits Char.isDigit r).map fun (ds, r) => ((if negative then '-' :: ds else ds), r)
  | _ => none

def fraction : Reader (List Char)
  | '.' :: r => digits Char.isDigit r
  | _ => none

/-- The value of an exponent with its sign, cut where any number is beyond the range of floats. -/
def exponentValue (ds : List Char) : Int :=
  match ds with
  | '-' :: r => -(min (valueOf 10 r) 100000 : Nat)
  | r => (min (valueOf 10 r) 100000 : Nat)

/-- Whether digits with a fraction and an exponent round to a finite float: below half a step over the
largest one. -/
def isFinite (whole frac : List Char) (e : Int) : Bool :=
  let n := valueOf 10 (whole ++ frac)
  let e := e - frac.length
  let bound := Nat.pow 2 1024 - Nat.pow 2 970
  if e ≥ 0 then n == 0 || (e.toNat ≤ 400 && n * Nat.pow 10 e.toNat < bound) else n < bound * Nat.pow 10 (-e).toNat

/-- A number with a fraction or an exponent. One that is too large is refused unless it is negative. -/
def float (cs : List Char) : Option (String × List Char) := do
  let (negative, r) := sign cs
  match r with
  | 'i' :: 'n' :: 'f' :: r => return (if negative then "-inf" else "inf", r)
  | 'n' :: 'a' :: 'n' :: r => return ("nan", r)
  | _ =>
    let (whole, r) ← plainDigits r
    let (frac, exp, rest) ← match exponent r with
      | some (e, r) => some (([] : List Char), e, r)
      | none => match fraction r with
        | some (f, r) => match exponent r with
          | some (e, r) => some (f, e, r)
          | none => some (f, [], r)
        | none => none
    guard (negative || isFinite whole frac (exponentValue exp))
    return (String.ofList (cs.take (cs.length - rest.length)), rest)

def fixedNumber (count low high : Nat) (cs : List Char) : Option (Nat × List Char) := do
  let ds := cs.take count
  guard (ds.length == count && ds.all Char.isDigit)
  let n := valueOf 10 ds
  guard (low ≤ n && n ≤ high)
  return (n, cs.drop count)

def mark (c : Char) : List Char → Option (List Char)
  | d :: r => if c == d then some r else none
  | [] => none

def isLeapYear (year : Nat) : Bool := year % 4 == 0 && (year % 100 != 0 || year % 400 == 0)

def daysInMonth (year month : Nat) : Nat :=
  if month == 2 then (if isLeapYear year then 29 else 28)
  else if month == 4 || month == 6 || month == 9 || month == 11 then 30
  else 31

def afterDate? (cs : List Char) : Option (List Char) := do
  let (year, r) ← fixedNumber 4 0 9999 cs
  let (month, r) ← fixedNumber 2 1 12 (← mark '-' r)
  let (_, r) ← fixedNumber 2 1 (daysInMonth year month) (← mark '-' r)
  return r

def afterTime? (cs : List Char) : Option (List Char) := do
  let (_, r) ← fixedNumber 2 0 23 cs
  let (_, r) ← fixedNumber 2 0 59 (← mark ':' r)
  let (_, r) ← fixedNumber 2 0 60 (← mark ':' r)
  match r with
  | '.' :: d :: r' => return if d.isDigit then r'.dropWhile Char.isDigit else r
  | _ => return r

/-- What follows the offset of a time zone, if there is one. -/
def afterOffset (cs : List Char) : List Char :=
  match cs with
  | 'Z' :: r | 'z' :: r => r
  | '+' :: r | '-' :: r =>
    (do
      let (_, r) ← fixedNumber 2 0 23 r
      let (_, r) ← fixedNumber 2 0 59 (← mark ':' r)
      return r : Option (List Char)).getD cs
  | _ => cs

def moment (cs : List Char) : Option (String × List Char) := do
  let rest ← match afterDate? cs with
    | some (d :: r) =>
      if d == 'T' || d == 't' || d == ' ' then match afterTime? r with
        | some r' => some (afterOffset r')
        | none => some (d :: r)
      else some (d :: r)
    | some [] => some []
    | none => afterTime? cs
  return (String.ofList (cs.take (cs.length - rest.length)), rest)

def scalar (cs : List Char) : Option (Value × List Char) :=
  match cs with
  | [] => none
  | c :: _ =>
    if c == '\x22' || c == '\x27' then (string cs).map fun (s, r) => (.text s, r)
    else if c == '+' || c == '-' || c.isDigit then
      match moment cs with
      | some (t, r) => some (.moment t, r)
      | none => match float cs with
        | some (t, r) => some (.float t, r)
        | none => (integer cs).map fun (n, r) => (.integer n, r)
    else match cs with
      | 't' :: 'r' :: 'u' :: 'e' :: r => some (.bool true, r)
      | 'f' :: 'a' :: 'l' :: 's' :: 'e' :: r => some (.bool false, r)
      | 'i' :: 'n' :: 'f' :: r => some (.float "inf", r)
      | 'n' :: 'a' :: 'n' :: r => some (.float "nan", r)
      | _ => none

end DomFlow.Toml
