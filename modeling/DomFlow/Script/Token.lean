import DomFlow.Text.CharClass

/-! # Tokens

A token is read off the front of the text that remains. A position is the remaining text itself, so
that nothing is counted until a place has to be named. A slash is read as a punctuator, and a closing
brace too; whoever expects a regular expression or the rest of a template reads it from the same place. -/

namespace DomFlow.Script

/-- Text that remains to be read; as a position, the place where it begins. -/
abbrev Rest := List Char

structure Fault where
  message : String
  place : Rest
deriving Inhabited

/-- The dialect decides what the two readers of scripts disagree on. -/
structure Dialect where
  /-- `<!--` and `-->` begin comments. -/
  htmlComments : Bool := true
  /-- `await` is never a name. -/
  awaitReserved : Bool := true
  /-- A function may be the branch of an `if`. -/
  functionInIf : Bool := false
  /-- Escapes of the two halves of a pair stand for one character. -/
  joinsPairs : Bool := false
deriving DecidableEq, Repr, Inhabited

inductive Token where
  | eof
  /-- A name or a keyword; `escaped` if it was written with an escape. -/
  | word (text : String) (escaped : Bool)
  /-- A name after a hash sign. -/
  | hidden (text : String)
  /-- A number; `legacy` if it begins with a redundant zero. -/
  | num (value : Float) (legacy : Bool)
  | bigint (value : Nat)
  /-- A string; `legacy` if it has an octal escape, `plain` if it has no escape at all. -/
  | str (value : String) (legacy plain : Bool)
  /-- A string whose line ends before its closing quote. -/
  | openString (value : String)
  | punct (text : String)
  /-- The opening quote of a template. -/
  | backquote
deriving Inhabited

namespace Token

def isPunct (p : String) : Token → Bool
  | .punct q => p == q
  | _ => false

def isWord (w : String) : Token → Bool
  | .word v escaped => w == v && !escaped
  | _ => false

def isLineEnd (c : Char) : Bool :=
  c == '\n' || c == '\r' || c.toNat = 0x2028 || c.toNat = 0x2029

def isSpace (c : Char) : Bool :=
  c == ' ' || c == '\t' || c.toNat = 0xB || c.toNat = 0xC || c.toNat = 0xA0 || c.toNat = 0xFEFF ||
    (c.toNat ≥ 0x1680 && Text.Category.ofChar c == .zs)

def isWordStart (c : Char) : Bool :=
  c == '$' || c == '_' || Text.isNameStart c

def isWordPart (c : Char) : Bool :=
  c == '$' || Text.isNamePart c || c.toNat = 0x200C || c.toNat = 0x200D

/-- Where in a stretch of blanks and comments the reader stands. -/
inductive Between where
  | blank
  | lineComment
  | blockComment
deriving DecidableEq

/-- Passes over blanks and comments; tells whether a line ended, and fails in an open comment. -/
def skip (html : Bool) : Between → Bool → Rest → Option (Bool × Rest)
  | .blockComment, _, [] => none
  | .blockComment, newline, '*' :: '/' :: r => skip html .blank newline r
  | .blockComment, newline, c :: cs => skip html .blockComment (newline || isLineEnd c) cs
  | .lineComment, newline, [] => some (newline, [])
  | .lineComment, newline, c :: cs =>
    if isLineEnd c then skip html .blank true cs else skip html .lineComment newline cs
  | .blank, newline, [] => some (newline, [])
  | .blank, newline, '/' :: '/' :: r => skip html .lineComment newline r
  | .blank, newline, '/' :: '*' :: r => skip html .blockComment newline r
  | .blank, newline, '<' :: '!' :: '-' :: '-' :: r =>
    if html then skip html .lineComment newline r
    else some (newline, '<' :: '!' :: '-' :: '-' :: r)
  | .blank, newline, '-' :: '-' :: '>' :: r =>
    if html && newline then skip html .lineComment newline r
    else some (newline, '-' :: '-' :: '>' :: r)
  | .blank, newline, c :: cs =>
    if isLineEnd c then skip html .blank true cs
    else if isSpace c then skip html .blank newline cs
    else some (newline, c :: cs)

/-- A first line that begins with a hash sign and an exclamation mark is passed over. -/
def skipHashbang : Rest → Rest
  | '#' :: '!' :: cs => cs.dropWhile fun c => !isLineEnd c
  | cs => cs

/-- Reads digits of one kind; an underscore may stand between two digits only. -/
def digitRun (isDigit : Char → Bool) : Option Bool → Rest → Option (List Char × Rest)
  | afterDigit, '_' :: cs =>
    if afterDigit = some true then digitRun isDigit (some false) cs else none
  | afterDigit, c :: cs =>
    if isDigit c then (digitRun isDigit (some true) cs).map fun (ds, r) => (c :: ds, r)
    else if afterDigit = some false then none else some ([], c :: cs)
  | afterDigit, [] => if afterDigit = some false then none else some ([], [])

def digitValue (base : Nat) (ds : List Char) : Nat :=
  ds.foldl (fun n c => n * base + (Text.hexDigit? c).getD 0) 0

/-- The double nearest to `digits · 10^exponent`; far exponents are decided without computing the power. -/
def scientific (digits : Nat) (exponent : Int) : Float :=
  if digits = 0 then 0
  else if exponent > 400 then Float.ofScientific 1 false 400
  else if exponent + Int.ofNat (Nat.toDigits 10 digits).length < -400 then 0
  else if exponent < 0 then Float.ofScientific digits true exponent.natAbs
  else Float.ofScientific digits false exponent.toNat

def isOctal (c : Char) : Bool := '0' ≤ c && c ≤ '7'

/-- After a number neither a name nor a digit may follow at once. -/
def endNumber (t : Token) (start : Rest) : Rest → Except Fault (Token × Rest)
  | [] => .ok (t, [])
  | c :: cs =>
    if isWordStart c || c.isDigit || c == '\\' then
      .error ⟨"Identifier cannot follow number", start⟩
    else .ok (t, c :: cs)

def radixNumber (base : Nat) (isDigit : Char → Bool) (start cs : Rest) : Except Fault (Token × Rest) :=
  match digitRun isDigit none cs with
  | none | some ([], _) => .error ⟨"Expected number in radix " ++ toString base, start⟩
  | some (ds, 'n' :: r) => endNumber (.bigint (digitValue base ds)) start r
  | some (ds, r) => endNumber (.num (scientific (digitValue base ds) 0) false) start r

/-- The exponent part, if there is one; fails where its digits are missing. -/
def exponentPart : Rest → Option (Int × Rest)
  | c :: cs =>
    if c == 'e' || c == 'E' then
      let (negative, ds) := match cs with
        | '+' :: r => (false, r)
        | '-' :: r => (true, r)
        | r => (false, r)
      match digitRun Char.isDigit none ds with
      | none | some ([], _) => none
      | some (e, r) =>
        let n := Int.ofNat (digitValue 10 e)
        some (if negative then -n else n, r)
    else some (0, c :: cs)
  | [] => some (0, [])

/-- A decimal number: whole digits already read, then a fraction and an exponent. -/
def decimalTail (whole : List Char) (legacy : Bool) (start cs : Rest) : Except Fault (Token × Rest) :=
  let fault : Fault := ⟨"Numeric separators are only allowed between digits", start⟩
  let fraction := match cs with
    | '.' :: r => match r with
      | '_' :: _ => none
      | _ => digitRun Char.isDigit none r
    | r => some ([], r)
  match fraction with
  | none => .error fault
  | some (fs, r) =>
    match exponentPart r with
    | none => .error ⟨"Expected exponent digits", start⟩
    | some (e, r') =>
      let value := scientific (digitValue 10 (whole ++ fs)) (e - Int.ofNat fs.length)
      endNumber (.num value legacy) start r'

/-- A number that begins with a zero and a further digit. -/
def legacyNumber (start cs : Rest) : Except Fault (Token × Rest) :=
  let ds := cs.takeWhile Char.isDigit
  let r := cs.dropWhile Char.isDigit
  if ds.all isOctal then
    endNumber (.num (scientific (digitValue 8 ds) 0) true) start r
  else match r with
    | '_' :: _ => .error ⟨"Numeric separators are not allowed here", start⟩
    | _ => decimalTail ds true start r

def readNumber (cs : Rest) : Except Fault (Token × Rest) :=
  match cs with
  | '0' :: m :: r =>
    if m == 'x' || m == 'X' then radixNumber 16 (fun c => (Text.hexDigit? c).isSome) cs r
    else if m == 'o' || m == 'O' then radixNumber 8 isOctal cs r
    else if m == 'b' || m == 'B' then radixNumber 2 (fun c => c == '0' || c == '1') cs r
    else if m.isDigit then legacyNumber cs (m :: r)
    else if m == '_' then .error ⟨"Numeric separators are not allowed here", cs⟩
    else if m == 'n' then endNumber (.bigint 0) cs r
    else decimalTail ['0'] false cs (m :: r)
  | '.' :: _ => decimalTail [] false cs cs
  | _ =>
    match digitRun Char.isDigit none cs with
    | none => .error ⟨"Numeric separators are only allowed between digits", cs⟩
    | some (ds, 'n' :: r) => endNumber (.bigint (digitValue 10 ds)) cs r
    | some (ds, r) => decimalTail ds false cs r

inductive Escape where
  | text (cs : List Char)
  | octal (c : Char)
  | malformed

private def isSurrogate (n : Nat) : Bool := 0xD800 ≤ n && n ≤ 0xDFFF

/-- A code point by number; the halves of a surrogate pair denote no character and stay as written. -/
def codePoint (n : Nat) (asWritten : List Char) : Escape :=
  if n > 0x10FFFF then .malformed
  else if isSurrogate n then .text asWritten
  else .text [Char.ofNat n]

/-- A code point in braces, after the opening brace: its digits and what follows the closing one. -/
def bracedCodePoint (cs : Rest) : Escape × Rest :=
  let ds := cs.takeWhile fun c => (Text.hexDigit? c).isSome
  match cs.dropWhile (fun c => (Text.hexDigit? c).isSome), ds with
  | '\x7d' :: r, _ :: _ =>
    (codePoint (digitValue 16 ds) (['\\', 'u', '\x7b'] ++ ds ++ ['\x7d']), r)
  | r, _ => (.malformed, r)

def fourDigits : Rest → Option (List Char × Rest)
  | a :: b :: c :: d :: r =>
    if [a, b, c, d].all fun x => (Text.hexDigit? x).isSome then some ([a, b, c, d], r) else none
  | _ => none

def lowHalf? : Rest → Option (Nat × Rest)
  | '\\' :: 'u' :: r => (fourDigits r).bind fun (ds, r') =>
    let n := digitValue 16 ds
    if 0xDC00 ≤ n && n ≤ 0xDFFF then some (n, r') else none
  | _ => none

/-- A code point after `\u`; with `joins`, halves are joined to pairs, and a lone one is replaced. -/
def unicodeEscape (joins : Bool) : Rest → Escape × Rest
  | '\x7b' :: cs => bracedCodePoint cs
  | cs =>
    match fourDigits cs with
    | none => (.malformed, cs)
    | some (ds, r) =>
      let n := digitValue 16 ds
      if joins && isSurrogate n then
        match lowHalf? r with
        | some (low, r') =>
          if n < 0xDC00 then (codePoint (0x10000 + (n - 0xD800) * 0x400 + (low - 0xDC00)) [], r')
          else (.text [Char.ofNat 0xFFFD], r)
        | none => (.text [Char.ofNat 0xFFFD], r)
      else (codePoint n ('\\' :: 'u' :: ds), r)

def readEscape (joins : Bool) : Rest → Escape × Rest
  | [] => (.malformed, [])
  | '\r' :: '\n' :: r => (.text [], r)
  | c :: r =>
    if isLineEnd c then (.text [], r)
    else match c with
      | 'n' => (.text ['\n'], r)
      | 't' => (.text ['\t'], r)
      | 'r' => (.text ['\r'], r)
      | 'b' => (.text ['\x08'], r)
      | 'v' => (.text ['\x0b'], r)
      | 'f' => (.text ['\x0c'], r)
      | 'u' => unicodeEscape joins r
      | 'x' => match r with
        | a :: b :: r' =>
          if (Text.hexDigit? a).isSome && (Text.hexDigit? b).isSome then
            (.text [Char.ofNat (digitValue 16 [a, b])], r')
          else (.malformed, r)
        | _ => (.malformed, r)
      | _ =>
        if isOctal c then
          if c == '0' && !(r.head?.any Char.isDigit) then (.text ['\x00'], r)
          else
            let room := if c ≤ '3' then 2 else 1
            let more := (r.take room).takeWhile isOctal
            (.octal (Char.ofNat (digitValue 8 (c :: more))), r.drop more.length)
        else if c == '8' || c == '9' then (.octal c, r)
        else (.text [c], r)

/-- Reads the characters of a name, escapes included; `fuel` bounds their number. -/
def readWord : Nat → Bool → Rest → Option (List Char × Bool × Rest)
  | 0, _, cs => some ([], false, cs)
  | fuel + 1, first, '\\' :: 'u' :: cs =>
    match unicodeEscape false cs with
    | (.text [c], r) =>
      if (if first then isWordStart c else isWordPart c) then
        (readWord fuel false r).map fun (w, _, r') => (c :: w, true, r')
      else none
    | _ => none
  | fuel + 1, first, c :: cs =>
    if (if first then isWordStart c else isWordPart c) then
      (readWord fuel false cs).map fun (w, e, r) => (c :: w, e, r)
    else if c == '\\' then none else some ([], false, c :: cs)
  | _ + 1, _, [] => some ([], false, [])

structure StringText where
  value : List Char
  legacy : Bool
  plain : Bool
  closed : Bool

/-- Reads a string up to its closing quote or to the end of its line; `fuel` bounds its length. -/
def readString (joins : Bool) (quote : Char) (start : Rest) : Nat → Rest → Except Fault (StringText × Rest)
  | 0, cs => .ok (⟨[], false, true, false⟩, cs)
  | _ + 1, [] => .ok (⟨[], false, true, false⟩, [])
  | fuel + 1, '\\' :: cs =>
    match readEscape joins cs with
    | (.malformed, _) => .error ⟨"Invalid escape", start⟩
    | (.octal c, r) =>
      (readString joins quote start fuel r).map fun (s, r') =>
        ({ s with value := c :: s.value, legacy := true, plain := false }, r')
    | (.text t, r) =>
      (readString joins quote start fuel r).map fun (s, r') =>
        ({ s with value := t ++ s.value, plain := false }, r')
  | fuel + 1, c :: cs =>
    if c == quote then .ok (⟨[], false, true, true⟩, cs)
    else if c == '\n' || c == '\r' then .ok (⟨[], false, true, false⟩, c :: cs)
    else (readString joins quote start fuel cs).map fun (s, r) => ({ s with value := c :: s.value }, r)

/-- A piece of template text: as written, as it denotes, and whether the template ends after it. -/
structure TemplatePiece where
  raw : List Char
  cooked : Option (List Char)
  final : Bool

/-- Reads template text up to a substitution or the closing quote; `fuel` bounds its length. -/
def readTemplate (joins : Bool) (start : Rest) : Nat → Rest → Except Fault (TemplatePiece × Rest)
  | 0, _ | _ + 1, [] => .error ⟨"Unterminated template", start⟩
  | fuel + 1, c :: cs =>
    if c == '\x60' then .ok (⟨[], some [], true⟩, cs)
    else match c, cs with
      | '$', '\x7b' :: r => .ok (⟨[], some [], false⟩, r)
      | '\\', _ =>
        let (esc, r) := readEscape joins cs
        let written := (c :: cs).take (cs.length + 1 - r.length)
        let denoted := match esc with
          | .text t => some t
          | .octal _ | .malformed => none
        (readTemplate joins start fuel r).map fun (p, r') =>
          (⟨written ++ p.raw, denoted.bind fun t => p.cooked.map (t ++ ·), p.final⟩, r')
      | '\r', '\n' :: r =>
        (readTemplate joins start fuel r).map fun (p, r') =>
          (⟨'\n' :: p.raw, p.cooked.map ('\n' :: ·), p.final⟩, r')
      | _, _ =>
        let c' := if c == '\r' then '\n' else c
        (readTemplate joins start fuel cs).map fun (p, r) =>
          (⟨c' :: p.raw, p.cooked.map (c' :: ·), p.final⟩, r)

/-- Reads the body of a regular expression after its opening slash. -/
def readRegexBody (start : Rest) : Bool → Rest → Except Fault (List Char × Rest)
  | _, [] => .error ⟨"Unterminated regexp literal", start⟩
  | inClass, '\\' :: c :: cs =>
    if isLineEnd c then .error ⟨"Unterminated regexp literal", start⟩
    else (readRegexBody start inClass cs).map fun (b, r) => ('\\' :: c :: b, r)
  | inClass, c :: cs =>
    if isLineEnd c then .error ⟨"Unterminated regexp literal", start⟩
    else if c == '/' && !inClass then .ok ([], cs)
    else
      let inClass' := if c == '[' then true else if c == ']' then false else inClass
      (readRegexBody start inClass' cs).map fun (b, r) => (c :: b, r)

/-- Reads a regular expression from its opening slash: body, flags and the rest. -/
def readRegex (cs : Rest) : Except Fault (String × String × Rest) := do
  let (body, r) ← readRegexBody cs false (cs.drop 1)
  let flags := r.takeWhile isWordPart
  let known := flags.all (fun c => "dgimsuvy".toList.contains c) && flags.Nodup
  if !known then throw ⟨"Unknown regular expression flags.", cs⟩
  return (String.ofList body, String.ofList flags, r.dropWhile isWordPart)

def punctuators : List String := [
  ">>>=", "...", "===", "!==", "**=", "<<=", ">>=", ">>>", "&&=", "||=", "??=",
  "=>", "==", "!=", "<=", ">=", "++", "--", "<<", ">>", "&&", "||", "??", "?.",
  "+=", "-=", "*=", "/=", "%=", "&=", "|=", "^=", "**",
  "\x7b", "\x7d", "(", ")", "[", "]", ";", ",", "<", ">", "+", "-", "*", "/", "%", "&", "|", "^",
  "!", "~", "?", ":", "=", ".", "@"]

private def punctuatorChars : List (String × List Char) :=
  punctuators.map fun p => (p, p.toList)

def after? : List Char → Rest → Option Rest
  | [], cs => some cs
  | p :: ps, c :: cs => if p = c then after? ps cs else none
  | _ :: _, [] => none

def readPunct (cs : Rest) : Option (String × Rest) :=
  punctuatorChars.findSome? fun (name, chars) =>
    match after? chars cs with
    | none => none
    | some r =>
      -- a question mark and a point before a digit are a conditional and a fraction
      if name == "?." && r.head?.any Char.isDigit then none else some (name, r)

/-- Reads the token at the front of a text without leading blanks; `fuel` bounds its length. -/
def read (joins : Bool) (fuel : Nat) (cs : Rest) : Except Fault (Token × Rest) :=
  match cs with
  | [] => .ok (.eof, [])
  | c :: r =>
    if c.isDigit || (c == '.' && r.head?.any Char.isDigit) then readNumber cs
    else if c == '\x22' || c == '\x27' then
      (readString joins c cs fuel r).map fun (s, r') =>
        let value := String.ofList s.value
        (if s.closed then .str value s.legacy s.plain else .openString value, r')
    else if c == '\x60' then .ok (.backquote, r)
    else if c == '#' then
      match readWord fuel true r with
      | some (w@(_ :: _), _, r') => .ok (.hidden (String.ofList w), r')
      | _ => .error ⟨"Unexpected character '#'", cs⟩
    else if isWordStart c || c == '\\' then
      match readWord fuel true cs with
      | some (w@(_ :: _), escaped, r') => .ok (.word (String.ofList w) escaped, r')
      | _ => .error ⟨"Invalid unicode escape", cs⟩
    else match readPunct cs with
      | some (p, r') => .ok (.punct p, r')
      | none => .error ⟨"Unexpected character", cs⟩

end Token

end DomFlow.Script
