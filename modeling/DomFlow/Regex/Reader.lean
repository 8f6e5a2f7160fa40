import DomFlow.Regex.Property

/-! # Reading regular expressions

The expression is read in one pass. Flags hold from where they stand to the end of their group. A
property that is not known is an error only if the expression is otherwise well formed. -/

namespace DomFlow

namespace RegexText

inductive Fault where
  | groupUnclosed
  | groupUnopened
  | groupNameEmpty
  | groupNameInvalid
  | groupNameUnclosed
  | groupNameRepeated
  | classUnclosed
  | classEscape
  | classRangeOrder
  | classRangeLiteral
  | repetitionMissing
  | repetitionOrder
  | repetitionDecimal
  | repetitionUnclosed
  | decimalInvalid
  | escapeEnd
  | escapeUnknown
  | hexEmpty
  | hexDigit
  | hexScalar
  | lookAround
  | backreference
  | flagUnknown
  | flagRepeated
  | flagEnd
  | negationDangling
  | negationRepeated
  | propertyForm
  | propertyUnknown
  | propertyValueUnknown
  | boundaryEnd
  | boundaryUnclosed
  | boundaryUnknown
deriving DecidableEq, Repr, Inhabited

def Fault.message : Fault → String
  | groupUnclosed => "unclosed group"
  | groupUnopened => "unopened group"
  | groupNameEmpty => "empty capture group name"
  | groupNameInvalid => "invalid capture group character"
  | groupNameUnclosed => "unclosed capture group name"
  | groupNameRepeated => "duplicate capture group name"
  | classUnclosed => "unclosed character class"
  | classEscape => "invalid escape sequence found in character class"
  | classRangeOrder => "invalid character class range, the start must be <= the end"
  | classRangeLiteral => "invalid range boundary, must be a literal"
  | repetitionMissing => "repetition operator missing expression"
  | repetitionOrder => "invalid repetition count range, the start must be <= the end"
  | repetitionDecimal => "repetition quantifier expects a valid decimal"
  | repetitionUnclosed => "unclosed counted repetition"
  | decimalInvalid => "decimal literal invalid"
  | escapeEnd => "incomplete escape sequence, reached end of pattern prematurely"
  | escapeUnknown => "unrecognized escape sequence"
  | hexEmpty => "hexadecimal literal empty"
  | hexDigit => "invalid hexadecimal digit"
  | hexScalar => "hexadecimal literal is not a Unicode scalar value"
  | lookAround => "look-around, including look-ahead and look-behind, is not supported"
  | backreference => "backreferences are not supported"
  | flagUnknown => "unrecognized flag"
  | flagRepeated => "duplicate flag"
  | flagEnd => "expected flag but got end of regex"
  | negationDangling => "dangling flag negation operator"
  | negationRepeated => "flag negation operator repeated"
  | propertyForm => "invalid Unicode character class"
  | propertyUnknown => "Unicode property not found"
  | propertyValueUnknown => "Unicode property value not found"
  | boundaryEnd => "found either the beginning of a special word boundary or a bounded repetition on a \\b with an opening brace, but no closing brace"
  | boundaryUnclosed => "special word boundary assertion is either unclosed or contains an invalid character"
  | boundaryUnknown => "unrecognized special word boundary assertion, valid choices are: start, end, start-half or end-half"

structure Flags where
  anyCase : Bool := false
  multiLine : Bool := false
  dotAll : Bool := false
  verbose : Bool := false
  unicode : Bool := true
deriving DecidableEq, Repr, Inhabited

structure ReaderState where
  rest : List Char
  flags : Flags := {}
  names : List String := []
  /-- The first error that counts only if the expression is otherwise well formed. -/
  deferred : Option Fault := none
deriving Inhabited

abbrev Reader := StateT ReaderState (Except Fault)

def peek : Reader (Option Char) := do
  return (← get).rest.head?

def bump : Reader Unit :=
  modify fun s => { s with rest := s.rest.tail }

def skipVerbose : Bool → List Char → List Char
  | _, [] => []
  | true, c :: cs => skipVerbose (c != '\n') cs
  | false, c :: cs =>
    if Text.isBlank c then skipVerbose false cs
    else if c == '#' then skipVerbose true cs
    else c :: cs

def skipSpace : Reader Unit :=
  modify fun s => if s.flags.verbose then { s with rest := skipVerbose false s.rest } else s

/-- Passes over a character and over blanks where they do not count; tells whether text remains. -/
def bumpSpace : Reader Bool := do
  bump
  skipSpace
  return (← peek).isSome

def accept (text : List Char) : Reader Bool := do
  let s ← get
  if text.isPrefixOf s.rest then
    set { s with rest := s.rest.drop text.length }
    return true
  else return false

def defer (f : Fault) : Reader Unit :=
  modify fun s => { s with deferred := s.deferred <|> some f }

def cased (s : CharSet) : Reader CharSet := do
  return if (← get).flags.anyCase then .anyCase s else s

def asciiRanges (rs : List (Char × Char)) : CharSet :=
  rs.foldr (fun r s => .union (.range r.1 r.2) s) .nothing

def asciiDigit : CharSet := asciiRanges [('0', '9')]
def asciiSpace : CharSet := asciiRanges [('\t', '\r'), (' ', ' ')]
def asciiWord : CharSet := asciiRanges [('0', '9'), ('A', 'Z'), ('_', '_'), ('a', 'z')]

def letterClass (unicode : Bool) (c : Char) : CharSet :=
  match c with
  | 'd' => if unicode then .property .digit else asciiDigit
  | 'D' => .compl (if unicode then .property .digit else asciiDigit)
  | 's' => if unicode then .property .blank else asciiSpace
  | 'S' => .compl (if unicode then .property .blank else asciiSpace)
  | 'w' => if unicode then .property .word else asciiWord
  | _ => .compl (if unicode then .property .word else asciiWord)

def asciiClass? : String → Option CharSet
  | "alnum" => some (asciiRanges [('0', '9'), ('A', 'Z'), ('a', 'z')])
  | "alpha" => some (asciiRanges [('A', 'Z'), ('a', 'z')])
  | "ascii" => some (asciiRanges [('\x00', '\x7f')])
  | "blank" => some (asciiRanges [('\t', '\t'), (' ', ' ')])
  | "cntrl" => some (asciiRanges [('\x00', '\x1f'), ('\x7f', '\x7f')])
  | "digit" => some asciiDigit
  | "graph" => some (asciiRanges [('!', '~')])
  | "lower" => some (asciiRanges [('a', 'z')])
  | "print" => some (asciiRanges [(' ', '~')])
  | "punct" => some (asciiRanges [('!', '/'), (':', '@'), ('[', '\x60'), ('\x7b', '~')])
  | "space" => some asciiSpace
  | "upper" => some (asciiRanges [('A', 'Z')])
  | "word" => some asciiWord
  | "xdigit" => some (asciiRanges [('0', '9'), ('A', 'F'), ('a', 'f')])
  | _ => none

inductive Atom where
  | char (c : Char)
  | set (s : CharSet)
  | look (l : Look)

def isMeta (c : Char) : Bool :=
  ['\\', '.', '+', '*', '?', '(', ')', '|', '[', ']', '\x7b', '\x7d', '^', '$', '#', '&', '-', '~'].contains c

/-- Characters that a backslash may stand before without giving them a meaning. -/
def isEscapeable (c : Char) : Bool :=
  isMeta c || (c.toNat < 0x80 && !c.isAlphanum && c != '<' && c != '>')

def scalar (n : Nat) : Reader Atom :=
  if n < 0xD800 || (0xE000 ≤ n && n ≤ 0x10FFFF) then return .char (Char.ofNat n)
  else throw .hexScalar

/-- A fixed number of hexadecimal digits, the first of which is the current character. -/
def hexDigits : Nat → Nat → Reader Nat
  | 0, n => return n
  | count + 1, n => do
    match (← peek).bind Text.hexDigit? with
    | none => throw .hexDigit
    | some d =>
      let more ← bumpSpace
      if count ≠ 0 && !more then throw .escapeEnd
      hexDigits count (n * 16 + d)

/-- Hexadecimal digits up to a closing brace, which is passed over. -/
def hexBraced : Nat → List Nat → Reader (List Nat)
  | 0, _ => throw .escapeEnd
  | fuel + 1, acc => do
    match ← peek with
    | none => throw .escapeEnd
    | some '\x7d' =>
      bump
      return acc.reverse
    | some c =>
      match Text.hexDigit? c with
      | none => throw .hexDigit
      | some d =>
        let _ ← bumpSpace
        hexBraced fuel (d :: acc)

/-- The number after `\x`, `\u` or `\U`. -/
def hexEscape (count : Nat) : Reader Atom := do
  unless ← bumpSpace do throw .escapeEnd
  if (← peek) = some '\x7b' then
    let _ ← bumpSpace
    let ds ← hexBraced ((← get).rest.length + 1) []
    if ds.isEmpty then throw .hexEmpty
    if 8 < (ds.dropWhile (· = 0)).length then throw .hexScalar
    scalar (ds.foldl (fun n d => n * 16 + d) 0)
  else scalar (← hexDigits count 0)

/-- The characters up to a closing brace, which is passed over. -/
def bracedName : Nat → List Char → Reader (List Char)
  | 0, _ => throw .escapeEnd
  | fuel + 1, acc => do
    match ← peek with
    | none => throw .escapeEnd
    | some '\x7d' =>
      bump
      return acc.reverse
    | some c =>
      let _ ← bumpSpace
      bracedName fuel (c :: acc)

def namedProperty (name : List Char) : Except Fault (Bool × CharSet) :=
  let split := fun (c : Char) => (name.takeWhile (· != c), (name.dropWhile (· != c)).tail)
  let lookup := fun (negated : Bool) (k v : List Char) =>
    let key := CharProperty.looseName k
    match CharProperty.ofNameValue? key (CharProperty.looseName v) with
    | some s => Except.ok (negated, s)
    | none =>
      if ["gc", "generalcategory", "sc", "script", "scx", "scriptextensions"].contains key then
        .error .propertyValueUnknown
      else .error .propertyUnknown
  if name.contains ':' then lookup false (split ':').1 (split ':').2
  else if name.contains '=' then
    let (k, v) := split '='
    if k.getLast? = some '!' then lookup true k.dropLast v else lookup false k v
  else match CharProperty.ofName? (CharProperty.looseName name) with
    | some s => .ok (false, s)
    | none => .error .propertyUnknown

/-- The property after `\p` or `\P`. -/
def propertyEscape (negated : Bool) : Reader Atom := do
  unless ← bumpSpace do throw .escapeEnd
  let name ← if (← peek) = some '\x7b' then do
      let _ ← bumpSpace
      bracedName ((← get).rest.length + 1) []
    else do
      match ← peek with
      | some '\\' => throw .propertyForm
      | some c =>
        let _ ← bumpSpace
        pure [c]
      | none => throw .escapeEnd
  match namedProperty name with
  | .error f =>
    defer f
    return .set .nothing
  | .ok (valueNegated, s) =>
    let s ← cased s
    return .set (if negated != valueNegated then .compl s else s)

/-- After `\b`, the kind of boundary in braces; nothing is read if they hold a count. -/
def boundaryKind : Reader Look := do
  let saved ← get
  if (← peek) ≠ some '\x7b' then return .wordBoundary
  unless ← bumpSpace do throw .boundaryEnd
  let isKindChar := fun (c : Char) => c.isAlpha || c == '-'
  if !(← peek).any isKindChar then
    set saved
    return .wordBoundary
  let s ← get
  let kept := if s.flags.verbose then s.rest.filter (fun c => !Text.isBlank c) else s.rest
  let name := kept.takeWhile isKindChar
  match kept.dropWhile isKindChar with
  | '\x7d' :: after =>
    set { s with rest := after }
    match String.ofList name with
    | "start" => return .wordStart
    | "end" => return .wordEnd
    | "start-half" => return .wordStartHalf
    | "end-half" => return .wordEndHalf
    | _ => throw .boundaryUnknown
  | _ => throw .boundaryUnclosed

def escape : Reader Atom := do
  bump
  match ← peek with
  | none => throw .escapeEnd
  | some c =>
    if c.isDigit then throw .backreference
    match c with
    | 'x' => hexEscape 2
    | 'u' => hexEscape 4
    | 'U' => hexEscape 8
    | 'p' => propertyEscape false
    | 'P' => propertyEscape true
    | _ =>
      bump
      if ['d', 'D', 's', 'S', 'w', 'W'].contains c then
        return .set (letterClass (← get).flags.unicode c)
      if isEscapeable c then return .char c
      match c with
      | 'a' => return .char '\x07'
      | 'f' => return .char '\x0c'
      | 't' => return .char '\t'
      | 'n' => return .char '\n'
      | 'r' => return .char '\r'
      | 'v' => return .char '\x0b'
      | 'A' => return .look .textStart
      | 'z' => return .look .textEnd
      | 'b' => return .look (← boundaryKind)
      | 'B' => return .look .notWordBoundary
      | '<' => return .look .wordStart
      | '>' => return .look .wordEnd
      | _ => throw .escapeUnknown

/-- An element of a bracketed set that may be the end of a range. -/
def classAtom : Reader Atom := do
  match ← peek with
  | none => throw .classUnclosed
  | some '\\' => escape
  | some c =>
    bump
    return .char c

def Atom.toSet : Atom → Except Fault CharSet
  | .char c => .ok (.single c)
  | .set s => .ok s
  | .look _ => .error .classEscape

/-- The character after the next one, blanks aside where they do not count. -/
def peekAfter : Reader (Option Char) := do
  let s ← get
  let rest := s.rest.tail
  return (if s.flags.verbose then skipVerbose false rest else rest).head?

def classRange : Reader CharSet := do
  let first ← classAtom
  skipSpace
  match ← peek with
  | none => throw .classUnclosed
  | some c =>
    let next ← peekAfter
    if c ≠ '-' || next = some ']' || next = some '-' then return ← first.toSet
    unless ← bumpSpace do throw .classUnclosed
    let second ← classAtom
    match first, second with
    | .char low, .char high =>
      if high < low then throw .classRangeOrder
      return .range low high
    | _, _ => throw .classRangeLiteral

/-- A class between colons, from its opening bracket on, if there is one. -/
def colonClass? : Reader (Option CharSet) := do
  let s ← get
  match s.rest with
  | '[' :: ':' :: r =>
    let (negated, body) := match r with
      | '^' :: r' => (true, r')
      | _ => (false, r)
    let name := body.takeWhile (· != ':')
    match body.dropWhile (· != ':') with
    | ':' :: ']' :: after =>
      match asciiClass? (String.ofList name) with
      | some set =>
        modify fun t => { t with rest := after }
        return some (if negated then .compl set else set)
      | none => return none
    | _ => return none
  | _ => return none

inductive SetOp where
  | inter
  | diff
  | symmetric

def SetOp.apply : SetOp → CharSet → CharSet → CharSet
  | .inter, s, t => .inter s t
  | .diff, s, t => .inter s (.compl t)
  | .symmetric, s, t => .union (.inter s (.compl t)) (.inter t (.compl s))

/-- Leading hyphens of a bracketed set, which stand for themselves. -/
def leadingHyphens : Nat → CharSet → Reader CharSet
  | 0, s => return s
  | fuel + 1, s => do
    if (← peek) = some '-' then
      unless ← bumpSpace do throw .classUnclosed
      leadingHyphens fuel (.union s (.single '-'))
    else return s

mutual

/-- The inside of a bracketed set up to its closing bracket. `left` is the result of the operators read
so far, `union` what the current operand holds. -/
def classBody : Nat → Option (CharSet × SetOp) → CharSet → Reader CharSet
  | 0, _, _ => throw .classUnclosed
  | fuel + 1, left, union => do
    skipSpace
    let combined := fun (s : CharSet) => match left with
      | none => s
      | some (t, op) => op.apply t s
    let operator := fun (op : SetOp) => do
      bump
      bump
      let operand ← cased union
      classBody fuel (some (combined operand, op)) .nothing
    match ← peek with
    | none => throw .classUnclosed
    | some '[' =>
      match ← colonClass? with
      | some s => classBody fuel left (.union union s)
      | none => classBody fuel left (.union union (← bracketed fuel))
    | some ']' =>
      bump
      return combined union
    | some c =>
      let next := (← get).rest.tail.head?
      if c = '&' && next = some '&' then operator .inter
      else if c = '-' && next = some '-' then operator .diff
      else if c = '~' && next = some '~' then operator .symmetric
      else classBody fuel left (.union union (← classRange))

def bracketed : Nat → Reader CharSet
  | 0 => throw .classUnclosed
  | fuel + 1 => do
    unless ← bumpSpace do throw .classUnclosed
    let negated := (← peek) = some '^'
    if negated then unless ← bumpSpace do throw .classUnclosed
    let hyphens ← leadingHyphens fuel .nothing
    let start ← if hyphens = .nothing && (← peek) = some ']' then do
        unless ← bumpSpace do throw .classUnclosed
        pure (CharSet.single ']')
      else pure hyphens
    let body ← cased (← classBody fuel none start)
    return if negated then .compl body else body

end

def decimal? : Reader (Except Fault Nat) := do
  let blanks : Reader Unit := modify fun s => { s with rest := s.rest.dropWhile Text.isBlank }
  blanks
  let s ← get
  let kept := if s.flags.verbose then skipVerbose false s.rest else s.rest
  let ds := kept.takeWhile Char.isDigit
  set { s with rest := kept.drop ds.length }
  skipSpace
  blanks
  if ds.isEmpty then return .error .repetitionDecimal
  let n := ds.foldl (fun n c => n * 10 + (c.toNat - 48)) 0
  return if n < 4294967296 then .ok n else .error .decimalInvalid

/-- An expression between `least` and `most` times. -/
def counted (r : Regex) (least : Nat) : Option Nat → Regex
  | none => .seq (.times least r) (.star r)
  | some most => .seq (.times least r) (.upTo (most - least) r)

def countBounds : Reader (Nat × Option Nat) := do
  unless ← bumpSpace do throw .repetitionUnclosed
  let least ← decimal?
  let bounds ← match ← peek with
    | none => throw .repetitionUnclosed
    | some ',' =>
      unless ← bumpSpace do throw .repetitionUnclosed
      if (← peek) ≠ some '\x7d' then
        let low ← least
        let high ← decimal?
        pure (low, some (← high))
      else pure (← least, none)
    | some _ => do
      let n ← least
      pure (n, some n)
  unless (← peek) = some '\x7d' do throw .repetitionUnclosed
  return bounds

/-- A question mark after a repetition, which changes nothing here. -/
def lazyMark : Reader Unit := do
  if (← peek) = some '?' then bump

def isCaptureChar (first : Bool) (c : Char) : Bool :=
  c == '_' || CharProperty.alphabetic.holds c ||
    (!first && (c == '.' || c == '[' || c == ']' || c.isDigit || (Text.Category.ofChar c).isNumber))

/-- The name of a group up to the closing angle bracket, which is passed over. -/
def captureName : Nat → Bool → List Char → Reader (List Char)
  | 0, _, _ => throw .groupNameUnclosed
  | fuel + 1, first, acc => do
    match ← peek with
    | none => throw .groupNameUnclosed
    | some '>' =>
      bump
      return acc.reverse
    | some c =>
      unless isCaptureChar first c do throw .groupNameInvalid
      bump
      captureName fuel false (c :: acc)

def nameGroup : Reader Unit := do
  let name := String.ofList (← captureName ((← get).rest.length + 1) true [])
  if name.isEmpty then throw .groupNameEmpty
  if (← get).names.contains name then throw .groupNameRepeated
  modify fun s => { s with names := name :: s.names }

/-- Flags up to a colon or a closing parenthesis, which is left to be read. -/
def flagList : Nat → Bool → List Char → Bool → Flags → Reader (Flags × Bool)
  | 0, _, _, _, _ => throw .flagEnd
  | fuel + 1, negated, seen, dangling, flags => do
    match ← peek with
    | none => throw .flagEnd
    | some ':' | some ')' =>
      if dangling then throw .negationDangling
      return (flags, seen.isEmpty && !negated)
    | some '-' =>
      if negated then throw .negationRepeated
      bump
      if (← peek).isNone then throw .flagEnd
      flagList fuel true seen true flags
    | some c =>
      let value := !negated
      let flags' ← match c with
        | 'i' => pure { flags with anyCase := value }
        | 'm' => pure { flags with multiLine := value }
        | 's' => pure { flags with dotAll := value }
        | 'u' => pure { flags with unicode := value }
        | 'x' => pure { flags with verbose := value }
        | 'U' | 'R' => pure flags
        | _ => throw .flagUnknown
      if seen.contains c then throw .flagRepeated
      bump
      if (← peek).isNone then throw .flagEnd
      flagList fuel negated (c :: seen) false flags'

/-- What has been read of a sequence: expressions, and flags that stand between them. -/
inductive Item where
  | expr (r : Regex)
  | flags

def Item.regex : Item → Regex
  | .expr r => r
  | .flags => .empty

/-- The sequence of the items, the latest of which comes first. -/
def sequence (items : List Item) : Regex :=
  items.foldl (fun r i => match r with
    | .empty => i.regex
    | _ => .seq i.regex r) .empty

def repeated : List Item → Except Fault (Regex × List Item)
  | .expr r :: items => .ok (r, items)
  | _ => .error .repetitionMissing

/-- The opening of a group, from its parenthesis on: whether it has a body. -/
def openGroup : Reader Bool := do
  bump
  skipSpace
  let rest := (← get).rest
  if [['?', '='], ['?', '!'], ['?', '<', '='], ['?', '<', '!']].any (·.isPrefixOf rest) then
    throw .lookAround
  if ← accept ['?', 'P', '<'] then
    nameGroup
    return true
  if ← accept ['?', '<'] then
    nameGroup
    return true
  if ← accept ['?'] then
    if (← peek).isNone then throw .groupUnclosed
    let (flags, none_) ← flagList ((← get).rest.length + 1) false [] false (← get).flags
    let close ← peek
    bump
    if close = some ')' && none_ then throw .repetitionMissing
    modify fun s => { s with flags }
    return close ≠ some ')'
  return true

def primitive (c : Char) : Reader Regex := do
  let flags := (← get).flags
  match c with
  | '\\' =>
    match ← escape with
    | .char d => return .set (← cased (.single d))
    | .set s => return .set s
    | .look l => return .look flags.unicode l
  | '.' =>
    bump
    return .set (if flags.dotAll then .property .any else .compl (.single '\n'))
  | '^' =>
    bump
    return .look flags.unicode (if flags.multiLine then .lineStart else .textStart)
  | '$' =>
    bump
    return .look flags.unicode (if flags.multiLine then .lineEnd else .textEnd)
  | c =>
    bump
    return .set (← cased (.single c))

/-- Alternatives up to the end of the group or of the expression. `items` is the current alternative,
latest item first; `fuel` bounds the number of items. -/
def alternatives (inGroup : Bool) : Nat → List Item → Reader Regex
  | 0, _ => throw .groupUnclosed
  | fuel + 1, items => do
    skipSpace
    match ← peek with
    | none =>
      if inGroup then throw .groupUnclosed
      return sequence items
    | some c =>
      match c with
      | ')' =>
        unless inGroup do throw .groupUnopened
        return sequence items
      | '|' =>
        bump
        return .alt (sequence items) (← alternatives inGroup fuel [])
      | '(' =>
        let outer := (← get).flags
        if ← openGroup then
          let body ← alternatives true fuel []
          bump
          modify fun s => { s with flags := outer }
          alternatives inGroup fuel (.expr body :: items)
        else alternatives inGroup fuel (.flags :: items)
      | '[' =>
        let s ← bracketed ((← get).rest.length + 1)
        alternatives inGroup fuel (.expr (.set s) :: items)
      | '?' =>
        let (r, before) ← repeated items
        bump
        lazyMark
        alternatives inGroup fuel (.expr (.upTo 1 r) :: before)
      | '*' =>
        let (r, before) ← repeated items
        bump
        lazyMark
        alternatives inGroup fuel (.expr (.star r) :: before)
      | '+' =>
        let (r, before) ← repeated items
        bump
        lazyMark
        alternatives inGroup fuel (.expr (.seq r (.star r)) :: before)
      | '\x7b' =>
        let (r, before) ← repeated items
        let (least, most) ← countBounds
        let _ ← bumpSpace
        lazyMark
        if most.any (· < least) then throw .repetitionOrder
        alternatives inGroup fuel (.expr (counted r least most) :: before)
      | c => alternatives inGroup fuel (.expr (← primitive c) :: items)

end RegexText

def Regex.parse (text : String) : Except RegexText.Fault Regex :=
  let chars := text.toList
  match (RegexText.alternatives false (chars.length + 1) []).run { rest := chars } with
  | .error f => .error f
  | .ok (r, s) =>
    match s.deferred with
    | some f => .error f
    | none => .ok r

end DomFlow
