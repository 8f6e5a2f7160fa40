import DomFlow.Script.Ast
import DomFlow.Script.Token

/-! # Reading scripts: state and tokens

The state of the reader holds the current token and the text around it. Errors after which reading can
go on are noted, and the first of them counts only if nothing worse follows. -/

namespace DomFlow.Script.Parser

structure Context where
  dialect : Dialect := {}
  strict : Bool := false
  inFunction : Bool := false
  inAsync : Bool := false
  inGenerator : Bool := false
  newTarget : Bool := false
  superMember : Bool := false
  superCall : Bool := false
  /-- The operator `in` ends the expression, as in the head of a loop. -/
  noIn : Bool := false
  breakAllowed : Bool := false
  continueAllowed : Bool := false
  labels : List String := []
  /-- Between the parentheses of a function's parameters. -/
  inParameters : Bool := false
  /-- In the value of a class field or in a static block, outside functions that bind `arguments`. -/
  inField : Bool := false
deriving Inhabited

structure State where
  token : Token
  /-- Text from the current token on. -/
  here : Rest
  /-- Text after the current token. -/
  after : Rest
  /-- A line ended before the current token. -/
  newline : Bool
  /-- A bound on the length of every token. -/
  size : Nat
  /-- The first error after which reading went on. -/
  noted : Option Fault := none
  /-- A name with a default in an object literal that has not become a pattern yet. -/
  cover : Option Rest := none
deriving Inhabited

end DomFlow.Script.Parser

abbrev DomFlow.Script.Parser := ReaderT Parser.Context (StateT Parser.State (Except Fault))

namespace DomFlow.Script.Parser

def failHere {α : Type} (message : String) : Parser α := do
  throw ⟨message, (← get).here⟩

def failAt {α : Type} (place : Rest) (message : String) : Parser α :=
  throw ⟨message, place⟩

def note (place : Rest) (message : String) : Parser Unit :=
  modify fun s => { s with noted := s.noted <|> some ⟨message, place⟩ }

def expected {α : Type} : Parser α :=
  failHere "Expression expected"

/-- Reads the token after `rest`. -/
def readAt (dialect : Dialect) (size : Nat) (rest : Rest) (atStart : Bool) :
    Except Fault (Token × Rest × Rest × Bool) :=
  match Token.skip dialect.htmlComments .blank atStart rest with
  | none => .error ⟨"Unterminated block comment", []⟩
  | some (newline, here) => do
    let (token, after) ← Token.read dialect.joinsPairs size here
    return (token, here, after, newline)

/-- Makes a token current; a string without its closing quote is noted and read as a string. -/
def State.arrive (s : State) (token : Token) (here after : Rest) (newline : Bool) : State :=
  match token with
  | .openString v =>
    { s with
      token := .str v false true, here, after, newline
      noted := s.noted <|> some ⟨"Unterminated string constant", here⟩ }
  | token => { s with token, here, after, newline }

/-- Goes on to the token after `rest`. -/
def advanceTo (rest : Rest) : Parser Unit := do
  let s ← get
  let (token, here, after, newline) ← readAt (← read).dialect s.size rest false
  set (s.arrive token here after newline)

def advance : Parser Unit := do
  advanceTo (← get).after

/-- The token after the current one and whether a line ends before it; an unreadable one counts as the end. -/
def peek : Parser (Token × Bool) := do
  let s ← get
  match readAt (← read).dialect s.size s.after false with
  | .ok (token, _, _, newline) => return (token, newline)
  | .error _ => return (.eof, false)

def isPunct (p : String) : Parser Bool := do
  return Token.isPunct p (← get).token

/-- Whether the current token is this word, written without escapes. -/
def isWord (w : String) : Parser Bool := do
  return Token.isWord w (← get).token

def acceptPunct (p : String) : Parser Bool := do
  if ← isPunct p then
    advance
    return true
  else return false

def acceptWord (w : String) : Parser Bool := do
  if ← isWord w then
    advance
    return true
  else return false

def expectPunct (p : String) : Parser Unit := do
  unless ← acceptPunct p do failHere ("Expected '" ++ p ++ "'")

def expectWord (w : String) : Parser Unit := do
  unless ← acceptWord w do failHere ("Expected '" ++ w ++ "'")

def atEnd : Parser Bool := do
  match (← get).token with
  | .eof => return true
  | _ => return false

/-- Ends a statement: a semicolon, or a place where one may be left out. -/
def endStatement : Parser Unit := do
  if ← acceptPunct ";" then return
  let s ← get
  if s.newline || (← isPunct "\x7d") || (← atEnd) then return
  failHere "Expected ';', '\x7d' or <eof>"

def reservedWords : List String := [
  "break", "case", "catch", "class", "const", "continue", "debugger", "default", "delete", "do",
  "else", "enum", "export", "extends", "false", "finally", "for", "function", "if", "import", "in",
  "instanceof", "new", "null", "return", "super", "switch", "this", "throw", "true", "try", "typeof",
  "var", "void", "while", "with"]

def strictWords : List String := [
  "implements", "interface", "let", "package", "private", "protected", "public", "static", "yield"]

def Context.allowsName (c : Context) (w : String) : Bool :=
  !(reservedWords.contains w) && !(c.strict && strictWords.contains w) &&
    !(w == "yield" && c.inGenerator) && !(w == "await" && (c.inAsync || c.dialect.awaitReserved))

/-- The current token as a name, if it may be one. -/
def name? : Parser (Option String) := do
  match (← get).token with
  | .word w _ => return if (← read).allowsName w then some w else none
  | _ => return none

def nameUse : Parser String := do
  match ← name? with
  | some w =>
    advance
    return w
  | none => failHere "Expected ident"

/-- In strict code `eval` and `arguments` may not be bound or assigned. -/
def Context.protects (c : Context) (w : String) : Bool :=
  c.strict && (w == "eval" || w == "arguments")

def nameBound : Parser String := do
  let place := (← get).here
  let w ← nameUse
  if (← read).protects w then note place "'eval' and 'arguments' cannot be used as a binding identifier in strict mode"
  return w

/-- Repeats a reader until it declines; `fuel` bounds the number of rounds. -/
def repeatSome {α : Type} (item : Parser (Option α)) : Nat → Parser (List α)
  | 0 => failHere "Unexpected token"
  | fuel + 1 => do
    match ← item with
    | none => return []
    | some a => return a :: (← repeatSome item fuel)

def many {α : Type} (item : Parser (Option α)) : Parser (List α) := do
  repeatSome item ((← get).size + 2)

/-- Items between commas up to a closing punctuator, which is passed over; a comma may end the list. -/
def commaList {α : Type} (close : String) (item : Parser α) : Parser (List α) :=
  many do
    if ← acceptPunct close then return none
    let a ← item
    unless ← isPunct close do expectPunct ","
    return some a

/-- Runs a reader in which pending defaults in object literals are errors. -/
def checked {α : Type} (p : Parser α) : Parser α := do
  let outer := (← get).cover
  modify fun s => { s with cover := none }
  let a ← p
  match (← get).cover with
  | some place => failAt place "Invalid shorthand property initializer"
  | none =>
    modify fun s => { s with cover := outer }
    return a

def withContext {α : Type} (f : Context → Context) (p : Parser α) : Parser α :=
  fun c => p (f c)

def allowIn {α : Type} (p : Parser α) : Parser α :=
  withContext (fun c => { c with noIn := false }) p

/-- The readers that the grammar's rules use for the parts of what they read. -/
structure Grammar where
  assign : Parser Expr
  expression : Parser Expr
  unary : Parser Expr
  leftHand : Parser Expr
  newExpr : Parser Expr
  binding : Parser Pat
  statement : Parser Stmt
  listItem : Parser Stmt

end DomFlow.Script.Parser
