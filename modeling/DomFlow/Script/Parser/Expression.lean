import DomFlow.Script.Parser.Function

/-! # Reading expressions -/

namespace DomFlow.Script.Parser

variable (g : Grammar)

/-- The rest of a template, after its opening quote at `start`: its pieces and substitutions. -/
def templateParts (start : Rest) : Nat → Rest → Parser (List Token.TemplatePiece × List Expr)
  | 0, _ => failAt start "Unterminated template"
  | fuel + 1, rest => do
    let (piece, after) ← Token.readTemplate (← read).dialect.joinsPairs start ((← get).size + 1) rest
    if piece.final then
      advanceTo after
      return ([piece], [])
    advanceTo after
    let e ← allowIn (checked g.expression)
    unless ← isPunct "\x7d" do failHere "Expected '\x7d'"
    let (pieces, exprs) ← templateParts start fuel (← get).after
    return (piece :: pieces, e :: exprs)

/-- A template; its escapes have to be well formed unless a tag reads it. -/
def template (tagged : Bool) : Parser (List Quasi × List Expr) := do
  let s ← get
  let (pieces, exprs) ← templateParts g s.here (s.size + 2) s.after
  if !tagged && pieces.any (·.cooked.isNone) then
    note s.here "Invalid escape sequence in template"
  let quasis := pieces.map fun p =>
    { raw := String.ofList p.raw, cooked := p.cooked.map String.ofList : Quasi }
  return (quasis, exprs)

def argument : Parser Elem := do
  if ← acceptPunct "..." then return .spread (← allowIn (checked g.assign))
  else return .item (← allowIn (checked g.assign))

def arguments : Parser (List Elem) := do
  expectPunct "("
  commaList ")" (argument g)

/-- The elements of an array literal, after its opening bracket. -/
def arrayElements : Parser (List Elem) :=
  commaList "]" do
    if ← isPunct "," then return .hole
    else if ← acceptPunct "..." then return .spread (← allowIn g.assign)
    else return .item (← allowIn g.assign)

def regexLiteral : Parser Expr := do
  let s ← get
  let (source, flags, rest) ← Token.readRegex s.here
  advanceTo rest
  return .regex source flags

/-- What stands between parentheses that may turn out to be parameters. -/
structure Group where
  items : List Expr
  rest : Option Pat
  trailingComma : Bool

/-- One item of a group; the items before it are known not to end the group. -/
def groupItems : Nat → Parser Group
  | 0 => expected
  | fuel + 1 => do
    if ← acceptPunct ")" then return ⟨[], none, true⟩
    if ← acceptPunct "..." then
      let p ← g.binding
      expectPunct ")"
      return ⟨[], some p, false⟩
    let e ← allowIn g.assign
    if ← acceptPunct ")" then return ⟨[e], none, false⟩
    expectPunct ","
    let more ← groupItems fuel
    return { more with items := e :: more.items }

def groupParameters (strict : Bool) (group : Group) : Option (List Pat) := do
  let pats ← group.items.mapM fun e => e.toPat? strict
  guard (pats.all Pat.bindsNames)
  return pats ++ (group.rest.map Pat.rest).toList

def arrowFollows : Parser Bool := do
  return (← isPunct "=>") && !(← get).newline

/-- A group in parentheses: an arrow function if an arrow follows, else an expression. -/
def parenthesized (mayBeArrow : Bool) : Parser Expr := do
  let s ← get
  let place := s.here
  modify fun s => { s with cover := none }
  advance
  let empty ← isPunct ")"
  let group ← groupItems g ((← get).size + 2)
  if mayBeArrow && (← arrowFollows) then
    match groupParameters (← read).strict group with
    | none => failAt place "Not a pattern"
    | some params =>
      modify fun t => { t with cover := s.cover }
      advance
      arrowBody g false place params
  else if empty || group.trailingComma || group.rest.isSome then
    if ← isPunct "=>" then failHere "Unexpected token" else
    failHere "Expression expected"
  else match (← get).cover with
    | some at_ => failAt at_ "Invalid shorthand property initializer"
    | none =>
      modify fun t => { t with cover := s.cover }
      match group.items with
      | [e] => return .paren e
      | es => return .paren (.seq es)

def primary : Parser Expr := do
  let s ← get
  match s.token with
  | .num v legacy =>
    if legacy && (← read).strict then note s.here "Legacy octal literals are not available in strict mode"
    advance
    return .num v
  | .bigint v =>
    advance
    return .bigint v
  | .str v legacy _ =>
    if legacy && (← read).strict then note s.here "Legacy octal escape is not permitted in strict mode"
    advance
    return .str v
  | .backquote =>
    let (quasis, exprs) ← template g false
    return .template quasis exprs
  | .punct "(" => parenthesized g false
  | .punct "[" =>
    advance
    return .array (← arrayElements g)
  | .punct "\x7b" =>
    advance
    return .object (← commaList "\x7d" (property g))
  | .punct "/" | .punct "/=" => regexLiteral
  | .word w escaped =>
    if !escaped then
      match w with
      | "this" => advance; return .thisRef
      | "null" => advance; return .null
      | "true" => advance; return .bool true
      | "false" => advance; return .bool false
      | "function" =>
        advance
        let (name, kind, params, body) ← functionTail g false false
        return .func name kind params body
      | "class" =>
        advance
        let name ← if (← isWord "extends") || (← isPunct "\x7b") then pure none
          else some <$> withContext (fun c => { c with strict := true }) nameBound
        let (parent, members) ← classTail g
        return .classExpr name parent members
      | "async" =>
        let (next, newline) ← peek
        if next.isWord "function" && !newline then
          advance
          advance
          let (name, kind, params, body) ← functionTail g true false
          return .func name kind params body
      | _ => pure ()
    match ← name? with
    | some n =>
      if n == "arguments" && (← read).inField then
        note s.here "'arguments' is only allowed in functions and class methods"
      advance
      return .ident n
    | none => expected
  | _ => expected

def memberName : Parser Key := do
  match (← get).token with
  | .word w _ =>
    advance
    return .name w
  | .hidden n =>
    advance
    return .hidden n
  | _ => failHere "Expected ident"

def bracketKey : Parser Key := do
  let e ← allowIn (checked g.expression)
  expectPunct "]"
  return .computed e

/-- Accesses, calls and templates that follow an expression. Once the chain has an optional link, its
later links belong to the optional chain too. -/
def subscripts (calls : Bool) : Nat → Bool → Expr → Parser Expr
  | 0, _, _ => expected
  | fuel + 1, chain, e => do
    let link (key : Key) : Expr := if chain then .optMember false e key else .member e key
    if ← acceptPunct "." then subscripts calls fuel chain (link (← memberName))
    else if ← acceptPunct "[" then subscripts calls fuel chain (link (← bracketKey g))
    else if calls && (← isPunct "(") then
      let args ← arguments g
      subscripts calls fuel chain (if chain then .optCall false e args else .call e args)
    else if ← isPunct "?." then
      unless calls do failHere "Optional chaining cannot appear in the callee of new expressions"
      advance
      if ← acceptPunct "[" then subscripts calls fuel true (.optMember true e (← bracketKey g))
      else if ← isPunct "(" then subscripts calls fuel true (.optCall true e (← arguments g))
      else subscripts calls fuel true (.optMember true e (← memberName))
    else match (← get).token with
      | .backquote =>
        if chain then failHere "Tagged template in optional chain"
        let (quasis, exprs) ← template g true
        subscripts calls fuel chain (.tagged e quasis exprs)
      | _ => return e

def subscriptsOf (calls : Bool) (e : Expr) : Parser Expr := do
  subscripts g calls ((← get).size + 2) false e

/-- `super` with the access or call that has to follow it. -/
def superExpr : Parser Expr := do
  let place := (← get).here
  advance
  if ← isPunct "(" then
    unless (← read).superCall do failAt place "Invalid access to super"
    return .superCall (← arguments g)
  unless (← read).superMember do failAt place "Invalid access to super"
  if ← acceptPunct "." then return .superMember (← memberName)
  else if ← acceptPunct "[" then return .superMember (← bracketKey g)
  else failHere "Expected '.', '[' or '('"

/-- `import` as an expression: only a call. -/
def importExpr : Parser Expr := do
  let place := (← get).here
  advance
  if ← isPunct "(" then
    let args ← arguments g
    if args.isEmpty || 2 < args.length then failAt place "Expected one or two arguments"
    return .importCall args
  else failAt place "'import.meta' cannot be used outside of module code."

/-- `new`: the word `target`, or a callee with accesses and arguments. -/
def newExpr : Parser Expr := do
  let place := (← get).here
  advance
  if ← acceptPunct "." then
    unless ← isWord "target" do failHere "Expected 'target'"
    advance
    unless (← read).newTarget do note place "'new.target' is only allowed in the body of a function"
    return .newTarget
  let base ← if ← isWord "new" then g.newExpr
    else if ← isWord "super" then superExpr g
    else if ← isWord "import" then failHere "Cannot use new with import"
    else primary g
  let callee ← subscriptsOf g false base
  if ← isPunct "(" then return .new callee (← arguments g) else return .new callee []

/-- A left-hand side: accesses and calls on a base that may have been read already. -/
def leftHand (first : Option Expr) : Parser Expr := do
  let base ← match first with
    | some e => pure e
    | none =>
      if ← isWord "new" then newExpr g
      else if ← isWord "super" then superExpr g
      else if ← isWord "import" then importExpr g
      else primary g
  match base with
  | .arrow .. => return base
  | _ => subscriptsOf g true base

def unaryOp? : Token → Option UnaryOp
  | .punct "!" => some .not
  | .punct "~" => some .bitNot
  | .punct "+" => some .plus
  | .punct "-" => some .minus
  | .word "typeof" false => some .typeOf
  | .word "void" false => some .void
  | .word "delete" false => some .delete
  | _ => none

def updateOp? : Token → Option UpdateOp
  | .punct "++" => some .increment
  | .punct "--" => some .decrement
  | _ => none

/-- The operand of an update has to be one place. -/
def checkUpdate (place : Rest) (e : Expr) : Parser Unit := do
  unless e.isSimpleTarget (← read).strict do note place "Invalid left-hand side in update expression"

/-- Operators before and after an operand, which may have been read already. -/
def unary (first : Option Expr) : Parser Expr := do
  let s ← get
  let place := s.here
  match first, unaryOp? s.token, updateOp? s.token with
  | none, some op, _ =>
    advance
    let e ← g.unary
    match op, e with
    | .delete, .ident _ =>
      if (← read).strict then note place "'delete' cannot be called on an identifier in strict mode"
    | _, _ => pure ()
    return .unary op e
  | none, none, some op =>
    advance
    let argPlace := (← get).here
    let e ← g.unary
    checkUpdate argPlace e
    return .update op true e
  | _, _, _ =>
    if first.isNone && (← isWord "await") && (← read).inAsync then
      if (← read).inParameters then note place "'await' is not allowed in the parameters of a function"
      advance
      return .await (← g.unary)
    let e ← leftHand g first
    let t ← get
    match updateOp? t.token with
    | some op =>
      if t.newline then return e
      checkUpdate place e
      advance
      return .update op false e
    | none => return e

def binaryOp? (noIn : Bool) : Token → Option (BinaryOp × Nat)
  | .punct "??" => some (.coalesce, 1)
  | .punct "||" => some (.logicalOr, 1)
  | .punct "&&" => some (.logicalAnd, 2)
  | .punct "|" => some (.bitOr, 3)
  | .punct "^" => some (.bitXor, 4)
  | .punct "&" => some (.bitAnd, 5)
  | .punct "==" => some (.eqEq, 6)
  | .punct "!=" => some (.notEq, 6)
  | .punct "===" => some (.eqEqEq, 6)
  | .punct "!==" => some (.notEqEq, 6)
  | .punct "<" => some (.lt, 7)
  | .punct ">" => some (.gt, 7)
  | .punct "<=" => some (.ltEq, 7)
  | .punct ">=" => some (.gtEq, 7)
  | .word "in" false => if noIn then none else some (.isIn, 7)
  | .word "instanceof" false => some (.instanceOf, 7)
  | .punct "<<" => some (.shiftLeft, 8)
  | .punct ">>" => some (.shiftRight, 8)
  | .punct ">>>" => some (.shiftRightZero, 8)
  | .punct "+" => some (.add, 9)
  | .punct "-" => some (.sub, 9)
  | .punct "*" => some (.mul, 10)
  | .punct "/" => some (.div, 10)
  | .punct "%" => some (.mod, 10)
  | .punct "**" => some (.exp, 11)
  | _ => none

/-- `??` does not mix with `||` and `&&` unless parentheses divide them. -/
def mixesCoalesce (op : BinaryOp) (e : Expr) : Bool :=
  match op, e with
  | .coalesce, .binary .logicalOr _ _ | .coalesce, .binary .logicalAnd _ _ => true
  | .logicalOr, .binary .coalesce _ _ | .logicalAnd, .binary .coalesce _ _ => true
  | _, _ => false

/-- A sign or word operator may not stand unparenthesized before `**`. -/
def isUnaryOperand : Expr → Bool
  | .unary .. | .await _ => true
  | _ => false

/-- Operators that bind at least as tightly as `level`, after their left operand. -/
def binaryTail (operand : Parser Expr) : Nat → Nat → Expr → Parser Expr
  | 0, _, _ => expected
  | fuel + 1, level, left => do
    match binaryOp? (← read).noIn (← get).token with
    | none => return left
    | some (op, tightness) =>
      if tightness < level then return left
      let place := (← get).here
      if op == .exp && isUnaryOperand left then
        failAt place "An unary expression is not allowed in the left-hand side of an exponentiation"
      advance
      let first ← operand
      let right ← binaryTail operand fuel (if op == .exp then tightness else tightness + 1) first
      if mixesCoalesce op left || mixesCoalesce op right then
        failAt place "Nullish coalescing operator(??) requires parens when mixing with logical operators"
      binaryTail operand fuel level (.binary op left right)

/-- An operand, or a hidden name that `in` follows. -/
def operand (first : Option Expr) : Parser Expr := do
  match first, (← get).token with
  | none, .hidden n =>
    advance
    unless (← isWord "in") && !(← read).noIn do failHere "Expected 'in'"
    return .hiddenName n
  | _, _ => unary g first

def binary (first : Option Expr) : Parser Expr := do
  let left ← operand g first
  match left with
  | .arrow .. => return left
  | _ => binaryTail (operand g none) ((← get).size + 2) 0 left

def conditional (first : Option Expr) : Parser Expr := do
  let test ← binary g first
  match test with
  | .arrow .. => return test
  | _ =>
    if ← acceptPunct "?" then
      let yes ← allowIn (checked g.assign)
      expectPunct ":"
      let no ← checked g.assign
      return .cond test yes no
    else return test

def assignOp? : Token → Option AssignOp
  | .punct "=" => some .plain
  | .punct "+=" => some (.compound .add)
  | .punct "-=" => some (.compound .sub)
  | .punct "*=" => some (.compound .mul)
  | .punct "/=" => some (.compound .div)
  | .punct "%=" => some (.compound .mod)
  | .punct "**=" => some (.compound .exp)
  | .punct "<<=" => some (.compound .shiftLeft)
  | .punct ">>=" => some (.compound .shiftRight)
  | .punct ">>>=" => some (.compound .shiftRightZero)
  | .punct "&=" => some (.compound .bitAnd)
  | .punct "|=" => some (.compound .bitOr)
  | .punct "^=" => some (.compound .bitXor)
  | .punct "&&=" => some (.compound .logicalAnd)
  | .punct "||=" => some (.compound .logicalOr)
  | .punct "??=" => some (.compound .coalesce)
  | _ => none

/-- `yield` in a generator, with what follows it on the same line. -/
def yieldExpr : Parser Expr := do
  if (← read).inParameters then failHere "'yield' cannot be used as a parameter within generator"
  advance
  let s ← get
  if s.newline then return .yield false none
  if ← acceptPunct "*" then return .yield true (some (← checked g.assign))
  let stops := match s.token with
    | .eof => true
    | .punct p => [")", "]", "\x7d", ",", ";", ":"].contains p
    | t => t.isWord "in" || t.isWord "of"
  if stops then return .yield false none
  return .yield false (some (← checked g.assign))

/-- A function that a single name before an arrow begins. -/
def nameArrow (isAsync : Bool) : Parser Expr := do
  let place := (← get).here
  let n ← withContext (fun c => { c with inAsync := c.inAsync || isAsync }) nameBound
  advance
  arrowBody g isAsync place [.ident n]

/-- What an expression begins with, where arrows have to be told from groups and calls. -/
def assignStart : Parser (Option Expr) := do
  let s ← get
  let (next, newline) ← peek
  match s.token with
  | .punct "(" => return some (← parenthesized g true)
  | .word w escaped =>
    if (← read).allowsName w && next.isPunct "=>" && !newline then
      return some (← nameArrow g false)
    if w == "async" && !escaped && !newline then
      match next with
      | .word v _ =>
        if v == "function" || !(← read).allowsName v then return none
        advance
        if (← peek).1.isPunct "=>" then return some (← nameArrow g true)
        else failHere "Expected ';', '\x7d' or <eof>"
      | .punct "(" =>
        let outer := s.cover
        let place := s.here
        modify fun t => { t with cover := none }
        advance
        advance
        let empty ← isPunct ")"
        let group ← groupItems g ((← get).size + 2)
        if ← arrowFollows then
          match groupParameters (← read).strict group with
          | none => failAt place "Not a pattern"
          | some params =>
            modify fun t => { t with cover := outer }
            advance
            return some (← arrowBody g true place params)
        if group.rest.isSome then
          -- a spread argument: read the list again as arguments
          set { s with cover := outer }
          return none
        match (← get).cover with
        | some at_ => failAt at_ "Invalid shorthand property initializer"
        | none =>
          modify fun t => { t with cover := outer }
          let items := if empty then [] else group.items.map Elem.item
          return some (.call (.ident "async") items)
      | _ => return none
    return none
  | _ => return none

def assign : Parser Expr := do
  if (← isWord "yield") && (← read).inGenerator then return ← yieldExpr g
  let outer := (← get).cover
  modify fun s => { s with cover := none }
  let place := (← get).here
  let first ← assignStart g
  let left ← conditional g first
  match assignOp? (← get).token, left with
  | none, _ | some _, .arrow .. =>
    modify fun s => { s with cover := outer <|> s.cover }
    return left
  | some op, _ =>
    let strict := (← read).strict
    let target? := match op with
      | .plain => left.toTarget? strict
      | .compound _ => left.toSimpleTarget? strict
    match target? with
    | none => failAt place "Invalid assignment target"
    | some t =>
      advance
      let value ← checked g.assign
      modify fun s => { s with cover := outer }
      return .assign op t value

def expression : Parser Expr := do
  let e ← g.assign
  if ← isPunct "," then
    let more ← many do
      if ← acceptPunct "," then return some (← g.assign) else return none
    return .seq (e :: more)
  else return e

end DomFlow.Script.Parser
