import DomFlow.Script.Parser.Expression

/-! # Reading statements -/

namespace DomFlow.Script.Parser

variable (g : Grammar)

/-- A declarator; whether it needs a value is decided by who reads the list. -/
def declarator : Parser (Declarator × Rest) := do
  let place := (← get).here
  let p ← g.binding
  if ← acceptPunct "=" then return (.mk p (some (← checked g.assign)), place)
  else return (.mk p none, place)

def declarators : Parser (List (Declarator × Rest)) := do
  let first ← declarator g
  let more ← many do
    if ← acceptPunct "," then return some (← declarator g) else return none
  return first :: more

def checkDeclarators (kind : VarKind) (decls : List (Declarator × Rest)) : Parser Unit := do
  for (d, place) in decls do
    match d with
    | .mk (.ident _) none =>
      if kind == .constKind then note place "'const' declarations must be initialized"
    | .mk _ none => note place "Missing initializer in destructuring declaration"
    | _ => pure ()

/-- In a lexical declaration `let` is no name. -/
def checkLexicalNames (kind : VarKind) (place : Rest) (decls : List (Declarator × Rest)) : Parser Unit := do
  if kind != .var && decls.any (fun (d, _) => match d with
    | .mk (.ident n) _ => n == "let"
    | _ => false) then
    note place "let is disallowed as a lexically bound name"

def varStatement (kind : VarKind) : Parser Stmt := do
  let place := (← get).here
  advance
  let decls ← allowIn (declarators g)
  checkLexicalNames kind place decls
  checkDeclarators kind decls
  endStatement
  return .var kind (decls.map (·.1))

/-- Whether `let` begins a declaration: a name or a pattern follows. -/
def letBegins : Parser Bool := do
  if !(← isWord "let") then return false
  match (← peek).1 with
  | .word w escaped => return escaped || !(["in", "instanceof"].contains w)
  | t => return t.isPunct "[" || t.isPunct "\x7b"

def blockBody : Parser (List Stmt) := do
  expectPunct "\x7b"
  many do
    if ← acceptPunct "\x7d" then return none
    return some (← g.listItem)

def condition : Parser Expr := do
  expectPunct "("
  let e ← allowIn (checked g.expression)
  expectPunct ")"
  return e

/-- A branch of an `if`. -/
def branch : Parser Stmt := do
  if (← read).dialect.functionInIf && !(← read).strict && (← isWord "function") then
    return .block [← g.listItem]
  g.statement

def ifStatement : Parser Stmt := do
  advance
  let test ← condition g
  let yes ← branch g
  if ← acceptWord "else" then return .ifElse test yes (some (← branch g))
  else return .ifElse test yes none

def loopContext (c : Context) : Context :=
  { c with breakAllowed := true, continueAllowed := true }

def loopBody : Parser Stmt :=
  withContext loopContext g.statement

def whileStatement : Parser Stmt := do
  advance
  let test ← condition g
  return .whileLoop test (← loopBody g)

def doStatement : Parser Stmt := do
  advance
  let body ← loopBody g
  expectWord "while"
  let test ← condition g
  let _ ← acceptPunct ";"
  return .doWhile body test

def switchCase : Parser SwitchCase := do
  let test ← if ← acceptWord "default" then pure none
    else do
      expectWord "case"
      some <$> allowIn (checked g.expression)
  expectPunct ":"
  let body ← many do
    if (← isWord "case") || (← isWord "default") || (← isPunct "\x7d") then return none
    return some (← g.listItem)
  return .mk test body

def switchStatement : Parser Stmt := do
  let place := (← get).here
  advance
  let subject ← condition g
  expectPunct "\x7b"
  let cases ← withContext (fun c => { c with breakAllowed := true }) do
    many do
      if ← acceptPunct "\x7d" then return none
      return some (← switchCase g)
  let defaults := cases.filter fun c => match c with
    | .mk none _ => true
    | _ => false
  if 1 < defaults.length then note place "A 'default' clause cannot appear more than once in a 'switch' statement"
  return .switch subject cases

/-- After the head of a loop over elements or keys: the subject, the closing parenthesis and the body. -/
def eachTail (isAwait isOf : Bool) (head : ForHead) : Parser Stmt := do
  advance
  let subject ← if isOf then allowIn (checked g.assign) else allowIn (checked g.expression)
  expectPunct ")"
  let body ← loopBody g
  return if isOf then .forOf isAwait head subject body else .forIn head subject body

def countTail (init : Option Stmt) : Parser Stmt := do
  expectPunct ";"
  let test ← if ← isPunct ";" then pure none else some <$> allowIn (checked g.expression)
  expectPunct ";"
  let update ← if ← isPunct ")" then pure none else some <$> allowIn (checked g.expression)
  expectPunct ")"
  return .forLoop init test update (← loopBody g)

def forDeclaration (isAwait : Bool) (kind : VarKind) : Parser Stmt := do
  let place := (← get).here
  advance
  let decls ← withContext (fun c => { c with noIn := true }) (declarators g)
  checkLexicalNames kind place decls
  let isOf ← isWord "of"
  if isOf || (← isWord "in") then
    match decls with
    | [(.mk p init, at_)] =>
      if init.isSome && (isOf || (← read).strict) then
        note at_ "for-in or for-of loop variable declaration may not have an initializer"
      eachTail g isAwait isOf (.decl kind p init)
    | _ => failAt place "Invalid left-hand side in for-loop: must have a single binding."
  else
    checkDeclarators kind decls
    countTail g (some (.var kind (decls.map (·.1))))

/-- A loop whose head is an expression or a place. -/
def forExpression (isAwait : Bool) : Parser Stmt := do
  let s ← get
  let startsAsync := (← isWord "async") && (← peek).1.isWord "of"
  let startsLet ← isWord "let"
  let outer := s.cover
  modify fun t => { t with cover := none }
  let e ← withContext (fun c => { c with noIn := true }) g.expression
  let isOf ← isWord "of"
  if isOf || (← isWord "in") then
    if isOf && ((startsAsync && !isAwait) || startsLet) then
      failAt s.here "The left-hand side of a for-of loop may not be 'async' or begin with 'let'"
    let pat? := match e with
      | .assign .. => none
      | e => some e
    match pat?.bind (·.toPat? (← read).strict) with
    | none => failAt s.here "Invalid left-hand side in for-loop"
    | some p =>
      modify fun t => { t with cover := outer }
      eachTail g isAwait isOf (.target p)
  else
    match (← get).cover with
    | some at_ => failAt at_ "Invalid shorthand property initializer"
    | none =>
      modify fun t => { t with cover := outer }
      countTail g (some (.expr e))

def forStatement : Parser Stmt := do
  advance
  let isAwait ← if (← isWord "await") then do
      advance
      pure true
    else pure false
  expectPunct "("
  if ← isPunct ";" then countTail g none
  else if ← isWord "var" then forDeclaration g isAwait .var
  else if ← isWord "const" then forDeclaration g isAwait .constKind
  else if ← isWord "let" then
    let (next, _) ← peek
    let declares := match next with
      | .word w escaped => escaped || !(["in", "instanceof"].contains w)
      | t => t.isPunct "[" || t.isPunct "\x7b"
    if declares then forDeclaration g isAwait .letKind else forExpression g isAwait
  else forExpression g isAwait

/-- A label on the same line, if there is one. -/
def label? : Parser (Option String) := do
  if (← get).newline then return none
  match ← name? with
  | some n =>
    advance
    return some n
  | none => return none

def breakStatement : Parser Stmt := do
  let place := (← get).here
  advance
  let label ← label?
  endStatement
  let c ← read
  match label with
  | some l =>
    unless c.labels.contains l do
      note place "A 'break' statement can only jump to a label of an enclosing statement"
  | none =>
    unless c.breakAllowed do
      note place "A 'break' statement can only be used within an enclosing iteration or switch statement"
  return .breakTo label

def continueStatement : Parser Stmt := do
  let place := (← get).here
  advance
  let label ← label?
  endStatement
  let c ← read
  unless c.continueAllowed && label.all c.labels.contains do
    note place "A 'continue' statement can only be used within an enclosing iteration statement"
  return .continueTo label

def returnStatement : Parser Stmt := do
  let place := (← get).here
  advance
  unless (← read).inFunction do note place "Return statement is not allowed here"
  let s ← get
  if s.newline || (← isPunct ";") || (← isPunct "\x7d") || (← atEnd) then
    endStatement
    return .ret none
  let e ← allowIn (checked g.expression)
  endStatement
  return .ret (some e)

def throwStatement : Parser Stmt := do
  advance
  if (← get).newline then failHere "LineBreak cannot follow 'throw'"
  let e ← allowIn (checked g.expression)
  endStatement
  return .throw e

def tryStatement : Parser Stmt := do
  advance
  let block ← blockBody g
  let handler ← if ← acceptWord "catch" then do
      let param ← if ← acceptPunct "(" then do
          let p ← g.binding
          expectPunct ")"
          pure (some p)
        else pure none
      let body ← blockBody g
      pure (some (Catch.mk param body))
    else pure none
  let finalizer ← if ← acceptWord "finally" then some <$> blockBody g else pure none
  if handler.isNone && finalizer.isNone then failHere "Missing catch or finally clause"
  return .tryCatch block handler finalizer

def withStatement : Parser Stmt := do
  let place := (← get).here
  advance
  if (← read).strict then note place "With statement are not allowed in strict mode"
  let object ← condition g
  return .withObject object (← g.statement)

def functionDeclaration (isAsync : Bool) : Parser Stmt := do
  let (name, kind, params, body) ← functionTail g isAsync true
  return .func (name.getD "") kind params body

def labeledStatement (label : String) : Parser Stmt := do
  let place := (← get).here
  advance
  advance
  if (← read).labels.contains label then note place ("Label " ++ label ++ " is already declared")
  let body ← withContext (fun c => { c with breakAllowed := true, labels := label :: c.labels }) do
    if ← isWord "function" then
      if (← read).strict then note place "In strict mode, functions can only be declared at top level"
      advance
      if ← isPunct "*" then failHere "Generator or async function cannot be labelled"
      functionDeclaration g false
    else g.statement
  return .labeled label body

def classDeclaration : Parser Stmt := do
  advance
  let name ← withContext (fun c => { c with strict := true }) nameBound
  let (parent, members) ← classTail g
  return .classDecl name parent members

def expressionStatement : Parser Stmt := do
  let e ← allowIn (checked g.expression)
  endStatement
  return .expr e

/-- A statement that begins with a word of its own, if the current one is such a word. -/
def keywordStatement (w : String) : Option (Parser Stmt) :=
  match w with
  | "var" => some (varStatement g .var)
  | "if" => some (ifStatement g)
  | "for" => some (forStatement g)
  | "while" => some (whileStatement g)
  | "do" => some (doStatement g)
  | "switch" => some (switchStatement g)
  | "return" => some (returnStatement g)
  | "break" => some breakStatement
  | "continue" => some continueStatement
  | "throw" => some (throwStatement g)
  | "try" => some (tryStatement g)
  | "with" => some (withStatement g)
  | "debugger" => some do
    advance
    endStatement
    return .debugger
  | _ => none

/-- `import` and `export` declare only in modules. -/
def moduleItem : Parser Bool := do
  if ← isWord "export" then return true
  if ← isWord "import" then
    let (next, _) ← peek
    return !(next.isPunct "(" || next.isPunct ".")
  return false

/-- A statement; declarations other than `var` stand only in statement lists. -/
def statement (inList : Bool) : Parser Stmt := do
  if ← moduleItem then failHere "'import', and 'export' cannot be used outside of module code"
  let s ← get
  match s.token with
  | .punct "\x7b" => return .block (← blockBody g)
  | .punct ";" =>
    advance
    return .empty
  | .word w false =>
    match keywordStatement g w with
    | some p => p
    | none =>
      let (next, newline) ← peek
      if w == "function" then
        unless inList do failHere "Function declaration is not allowed here"
        advance
        functionDeclaration g false
      else if w == "async" && next.isWord "function" && !newline then
        unless inList do failHere "Async function declaration is not allowed here"
        advance
        advance
        functionDeclaration g true
      else if w == "class" then
        unless inList do failHere "Class declaration is not allowed here"
        classDeclaration g
      else if w == "const" then
        unless inList do failHere "Lexical declaration is not allowed here"
        varStatement g .constKind
      else if inList && (← letBegins) then varStatement g .letKind
      else if next.isPunct ":" && (← read).allowsName w then labeledStatement g w
      else expressionStatement g
  | .word w true =>
    if (← peek).1.isPunct ":" && (← read).allowsName w then labeledStatement g w
    else expressionStatement g
  | _ => expressionStatement g

/-- The grammar whose rules may nest `depth` deep. -/
def grammar : Nat → Grammar
  | 0 =>
    { assign := expected, expression := expected, unary := expected, leftHand := expected,
      newExpr := expected, binding := expected, statement := expected, listItem := expected }
  | depth + 1 =>
    { assign := fun c s => assign (grammar depth) c s
      expression := fun c s => expression (grammar depth) c s
      unary := fun c s => unary (grammar depth) none c s
      leftHand := fun c s => leftHand (grammar depth) none c s
      newExpr := fun c s => newExpr (grammar depth) c s
      binding := fun c s => bindingTarget (grammar depth) c s
      statement := fun c s => statement (grammar depth) false c s
      listItem := fun c s => statement (grammar depth) true c s }

end DomFlow.Script.Parser
