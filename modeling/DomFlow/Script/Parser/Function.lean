import DomFlow.Script.Parser.Basic
import DomFlow.Script.Parser.Cover

/-! # Reading functions, classes and object literals -/

namespace DomFlow.Script.Parser

variable (g : Grammar)

/-- A binding pattern with its default, if it has one. -/
def bindingElement : Parser Pat := do
  let p ← g.binding
  if ← acceptPunct "=" then
    return .withDefault p (← allowIn (checked g.assign))
  else return p

def propertyKey : Parser Key := do
  let s ← get
  match s.token with
  | .word w _ =>
    advance
    return .name w
  | .str v legacy _ =>
    if legacy && (← read).strict then note s.here "Legacy octal escape is not permitted in strict mode"
    advance
    return .str v
  | .num v legacy =>
    if legacy && (← read).strict then note s.here "Legacy octal literals are not available in strict mode"
    advance
    return .num v
  | .bigint v =>
    advance
    return .bigint v
  | .punct "[" =>
    advance
    let e ← allowIn (checked g.assign)
    expectPunct "]"
    return .computed e
  | _ => failHere "Unexpected token"

def bindingArrayItem : Parser (Option Pat) := do
  if ← isPunct "," then return none
  if ← acceptPunct "..." then
    let p ← g.binding
    unless ← isPunct "]" do failHere "Rest element must be final element"
    return some (.rest p)
  return some (← bindingElement g)

def bindingProperty : Parser PatProp := do
  if ← acceptPunct "..." then
    let n ← nameBound
    unless ← isPunct "\x7d" do failHere "Rest element must be final element"
    return .rest (.ident n)
  let plainName ← name?
  let place := (← get).here
  let key ← propertyKey g
  if ← acceptPunct ":" then return .keyValue key (← bindingElement g)
  match key, plainName with
  | .name _, some n =>
    if (← read).protects n then note place "Unexpected eval or arguments in strict mode"
    if ← acceptPunct "=" then return .shorthand n (some (← allowIn (checked g.assign)))
    else return .shorthand n none
  | _, _ => failHere "Expected ':'"

def bindingTarget : Parser Pat := do
  if ← acceptPunct "[" then return .array (← commaList "]" (bindingArrayItem g))
  else if ← acceptPunct "\x7b" then return .object (← commaList "\x7d" (bindingProperty g))
  else return .ident (← nameBound)

def parameters : Parser (List Pat) := do
  expectPunct "("
  commaList ")" do
    if ← acceptPunct "..." then
      let p ← g.binding
      unless ← isPunct ")" do failHere "Rest element must be final element"
      return .rest p
    bindingElement g

/-- Leading string statements, and whether one of them makes the code strict. -/
def directives : Nat → Parser (List Stmt × Bool)
  | 0 => return ([], false)
  | fuel + 1 => do
    match (← get).token with
    | .str v _ plain =>
      let s ← g.listItem
      match s with
      | .expr (.str _) =>
        if plain && v == "use strict" then return ([s], true)
        let (more, strict) ← directives fuel
        return (s :: more, strict)
      | _ => return ([s], false)
    | _ => return ([], false)

/-- Statements up to a place where `stop` accepts, after the directives that open them. -/
def program (stop : Parser Bool) : Parser (List Stmt × Bool) := do
  let (opening, strict) ← directives g ((← get).size + 1)
  let body ← withContext (fun c => { c with strict := c.strict || strict }) do
    many do
      if ← stop then return none
      return some (← g.listItem)
  return (opening ++ body, strict)

/-- The body of a function in braces, and whether it declares itself strict. -/
def functionBody : Parser (List Stmt × Bool) := do
  expectPunct "\x7b"
  program g (acceptPunct "\x7d")

def isPlainParameter : Pat → Bool
  | .ident _ => true
  | _ => false

/-- A strict body asks for plain parameters, none of them `eval` or `arguments`. -/
def checkStrictParameters (place : Rest) (params : List Pat) : Parser Unit := do
  unless params.all isPlainParameter do
    note place "Illegal 'use strict' directive in function with non-simple parameter list."
  if params.any fun p => match p with
    | .ident n => n == "eval" || n == "arguments"
    | _ => false then
    note place "'eval' and 'arguments' cannot be used as a binding identifier in strict mode"

/-- What a function's own code may use of its home. -/
structure Home where
  superMember : Bool := false
  superCall : Bool := false

def functionRest (kind : FuncKind) (home : Home) : Parser (List Pat × List Stmt) :=
  withContext (fun c => { c with
    inFunction := true, inAsync := kind.isAsync, inGenerator := kind.isGenerator, newTarget := true,
    superMember := home.superMember, superCall := home.superCall, noIn := false,
    breakAllowed := false, continueAllowed := false, labels := [], inParameters := false,
    inField := false }) do
  let place := (← get).here
  let params ← withContext (fun c => { c with inParameters := true }) (parameters g)
  let (body, strict) ← functionBody g
  if strict then checkStrictParameters place params
  return (params, body)

def arrowBody (isAsync : Bool) (place : Rest) (params : List Pat) : Parser Expr := do
  let inner := fun (c : Context) => { c with
    inFunction := true, inAsync := isAsync, inGenerator := false,
    breakAllowed := false, continueAllowed := false, labels := [], inParameters := false }
  if ← isPunct "\x7b" then
    let (body, strict) ← withContext (fun c => { inner c with noIn := false }) (functionBody g)
    if strict then checkStrictParameters place params
    return .arrow isAsync params body
  else
    let e ← withContext inner (checked g.assign)
    return .arrow isAsync params [.ret (some e)]

/-- The parts of a function after the word `function`; a declaration has a name. -/
def functionTail (isAsync declared : Bool) :
    Parser (Option String × FuncKind × List Pat × List Stmt) := do
  let isGenerator ← acceptPunct "*"
  let kind : FuncKind := { isAsync, isGenerator }
  let name ← if declared then some <$> nameBound
    else if ← isPunct "(" then pure none
    else some <$> withContext (fun c => { c with
      inGenerator := isGenerator, inAsync := isAsync }) nameBound
  let (params, body) ← functionRest g kind {}
  return (name, kind, params, body)

/-- Whether a token may begin the key of a property. -/
def beginsKey : Token → Bool
  | .word .. | .str .. | .num .. | .bigint _ | .hidden _ => true
  | t => t.isPunct "["

structure Modifiers where
  isAsync : Bool := false
  isGenerator : Bool := false
  role : MethodRole := .method

/-- Reads `async`, `*`, `get` or `set` where they stand before a key. -/
def modifiers : Parser Modifiers := do
  let (next, newline) ← peek
  if (← isWord "get") && beginsKey next then
    advance
    return { role := .getter }
  if (← isWord "set") && beginsKey next then
    advance
    return { role := .setter }
  let isAsync := (← isWord "async") && !newline && (beginsKey next || next.isPunct "*")
  if isAsync then advance
  let isGenerator ← acceptPunct "*"
  return { isAsync, isGenerator }

def checkAccessor (place : Rest) (role : MethodRole) (params : List Pat) : Parser Unit := do
  match role, params with
  | .getter, _ :: _ => note place "A 'get' accessor cannot have parameters"
  | .setter, [.rest _] => note place "A 'set' accessor cannot have rest parameter"
  | .setter, [_] => return
  | .setter, _ => note place "A 'set' accessor must have exactly one parameter"
  | _, _ => return

def property : Parser Property := do
  if ← acceptPunct "..." then return .spread (← allowIn g.assign)
  let m ← modifiers
  let plainName ← name?
  let place := (← get).here
  let key ← propertyKey g
  let kind : FuncKind := { isAsync := m.isAsync, isGenerator := m.isGenerator }
  match m.role with
  | .getter =>
    let (params, body) ← functionRest g {} { superMember := true }
    checkAccessor place .getter params
    return .getter key body
  | .setter =>
    let (params, body) ← functionRest g {} { superMember := true }
    checkAccessor place .setter params
    return .setter key (params.headD (.array [])) body
  | _ =>
    if m.isAsync || m.isGenerator || (← isPunct "(") then
      let (params, body) ← functionRest g kind { superMember := true }
      return .method key kind params body
    if ← acceptPunct ":" then return .keyValue key (← allowIn g.assign)
    match key, plainName with
    | .name _, some n =>
      if ← isPunct "=" then
        modify fun s => { s with cover := s.cover <|> some s.here }
        advance
        let outer := (← get).cover
        let d ← allowIn (checked g.assign)
        modify fun s => { s with cover := outer }
        return .cover n d
      else return .shorthand n
    | _, _ => failHere "Unexpected token"

/-- The context of code in a class body outside methods. -/
def Context.ofField (c : Context) : Context :=
  { c with
    inFunction := false, inAsync := false, inGenerator := false, newTarget := true,
    superMember := true, superCall := false, noIn := false,
    breakAllowed := false, continueAllowed := false, labels := [], inParameters := false,
    inField := true }

def classKey : Parser Key := do
  match (← get).token with
  | .hidden n =>
    advance
    return .hidden n
  | _ => propertyKey g

def spellsConstructor : Key → Bool
  | .name n | .str n => n == "constructor"
  | _ => false

def classMember (derived : Bool) : Parser ClassMember := do
  let (next, _) ← peek
  let isStatic := (← isWord "static") && (beginsKey next || next.isPunct "*" || next.isPunct "\x7b")
  if isStatic then advance
  if isStatic && (← isPunct "\x7b") then
    advance
    let body ← withContext Context.ofField do
      many do
        if ← acceptPunct "\x7d" then return none
        return some (← g.listItem)
    return .staticBlock body
  let m ← modifiers
  let place := (← get).here
  let key ← classKey g
  let isCtor := !isStatic && spellsConstructor key
  if m.role != .method || m.isAsync || m.isGenerator || (← isPunct "(") then
    let kind : FuncKind := { isAsync := m.isAsync, isGenerator := m.isGenerator }
    if isCtor && (m.role != .method || m.isAsync || m.isGenerator) then
      note place "Constructor cannot be an accessor, a generator or async"
    let role := if isCtor then .constructor else m.role
    let (params, body) ← functionRest g kind
      { superMember := true, superCall := isCtor && derived }
    checkAccessor place m.role params
    return .method isStatic role key kind params body
  if isCtor then note place "A class field cannot be named 'constructor'"
  let value ← if ← acceptPunct "=" then
      some <$> withContext Context.ofField (checked g.assign)
    else pure none
  endStatement
  return .field isStatic key value

def classTail : Parser (Option Expr × List ClassMember) :=
  withContext (fun c => { c with strict := true }) do
  let parent ← if ← acceptWord "extends" then some <$> allowIn (checked g.leftHand) else pure none
  expectPunct "\x7b"
  let place := (← get).here
  let members ← many do
    let _ ← many do if ← acceptPunct ";" then return some () else return none
    if ← acceptPunct "\x7d" then return none
    return some (← classMember g parent.isSome)
  let ctors := members.filter fun m => match m with
    | .method _ role _ _ _ _ => role == .constructor
    | _ => false
  if 1 < ctors.length then note place "A class may only have one constructor"
  return (parent, members)

end DomFlow.Script.Parser
