/-! # The tree of a script

One tree serves the taint walk, the access paths and the sandbox. Parentheses and optional chains are
kept as nodes, and a template keeps its text both as written and as it denotes. -/

namespace DomFlow.Script

inductive BinaryOp where
  | eqEq | notEq | eqEqEq | notEqEq
  | lt | ltEq | gt | gtEq
  | shiftLeft | shiftRight | shiftRightZero
  | add | sub | mul | div | mod
  | bitOr | bitXor | bitAnd
  | logicalOr | logicalAnd | coalesce
  | exp | isIn | instanceOf
deriving DecidableEq, Repr, Inhabited

def BinaryOp.text : BinaryOp → String
  | eqEq => "==" | notEq => "!=" | eqEqEq => "===" | notEqEq => "!=="
  | lt => "<" | ltEq => "<=" | gt => ">" | gtEq => ">="
  | shiftLeft => "<<" | shiftRight => ">>" | shiftRightZero => ">>>"
  | add => "+" | sub => "-" | mul => "*" | div => "/" | mod => "%"
  | bitOr => "|" | bitXor => "^" | bitAnd => "&"
  | logicalOr => "||" | logicalAnd => "&&" | coalesce => "??"
  | exp => "**" | isIn => "in" | instanceOf => "instanceof"

inductive UnaryOp where
  | minus | plus | not | bitNot | typeOf | void | delete
deriving DecidableEq, Repr, Inhabited

inductive UpdateOp where
  | increment | decrement
deriving DecidableEq, Repr, Inhabited

/-- `=`, or an operator followed by `=`. -/
inductive AssignOp where
  | plain
  | compound (op : BinaryOp)
deriving DecidableEq, Repr, Inhabited

inductive VarKind where
  | var | letKind | constKind
deriving DecidableEq, Repr, Inhabited

/-- What a function's body may do: `await`, `yield`. -/
structure FuncKind where
  isAsync : Bool := false
  isGenerator : Bool := false
deriving DecidableEq, Repr, Inhabited

/-- A piece of template text: as written, and as it denotes (absent if an escape is malformed). -/
structure Quasi where
  raw : String
  cooked : Option String
deriving DecidableEq, Repr, Inhabited

/-- The role of a function that stands in a class body. -/
inductive MethodRole where
  | method | getter | setter | constructor
deriving DecidableEq, Repr, Inhabited

mutual

/-- The key of a property, a member access or a class element. -/
inductive Key where
  | name (text : String)
  | hidden (text : String)
  | str (value : String)
  | num (value : Float)
  | bigint (value : Nat)
  | computed (expr : Expr)

inductive Expr where
  | ident (name : String)
  | thisRef
  | null
  | bool (value : Bool)
  | num (value : Float)
  | bigint (value : Nat)
  | str (value : String)
  | regex (source flags : String)
  | template (quasis : List Quasi) (exprs : List Expr)
  | tagged (tag : Expr) (quasis : List Quasi) (exprs : List Expr)
  | array (elems : List Elem)
  | object (props : List Property)
  | func (name : Option String) (kind : FuncKind) (params : List Pat) (body : List Stmt)
  | arrow (isAsync : Bool) (params : List Pat) (body : List Stmt)
  | classExpr (name : Option String) (parent : Option Expr) (members : List ClassMember)
  | unary (op : UnaryOp) (arg : Expr)
  | update (op : UpdateOp) (before : Bool) (arg : Expr)
  | binary (op : BinaryOp) (left right : Expr)
  | assign (op : AssignOp) (target : Target) (value : Expr)
  | cond (test yes no : Expr)
  | call (callee : Expr) (args : List Elem)
  | superCall (args : List Elem)
  | importCall (args : List Elem)
  | new (callee : Expr) (args : List Elem)
  | member (object : Expr) (key : Key)
  | superMember (key : Key)
  | optMember (short : Bool) (object : Expr) (key : Key)
  | optCall (short : Bool) (callee : Expr) (args : List Elem)
  | seq (exprs : List Expr)
  | paren (inner : Expr)
  | await (arg : Expr)
  | yield (delegate : Bool) (arg : Option Expr)
  | newTarget
  | hiddenName (text : String)

/-- An element of an array literal or of an argument list; only arrays have holes. -/
inductive Elem where
  | hole
  | item (expr : Expr)
  | spread (expr : Expr)

inductive Property where
  | keyValue (key : Key) (value : Expr)
  | shorthand (name : String)
  /-- A name with a default, which is legal only where the literal turns out to be a pattern. -/
  | cover (name : String) (default : Expr)
  | spread (expr : Expr)
  | method (key : Key) (kind : FuncKind) (params : List Pat) (body : List Stmt)
  | getter (key : Key) (body : List Stmt)
  | setter (key : Key) (param : Pat) (body : List Stmt)

inductive ClassMember where
  | method (isStatic : Bool) (role : MethodRole) (key : Key) (kind : FuncKind)
      (params : List Pat) (body : List Stmt)
  | field (isStatic : Bool) (key : Key) (value : Option Expr)
  | staticBlock (body : List Stmt)

/-- A destructuring pattern; `target` is a place other than a name, in assignments only. -/
inductive Pat where
  | ident (name : String)
  | array (elems : List (Option Pat))
  | object (props : List PatProp)
  | rest (inner : Pat)
  | withDefault (left : Pat) (default : Expr)
  | target (expr : Expr)

inductive PatProp where
  | keyValue (key : Key) (value : Pat)
  | shorthand (name : String) (default : Option Expr)
  | rest (inner : Pat)

inductive Target where
  | ident (name : String)
  | member (object : Expr) (key : Key)
  | superMember (key : Key)
  | paren (inner : Expr)
  | pattern (pat : Pat)

inductive Declarator where
  | mk (pat : Pat) (init : Option Expr)

inductive ForHead where
  | decl (kind : VarKind) (pat : Pat) (init : Option Expr)
  | target (pat : Pat)

inductive SwitchCase where
  | mk (test : Option Expr) (body : List Stmt)

inductive Catch where
  | mk (param : Option Pat) (body : List Stmt)

inductive Stmt where
  | expr (expr : Expr)
  | block (body : List Stmt)
  | empty
  | debugger
  | withObject (object : Expr) (body : Stmt)
  | ret (arg : Option Expr)
  | labeled (label : String) (body : Stmt)
  | breakTo (label : Option String)
  | continueTo (label : Option String)
  | ifElse (test : Expr) (yes : Stmt) (no : Option Stmt)
  | switch (subject : Expr) (cases : List SwitchCase)
  | throw (arg : Expr)
  | tryCatch (block : List Stmt) (handler : Option Catch) (finalizer : Option (List Stmt))
  | whileLoop (test : Expr) (body : Stmt)
  | doWhile (body : Stmt) (test : Expr)
  | forLoop (init : Option Stmt) (test update : Option Expr) (body : Stmt)
  | forIn (head : ForHead) (subject : Expr) (body : Stmt)
  | forOf (isAwait : Bool) (head : ForHead) (subject : Expr) (body : Stmt)
  | var (kind : VarKind) (decls : List Declarator)
  | func (name : String) (kind : FuncKind) (params : List Pat) (body : List Stmt)
  | classDecl (name : String) (parent : Option Expr) (members : List ClassMember)

end

instance : Inhabited Expr := ⟨.thisRef⟩
instance : Inhabited Stmt := ⟨.empty⟩
instance : Inhabited Pat := ⟨.array []⟩

/-- The kind of an expression, as a statement list shows it. -/
def Expr.kindText : Expr → String
  | .thisRef => "this"
  | .array _ => "array"
  | .object _ => "object"
  | .func .. => "function"
  | .unary .. => "unary"
  | .update .. => "update"
  | .binary .. => "binary"
  | .assign .. => "assign"
  | .member .. => "member"
  | .cond .. => "conditional"
  | .call .. | .superCall _ | .importCall _ => "call"
  | .new .. => "new"
  | .seq _ => "sequence"
  | .ident _ => "identifier"
  | .null | .bool _ | .num _ | .bigint _ | .str _ | .regex .. => "literal"
  | .template .. => "template"
  | .tagged .. => "tagged-template"
  | .arrow .. => "arrow"
  | .paren _ => "paren"
  | .optMember .. | .optCall .. => "optional-chain"
  | .classExpr .. | .superMember _ | .await _ | .yield .. | .newTarget | .hiddenName _ => "other"

/-- The kind of a statement; an expression statement shows the kind of its expression. -/
def Stmt.kindText : Stmt → String
  | .expr e => "expr:" ++ e.kindText
  | .block _ => "block"
  | .empty => "empty"
  | .debugger => "debugger"
  | .withObject .. => "with"
  | .ret _ => "return"
  | .labeled .. => "labeled"
  | .breakTo _ => "break"
  | .continueTo _ => "continue"
  | .ifElse .. => "if"
  | .switch .. => "switch"
  | .throw _ => "throw"
  | .tryCatch .. => "try"
  | .whileLoop .. => "while"
  | .doWhile .. => "do-while"
  | .forLoop .. => "for"
  | .forIn .. => "for-in"
  | .forOf .. => "for-of"
  | .var .. => "var"
  | .func .. => "function"
  | .classDecl .. => "class"

end DomFlow.Script

abbrev DomFlow.Script := List DomFlow.Script.Stmt

namespace DomFlow.Script

export DomFlow (Script)

end DomFlow.Script
