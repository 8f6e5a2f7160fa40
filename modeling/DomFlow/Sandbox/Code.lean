import DomFlow.Script.Ast
import DomFlow.Text.CodeUnits

/-! # Code of the sandbox

Scripts run as code for a machine with an operand stack. Code is a tree: an instruction that branches,
loops or opens a scope holds the code of its parts, so there are no addresses and no jumps. -/

namespace DomFlow.Sandbox

open Text (CodeUnits)
open Script (BinaryOp UnaryOp UpdateOp FuncKind)

abbrev Name := CodeUnits

inductive Const where
  | undefined
  | null
  | bool (value : Bool)
  | num (value : Float)
  | bigint (value : Int)
  | str (value : CodeUnits)
deriving Inhabited

/-- What `this` is in a function, and whether it constructs. -/
inductive FuncRole where
  | plain
  /-- Takes `this` from around it. -/
  | arrow
  | method
  /-- Constructs an object by itself. -/
  | base
  /-- Constructs by calling its parent class. -/
  | derived
deriving DecidableEq, Repr, Inhabited

inductive MethodPlace where
  | value
  | getter
  | setter
deriving DecidableEq, Repr, Inhabited

/-- Names that a scope binds; `vars` can be read at once, the others only after their declaration. -/
structure Decls where
  vars : List Name := []
  lets : List Name := []
  consts : List Name := []
deriving Inhabited

def Decls.isEmpty (d : Decls) : Bool := d.vars.isEmpty && d.lets.isEmpty && d.consts.isEmpty

structure FuncInfo where
  name : Name
  kind : FuncKind := {}
  role : FuncRole := .plain
  strict : Bool := false
  /-- The number of parameters before the first default or rest. -/
  arity : Nat := 0
  /-- Parameters that the object `arguments` shares. -/
  shared : List Name := []
  decls : Decls := {}
deriving Inhabited

/-- The effect on operands stands in brackets: what is taken, the last on top, and what is left. -/
inductive Simple where
  | push (c : Const)
  /-- `[a → ]` -/
  | drop
  /-- `[a → a a]` -/
  | dup
  /-- `[a b → a b a b]` -/
  | dupPair
  /-- `[a b → b a]` -/
  | swap
  /-- Puts the top below `n` others. -/
  | lower (n : Nat)
  /-- Brings what lies below `n` others to the top. -/
  | lift (n : Nat)
  /-- `[ → v]` -/
  | getName (n : Name)
  /-- `[ → v]`, undefined for an unbound name. -/
  | peekName (n : Name)
  /-- `[ → this f]` -/
  | getCallee (n : Name)
  /-- `[v → v]` -/
  | setName (n : Name)
  /-- `[v → ]`, gives a declared name its first value. -/
  | initName (n : Name)
  /-- `[ → b]` -/
  | deleteName (n : Name)
  | thisRef
  | newTarget
  /-- `[o k → v]` -/
  | getMember
  /-- `[o → v]` -/
  | getField (k : Name)
  /-- `[o k → o f]` -/
  | getMethod
  /-- `[o → o f]` -/
  | getMethodNamed (k : Name)
  /-- `[o k v → v]` -/
  | setMember
  /-- `[o v → v]` -/
  | setField (k : Name)
  /-- `[v → k]` -/
  | toKey
  /-- `[o k → b]` -/
  | deleteMember
  /-- `[k → v]`, from the parent of the object that the running method belongs to. -/
  | superGet
  /-- `[k v → v]` -/
  | superSet
  /-- `[o n → v]`, for a name that only its class can see. -/
  | getHidden
  /-- `[o n v → v]` -/
  | setHidden
  /-- `[n o → b]` -/
  | hasHidden
  /-- Gives a hidden name of the current scope its identity. -/
  | makeHidden (n : Name)
  | newArray
  /-- `[a v → a]` -/
  | appendItem
  /-- `[a → a]` -/
  | appendHole
  /-- `[a v → a]`, all items of an iterable. -/
  | appendSpread
  | newObject
  /-- `[o k v → o]` -/
  | defineField
  /-- `[o k f → o]` -/
  | defineMethod (place : MethodPlace)
  /-- `[o v → o]` -/
  | copyFields
  /-- `[o v → o]` -/
  | setProto
  | regex (source flags : CodeUnits)
  /-- The array of a tagged template. -/
  | templateObject (cooked : List (Option CodeUnits)) (raw : List CodeUnits)
  /-- `[this f a₁ … aₙ → v]` -/
  | call (n : Nat)
  /-- `[this f array → v]` -/
  | callSpread
  /-- `[f a₁ … aₙ → v]` -/
  | construct (n : Nat)
  /-- `[f array → v]` -/
  | constructSpread
  /-- `[array → v]` -/
  | superCall
  /-- `[array → promise]` -/
  | importCall
  /-- `[a b → v]` -/
  | binary (op : BinaryOp)
  /-- `[a → v]` -/
  | unary (op : UnaryOp)
  /-- `[a → number]` -/
  | toNumeric
  /-- `[number → number]` -/
  | update (op : UpdateOp)
  /-- `[text v → text]` -/
  | appendText
  | raise
  | ret
  /-- Counts a round of a loop. -/
  | round
  | exitTo (label : Option Name)
  | nextOf (label : Option Name)
  /-- `[ → v]`, the next value of the iterator at hand. -/
  | iterStep
  /-- `[ → array]`, all further values of the iterator at hand. -/
  | iterRest
  /-- `[v → v]`, fails on undefined and null. -/
  | requireObject
  /-- `[seen v v k → seen v v k]`, keeps a key out of the rest of an object. -/
  | excludeKey
  /-- `[seen v → o]`, all fields but the given and the seen ones. -/
  | restObject (keys : List Name)
  /-- An argument of the running function. -/
  | argument (i : Nat)
  /-- The arguments from one on, as an array. -/
  | restArguments (i : Nat)
  /-- Ends the setup of a generator. -/
  | suspend
  /-- `[v → v]` -/
  | yield
  /-- `[iterable → v]` -/
  | delegate
  /-- `[v → v]` -/
  | await
  /-- `[class proto k f → class proto]` -/
  | classMethod (isStatic hidden : Bool) (place : MethodPlace)
  /-- `[class proto k f → class proto]`, a field and the function of its value, or undefined. -/
  | classField (isStatic hidden : Bool)
  /-- `[class proto f → class proto]` -/
  | classBlock
  /-- `[class proto → class]` -/
  | classFinish (name : Option Name)
deriving Inhabited

mutual

inductive Instr where
  | simple (s : Simple)
  /-- `[ → f]`; with `named`, the function can refer to itself by its name. -/
  | closure (f : Func) (named : Bool)
  /-- `[parent → class proto]`, or `[ → class proto]`. -/
  | classStart (f : Func) (hasParent : Bool)
  /-- `[v → ]` -/
  | branch (yes no : List Instr)
  /-- `[a → a]`, or `[a → ]` and the right side. -/
  | logical (op : BinaryOp) (rest : List Instr)
  /-- `[v → v]` and the rest; undefined in place of `extra + 1` operands where `v` is undefined or null. -/
  | shortCircuit (extra : Nat) (rest : List Instr)
  /-- `[v → v]`, or the default for undefined. -/
  | orDefault (code : List Instr)
  /-- Runs code in a scope; `copied` names start with their values around it. -/
  | scope (d : Decls) (copied : List Name) (body : List Instr)
  /-- `[o → ]` -/
  | withScope (body : List Instr)
  | loop (l : Loop) (testFirst : Bool)
  /-- `[o → ]`, the body finds every key on the stack. -/
  | keyLoop (labels : List Name) (body : List Instr)
  /-- `[iterable → ]`, the body finds every item on the stack. -/
  | itemLoop (labels : List Name) (body : List Instr)
  /-- Code that can be left by its labels and, if `plainExit`, without one. -/
  | leavable (labels : List Name) (plainExit : Bool) (body : List Instr)
  | tryCatch (body : List Instr) (handler finalizer : Option (List Instr))
  /-- `[iterable → ]` -/
  | destructure (body : List Instr)

structure Loop where
  labels : List Name
  /-- Names of which every round has its own copy. -/
  copied : List Name
  test : List Instr
  update : List Instr
  body : List Instr

structure Func where
  info : FuncInfo
  /-- Binds the parameters. -/
  setup : List Instr
  body : List Instr

end

abbrev Code := List Instr

instance : Inhabited Func := ⟨⟨default, [], []⟩⟩

/-- The code of a script and the names that it declares. -/
structure Program where
  strict : Bool
  vars : List Name
  functions : List (Name × Func)
  decls : Decls
  body : Code

end DomFlow.Sandbox
