import DomFlow.Proofs.Coverage
import Mathlib.Data.List.Basic
import Mathlib.Order.Nat

/-! # The layout of nodes

What a node does is laid out in pieces: steps of its own, walks of its parts, and the properties of an object
literal, which depend on the sinks. The steps of a node are those of its pieces in order. Parts are smaller
than the node, so what holds of a node as soon as it holds of its parts holds of all nodes. -/

namespace DomFlow

namespace Script

/-- How large a node is, whatever happens to the names of a pattern. -/
noncomputable def Node.size : Node → Nat
  | .expr e => sizeOf e
  | .stmt s => sizeOf s
  | .pat _ p => sizeOf p

def SmallerThan (bound : Nat) (parts : List Part) : Prop := ∀ part ∈ parts, part.2.size < bound

section

variable {bound : Nat} {parts parts' : List Part}

theorem SmallerThan.append (h : SmallerThan bound parts) (h' : SmallerThan bound parts') :
    SmallerThan bound (parts ++ parts') := by
  intro part hpart
  exact (List.mem_append.mp hpart).elim (h part) (h' part)

theorem smaller_nil : SmallerThan bound [] := by
  intro part hpart
  simp at hpart

theorem smaller_cons {position : Position} {n : Node} (hn : n.size < bound)
    (h : SmallerThan bound parts) : SmallerThan bound ((position, n) :: parts) := by
  intro part hpart
  rcases List.mem_cons.mp hpart with rfl | hpart
  · exact hn
  · exact h part hpart

theorem smaller_map {α : Type} {position : Position} {f : α → Node} {xs : List α}
    (h : ∀ x ∈ xs, (f x).size < bound) : SmallerThan bound (xs.map fun x => (position, f x)) := by
  intro part hpart
  obtain ⟨x, hx, rfl⟩ := List.mem_map.mp hpart
  exact h x hx

theorem smaller_flatMap {α : Type} [SizeOf α] {f : α → List Part}
    (hf : ∀ x, SmallerThan (sizeOf x) (f x)) {xs : List α} (h : ∀ x ∈ xs, sizeOf x < bound) :
    SmallerThan bound (xs.flatMap f) := by
  intro part hpart
  obtain ⟨x, hx, hpart⟩ := List.mem_flatMap.mp hpart
  exact (hf x part hpart).trans (h x hx)

theorem smaller_function {params : List Pat} {body : List Stmt} (hparams : ∀ p ∈ params, sizeOf p < bound)
    (hbody : ∀ s ∈ body, sizeOf s < bound) : SmallerThan bound (functionParts params body) :=
  .append (smaller_map hparams) (smaller_map hbody)

theorem Key.smaller {k : Key} (position : Position) (h : sizeOf k ≤ bound) :
    SmallerThan bound (k.parts position) := by
  cases k with
  | computed e =>
    simp only [Key.computed.sizeOf_spec] at h
    exact smaller_cons (by simp only [Node.size]; omega) smaller_nil
  | name _ | hidden _ | str _ | num _ | bigint _ => exact smaller_nil

theorem lt_of_mem {α : Type} [SizeOf α] {xs : List α} (h : sizeOf xs ≤ bound) :
    ∀ x ∈ xs, sizeOf x < bound :=
  fun _ hx => Nat.lt_of_lt_of_le (List.sizeOf_lt_of_mem hx) h

theorem lt_of_mem_toList {α : Type} [SizeOf α] {o : Option α} (h : sizeOf o ≤ bound) :
    ∀ x ∈ o.toList, sizeOf x < bound := by
  cases o with
  | none => simp
  | some x =>
    simp only [Option.some.sizeOf_spec] at h
    simp only [Option.toList_some, List.mem_singleton, forall_eq]
    omega

theorem lt_of_mem_exprs {elems : List Elem} (h : sizeOf elems ≤ bound) :
    ∀ e ∈ Elem.exprs elems, sizeOf e < bound := by
  induction elems generalizing bound with
  | nil => simp [Elem.exprs]
  | cons elem elems ih =>
    simp only [List.cons.sizeOf_spec] at h
    have htail : ∀ e ∈ Elem.exprs elems, sizeOf e < bound := ih (by omega)
    cases elem with
    | hole => exact htail
    | item e | spread e =>
      simp only [Elem.item.sizeOf_spec, Elem.spread.sizeOf_spec] at h
      simp only [Elem.exprs, List.forall_mem_cons]
      exact ⟨by omega, htail⟩

end

theorem Property.smaller (prop : Property) : SmallerThan (sizeOf prop) prop.parts := by
  cases prop with
  | keyValue k v =>
    exact .append (Key.smaller _ (by simp +arith)) (smaller_cons (by simp +arith [Node.size]) smaller_nil)
  | shorthand _ => exact smaller_nil
  | cover _ d => exact smaller_cons (by simp +arith [Node.size]) smaller_nil
  | spread e => exact smaller_cons (by simp +arith [Node.size]) smaller_nil
  | method k _ params body =>
    exact .append (Key.smaller _ (by simp +arith))
      (smaller_function (lt_of_mem (by simp +arith)) (lt_of_mem (by simp +arith)))
  | getter k body => exact .append (Key.smaller _ (by simp +arith)) (smaller_map (lt_of_mem (by simp +arith)))
  | setter k param body =>
    exact .append (Key.smaller _ (by simp +arith)) (smaller_function (by simp +arith) (lt_of_mem (by simp +arith)))

theorem ClassMember.smaller (m : ClassMember) : SmallerThan (sizeOf m) m.parts := by
  cases m with
  | method _ _ k _ params body =>
    exact .append (.append (Key.smaller _ (by simp +arith)) (smaller_map (lt_of_mem (by simp +arith))))
      (smaller_map (lt_of_mem (by simp +arith)))
  | field _ k v =>
    exact .append (Key.smaller _ (by simp +arith)) (smaller_map (lt_of_mem_toList (by simp +arith)))
  | staticBlock body => exact smaller_map (lt_of_mem (by simp +arith))

theorem smaller_class {bound : Nat} {parent : Option Expr} {members : List ClassMember}
    (hparent : sizeOf parent ≤ bound) (hmembers : sizeOf members ≤ bound) :
    SmallerThan bound (classParts parent members) :=
  .append (smaller_map (lt_of_mem_toList hparent))
    (smaller_flatMap ClassMember.smaller (lt_of_mem hmembers))

theorem Target.smaller (plain : Bool) (t : Target) : SmallerThan (sizeOf t) (t.parts plain) := by
  cases t with
  | ident _ => exact smaller_nil
  | member o k => exact smaller_cons (by simp +arith [Node.size]) (Key.smaller _ (by simp +arith))
  | superMember k => exact Key.smaller _ (by simp +arith)
  | paren e => exact smaller_cons (by simp +arith [Node.size]) smaller_nil
  | pattern p => exact smaller_cons (by simp +arith [Node.size]) smaller_nil

theorem Expr.smaller (e : Expr) : SmallerThan (sizeOf e) e.parts := by
  cases e with
  | template _ es => exact smaller_map (lt_of_mem (by simp +arith))
  | tagged tag _ es =>
    exact smaller_map (List.forall_mem_cons.mpr ⟨by simp +arith [Node.size], lt_of_mem (by simp +arith)⟩)
  | array elems => exact smaller_map (lt_of_mem_exprs (by simp +arith))
  | object props => exact smaller_flatMap Property.smaller (lt_of_mem (by simp +arith))
  | func _ _ params body =>
    exact smaller_function (lt_of_mem (by simp +arith)) (lt_of_mem (by simp +arith))
  | arrow _ params body =>
    exact smaller_function (lt_of_mem (by simp +arith)) (lt_of_mem (by simp +arith))
  | classExpr _ parent members => exact smaller_class (by simp +arith) (by simp +arith)
  | assign op t v =>
    refine .append (fun part hpart => (t.smaller _ part hpart).trans_le ?_) (smaller_map ?_)
    · simp +arith
    · simp +arith [Node.size]
  | call f args | new f args | optCall _ f args =>
    exact smaller_map (List.forall_mem_cons.mpr ⟨by simp +arith [Node.size], lt_of_mem_exprs (by simp +arith)⟩)
  | superCall args | importCall args => exact smaller_map (lt_of_mem_exprs (by simp +arith))
  | member o k | optMember _ o k =>
    exact smaller_cons (by simp +arith [Node.size]) (Key.smaller _ (by simp +arith))
  | superMember k => exact Key.smaller _ (by simp +arith)
  | seq es => exact smaller_map (lt_of_mem (by simp +arith))
  | yield _ e => exact smaller_map (lt_of_mem_toList (by simp +arith))
  | unary _ e | update _ _ e | paren e | await e => exact smaller_map (by simp +arith [Node.size])
  | binary _ l r | cond _ l r => exact smaller_map (by simp +arith [Node.size])
  | ident _ | thisRef | null | bool _ | num _ | bigint _ | str _ | regex _ _ | newTarget | hiddenName _ =>
    exact smaller_nil

theorem PatProp.smaller (role : PatRole) (prop : PatProp) :
    SmallerThan (sizeOf prop) (prop.parts role) := by
  cases prop with
  | keyValue k p =>
    exact .append (Key.smaller _ (by simp +arith)) (smaller_cons (by simp +arith [Node.size]) smaller_nil)
  | shorthand _ d => exact smaller_map (lt_of_mem_toList (by simp +arith))
  | rest p => exact smaller_cons (by simp +arith [Node.size]) smaller_nil

theorem Pat.smaller (role : PatRole) (p : Pat) : SmallerThan (sizeOf p) (p.parts role) := by
  cases p with
  | ident _ => exact smaller_nil
  | array elems =>
    refine smaller_flatMap (fun elem => smaller_map (lt_of_mem_toList (Nat.le_refl _))) (lt_of_mem ?_)
    simp +arith
  | object props => exact smaller_flatMap (PatProp.smaller role) (lt_of_mem (by simp +arith))
  | rest p => exact smaller_cons (by simp +arith [Node.size]) smaller_nil
  | withDefault p d =>
    exact smaller_cons (by simp +arith [Node.size]) (smaller_cons (by simp +arith [Node.size]) smaller_nil)
  | target e => exact smaller_cons (by simp +arith [Node.size]) smaller_nil

theorem Declarator.smaller (target : BindTarget) (d : Declarator) :
    SmallerThan (sizeOf d) (d.parts target) := by
  cases d with
  | mk p init =>
    exact smaller_cons (by simp +arith [Node.size]) (smaller_map (lt_of_mem_toList (by simp +arith)))

theorem ForHead.smaller (head : ForHead) : SmallerThan (sizeOf head) head.parts := by
  cases head with
  | decl _ p init =>
    exact smaller_cons (by simp +arith [Node.size]) (smaller_map (lt_of_mem_toList (by simp +arith)))
  | target p => exact smaller_cons (by simp +arith [Node.size]) smaller_nil

theorem SwitchCase.smaller (c : SwitchCase) : SmallerThan (sizeOf c) c.parts := by
  cases c with
  | mk test body =>
    exact .append (smaller_map (lt_of_mem_toList (by simp +arith))) (smaller_map (lt_of_mem (by simp +arith)))

theorem Catch.smaller (c : Catch) : SmallerThan (sizeOf c) c.parts := by
  cases c with
  | mk param body =>
    exact smaller_function (lt_of_mem_toList (by simp +arith)) (lt_of_mem (by simp +arith))

theorem Stmt.smaller (s : Stmt) : SmallerThan (sizeOf s) s.parts := by
  cases s with
  | expr e | throw e => exact smaller_map (by simp +arith [Node.size])
  | block body => exact smaller_map (lt_of_mem (by simp +arith))
  | withObject o body =>
    exact smaller_cons (by simp +arith [Node.size]) (smaller_cons (by simp +arith [Node.size]) smaller_nil)
  | ret e => exact smaller_map (lt_of_mem_toList (by simp +arith))
  | labeled _ body => exact smaller_map (by simp +arith [Node.size])
  | ifElse test yes no =>
    refine .append (smaller_map (by simp +arith [Node.size])) (smaller_map ?_)
    exact List.forall_mem_cons.mpr ⟨by simp +arith [Node.size], lt_of_mem_toList (by simp +arith)⟩
  | switch e cases =>
    exact .append (smaller_map (by simp +arith [Node.size]))
      (smaller_flatMap SwitchCase.smaller (lt_of_mem (by simp +arith)))
  | tryCatch block handler finalizer =>
    refine .append (.append (smaller_map (lt_of_mem (by simp +arith)))
      (smaller_flatMap Catch.smaller (lt_of_mem_toList (by simp +arith)))) ?_
    exact smaller_flatMap (fun body => smaller_map (lt_of_mem (Nat.le_refl _)))
      (lt_of_mem_toList (by simp +arith))
  | whileLoop test body | doWhile body test =>
    exact .append (smaller_map (by simp +arith [Node.size])) (smaller_map (by simp +arith [Node.size]))
  | forLoop init test update body =>
    refine .append (.append (smaller_map (lt_of_mem_toList (by simp +arith))) (smaller_map ?_))
      (smaller_map (by simp +arith [Node.size]))
    refine List.forall_mem_append.mpr ⟨?_, ?_⟩
    · exact lt_of_mem_toList (by simp +arith)
    · exact lt_of_mem_toList (by simp +arith)
  | forIn head e body | forOf _ head e body =>
    refine .append (.append (fun part hpart => (head.smaller part hpart).trans_le ?_) (smaller_map ?_))
      (smaller_map ?_)
    · simp +arith
    · simp +arith [Node.size]
    · simp +arith [Node.size]
  | var kind decls => exact smaller_flatMap (Declarator.smaller _) (lt_of_mem (by simp +arith))
  | func _ _ params body =>
    exact smaller_function (lt_of_mem (by simp +arith)) (lt_of_mem (by simp +arith))
  | classDecl _ parent members => exact smaller_class (by simp +arith) (by simp +arith)
  | empty | debugger | breakTo _ | continueTo _ => exact smaller_nil

theorem Node.smaller (n : Node) : SmallerThan n.size n.parts := by
  cases n with
  | expr e => exact e.smaller
  | stmt s => exact s.smaller
  | pat role p => exact p.smaller role

/-- What holds of a node as soon as it holds of its parts holds of every node. -/
theorem Node.induction {motive : Node → Prop}
    (h : ∀ n : Node, (∀ part ∈ n.parts, motive part.2) → motive n) (n : Node) : motive n := by
  induction hn : n.size using Nat.strong_induction_on generalizing n with
  | _ size ih => exact h n fun part hpart => ih part.2.size (hn ▸ n.smaller part hpart) part.2 rfl

/-- A piece of what a node does. -/
inductive Piece where
  /-- A step of the node itself. -/
  | step (st : Step)
  /-- A part that is walked. -/
  | walk (n : Node)
  /-- A value of an object literal, which is checked if its key is a sink and walked if not. -/
  | value (key : Key) (v : Expr)
  /-- A property of an object literal that is a name only, which is checked if the name is a sink. -/
  | shorthand (name : String)

namespace Piece

def steps (sink : String → Bool) : Piece → List Step
  | .step st => [st]
  | .walk n => n.steps sink
  | .value key v =>
    match key.name? with
    | some name => if sink name then [.checkProperty name v] else v.steps sink
    | none => v.steps sink
  | .shorthand name => if sink name then [.checkProperty name (.ident name)] else []

/-- The part that a piece walks, at least with some sinks. -/
def part? : Piece → Option Part
  | .walk n => some (.ordinary, n)
  | .value key v => some (.valueOf key, .expr v)
  | .step _ | .shorthand _ => none

/-- All that a step of a piece can be. -/
theorem mem_steps_cases {sink : String → Bool} {piece : Piece} {st : Step} (hst : st ∈ piece.steps sink) :
    piece = .step st ∨
    (∃ part, piece.part? = some part ∧ part.1.entered sink = true ∧ st ∈ part.2.steps sink) ∨
    (∃ key v name, piece = .value key v ∧ key.name? = some name ∧ sink name = true ∧ st = .checkProperty name v) ∨
    ∃ name, piece = .shorthand name ∧ st = .checkProperty name (.ident name) := by
  cases piece with
  | step st' => exact .inl (congrArg _ (List.mem_singleton.mp hst).symm)
  | walk n => exact .inr (.inl ⟨_, rfl, rfl, hst⟩)
  | value key v =>
    simp only [steps] at hst
    split at hst
    next name hname =>
      split at hst
      next hsink => exact .inr (.inr (.inl ⟨key, v, name, rfl, hname, hsink, List.mem_singleton.mp hst⟩))
      next hsink => exact .inr (.inl ⟨_, rfl, by simp [Position.entered, hname, hsink], hst⟩)
    next hname => exact .inr (.inl ⟨_, rfl, by simp [Position.entered, hname], hst⟩)
  | shorthand name =>
    simp only [steps] at hst
    split at hst
    · exact .inr (.inr (.inr ⟨name, rfl, List.mem_singleton.mp hst⟩))
    · simp at hst

end Piece

def walkExprs (es : List Expr) : List Piece := es.map fun e => .walk (.expr e)

def walkStmts (ss : List Stmt) : List Piece := ss.map fun s => .walk (.stmt s)

def paramLayout (params : List Pat) : List Piece :=
  params.flatMap fun p => [.step .clean, .walk (.pat (.declared .current) p), .step .forget]

def scopeLayout (kind : ScopeKind) (params : List Pat) (body : List Stmt) : List Piece :=
  [.step (.enter kind)] ++ paramLayout params ++ walkStmts body ++ [.step .leave]

def defineLayout (name : String) : List Piece := (defineSteps name).map .step

def Key.layout : Key → List Piece
  | .computed e => walkExprs [e]
  | _ => []

def Property.layout : Property → List Piece
  | .keyValue k v => k.layout ++ [.value k v]
  | .shorthand n => [.shorthand n]
  | .spread e => walkExprs [e]
  | .method _ _ params body => scopeLayout .function params body
  | .getter _ body => scopeLayout .function [] body
  | .setter _ param body => scopeLayout .function [param] body
  | .cover _ _ => []

def Target.layout (plain : Bool) : Target → List Piece
  | .ident n => [.step (.assign plain n)]
  | .member o k => walkExprs [o] ++ k.layout
  | .pattern p => [.walk (.pat (.assigned plain) p)]
  | .superMember _ | .paren _ => []

def Expr.layout : Expr → List Piece
  | .assign op t v =>
    walkExprs [v] ++ [.step (.note v)] ++ t.layout (op = .plain) ++
      (t.path?.toList.map fun path => .step (.checkAssign path v)) ++ [.step .forget]
  | .call f args => walkExprs (f :: Elem.exprs args) ++ [.step (.checkCall f.path (Elem.exprs args))]
  | .superCall args => walkExprs (Elem.exprs args) ++ [.step (.checkCall "super" (Elem.exprs args))]
  | .importCall args => walkExprs (Elem.exprs args) ++ [.step (.checkCall "import" (Elem.exprs args))]
  | .new f args => walkExprs (f :: Elem.exprs args) ++ [.step (.checkCall f.path (Elem.exprs args))]
  | .optCall _ f args => walkExprs (f :: Elem.exprs args) ++ [.step (.checkCall f.path (Elem.exprs args))]
  | .object props => props.flatMap Property.layout
  | .func name _ params body =>
    [.step (.enter .function)] ++ name.toList.flatMap defineLayout ++
      scopeLayout .function params body ++ [.step .leave]
  | .arrow _ params body => scopeLayout .function params body
  | .paren e => walkExprs [e]
  | .seq es => walkExprs es
  | .binary _ l r => walkExprs [l, r]
  | .cond test yes no => walkExprs [test, yes, no]
  | .unary _ e => walkExprs [e]
  | .update _ _ e => walkExprs [e]
  | .await e => walkExprs [e]
  | .yield _ e => walkExprs e.toList
  | .array elems => walkExprs (Elem.exprs elems)
  | .template _ es => walkExprs es
  | .tagged tag _ es => walkExprs (tag :: es)
  | .member o k => walkExprs [o] ++ k.layout
  | .optMember _ o k => walkExprs [o] ++ k.layout
  | _ => []

/-- The step that gives a name of a pattern its taint. -/
def PatRole.write (n : String) : PatRole → Step
  | .declared target => .declare target n
  | .assigned plain => .assign plain n

/-- A default counts only where names are declared: there it is walked, and its taint is noted for what
comes next. -/
def PatRole.withDefault (d : Expr) (next : Piece) : PatRole → List Piece
  | .declared _ => [.walk (.expr d), .step (.noteDefault d), next, .step .forget]
  | .assigned _ => [next]

def PatProp.layout (role : PatRole) : PatProp → List Piece
  | .keyValue _ p => [.walk (.pat role p)]
  | .shorthand n none => [.step (role.write n)]
  | .shorthand n (some d) => role.withDefault d (.step (role.write n))
  | .rest p => [.walk (.pat role p)]

def Pat.layout (role : PatRole) : Pat → List Piece
  | .ident n => [.step (role.write n)]
  | .array elems => elems.flatMap fun elem => elem.toList.map fun p => .walk (.pat role p)
  | .object props => props.flatMap (PatProp.layout role)
  | .rest p => [.walk (.pat role p)]
  | .withDefault p d => role.withDefault d (.walk (.pat role p))
  | .target e =>
    match role with
    | .declared _ => []
    | .assigned _ => walkExprs [e]

def Declarator.layout (target : BindTarget) : Declarator → List Piece
  | .mk p (some e) =>
    [.walk (.expr e), .step (.note e), .walk (.pat (.declared target) p), .step .forget]
  | .mk p none => [.step .clean, .walk (.pat (.declared target) p), .step .forget]

def ForHead.pattern : ForHead → Node
  | .decl kind p _ => .pat (.declared kind.target) p
  | .target p => .pat (.assigned true) p

def SwitchCase.layout : SwitchCase → List Piece
  | .mk test body => walkExprs test.toList ++ walkStmts body

def Catch.layout : Catch → List Piece
  | .mk param body => scopeLayout .block param.toList body

/-- A loop that gives the taint of an expression to the names in its head. -/
def loopLayout (head : ForHead) (e : Expr) (body : Stmt) : List Piece :=
  [.step (.enter .block), .walk (.expr e), .step (.note e), .walk head.pattern, .step .forget,
    .walk (.stmt body), .step .leave]

def Stmt.layout : Stmt → List Piece
  | .expr e => walkExprs [e]
  | .block body => scopeLayout .block [] body
  | .ifElse test yes no => walkExprs [test] ++ walkStmts (yes :: no.toList)
  | .ret e => walkExprs e.toList
  | .whileLoop test body => walkExprs [test] ++ walkStmts [body]
  | .doWhile body test => walkStmts [body] ++ walkExprs [test]
  | .forLoop init test update body =>
    [.step (.enter .block)] ++ walkStmts init.toList ++ walkExprs test.toList ++
      walkExprs update.toList ++ walkStmts [body] ++ [.step .leave]
  | .forIn head e body => loopLayout head e body
  | .forOf _ head e body => loopLayout head e body
  | .tryCatch body handler finalizer =>
    scopeLayout .block [] body ++ handler.toList.flatMap Catch.layout ++
      finalizer.toList.flatMap (scopeLayout .block [])
  | .switch e cases =>
    walkExprs [e] ++ [.step (.enter .block)] ++ cases.flatMap SwitchCase.layout ++ [.step .leave]
  | .labeled _ body => walkStmts [body]
  | .throw e => walkExprs [e]
  | .var kind decls => decls.flatMap (Declarator.layout kind.target)
  | .func name _ params body => defineLayout name ++ scopeLayout .function params body
  | .classDecl name _ _ => defineLayout name
  | _ => []

def Node.layout : Node → List Piece
  | .expr e => e.layout
  | .stmt s => s.layout
  | .pat role p => p.layout role

section

variable (sink : String → Bool)

def pieceSteps (pieces : List Piece) : List Step := pieces.flatMap (Piece.steps sink)

@[simp] theorem pieceSteps_nil : pieceSteps sink [] = [] := rfl

@[simp] theorem pieceSteps_cons (piece : Piece) (pieces : List Piece) :
    pieceSteps sink (piece :: pieces) = piece.steps sink ++ pieceSteps sink pieces := rfl

@[simp] theorem pieceSteps_append (a b : List Piece) :
    pieceSteps sink (a ++ b) = pieceSteps sink a ++ pieceSteps sink b :=
  List.flatMap_append

@[simp] theorem pieceSteps_walkExprs (es : List Expr) :
    pieceSteps sink (walkExprs es) = Expr.allSteps sink es := by
  induction es with
  | nil => rfl
  | cons e es ih => rw [Expr.allSteps, ← ih]; rfl

@[simp] theorem pieceSteps_walkStmts (ss : List Stmt) :
    pieceSteps sink (walkStmts ss) = Stmt.allSteps sink ss := by
  induction ss with
  | nil => rfl
  | cons s ss ih => rw [Stmt.allSteps, ← ih]; rfl

@[simp] theorem pieceSteps_paramLayout (params : List Pat) :
    pieceSteps sink (paramLayout params) = Pat.paramSteps sink params := by
  induction params with
  | nil => rfl
  | cons p params ih =>
    rw [Pat.paramSteps, ← ih]
    simp [paramLayout, Piece.steps, Node.steps]

@[simp] theorem pieceSteps_scopeLayout (kind : ScopeKind) (params : List Pat) (body : List Stmt) :
    pieceSteps sink (scopeLayout kind params body) =
      [Step.enter kind] ++ Pat.paramSteps sink params ++ Stmt.allSteps sink body ++ [Step.leave] := by
  simp [scopeLayout, Piece.steps]

@[simp] theorem pieceSteps_defineLayout (name : String) :
    pieceSteps sink (defineLayout name) = defineSteps name := rfl

/-- Where the steps of a list are those of its members in order, and those of each member are those of its
pieces, the same holds of the list. -/
theorem steps_eq_of_members {α : Type} {f : List α → List Step} {g : α → List Piece} (hnil : f [] = [])
    (hcons : ∀ x xs, f (x :: xs) = f [x] ++ f xs) (h : ∀ x, f [x] = pieceSteps sink (g x)) (xs : List α) :
    f xs = pieceSteps sink (xs.flatMap g) := by
  induction xs with
  | nil => exact hnil
  | cons x xs ih => rw [hcons, h, ih, List.flatMap_cons, pieceSteps_append]

theorem Key.steps_eq (k : Key) : k.steps sink = pieceSteps sink k.layout := by
  cases k <;> simp [Key.steps, Key.layout, Expr.allSteps]

theorem Property.steps_eq (props : List Property) :
    Property.steps sink props = pieceSteps sink (props.flatMap Property.layout) := by
  refine steps_eq_of_members sink rfl (fun prop props => ?_) (fun prop => ?_) props
  · cases prop <;> simp [Property.steps]
  · cases prop with
    | keyValue k v =>
      cases hname : k.name? <;> simp [Property.steps, Property.layout, Key.steps_eq, Piece.steps, hname]
    | shorthand _ | cover _ _ | spread _ | method _ _ _ _ | getter _ _ | setter _ _ _ =>
      simp [Property.steps, Property.layout, Piece.steps, Expr.allSteps, Pat.paramSteps]

theorem Target.steps_eq (plain : Bool) (t : Target) :
    t.steps sink plain = pieceSteps sink (t.layout plain) := by
  cases t <;> simp [Target.steps, Target.layout, Key.steps_eq, Expr.allSteps, Piece.steps, Node.steps]

theorem Expr.steps_eq (e : Expr) : e.steps sink = pieceSteps sink e.layout := by
  cases e with
  | assign op t v =>
    rw [Expr.steps_assign, Target.steps_eq]
    cases hpath : t.path? <;> simp [Expr.layout, Expr.allSteps, Piece.steps, hpath]
  | call f args | new f args | optCall _ f args | superCall args | importCall args | array args =>
    simp [Expr.steps, Expr.layout, Elem.steps_eq_allSteps, Expr.allSteps, Piece.steps]
  | object props => rw [Expr.steps, Property.steps_eq, Expr.layout]
  | func name _ params body => cases name <;> simp [Expr.steps, Expr.layout, Piece.steps]
  | member o k | optMember _ o k => simp [Expr.steps, Expr.layout, Key.steps_eq, Expr.allSteps]
  | yield _ e => cases e <;> simp [Expr.steps, Expr.layout, Expr.allSteps]
  | arrow _ _ _ | template _ _ | tagged _ _ _ | unary _ _ | update _ _ _ | binary _ _ _ | cond _ _ _ | seq _
  | paren _ | await _ => simp [Expr.steps, Expr.layout, Expr.allSteps]
  | ident _ | thisRef | null | bool _ | num _ | bigint _ | str _ | regex _ _ | classExpr _ _ _
  | superMember _ | newTarget | hiddenName _ => rfl

theorem PatProp.steps_eq (role : PatRole) (props : List PatProp) :
    (Node.pat role (.object props)).steps sink = pieceSteps sink (props.flatMap (PatProp.layout role)) := by
  refine steps_eq_of_members sink (f := fun props => (Node.pat role (.object props)).steps sink)
    (by cases role <;> rfl) (fun prop props => ?_) (fun prop => ?_) props
  · cases role <;> rcases prop with ⟨_, _⟩ | ⟨_, _ | _⟩ | _ <;>
      simp [Node.steps, Pat.bindSteps, Pat.assignSteps, PatProp.bindSteps, PatProp.assignSteps]
  · cases role <;> rcases prop with ⟨_, _⟩ | ⟨_, _ | _⟩ | _ <;>
      simp [Node.steps, Pat.bindSteps, Pat.assignSteps, PatProp.bindSteps, PatProp.assignSteps,
        PatProp.layout, PatRole.withDefault, PatRole.write, Piece.steps]

theorem Pat.steps_eq (role : PatRole) (p : Pat) :
    (Node.pat role p).steps sink = pieceSteps sink (p.layout role) := by
  cases p with
  | array elems =>
    refine steps_eq_of_members sink (f := fun elems => (Node.pat role (.array elems)).steps sink)
      (by cases role <;> rfl) (fun elem elems => ?_) (fun elem => ?_) elems
    · cases role <;> cases elem <;>
        simp [Node.steps, Pat.bindSteps, Pat.assignSteps, Pat.bindAllSteps, Pat.assignAllSteps]
    · cases role <;> cases elem <;>
        simp [Node.steps, Pat.bindSteps, Pat.assignSteps, Pat.bindAllSteps, Pat.assignAllSteps, Piece.steps]
  | object props => exact PatProp.steps_eq sink role props
  | ident _ | rest _ | withDefault _ _ | target _ =>
    cases role <;> simp [Node.steps, Pat.bindSteps, Pat.assignSteps, Pat.layout, PatRole.withDefault,
      PatRole.write, Piece.steps, Expr.allSteps]

theorem Declarator.steps_eq (target : BindTarget) (decls : List Declarator) :
    Declarator.steps sink target decls = pieceSteps sink (decls.flatMap (Declarator.layout target)) := by
  refine steps_eq_of_members sink rfl (fun decl decls => ?_) (fun decl => ?_) decls
  · rcases decl with ⟨p, _ | e⟩ <;> simp [Declarator.steps]
  · rcases decl with ⟨p, _ | e⟩ <;> simp [Declarator.steps, Declarator.layout, Piece.steps, Node.steps]

theorem SwitchCase.steps_eq (cases : List SwitchCase) :
    SwitchCase.steps sink cases = pieceSteps sink (cases.flatMap SwitchCase.layout) := by
  refine steps_eq_of_members sink rfl (fun c cases => ?_) (fun c => ?_) cases
  · rcases c with ⟨_ | e, body⟩ <;> simp [SwitchCase.steps]
  · rcases c with ⟨_ | e, body⟩ <;> simp [SwitchCase.steps, SwitchCase.layout, Expr.allSteps]

theorem Catch.steps_eq (c : Catch) : c.steps sink = pieceSteps sink c.layout := by
  rcases c with ⟨_ | p, body⟩ <;> simp [Catch.steps, Catch.layout, Pat.paramSteps]

theorem ForHead.steps_eq (head : ForHead) : head.steps sink = head.pattern.steps sink := by
  cases head <;> rfl

theorem Stmt.steps_eq (s : Stmt) : s.steps sink = pieceSteps sink s.layout := by
  cases s with
  | ifElse test yes no => cases no <;> simp [Stmt.steps, Stmt.layout, Expr.allSteps, Stmt.allSteps]
  | ret e => cases e <;> simp [Stmt.steps, Stmt.layout, Expr.allSteps]
  | forLoop init test update body =>
    rw [Stmt.steps_forLoop]
    cases init <;> cases test <;> cases update <;>
      simp [Stmt.layout, Expr.allSteps, Stmt.allSteps, Piece.steps]
  | forIn head e body | forOf _ head e body =>
    simp [Stmt.steps, Stmt.layout, loopLayout, ForHead.steps_eq, Piece.steps, Node.steps]
  | tryCatch body handler finalizer =>
    rw [Stmt.steps_tryCatch]
    cases handler <;> cases finalizer <;>
      simp [Stmt.layout, Catch.steps_eq, Stmt.steps, Pat.paramSteps]
  | switch e cases => simp [Stmt.steps, Stmt.layout, SwitchCase.steps_eq, Expr.allSteps, Piece.steps]
  | var kind decls => rw [Stmt.steps, Declarator.steps_eq, Stmt.layout]
  | expr _ | block _ | whileLoop _ _ | doWhile _ _ | labeled _ _ | throw _ | func _ _ _ _ | classDecl _ _ _ =>
    simp [Stmt.steps, Stmt.layout, Expr.allSteps, Stmt.allSteps, Pat.paramSteps]
  | withObject _ _ | empty | debugger | breakTo _ | continueTo _ => rfl

theorem Node.steps_eq (n : Node) : n.steps sink = pieceSteps sink n.layout := by
  cases n with
  | expr e => exact e.steps_eq sink
  | stmt s => exact s.steps_eq sink
  | pat role p => exact p.steps_eq sink role

end

def pieceParts (pieces : List Piece) : List Part := pieces.filterMap Piece.part?

@[simp] theorem pieceParts_nil : pieceParts [] = [] := rfl

@[simp] theorem pieceParts_cons (piece : Piece) (pieces : List Piece) :
    pieceParts (piece :: pieces) = piece.part?.toList ++ pieceParts pieces := by
  cases h : piece.part? <;> simp [pieceParts, h]

@[simp] theorem pieceParts_append (a b : List Piece) : pieceParts (a ++ b) = pieceParts a ++ pieceParts b :=
  List.filterMap_append

@[simp] theorem pieceParts_walkExprs (es : List Expr) : pieceParts (walkExprs es) = ordinaryExprs es := by
  simp [pieceParts, walkExprs, ordinaryExprs, Piece.part?, List.filterMap_map, Function.comp_def]

@[simp] theorem pieceParts_walkStmts (ss : List Stmt) : pieceParts (walkStmts ss) = ordinaryStmts ss := by
  simp [pieceParts, walkStmts, ordinaryStmts, Piece.part?, List.filterMap_map, Function.comp_def]

@[simp] theorem pieceParts_defineLayout (name : String) : pieceParts (defineLayout name) = [] := rfl

@[simp] theorem pieceParts_scopeLayout (kind : ScopeKind) (params : List Pat) (body : List Stmt) :
    pieceParts (scopeLayout kind params body) = functionParts params body := by
  have hparams : pieceParts (paramLayout params) =
      params.map fun p => (.ordinary, .pat (.declared .current) p) := by
    induction params with
    | nil => rfl
    | cons p params ih => simpa [paramLayout, Piece.part?] using ih
  simp [scopeLayout, functionParts, hparams, Piece.part?]

/-- What the members walk are parts if it is so of each member. -/
theorem pieceParts_flatMap_subset {α : Type} {g : α → List Piece} {q : α → List Part}
    (h : ∀ x, pieceParts (g x) ⊆ q x) (xs : List α) : pieceParts (xs.flatMap g) ⊆ xs.flatMap q := by
  induction xs with
  | nil => exact List.Subset.refl _
  | cons x xs ih =>
    rw [List.flatMap_cons, List.flatMap_cons, pieceParts_append]
    exact List.append_subset.mpr ⟨List.subset_append_of_subset_left _ (h x),
      List.subset_append_of_subset_right _ ih⟩

theorem Key.layout_parts (k : Key) : pieceParts k.layout = k.parts .ordinary := by
  cases k <;> rfl

theorem Property.layout_parts (prop : Property) : pieceParts prop.layout ⊆ prop.parts := by
  cases prop <;> simp [Property.layout, Property.parts, Key.layout_parts, Piece.part?, functionParts,
    ordinaryExprs]

theorem Target.layout_parts (plain : Bool) (t : Target) : pieceParts (t.layout plain) ⊆ t.parts plain := by
  cases t <;> simp [Target.layout, Target.parts, Key.layout_parts, Piece.part?, ordinaryExprs]

theorem Expr.layout_parts (e : Expr) : pieceParts e.layout ⊆ e.parts := by
  cases e with
  | object props => exact pieceParts_flatMap_subset Property.layout_parts props
  | assign op t v =>
    have hchecks : pieceParts (t.path?.toList.map fun path => .step (.checkAssign path v)) = [] := by
      cases t.path? <;> rfl
    simp only [Expr.layout, pieceParts_append, hchecks, List.append_nil]
    have htarget := t.layout_parts (op = .plain)
    simp [Expr.parts, Piece.part?, htarget]
  | func name _ params body => cases name <;> simp [Expr.layout, Expr.parts, Piece.part?]
  | member o k | optMember _ o k => simp [Expr.layout, Expr.parts, Key.layout_parts, ordinaryExprs]
  | _ => simp [Expr.layout, Expr.parts, Piece.part?]

theorem PatProp.layout_parts (role : PatRole) (prop : PatProp) :
    pieceParts (prop.layout role) ⊆ prop.parts role := by
  cases role <;> rcases prop with ⟨_, _⟩ | ⟨_, _ | _⟩ | _ <;>
    simp [PatProp.layout, PatProp.parts, PatRole.withDefault, PatRole.default, Piece.part?]

theorem Pat.layout_parts (role : PatRole) (p : Pat) : pieceParts (p.layout role) ⊆ p.parts role := by
  cases p with
  | array elems =>
    refine pieceParts_flatMap_subset (fun elem => ?_) elems
    cases elem <;> simp [Piece.part?]
  | object props => exact pieceParts_flatMap_subset (PatProp.layout_parts role) props
  | ident _ | rest _ | withDefault _ _ | target _ =>
    cases role <;> simp [Pat.layout, Pat.parts, PatRole.withDefault, PatRole.default, PatRole.place,
      Piece.part?, ordinaryExprs]

theorem Declarator.layout_parts (target : BindTarget) (d : Declarator) :
    pieceParts (d.layout target) ⊆ d.parts target := by
  rcases d with ⟨p, _ | e⟩ <;> simp [Declarator.layout, Declarator.parts, ordinaryExprs, Piece.part?]

theorem SwitchCase.layout_parts (c : SwitchCase) : pieceParts c.layout ⊆ c.parts := by
  cases c
  simp [SwitchCase.layout, SwitchCase.parts]

theorem Catch.layout_parts (c : Catch) : pieceParts c.layout ⊆ c.parts := by
  cases c
  simp [Catch.layout, Catch.parts]

theorem ForHead.pattern_mem_parts (head : ForHead) : (.ordinary, head.pattern) ∈ head.parts := by
  cases head <;> exact .head _

theorem Stmt.layout_parts (s : Stmt) : pieceParts s.layout ⊆ s.parts := by
  cases s with
  | switch e cases =>
    have hcases := pieceParts_flatMap_subset SwitchCase.layout_parts cases
    simp [Stmt.layout, Stmt.parts, Piece.part?, hcases]
  | tryCatch body handler finalizer =>
    have hhandler := pieceParts_flatMap_subset Catch.layout_parts handler.toList
    have hfinalizer : pieceParts (finalizer.toList.flatMap (scopeLayout .block [])) ⊆
        finalizer.toList.flatMap ordinaryStmts :=
      pieceParts_flatMap_subset (fun body => by simp [functionParts]) finalizer.toList
    simp only [Stmt.layout, pieceParts_append, pieceParts_scopeLayout]
    refine List.append_subset.mpr ⟨List.append_subset.mpr ⟨?_, ?_⟩, ?_⟩
    · exact List.subset_append_of_subset_left _ (List.subset_append_left _ _)
    · exact List.subset_append_of_subset_left _ (List.subset_append_of_subset_right _ hhandler)
    · exact List.subset_append_of_subset_right _ hfinalizer
  | forIn head e body | forOf _ head e body =>
    simp [Stmt.layout, loopLayout, Stmt.parts, Piece.part?, head.pattern_mem_parts, ordinaryExprs,
      ordinaryStmts]
  | var kind decls => exact pieceParts_flatMap_subset (Declarator.layout_parts kind.target) decls
  | _ => simp [Stmt.layout, Stmt.parts, Piece.part?, functionParts, ordinaryExprs, ordinaryStmts]

theorem Node.layout_parts (n : Node) : pieceParts n.layout ⊆ n.parts := by
  cases n with
  | expr e => exact e.layout_parts
  | stmt s => exact s.layout_parts
  | pat role p => exact p.layout_parts role

theorem Node.part_of_piece {n : Node} {piece : Piece} {part : Part} (hpiece : piece ∈ n.layout)
    (h : piece.part? = some part) : part ∈ n.parts :=
  n.layout_parts (List.mem_filterMap.mpr ⟨piece, hpiece, h⟩)

/-- A function on lists that works member by member. -/
theorem eq_map_of_cons {α β : Type} {f : List α → List β} {g : α → β} (hnil : f [] = [])
    (hcons : ∀ x xs, f (x :: xs) = g x :: f xs) (xs : List α) : f xs = xs.map g := by
  induction xs with
  | nil => exact hnil
  | cons x xs ih => rw [hcons, ih, List.map_cons]

/-- A rewriting of nodes that comes down to one of their pieces comes down to one of their steps. -/
theorem Node.steps_rewritten (sink : String → Bool) {node : Node → Node} {piece : Piece → Piece}
    {step : Step → Step} (hlayout : ∀ n, pieceSteps sink (node n).layout = pieceSteps sink (n.layout.map piece))
    (hpiece : ∀ x : Piece,
      (∀ part, x.part? = some part → (node part.2).steps sink = (part.2.steps sink).map step) →
        (piece x).steps sink = (x.steps sink).map step)
    (n : Node) : (node n).steps sink = (n.steps sink).map step := by
  induction n using Node.induction with
  | _ n ih =>
    have hpieces : ∀ x ∈ n.layout, (piece x).steps sink = (x.steps sink).map step :=
      fun x hx => hpiece x fun part hpart => ih part (Node.part_of_piece hx hpart)
    rw [(node n).steps_eq, hlayout, n.steps_eq, pieceSteps, pieceSteps, List.flatMap_map, List.map_flatMap]
    exact List.flatMap_congr hpieces

end Script

end DomFlow
