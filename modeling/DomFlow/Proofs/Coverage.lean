import DomFlow.Proofs.Nesting
import DomFlow.Proofs.Runs
import Mathlib.Logic.Relation

/-! # Which parts of a script are walked

The tree of a script is read as nodes with their parts, and every part has a position in its node. The walk
enters all parts but those in a few positions, so a call at any depth is checked unless one of the nodes
around it lies in such a position. An argument that is a source by its own path is then reported whatever
the state was before. -/

namespace DomFlow.Script

/-- What happens to the names of a pattern. -/
inductive PatRole where
  | declared (target : BindTarget)
  | assigned (plain : Bool)

inductive Node where
  | expr (e : Expr)
  | stmt (s : Stmt)
  | pat (role : PatRole) (p : Pat)

/-- The position of a part in its node. -/
inductive Position where
  | ordinary
  /-- The value under a key of an object literal. -/
  | valueOf (key : Key)
  /-- Anything in a class. -/
  | inClass
  /-- Anything in a `with` statement. -/
  | inWith
  /-- The key of a member of `super`, read or assigned. -/
  | superKey
  /-- A computed key of an object pattern. -/
  | patternKey
  /-- A computed key of a method, getter or setter of an object literal. -/
  | methodKey
  /-- A default in a pattern that is assigned to. -/
  | assignedDefault
  /-- A target of an assignment that stands in parentheses. -/
  | parenTarget
  /-- The initializer in the head of a `for`-`in` loop. -/
  | headInit
  /-- A part that no script has: a default in an object literal, or a place in a pattern that declares. -/
  | outsideGrammar

/-- Whether the walk enters a part in this position. -/
def Position.entered (sink : String → Bool) : Position → Bool
  | .ordinary => true
  | .valueOf key => !key.name?.any sink
  | _ => false

abbrev Part := Position × Node

def Key.parts (position : Position) : Key → List Part
  | .computed e => [(position, .expr e)]
  | _ => []

def ordinaryExprs (es : List Expr) : List Part := es.map fun e => (.ordinary, .expr e)

def ordinaryStmts (ss : List Stmt) : List Part := ss.map fun s => (.ordinary, .stmt s)

def functionParts (params : List Pat) (body : List Stmt) : List Part :=
  (params.map fun p => (.ordinary, .pat (.declared .current) p)) ++ ordinaryStmts body

def Property.parts : Property → List Part
  | .keyValue k v => k.parts .ordinary ++ [(.valueOf k, .expr v)]
  | .shorthand _ => []
  | .cover _ d => [(.outsideGrammar, .expr d)]
  | .spread e => [(.ordinary, .expr e)]
  | .method k _ params body => k.parts .methodKey ++ functionParts params body
  | .getter k body => k.parts .methodKey ++ ordinaryStmts body
  | .setter k param body => k.parts .methodKey ++ functionParts [param] body

def ClassMember.parts : ClassMember → List Part
  | .method _ _ k _ params body => k.parts .inClass ++
      (params.map fun p => (.inClass, .pat (.declared .current) p)) ++
      body.map fun s => (.inClass, .stmt s)
  | .field _ k v => k.parts .inClass ++ v.toList.map fun e => (.inClass, .expr e)
  | .staticBlock body => body.map fun s => (.inClass, .stmt s)

def classParts (parent : Option Expr) (members : List ClassMember) : List Part :=
  (parent.toList.map fun e => (.inClass, .expr e)) ++ members.flatMap ClassMember.parts

def Target.parts (plain : Bool) : Target → List Part
  | .ident _ => []
  | .member o k => (.ordinary, .expr o) :: k.parts .ordinary
  | .superMember k => k.parts .superKey
  | .paren e => [(.parenTarget, .expr e)]
  | .pattern p => [(.ordinary, .pat (.assigned plain) p)]

def Expr.parts : Expr → List Part
  | .template _ es => ordinaryExprs es
  | .tagged tag _ es => ordinaryExprs (tag :: es)
  | .array elems => ordinaryExprs (Elem.exprs elems)
  | .object props => props.flatMap Property.parts
  | .func _ _ params body => functionParts params body
  | .arrow _ params body => functionParts params body
  | .classExpr _ parent members => classParts parent members
  | .unary _ e => ordinaryExprs [e]
  | .update _ _ e => ordinaryExprs [e]
  | .binary _ l r => ordinaryExprs [l, r]
  | .assign op t v => t.parts (op = .plain) ++ ordinaryExprs [v]
  | .cond test yes no => ordinaryExprs [test, yes, no]
  | .call f args => ordinaryExprs (f :: Elem.exprs args)
  | .superCall args => ordinaryExprs (Elem.exprs args)
  | .importCall args => ordinaryExprs (Elem.exprs args)
  | .new f args => ordinaryExprs (f :: Elem.exprs args)
  | .member o k => (.ordinary, .expr o) :: k.parts .ordinary
  | .superMember k => k.parts .superKey
  | .optMember _ o k => (.ordinary, .expr o) :: k.parts .ordinary
  | .optCall _ f args => ordinaryExprs (f :: Elem.exprs args)
  | .seq es => ordinaryExprs es
  | .paren e => ordinaryExprs [e]
  | .await e => ordinaryExprs [e]
  | .yield _ e => ordinaryExprs e.toList
  | .ident _ | .thisRef | .null | .bool _ | .num _ | .bigint _ | .str _ | .regex _ _ | .newTarget
  | .hiddenName _ => []

def PatRole.default : PatRole → Position
  | .declared _ => .ordinary
  | .assigned _ => .assignedDefault

/-- The position of a place other than a name in a pattern. -/
def PatRole.place : PatRole → Position
  | .declared _ => .outsideGrammar
  | .assigned _ => .ordinary

def PatProp.parts (role : PatRole) : PatProp → List Part
  | .keyValue k p => k.parts .patternKey ++ [(.ordinary, .pat role p)]
  | .shorthand _ d => d.toList.map fun e => (role.default, .expr e)
  | .rest p => [(.ordinary, .pat role p)]

def Pat.parts (role : PatRole) : Pat → List Part
  | .ident _ => []
  | .array elems => elems.flatMap fun elem => elem.toList.map fun p => (.ordinary, .pat role p)
  | .object props => props.flatMap (PatProp.parts role)
  | .rest p => [(.ordinary, .pat role p)]
  | .withDefault p d => [(role.default, .expr d), (.ordinary, .pat role p)]
  | .target e => [(role.place, .expr e)]

def Declarator.parts (target : BindTarget) : Declarator → List Part
  | .mk p init => (.ordinary, .pat (.declared target) p) :: ordinaryExprs init.toList

def ForHead.parts : ForHead → List Part
  | .decl kind p init =>
    (.ordinary, .pat (.declared kind.target) p) :: init.toList.map fun e => (.headInit, .expr e)
  | .target p => [(.ordinary, .pat (.assigned true) p)]

def SwitchCase.parts : SwitchCase → List Part
  | .mk test body => ordinaryExprs test.toList ++ ordinaryStmts body

def Catch.parts : Catch → List Part
  | .mk param body => functionParts param.toList body

def Stmt.parts : Stmt → List Part
  | .expr e => ordinaryExprs [e]
  | .block body => ordinaryStmts body
  | .withObject o body => [(.inWith, .expr o), (.inWith, .stmt body)]
  | .ret e => ordinaryExprs e.toList
  | .labeled _ body => ordinaryStmts [body]
  | .ifElse test yes no => ordinaryExprs [test] ++ ordinaryStmts (yes :: no.toList)
  | .switch e cases => ordinaryExprs [e] ++ cases.flatMap SwitchCase.parts
  | .throw e => ordinaryExprs [e]
  | .tryCatch body handler finalizer =>
    ordinaryStmts body ++ handler.toList.flatMap Catch.parts ++
      finalizer.toList.flatMap ordinaryStmts
  | .whileLoop test body => ordinaryExprs [test] ++ ordinaryStmts [body]
  | .doWhile body test => ordinaryStmts [body] ++ ordinaryExprs [test]
  | .forLoop init test update body =>
    ordinaryStmts init.toList ++ ordinaryExprs (test.toList ++ update.toList) ++ ordinaryStmts [body]
  | .forIn head e body => head.parts ++ ordinaryExprs [e] ++ ordinaryStmts [body]
  | .forOf _ head e body => head.parts ++ ordinaryExprs [e] ++ ordinaryStmts [body]
  | .var kind decls => decls.flatMap (Declarator.parts kind.target)
  | .func _ _ params body => functionParts params body
  | .classDecl _ parent members => classParts parent members
  | .empty | .debugger | .breakTo _ | .continueTo _ => []

def Node.parts : Node → List Part
  | .expr e => e.parts
  | .stmt s => s.parts
  | .pat role p => p.parts role

/-- Whether the second node is an entered part of the first. -/
def Node.Enters (sink : String → Bool) (n m : Node) : Prop :=
  ∃ position, (position, m) ∈ n.parts ∧ position.entered sink = true

/-- Whether the second node lies in the first, at any depth and in entered positions only. -/
def Node.Reaches (sink : String → Bool) : Node → Node → Prop := Relation.ReflTransGen (Enters sink)

def Node.steps (sink : String → Bool) : Node → List Step
  | .expr e => e.steps sink
  | .stmt s => s.steps sink
  | .pat (.declared target) p => p.bindSteps sink target
  | .pat (.assigned plain) p => p.assignSteps sink plain

variable {sink : String → Bool} {steps steps' : List Step} {parts parts' : List Part}

/-- The steps of all entered parts are among the given steps. -/
def Covers (sink : String → Bool) (steps : List Step) (parts : List Part) : Prop :=
  ∀ part ∈ parts, part.1.entered sink = true → part.2.steps sink ⊆ steps

theorem Covers.mono (h : Covers sink steps parts) (hsub : steps ⊆ steps') : Covers sink steps' parts :=
  fun part hpart hentered => List.Subset.trans (h part hpart hentered) hsub

theorem Covers.append (h : Covers sink steps parts) (h' : Covers sink steps parts') :
    Covers sink steps (parts ++ parts') := by
  intro part hpart
  exact (List.mem_append.mp hpart).elim (h part) (h' part)

theorem covers_nil : Covers sink steps [] := by
  intro part hpart
  simp at hpart

theorem covers_cons {position : Position} {n : Node}
    (hn : position.entered sink = true → n.steps sink ⊆ steps) (h : Covers sink steps parts) :
    Covers sink steps ((position, n) :: parts) := by
  intro part hpart
  rcases List.mem_cons.mp hpart with rfl | hpart
  · exact hn
  · exact h part hpart

theorem covers_map {α : Type} {position : Position} {f : α → Node} {xs : List α}
    (h : position.entered sink = true → ∀ x ∈ xs, (f x).steps sink ⊆ steps) :
    Covers sink steps (xs.map fun x => (position, f x)) := by
  intro part hpart hentered
  obtain ⟨x, hx, rfl⟩ := List.mem_map.mp hpart
  exact h hentered x hx

theorem covers_flatMap {α : Type} {f : α → List Part} {xs : List α}
    (h : ∀ x ∈ xs, Covers sink steps (f x)) : Covers sink steps (xs.flatMap f) := by
  intro part hpart
  obtain ⟨x, hx, hpart⟩ := List.mem_flatMap.mp hpart
  exact h x hx part hpart

theorem covers_exprs {es : List Expr} (h : ∀ e ∈ es, e.steps sink ⊆ steps) :
    Covers sink steps (ordinaryExprs es) :=
  covers_map fun _ => h

theorem covers_stmts {ss : List Stmt} (h : ∀ s ∈ ss, s.steps sink ⊆ steps) :
    Covers sink steps (ordinaryStmts ss) :=
  covers_map fun _ => h

theorem Key.covers (k : Key) (position : Position) :
    Covers sink (k.steps sink) (k.parts position) := by
  cases k with
  | computed e =>
    rw [Key.steps]
    exact covers_cons (fun _ => List.Subset.refl _) covers_nil
  | name _ | hidden _ | str _ | num _ | bigint _ => exact covers_nil

/-- A key whose position is not entered needs no steps. -/
theorem Key.covers_of_not_entered (k : Key) {position : Position}
    (h : position.entered sink = false) : Covers sink steps (k.parts position) := by
  cases k with
  | computed e => exact covers_cons (by simp [h]) covers_nil
  | name _ | hidden _ | str _ | num _ | bigint _ => exact covers_nil

/-- Where the steps of a list are those of its members in order, the steps of each member are among them. -/
theorem subset_of_mem {α : Type} {f : List α → List Step} (hcons : ∀ x xs, f (x :: xs) = f [x] ++ f xs)
    {x : α} {xs : List α} (hx : x ∈ xs) : f [x] ⊆ f xs := by
  induction xs with
  | nil => simp at hx
  | cons y xs ih =>
    rw [hcons y xs]
    rcases List.mem_cons.mp hx with rfl | hx
    · exact List.subset_append_left _ _
    · exact List.subset_append_of_subset_right _ (ih hx)

theorem Expr.steps_subset_allSteps {es : List Expr} {e : Expr} (he : e ∈ es) :
    e.steps sink ⊆ Expr.allSteps sink es := by
  simpa [Expr.allSteps] using
    subset_of_mem (f := Expr.allSteps sink) (fun e es => by simp [Expr.allSteps]) he

theorem Stmt.steps_subset_allSteps {ss : List Stmt} {s : Stmt} (hs : s ∈ ss) :
    s.steps sink ⊆ Stmt.allSteps sink ss := by
  simpa [Stmt.allSteps] using
    subset_of_mem (f := Stmt.allSteps sink) (fun s ss => by simp [Stmt.allSteps]) hs

theorem Elem.steps_eq_allSteps (elems : List Elem) :
    Elem.steps sink elems = Expr.allSteps sink (Elem.exprs elems) := by
  induction elems with
  | nil => rfl
  | cons elem elems ih => cases elem <;> simp [Elem.steps, Elem.exprs, Expr.allSteps, ih]

theorem covers_exprs_of_subset {es : List Expr} (h : Expr.allSteps sink es ⊆ steps) :
    Covers sink steps (ordinaryExprs es) :=
  covers_exprs fun _ he => List.Subset.trans (Expr.steps_subset_allSteps he) h

theorem covers_stmts_of_subset {ss : List Stmt} (h : Stmt.allSteps sink ss ⊆ steps) :
    Covers sink steps (ordinaryStmts ss) :=
  covers_stmts fun _ hs => List.Subset.trans (Stmt.steps_subset_allSteps hs) h

theorem covers_function {params : List Pat} {body : List Stmt}
    (hparams : Pat.paramSteps sink params ⊆ steps) (hbody : Stmt.allSteps sink body ⊆ steps) :
    Covers sink steps (functionParts params body) := by
  refine .append (covers_map fun _ p hp => ?_) (covers_stmts_of_subset hbody)
  have hmem := subset_of_mem (f := Pat.paramSteps sink) (fun p ps => by simp [Pat.paramSteps]) hp
  refine List.Subset.trans (fun st hst => ?_) (List.Subset.trans hmem hparams)
  simp only [Node.steps] at hst
  simp [Pat.paramSteps, hst]

theorem Property.covers (prop : Property) : Covers sink (Property.steps sink [prop]) prop.parts := by
  cases prop with
  | keyValue k v =>
    refine .append ((k.covers _).mono ?_) (covers_cons (fun hentered => ?_) covers_nil)
    · simp [Property.steps]
    · cases hname : k.name? with
      | none => simp [Property.steps, Node.steps, hname]
      | some n =>
        have hn : sink n = false := by simpa [Position.entered, hname] using hentered
        simp [Property.steps, Node.steps, hname, hn]
  | shorthand _ => exact covers_nil
  | cover _ d => exact covers_cons (by simp [Position.entered]) covers_nil
  | spread e => exact covers_cons (fun _ => by simp [Property.steps, Node.steps]) covers_nil
  | method k _ params body =>
    refine .append (k.covers_of_not_entered rfl) (covers_function ?_ ?_) <;>
      simp +contextual [Property.steps, List.subset_def]
  | getter k body =>
    exact .append (k.covers_of_not_entered rfl) (covers_stmts_of_subset (by simp [Property.steps]))
  | setter k param body =>
    refine .append (k.covers_of_not_entered rfl) (covers_function ?_ ?_) <;>
      simp +contextual [Property.steps, Pat.paramSteps, List.subset_def, or_imp]

theorem Property.covers_all (props : List Property) :
    Covers sink (Property.steps sink props) (props.flatMap Property.parts) := by
  have hcons (prop : Property) (props : List Property) : Property.steps sink (prop :: props) =
      Property.steps sink [prop] ++ Property.steps sink props := by
    cases prop <;> simp [Property.steps]
  exact covers_flatMap fun prop hprop => prop.covers.mono (subset_of_mem hcons hprop)

theorem Target.covers (plain : Bool) (t : Target) :
    Covers sink (t.steps sink plain) (t.parts plain) := by
  cases t with
  | ident _ => exact covers_nil
  | member o k =>
    rw [Target.steps]
    exact covers_cons (fun _ => List.subset_append_left _ _)
      ((k.covers _).mono (List.subset_append_right _ _))
  | superMember k => exact k.covers_of_not_entered rfl
  | paren e => exact covers_cons (by simp [Position.entered]) covers_nil
  | pattern p => exact covers_cons (fun _ => by simp [Target.steps, Node.steps]) covers_nil

theorem covers_class (parent : Option Expr) (members : List ClassMember) :
    Covers sink steps (classParts parent members) := by
  refine .append (covers_map (by simp [Position.entered])) (covers_flatMap fun member _ => ?_)
  cases member with
  | method _ _ k _ params body =>
    exact .append (.append (k.covers_of_not_entered rfl) (covers_map (by simp [Position.entered])))
      (covers_map (by simp [Position.entered]))
  | field _ k v => exact .append (k.covers_of_not_entered rfl) (covers_map (by simp [Position.entered]))
  | staticBlock body => exact covers_map (by simp [Position.entered])

theorem Expr.covers (e : Expr) : Covers sink (e.steps sink) e.parts := by
  cases e with
  | template _ es => exact covers_exprs_of_subset (by simp [Expr.steps])
  | tagged tag _ es => exact covers_exprs_of_subset (by simp [Expr.steps, Expr.allSteps])
  | array elems => exact covers_exprs_of_subset (by simp [Expr.steps, Elem.steps_eq_allSteps])
  | object props =>
    rw [Expr.steps]
    exact Property.covers_all props
  | func _ _ params body | arrow _ params body =>
    refine covers_function ?_ ?_ <;> simp +contextual [Expr.steps, List.subset_def]
  | classExpr _ parent members => exact covers_class parent members
  | assign op t v =>
    rw [Expr.steps_assign]
    refine .append ((t.covers _).mono ?_) (covers_exprs_of_subset ?_) <;>
      simp +contextual [Expr.allSteps, List.subset_def]
  | call f args | new f args | optCall _ f args | superCall args | importCall args =>
    refine covers_exprs_of_subset ?_
    simp +contextual [Expr.steps, Elem.steps_eq_allSteps, Expr.allSteps, List.subset_def, or_imp]
  | member o k | optMember _ o k =>
    rw [Expr.steps]
    exact covers_cons (fun _ => List.subset_append_left _ _)
      ((k.covers _).mono (List.subset_append_right _ _))
  | superMember k => exact k.covers_of_not_entered rfl
  | yield _ e => cases e <;> exact covers_exprs_of_subset (by simp [Expr.steps, Expr.allSteps])
  | unary _ _ | update _ _ _ | binary _ _ _ | cond _ _ _ | seq _ | paren _ | await _ =>
    exact covers_exprs_of_subset (by simp [Expr.steps, Expr.allSteps])
  | ident _ | thisRef | null | bool _ | num _ | bigint _ | str _ | regex _ _ | newTarget
  | hiddenName _ => exact covers_nil

theorem PatProp.covers (role : PatRole) (prop : PatProp) :
    Covers sink ((Node.pat role (.object [prop])).steps sink) (prop.parts role) := by
  cases prop with
  | keyValue k p =>
    refine .append (k.covers_of_not_entered rfl) (covers_cons (fun _ => ?_) covers_nil)
    cases role <;>
      simp [Node.steps, Pat.bindSteps, Pat.assignSteps, PatProp.bindSteps, PatProp.assignSteps]
  | shorthand _ d =>
    refine covers_map fun hentered e he => ?_
    obtain rfl : d = some e := by simpa using he
    cases role with
    | declared target => simp [Node.steps, Pat.bindSteps, PatProp.bindSteps]
    | assigned plain => simp [PatRole.default, Position.entered] at hentered
  | rest p =>
    refine covers_cons (fun _ => ?_) covers_nil
    cases role <;>
      simp [Node.steps, Pat.bindSteps, Pat.assignSteps, PatProp.bindSteps, PatProp.assignSteps]

theorem Pat.covers (role : PatRole) (p : Pat) :
    Covers sink ((Node.pat role p).steps sink) (p.parts role) := by
  cases p with
  | ident _ => exact covers_nil
  | array elems =>
    have hcons (elem : Option Pat) (elems : List (Option Pat)) :
        (Node.pat role (.array (elem :: elems))).steps sink =
          (Node.pat role (.array [elem])).steps sink ++ (Node.pat role (.array elems)).steps sink := by
      cases role <;> cases elem <;>
        simp [Node.steps, Pat.bindSteps, Pat.assignSteps, Pat.bindAllSteps, Pat.assignAllSteps]
    refine covers_flatMap fun elem helem => covers_map fun _ p hp => ?_
    obtain rfl : elem = some p := by simpa using hp
    refine List.Subset.trans (fun st hst => ?_)
      (subset_of_mem (f := fun elems => (Node.pat role (.array elems)).steps sink) hcons helem)
    cases role <;> simpa [Node.steps, Pat.bindSteps, Pat.assignSteps, Pat.bindAllSteps,
      Pat.assignAllSteps] using hst
  | object props =>
    have hcons (prop : PatProp) (props : List PatProp) :
        (Node.pat role (.object (prop :: props))).steps sink =
          (Node.pat role (.object [prop])).steps sink ++ (Node.pat role (.object props)).steps sink := by
      cases role <;> rcases prop with ⟨_, _⟩ | ⟨_, _ | _⟩ | _ <;>
        simp [Node.steps, Pat.bindSteps, Pat.assignSteps, PatProp.bindSteps, PatProp.assignSteps]
    exact covers_flatMap fun prop hprop => (prop.covers role).mono
      (subset_of_mem (f := fun props => (Node.pat role (.object props)).steps sink) hcons hprop)
  | rest p =>
    refine covers_cons (fun _ => ?_) covers_nil
    cases role <;> simp [Node.steps, Pat.bindSteps, Pat.assignSteps]
  | withDefault p d =>
    refine covers_cons (fun hentered => ?_) (covers_cons (fun _ => ?_) covers_nil)
    · cases role with
      | declared target => simp [Node.steps, Pat.bindSteps]
      | assigned plain => simp [PatRole.default, Position.entered] at hentered
    · cases role <;> simp +contextual [Node.steps, Pat.bindSteps, Pat.assignSteps, List.subset_def]
  | target e =>
    refine covers_cons (fun hentered => ?_) covers_nil
    cases role with
    | declared target => simp [PatRole.place, Position.entered] at hentered
    | assigned plain => simp [Node.steps, Pat.assignSteps]

theorem Declarator.covers_all (target : BindTarget) (decls : List Declarator) :
    Covers sink (Declarator.steps sink target decls) (decls.flatMap (Declarator.parts target)) := by
  have hcons (decl : Declarator) (decls : List Declarator) :
      Declarator.steps sink target (decl :: decls) =
        Declarator.steps sink target [decl] ++ Declarator.steps sink target decls := by
    rcases decl with ⟨p, _ | e⟩ <;> simp [Declarator.steps]
  refine covers_flatMap fun decl hdecl => Covers.mono ?_ (subset_of_mem hcons hdecl)
  rcases decl with ⟨p, _ | e⟩ <;>
    refine covers_cons (fun _ => ?_) (covers_exprs_of_subset ?_) <;>
    simp +contextual [Declarator.steps, Node.steps, Expr.allSteps, List.subset_def]

theorem SwitchCase.covers_all (cases : List SwitchCase) :
    Covers sink (SwitchCase.steps sink cases) (cases.flatMap SwitchCase.parts) := by
  have hcons (c : SwitchCase) (cases : List SwitchCase) : SwitchCase.steps sink (c :: cases) =
      SwitchCase.steps sink [c] ++ SwitchCase.steps sink cases := by
    rcases c with ⟨_ | e, body⟩ <;> simp [SwitchCase.steps]
  refine covers_flatMap fun c hc => Covers.mono ?_ (subset_of_mem hcons hc)
  rcases c with ⟨_ | e, body⟩ <;>
    refine .append (covers_exprs_of_subset ?_) (covers_stmts_of_subset ?_) <;>
    simp [SwitchCase.steps, Expr.allSteps]

theorem Catch.covers (c : Catch) : Covers sink (c.steps sink) c.parts := by
  rcases c with ⟨_ | p, body⟩ <;> refine covers_function ?_ ?_ <;>
    simp +contextual [Catch.steps, Pat.paramSteps, List.subset_def, or_imp]

theorem ForHead.covers (head : ForHead) : Covers sink (head.steps sink) head.parts := by
  cases head with
  | decl kind p init =>
    exact covers_cons (fun _ => by simp [ForHead.steps, Node.steps])
      (covers_map (by simp [Position.entered]))
  | target p => exact covers_cons (fun _ => by simp [ForHead.steps, Node.steps]) covers_nil

theorem Stmt.covers (s : Stmt) : Covers sink (s.steps sink) s.parts := by
  cases s with
  | expr _ | throw _ => exact covers_exprs_of_subset (by simp [Stmt.steps, Expr.allSteps])
  | block body => exact covers_stmts_of_subset (by simp [Stmt.steps])
  | labeled _ body => exact covers_stmts_of_subset (by simp [Stmt.steps, Stmt.allSteps])
  | withObject o body =>
    exact covers_cons (by simp [Position.entered]) (covers_cons (by simp [Position.entered]) covers_nil)
  | ret e => cases e <;> exact covers_exprs_of_subset (by simp [Stmt.steps, Expr.allSteps])
  | ifElse test yes no =>
    cases no <;> refine .append (covers_exprs_of_subset ?_) (covers_stmts_of_subset ?_) <;>
      simp +contextual [Stmt.steps, Stmt.allSteps, Expr.allSteps, List.subset_def]
  | switch e cases =>
    refine .append (covers_exprs_of_subset ?_) ((SwitchCase.covers_all cases).mono ?_) <;>
      simp +contextual [Stmt.steps, Expr.allSteps, List.subset_def]
  | tryCatch body handler finalizer =>
    rw [Stmt.steps_tryCatch]
    refine .append (.append (covers_stmts_of_subset ?_) (covers_flatMap fun c hc => c.covers.mono ?_))
      (covers_flatMap fun body hbody => covers_stmts_of_subset ?_)
    · simp +contextual [List.subset_def]
    · simp +contextual [Option.mem_toList.mp hc, List.subset_def]
    · simp +contextual [Option.mem_toList.mp hbody, Stmt.steps, List.subset_def]
  | whileLoop test body =>
    refine .append (covers_exprs_of_subset ?_) (covers_stmts_of_subset ?_) <;>
      simp [Stmt.steps, Stmt.allSteps, Expr.allSteps]
  | doWhile body test =>
    refine .append (covers_stmts_of_subset ?_) (covers_exprs_of_subset ?_) <;>
      simp [Stmt.steps, Stmt.allSteps, Expr.allSteps]
  | forLoop init test update body =>
    rw [Stmt.steps_forLoop]
    refine .append (.append (covers_stmts fun s hs => ?_) (covers_exprs fun e he => ?_))
      (covers_stmts_of_subset ?_)
    · simp +contextual [Option.mem_toList.mp hs, List.subset_def]
    · rcases List.mem_append.mp he with he | he <;>
        simp +contextual [Option.mem_toList.mp he, List.subset_def]
    · simp +contextual [Stmt.allSteps, List.subset_def]
  | forIn head e body | forOf _ head e body =>
    refine .append (.append (head.covers.mono ?_) (covers_exprs_of_subset ?_))
      (covers_stmts_of_subset ?_) <;>
      simp +contextual [Stmt.steps, Stmt.allSteps, Expr.allSteps, List.subset_def]
  | var kind decls =>
    rw [Stmt.steps]
    exact Declarator.covers_all kind.target decls
  | func _ _ params body =>
    refine covers_function ?_ ?_ <;> simp +contextual [Stmt.steps, List.subset_def]
  | classDecl _ parent members => exact covers_class parent members
  | empty | debugger | breakTo _ | continueTo _ => exact covers_nil

theorem Node.steps_subset_of_enters {n m : Node} (h : n.Enters sink m) :
    m.steps sink ⊆ n.steps sink := by
  obtain ⟨position, hpart, hentered⟩ := h
  cases n with
  | expr e => exact e.covers _ hpart hentered
  | stmt s => exact s.covers _ hpart hentered
  | pat role p => exact p.covers role _ hpart hentered

theorem Node.steps_subset_of_reaches {n m : Node} (h : n.Reaches sink m) :
    m.steps sink ⊆ n.steps sink := by
  induction h with
  | refl => exact List.Subset.refl _
  | tail _ hlast ih => exact List.Subset.trans (steps_subset_of_enters hlast) ih

/-- The path of what a call, a `new` or an optional call calls, and its arguments. -/
def Expr.call? : Expr → Option (String × List Expr)
  | .call f args | .new f args | .optCall _ f args => some (f.path, Elem.exprs args)
  | .superCall args => some ("super", Elem.exprs args)
  | .importCall args => some ("import", Elem.exprs args)
  | _ => none

/-- The object and the key of a member access, optional or not. -/
def Expr.access? : Expr → Option (Expr × Key)
  | .member o k | .optMember _ o k => some (o, k)
  | _ => none

theorem Expr.checkCall_mem_steps {e : Expr} {callee : String} {args : List Expr}
    (h : e.call? = some (callee, args)) : .checkCall callee args ∈ e.steps sink := by
  cases e <;> simp only [Expr.call?, Option.some.injEq, Prod.mk.injEq, reduceCtorEq] at h
  all_goals
    obtain ⟨rfl, rfl⟩ := h
    simp [Expr.steps]

/-- Where the path of a member access is a source and its key is not safe, it reads as tainted whatever
names mean. -/
theorem Expr.reading_of_access {p : Patterns} {look : String → Option Variable} {e o : Expr} {k : Key}
    (h : e.access? = some (o, k)) (hsource : p.isSource e.path = true) (hsafe : k.isSafe = false) :
    (e.reading p look).origin = some e.path := by
  cases e <;> simp only [Expr.access?, Option.some.injEq, Prod.mk.injEq, reduceCtorEq] at h
  all_goals
    obtain ⟨rfl, rfl⟩ := h
    rw [Expr.path] at hsource
    simp [Expr.reading, hsafe, Reading.ofPath, hsource, Reading.orElse, Expr.path]

theorem Expr.describe_of_access {e o : Expr} {k : Key} (h : e.access? = some (o, k)) :
    e.describe = e.path := by
  cases e <;> simp only [Expr.access?, reduceCtorEq] at h
  all_goals rfl

end DomFlow.Script

namespace DomFlow.WalkState

open Script

/-- A call in any entered position, whose callee is a sink, with a member access as an argument that is a
source and does not end in a safe property, adds its finding whatever the state was before. -/
theorem direct_flow_found (p : Patterns) (s : WalkState) (script : Script) {stmt : Stmt}
    (hstmt : stmt ∈ script) {e : Expr} (he : (Node.stmt stmt).Reaches p.isSink (.expr e))
    {callee : String} {args : List Expr} (hcall : e.call? = some (callee, args))
    (hsink : p.isSink callee = true ∨ p.isSink (callee ++ "(") = true)
    {arg o : Expr} {k : Key} (harg : arg ∈ args) (hmember : arg.access? = some (o, k))
    (hsource : p.isSource arg.path = true)
    (hsafe : ∀ name, k.name? = some name → name ∉ ["length", "constructor", "prototype"]) :
    ∃ added, (s.walk p script).findings = s.findings ++ added ∧
      ∃ f ∈ added, f.source = arg.path ∧ f.sink = callee ∧
        f.description = "Tainted data from " ++ arg.path ++ " flows into sink " ++ callee ++ "()" ∧
        f.evidence = arg.path := by
  have hstep : .checkCall callee args ∈ Stmt.allSteps p.isSink script :=
    Stmt.steps_subset_allSteps hstmt
      (Node.steps_subset_of_reaches he (Expr.checkCall_mem_steps hcall))
  have hkey : k.isSafe = false := by
    cases hname : k.name? with
    | none => simp [Key.isSafe, hname]
    | some name => simpa [Key.isSafe, safeProperties, hname] using hsafe name hname
  have hfound (t : WalkState) :
      ⟨.call, arg.path, callee, arg.path⟩ ∈ found p t (.checkCall callee args) := by
    have hread : (arg.reading p t.tracker.lookup?).origin = some arg.path :=
      Expr.reading_of_access hmember hsource hkey
    simp only [found, Bool.or_eq_true, if_pos hsink, List.mem_filterMap]
    exact ⟨arg, harg, by simp [flow?, reading, hread, Expr.describe_of_access hmember]⟩
  obtain ⟨added, hadded, hmem⟩ := run_flows_of_found hstep hfound s
  refine ⟨added.map Flow.finding, ?_, _, List.mem_map_of_mem hmem, rfl, rfl, rfl, rfl⟩
  simp only [findings, walk, hadded, List.map_append]

/-- `new Function(location.hash)` -/
def functionOfHash : Expr := .new (.ident "Function") [.item locationHash]

/-- `start(function () { if (ready) { new Function(location.hash); } });` -/
def guardedCallback : Stmt :=
  .expr (.call (.ident "start") [.item (.func none {} []
    [.ifElse (.ident "ready") (.block [.expr functionOfHash]) none])])

theorem direct_flow_found_in_callback :
    (Node.stmt guardedCallback).Reaches (Patterns.ofTexts ["location.hash"] ["Function("]).isSink
      (.expr functionOfHash) ∧
    ∃ added, (({} : WalkState).walk (.ofTexts ["location.hash"] ["Function("])
        [guardedCallback]).findings = [] ++ added ∧
      ∃ f ∈ added, f.source = "location.hash" ∧ f.sink = "Function" ∧
        f.description = "Tainted data from location.hash flows into sink Function()" ∧
        f.evidence = "location.hash" := by
  have hreaches : (Node.stmt guardedCallback).Reaches
      (Patterns.ofTexts ["location.hash"] ["Function("]).isSink (.expr functionOfHash) := by
    refine .head (b := .expr (.call (.ident "start") _)) ⟨.ordinary, .head _, rfl⟩ ?_
    refine .head (b := .expr (.func none {} [] _)) ⟨.ordinary, .tail _ (.head _), rfl⟩ ?_
    refine .head (b := .stmt (.ifElse (.ident "ready") _ none)) ⟨.ordinary, .head _, rfl⟩ ?_
    refine .head (b := .stmt (.block [.expr functionOfHash])) ⟨.ordinary, .tail _ (.head _), rfl⟩ ?_
    refine .head (b := .stmt (.expr functionOfHash)) ⟨.ordinary, .head _, rfl⟩ ?_
    exact .single ⟨.ordinary, .head _, rfl⟩
  exact ⟨hreaches, direct_flow_found _ {} [guardedCallback] (.head _) hreaches rfl
    (.inr (by decide)) (.head _) rfl (by decide) (by rintro _ ⟨⟩; decide)⟩

end DomFlow.WalkState
