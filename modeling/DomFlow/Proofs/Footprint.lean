import DomFlow.Proofs.Growth
import DomFlow.Proofs.Identifiers
import Mathlib.Data.List.Find

/-! # The footprint of a walk

Writes reach the tree of scopes in many ways: into the current scope, into the function around it, into the
global scope, and up the chain to where a name is bound. All of them write a name that stands in the code, so
names that are written nowhere in it are bound and tainted as before, in every scope that was there. -/

namespace DomFlow

namespace ScopeTree

variable {t u : ScopeTree}

/-- Scopes that are kept are around the same scopes as before. -/
theorem Extends.ancestors (h : t.Extends u) (ht : t.WellFormed) (hu : u.Descends) {i : ScopeId}
    (hi : i < t.size) : u.ancestors i = t.ancestors i := by
  induction i using Nat.strong_induction_on with
  | _ i ih =>
    rw [hu.ancestors_eq, ht.descends.ancestors_eq, h.parent? i hi]
    cases hp : t.parent? i with
    | none => rfl
    | some j =>
      have hj : j < i := ht.descends i j hp
      simp only [Option.map_some, ih j hj (Nat.lt_trans hj hi)]

/-- A name that is bound as before means the same as before in every scope that is kept. -/
theorem Extends.lookup? (h : t.Extends u) (ht : t.WellFormed) (hu : u.Descends) {name : String}
    (hown : ∀ i, u.own? i name = t.own? i name) {i : ScopeId} (hi : i < t.size) :
    u.lookup? i name = t.lookup? i name := by
  have hresolve : u.resolve? i name = t.resolve? i name := by
    simp only [resolve?, h.ancestors ht hu hi, hown]
  simp only [ScopeTree.lookup?, hresolve, hown]

/-- A scope that is kept lies in the same function as before. -/
theorem Extends.functionScope (h : t.Extends u) (ht : t.WellFormed) (hu : u.Descends) {i : ScopeId}
    (hi : i < t.size) : u.functionScope i = t.functionScope i := by
  unfold ScopeTree.functionScope
  rw [h.ancestors ht hu hi]
  congr 1
  refine List.find?_congr fun j hj => ?_
  rw [h.kind j (ht.lt_size_of_mem_ancestors hi hj)]

end ScopeTree

/-- Whether a name is declared or assigned in a node, at any depth: by a declaration, as a parameter, as the
binding of a `catch`, or as the target of an assignment or of the head of a loop. -/
def Script.Node.Writes (n : Node) (name : String) : Prop := ∃ m, n.Contains m ∧ name ∈ m.written

namespace WalkState

variable {p : Patterns}

theorem own?_visit {n : Script.Node} {name : String} (h : ¬ n.Writes name) (s : WalkState) (i : ScopeId) :
    (s.visit p n).tracker.scopes.own? i name = s.tracker.scopes.own? i name :=
  own?_run (fun _ hst hname => h ((Script.Node.names_of_mem_steps hst).1 name hname)) s i

theorem lookup?_visit {s : WalkState} (hs : s.tracker.Placed) {n : Script.Node} {name : String}
    (h : ¬ n.Writes name) {i : ScopeId} (hi : i < s.tracker.scopes.size) :
    (s.visit p n).tracker.scopes.lookup? i name = s.tracker.scopes.lookup? i name :=
  (run_extends _ s).lookup? hs.scopes.wellFormed (placed_run hs _).scopes.wellFormed.descends
    (own?_visit h s) hi

/-- A walk binds, clears and taints no name that is not written in what is walked: every scope that was there
has the same variable of that name, or none as before, and the name means the same from there. -/
theorem unwritten_name_kept (p : Patterns) (s : WalkState) (hs : s.tracker.Placed) (n : Script.Node)
    {name : String} (h : ¬ n.Writes name) {k : ScopeId} (hk : k < s.tracker.scopes.size) :
    (s.visit p n).tracker.scopes.own? k name = s.tracker.scopes.own? k name ∧
      (s.visit p n).tracker.scopes.lookup? k name = s.tracker.scopes.lookup? k name :=
  ⟨own?_visit h s k, lookup?_visit hs h hk⟩

/-- `function f(a) { b = z; { let c = a; } for ([d] of z) {} }` -/
def readsOuter : Script.Stmt :=
  .func "f" {} [.ident "a"]
    [.expr (.assign .plain (.ident "b") (.ident "z")),
      .block [.var .letKind [.mk (.ident "c") (some (.ident "a"))]],
      .forOf false (.target (.array [some (.ident "d")])) (.ident "z") (.block [])]

theorem writes_readsOuter (name : String) :
    (Script.Node.stmt readsOuter).Writes name ↔ name ∈ ["f", "a", "b", "c", "d"] := by
  simp [Script.Node.Writes, readsOuter, Script.Node.contains_iff, Script.InParts, Script.Node.parts,
    Script.Stmt.parts, Script.functionParts, Script.ForHead.parts, Script.Declarator.parts, Script.Expr.parts,
    Script.Target.parts, Script.Pat.parts, Script.ordinaryExprs, Script.ordinaryStmts, Script.Node.written,
    Script.Stmt.written, Script.Expr.written, Script.Pat.written, or_assoc]

/-- `z` is read and copied in a function, and keeps its taint at the global scope. -/
theorem unwritten_name_kept_readsOuter :
    let p := Patterns.ofTexts ["location.hash"] []
    let s := ({} : WalkState).walk p
      [.var .var [.mk (.ident "z") (some (.member (.ident "location") (.name "hash")))]]
    ¬ (Script.Node.stmt readsOuter).Writes "z" ∧
      (s.visit p (.stmt readsOuter)).tracker.scopes.own? ScopeTree.root "z" =
        some { name := "z", tainted := true, origin := "location.hash" } ∧
      (s.visit p (.stmt readsOuter)).tracker.scopes.lookup? ScopeTree.root "z" =
        some { name := "z", tainted := true, origin := "location.hash" } := by
  intro p s
  have hwrites : ¬ (Script.Node.stmt readsOuter).Writes "z" := by
    rw [writes_readsOuter]
    decide
  have hs : s.tracker.Placed := placed_run ⟨.empty, by decide⟩ _
  obtain ⟨hown, hlookup⟩ :=
    unwritten_name_kept p s hs (.stmt readsOuter) hwrites hs.scopes.wellFormed.root_lt
  refine ⟨hwrites, ?_, ?_⟩
  · rw [hown]
    decide
  · rw [hlookup]
    decide

end WalkState

end DomFlow
