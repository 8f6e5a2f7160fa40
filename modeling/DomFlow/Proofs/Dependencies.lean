import DomFlow.Proofs.Frames
import DomFlow.Proofs.Readings

/-! # What an evaluation depends on

The names that an expression depends on are listed by one recursion over its tree, and its taint is found by
another one, which skips parts of the tree and stops at the first tainted one. The list is nevertheless
complete: variables that are not on it have no influence on the taint, and only names on it are put down as
used unbound. Beyond that an evaluation leaves no trace. -/

namespace DomFlow

variable {p : Patterns}

/-- What an evaluation sees of a variable. -/
def Variable.mark (v : Variable) : Bool × String := (v.tainted, v.origin)

section

variable {look look' : String → Option Variable}

theorem readName_congr {n : String} (h : (look n).map Variable.mark = (look' n).map Variable.mark) :
    readName p look n = readName p look' n := by
  unfold readName
  cases hv : look n with
  | none =>
    have hv' : look' n = none := by simpa [hv] using h.symm
    rw [hv']
  | some v =>
    rw [hv, Option.map_some] at h
    obtain ⟨v', hv', hmark⟩ := Option.map_eq_some_iff.mp h.symm
    obtain ⟨htainted, horigin⟩ := Prod.mk.inj hmark
    simp only [hv', htainted, horigin]

/-- Meanings of names that agree on what an expression reads give it the same reading. -/
theorem Script.Expr.reading_congr (e : Script.Expr)
    (h : ∀ n ∈ e.reads, (look n).map Variable.mark = (look' n).map Variable.mark) :
    e.reading p look = e.reading p look' := by
  have hR : ReadingRelation p p Eq := {
    clean := rfl
    orElse := by
      rintro a _ b _ rfl rfl
      rfl
    ofPath := fun _ => rfl }
  exact e.reading_related hR fun n hn => readName_congr (h n hn)

end

theorem Script.Expr.mem_dependencies {e : Script.Expr} {n : String} : n ∈ e.dependencies ↔ n ∈ e.reads :=
  List.mem_eraseDups

namespace WalkState

/-- Names that are put down are put down behind those that were there, each at most once. -/
theorem access_eq (s : WalkState) (names : List String) :
    ∃ added, added ⊆ names ∧ s.access names = { s with accesses := s.accesses ++ added } := by
  unfold access
  generalize s.accesses = acc
  induction names generalizing acc with
  | nil => exact ⟨[], List.Subset.refl _, by simp⟩
  | cons n names ih =>
    obtain ⟨added, hadded, heq⟩ := ih (if n ∈ acc then acc else acc ++ [n])
    rw [List.foldl_cons, heq]
    split
    · exact ⟨added, List.subset_cons_of_subset n hadded, rfl⟩
    · exact ⟨n :: added, List.cons_subset_cons n hadded, by simp⟩

theorem access_of_subset {s : WalkState} {names : List String} (h : names ⊆ s.accesses) :
    s.access names = s := by
  have hfold : names.foldl (fun acc n => if n ∈ acc then acc else acc ++ [n]) s.accesses = s.accesses := by
    induction names with
    | nil => rfl
    | cons n names ih =>
      rw [List.foldl_cons, if_pos (h List.mem_cons_self)]
      exact ih fun _ hm => h (List.mem_cons_of_mem n hm)
  rw [access, hfold]

theorem access_access (s : WalkState) (names : List String) :
    (s.access names).access names = s.access names :=
  access_of_subset fun _ hn => mem_access.mpr (.inr hn)

/-- The taint of an expression is the same in two states that agree on its dependencies. An evaluation only
puts down names, each of which is a dependency and bound nowhere in sight, and a second one adds nothing. -/
theorem evaluate_by_dependencies (p : Patterns) (e : Script.Expr) :
    (∀ s s' : WalkState,
      (∀ n ∈ e.dependencies,
        (s.tracker.lookup? n).map Variable.mark = (s'.tracker.lookup? n).map Variable.mark) →
      (s.evaluate p e).1 = (s'.evaluate p e).1) ∧
    ∀ s : WalkState,
      (∃ added, (s.evaluate p e).2 = { s with accesses := s.accesses ++ added } ∧
        ∀ n ∈ added, n ∈ e.dependencies ∧ s.tracker.lookup? n = none) ∧
      (s.evaluate p e).2.evaluate p e = s.evaluate p e := by
  refine ⟨fun s s' h => ?_, fun s => ⟨?_, ?_⟩⟩
  · have hreading : s.reading p e = s'.reading p e :=
      e.reading_congr fun n hn => h n (Script.Expr.mem_dependencies.mpr hn)
    rw [evaluate_fst, evaluate_fst, hreading]
  · obtain ⟨added, hadded, heq⟩ := s.access_eq (s.reading p e).unbound
    refine ⟨added, heq, fun n hn => ?_⟩
    obtain ⟨hreads, hlookup⟩ := e.of_mem_unbound (hadded hn)
    exact ⟨Script.Expr.mem_dependencies.mpr hreads, hlookup⟩
  · have hreading : (s.access (s.reading p e).unbound).reading p e = s.reading p e := rfl
    simp only [evaluate, hreading, access_access]

/-- `hash` is tainted, and so is `other`. -/
def atGlobals : WalkState :=
  { tracker := (((({} : Tracker).define "hash").taint "hash" "location.hash").define "other").taint "other"
      "window.name" }

/-- `hash` is tainted as before but seen from a function, `other` is bound to clean data there, and there have
been a flow and an unbound name. -/
def inFunction : WalkState :=
  { tracker := ((({} : Tracker).define "hash").taint "hash" "location.hash").enter .function |>.define "other"
    flows := [⟨.call, "window.name", "eval", "other"⟩]
    accesses := ["page"] }

/-- With `{page, text: (hash, suffix + hash)}.text`. -/
theorem evaluate_by_dependencies_inFunction :
    let p := Patterns.ofTexts ["location.hash"] ["eval"]
    let e := Script.Expr.member (.object [.shorthand "page", .keyValue (.name "text")
      (.paren (.seq [.ident "hash", .binary .add (.ident "suffix") (.ident "hash")]))]) (.name "text")
    e.dependencies = ["page", "hash", "suffix"] ∧
      atGlobals.tracker.lookup? "other" ≠ inFunction.tracker.lookup? "other" ∧
      (atGlobals.evaluate p e).1 = (inFunction.evaluate p e).1 ∧
      (inFunction.evaluate p e).2 = { inFunction with accesses := ["page", "suffix"] } := by
  intro p e
  have hdependencies : e.dependencies = ["page", "hash", "suffix"] := by cbv
  refine ⟨hdependencies, by decide, (evaluate_by_dependencies p e).1 _ _ ?_, by decide⟩
  rw [hdependencies]
  decide

end WalkState

end DomFlow
