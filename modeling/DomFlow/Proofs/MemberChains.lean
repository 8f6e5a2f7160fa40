import DomFlow.Flow.Step
import DomFlow.Proofs.Runs
import Mathlib.Data.List.Induction
import Mathlib.Order.Bounds.Basic

/-! # The taint of a chain of accesses

The taint of `b.p1.p2…` is looked for from the last access back to the base. A safe property ends the search
with nothing, and a path that is a source ends it with that path, so the outcome depends on how safe
properties and sources lie to each other in the chain. It is stated here by their positions: the longest
path that is a source and is followed by no safe property, its own last one included, or else the taint of
the base. -/

namespace DomFlow

open Script (Expr Key)

/-- An access to a property whose name is known: by a point, or by a text in brackets; in an optional chain
or not. -/
structure Access where
  /-- In an optional chain, whether this link is the optional one. -/
  optional : Option Bool
  key : Key
  name : String
  named : key.name? = some name

namespace Access

def of (a : Access) (o : Expr) : Expr :=
  match a.optional with
  | none => .member o a.key
  | some short => .optMember short o a.key

/-- Whether the property is safe. -/
def Cuts (a : Access) : Prop := a.name ∈ ["length", "constructor", "prototype"]

instance (a : Access) : Decidable a.Cuts := inferInstanceAs (Decidable (_ ∈ _))

def chain (b : Expr) (accesses : List Access) : Expr := accesses.foldl (fun o a => a.of o) b

/-- The path of a base with the first accesses behind it. -/
def pathTo (b : Expr) (accesses : List Access) (i : Nat) : String :=
  (accesses.take i).foldl (fun path a => path ++ ("." ++ a.name)) b.path

/-- The path up to this access, counted from one, is a source, and neither this access nor a later one is to
a safe property. -/
structure Carries (p : Patterns) (b : Expr) (accesses : List Access) (i : Nat) : Prop where
  pos : 1 ≤ i
  le : i ≤ accesses.length
  source : p.isSource (pathTo b accesses i) = true
  uncut : ∀ a ∈ accesses.drop (i - 1), ¬ a.Cuts

variable {p : Patterns} {b : Expr} {look : String → Option Variable} {accesses : List Access} {a : Access}

theorem suffix_key (a : Access) : a.key.suffix = "." ++ a.name := by
  simp only [Key.suffix, a.named]

theorem isSafe_key (a : Access) : a.key.isSafe = decide a.Cuts := by
  rw [Key.isSafe, a.named, Option.any_some, List.contains_eq_mem]
  rfl

theorem path_of (a : Access) (o : Expr) : (a.of o).path = o.path ++ ("." ++ a.name) := by
  unfold of
  cases a.optional <;> simp only [Expr.path, a.suffix_key]

theorem reading_of (a : Access) (o : Expr) : (a.of o).reading p look =
    if a.Cuts then .clean else (Reading.ofPath p (a.of o).path).orElse (o.reading p look) := by
  rw [path_of]
  unfold of
  cases a.optional <;> simp only [Expr.reading, a.isSafe_key, a.suffix_key, decide_eq_true_eq]

theorem chain_snoc : chain b (accesses ++ [a]) = a.of (chain b accesses) := by
  rw [chain, List.foldl_append]
  rfl

theorem pathTo_snoc {i : Nat} (hi : i ≤ accesses.length) :
    pathTo b (accesses ++ [a]) i = pathTo b accesses i := by
  rw [pathTo, List.take_append_of_le_length hi, pathTo]

theorem pathTo_length (b : Expr) (accesses : List Access) :
    pathTo b accesses accesses.length = (chain b accesses).path := by
  induction accesses using List.reverseRecOn with
  | nil => rfl
  | append_singleton accesses a ih =>
    rw [chain_snoc, path_of, ← ih, pathTo, pathTo, List.take_length, List.take_length, List.foldl_append]
    rfl

/-- Behind a safe property nothing is carried on. -/
theorem not_carries_of_cuts (ha : a.Cuts) (i : Nat) : ¬ Carries p b (accesses ++ [a]) i := by
  intro h
  have hlt : i - 1 ≤ accesses.length := by
    have hle := h.le
    rw [List.length_append, List.length_singleton] at hle
    omega
  apply h.uncut a _ ha
  rw [List.drop_append_of_le_length hlt]
  exact List.mem_append_right _ (.head _)

/-- A further access carries on what was carried, and what its own path is a source of. -/
theorem carries_snoc_iff (ha : ¬ a.Cuts) {i : Nat} :
    Carries p b (accesses ++ [a]) i ↔ Carries p b accesses i ∨
      i = accesses.length + 1 ∧ p.isSource (chain b (accesses ++ [a])).path = true := by
  have hlength : (accesses ++ [a]).length = accesses.length + 1 := by simp
  rw [← pathTo_length, hlength]
  constructor
  · intro h
    have hle := h.le
    rw [hlength] at hle
    by_cases hlast : i = accesses.length + 1
    · exact .inr ⟨hlast, hlast ▸ h.source⟩
    · have hi : i ≤ accesses.length := by omega
      refine .inl ⟨h.pos, hi, pathTo_snoc hi ▸ h.source, fun c hc => h.uncut c ?_⟩
      rw [List.drop_append_of_le_length (by omega)]
      exact List.mem_append_left _ hc
  · rintro (h | ⟨rfl, hsource⟩)
    · have hi := h.le
      refine ⟨h.pos, by omega, by rw [pathTo_snoc hi]; exact h.source, ?_⟩
      rw [List.drop_append_of_le_length (by omega), List.forall_mem_append]
      exact ⟨h.uncut, by simpa using ha⟩
    · refine ⟨by omega, by omega, hsource, ?_⟩
      simpa using ha

/-- The reading of a chain, by the positions of sources and safe properties in it. -/
theorem reading_chain (p : Patterns) (look : String → Option Variable) (b : Expr) (accesses : List Access) :
    (∃ i, IsGreatest {i | Carries p b accesses i} i ∧
      (chain b accesses).reading p look = { origin := some (pathTo b accesses i) }) ∨
    ((∀ i, ¬ Carries p b accesses i) ∧ (∀ a ∈ accesses, ¬ a.Cuts) ∧
      (chain b accesses).reading p look = b.reading p look) ∨
    ((∀ i, ¬ Carries p b accesses i) ∧ (∃ a ∈ accesses, a.Cuts) ∧
      (chain b accesses).reading p look = .clean) := by
  -- Readings start at the last access, so the induction takes accesses off the end.
  induction accesses using List.reverseRecOn with
  | nil =>
    refine .inr (.inl ⟨fun i h => ?_, by simp, rfl⟩)
    have hpos := h.pos
    have hle := h.le
    simp only [List.length_nil] at hle
    omega
  | append_singleton accesses a ih =>
    rw [chain_snoc, reading_of]
    by_cases ha : a.Cuts
    · rw [if_pos ha]
      exact .inr (.inr ⟨not_carries_of_cuts ha, ⟨a, by simp, ha⟩, rfl⟩)
    · rw [if_neg ha, ← chain_snoc]
      by_cases hsource : p.isSource (chain b (accesses ++ [a])).path = true
      · refine .inl ⟨accesses.length + 1, ⟨?_, fun i hi => ?_⟩, ?_⟩
        · exact (carries_snoc_iff ha).mpr (.inr ⟨rfl, hsource⟩)
        · simpa using hi.le
        · have hpath : pathTo b (accesses ++ [a]) (accesses.length + 1) =
              (chain b (accesses ++ [a])).path := by
            rw [← pathTo_length, List.length_append, List.length_singleton]
          rw [hpath, Reading.ofPath, if_pos hsource]
          rfl
      · have hsame (i : Nat) : Carries p b (accesses ++ [a]) i ↔ Carries p b accesses i := by
          rw [carries_snoc_iff ha, or_iff_left fun h => hsource h.2]
        have hreading : (Reading.ofPath p (chain b (accesses ++ [a])).path).orElse
            ((chain b accesses).reading p look) = (chain b accesses).reading p look := by
          rw [Reading.ofPath, if_neg hsource]
          rfl
        rw [hreading]
        simp only [hsame]
        rcases ih with ⟨i, hi, heq⟩ | ⟨hnone, hall, heq⟩ | ⟨hnone, ⟨c, hc, hcut⟩, heq⟩
        · refine .inl ⟨i, hi, ?_⟩
          rw [heq, pathTo_snoc hi.1.le]
        · refine .inr (.inl ⟨hnone, List.forall_mem_append.mpr ⟨hall, ?_⟩, heq⟩)
          simpa using ha
        · exact .inr (.inr ⟨hnone, ⟨c, List.mem_append_left _ hc, hcut⟩, heq⟩)

end Access

namespace WalkState

open Access

/-- A chain of accesses is tainted with its longest path that is a source and is followed by no safe
property, its own last one included; if there is none, with what taints the base, unless the chain has a safe
property. Only in the second case is the base evaluated at all. -/
theorem evaluate_chain (p : Patterns) (s : WalkState) (b : Expr) (accesses : List Access) :
    (∃ i, IsGreatest {i | Carries p b accesses i} i ∧
      s.evaluate p (chain b accesses) = (some (pathTo b accesses i), s)) ∨
    ((∀ i, ¬ Carries p b accesses i) ∧ (∀ a ∈ accesses, ¬ a.Cuts) ∧
      s.evaluate p (chain b accesses) = s.evaluate p b) ∨
    ((∀ i, ¬ Carries p b accesses i) ∧ (∃ a ∈ accesses, a.Cuts) ∧
      s.evaluate p (chain b accesses) = (none, s)) := by
  unfold evaluate reading
  rcases reading_chain p s.tracker.lookup? b accesses with ⟨i, hi, heq⟩ | ⟨hnone, hall, heq⟩ |
    ⟨hnone, hcut, heq⟩
  · refine .inl ⟨i, hi, ?_⟩
    rw [heq]
    rfl
  · refine .inr (.inl ⟨hnone, hall, ?_⟩)
    rw [heq]
  · refine .inr (.inr ⟨hnone, hcut, ?_⟩)
    rw [heq]
    rfl

/-- The patterns match paths that end in `hash`: `location?.["hash"].text` is tainted with `location.hash`,
and `location.hash.length.text` is not tainted. -/
example :
    let pattern : Pattern := ⟨"hash$", .seq (.literal "hash".toList) (.look true .textEnd)⟩
    let p : Patterns := ⟨⟨.source, [pattern]⟩, ⟨.sink, []⟩⟩
    let hash : Access := ⟨some true, .computed (.str "hash"), "hash", rfl⟩
    let field (name : String) : Access := ⟨none, .name name, name, rfl⟩
    let taintOf (accesses : List Access) := (({} : WalkState).evaluate p (chain (.ident "location") accesses)).1
    taintOf [hash, field "text"] = some "location.hash" ∧
      taintOf [hash, field "length", field "text"] = none := by
  decide

end WalkState

end DomFlow
