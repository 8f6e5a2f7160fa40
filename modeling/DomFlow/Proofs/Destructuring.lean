import DomFlow.Proofs.Correspondence
import DomFlow.Proofs.Footprint
import DomFlow.Script.Declared

/-! # Patterns that declare and patterns that assign

A destructuring pattern is gone through in two ways, once to declare its names and once to assign to names
that exist. Both give every name the taint of the value. They differ in the defaults: a declaration runs
them, and a name takes the taint of the defaults around it if the value has none, while an assignment passes
them by. So the two agree on a name exactly if the value is tainted or no default around the name is. -/

namespace DomFlow

namespace Script

/-- What matters of a pattern when its names are given a taint. Keys, holes, and the difference between
arrays, objects and rest elements do not. -/
inductive Outline where
  | nothing
  | name (n : String)
  /-- A place other than a name. -/
  | place (e : Expr)
  | both (first second : Outline)
  | withDefault (inner : Outline) (default : Expr)

mutual

def Pat.outline : Pat → Outline
  | .ident n => .name n
  | .array elems => Pat.allOutline elems
  | .object props => PatProp.allOutline props
  | .rest p => p.outline
  | .withDefault p d => .withDefault p.outline d
  | .target e => .place e

def Pat.allOutline : List (Option Pat) → Outline
  | [] => .nothing
  | none :: r => Pat.allOutline r
  | some p :: r => .both p.outline (Pat.allOutline r)

def PatProp.allOutline : List PatProp → Outline
  | [] => .nothing
  | .keyValue _ p :: r => .both p.outline (PatProp.allOutline r)
  | .shorthand n none :: r => .both (.name n) (PatProp.allOutline r)
  | .shorthand n (some d) :: r => .both (.withDefault (.name n) d) (PatProp.allOutline r)
  | .rest p :: r => .both p.outline (PatProp.allOutline r)

end

namespace Outline

def names : Outline → List String
  | .nothing | .place _ => []
  | .name n => [n]
  | .both a b => a.names ++ b.names
  | .withDefault a _ => a.names

def places : Outline → List Expr
  | .nothing | .name _ => []
  | .place e => [e]
  | .both a b => a.places ++ b.places
  | .withDefault a _ => a.places

def defaults : Outline → List Expr
  | .nothing | .name _ | .place _ => []
  | .both a b => a.defaults ++ b.defaults
  | .withDefault a d => d :: a.defaults

/-- The steps of a declaration in the current scope. -/
def bindSteps (sink : String → Bool) : Outline → List Step
  | .nothing | .place _ => []
  | .name n => [.declare .current n]
  | .both a b => a.bindSteps sink ++ b.bindSteps sink
  | .withDefault a d => d.steps sink ++ [.noteDefault d] ++ a.bindSteps sink ++ [.forget]

def assignSteps (sink : String → Bool) (plain : Bool) : Outline → List Step
  | .nothing => []
  | .name n => [.assign plain n]
  | .place e => e.steps sink
  | .both a b => a.assignSteps sink plain ++ b.assignSteps sink plain
  | .withDefault a _ => a.assignSteps sink plain

end Outline

mutual

theorem Pat.names_outline : ∀ p : Pat, p.outline.names = p.names
  | .ident _ | .target _ => rfl
  | .array elems => by simpa only [Pat.outline, Pat.names] using Pat.names_allOutline elems
  | .object props => by simpa only [Pat.outline, Pat.names] using PatProp.names_allOutline props
  | .rest p | .withDefault p _ => by
    simpa only [Pat.outline, Outline.names, Pat.names] using Pat.names_outline p

theorem Pat.names_allOutline : ∀ elems : List (Option Pat), (Pat.allOutline elems).names = Pat.allNames elems
  | [] => rfl
  | none :: r => by simpa only [Pat.allOutline, Pat.allNames] using Pat.names_allOutline r
  | some p :: r => by
    simp only [Pat.allOutline, Outline.names, Pat.allNames, Pat.names_outline p, Pat.names_allOutline r]

theorem PatProp.names_allOutline : ∀ props : List PatProp,
    (PatProp.allOutline props).names = PatProp.allNames props
  | [] => rfl
  | .keyValue _ p :: r | .rest p :: r => by
    simp only [PatProp.allOutline, Outline.names, PatProp.allNames, Pat.names_outline p,
      PatProp.names_allOutline r]
  | .shorthand n d :: r => by
    cases d <;> simp only [PatProp.allOutline, Outline.names, PatProp.allNames, PatProp.names_allOutline r,
      List.singleton_append]

end

variable {sink : String → Bool}

mutual

theorem Pat.bindSteps_outline : ∀ p : Pat, p.outline.bindSteps sink = p.bindSteps sink .current
  | .ident _ | .target _ => rfl
  | .array elems => by simpa only [Pat.outline, Pat.bindSteps] using Pat.bindSteps_allOutline elems
  | .object props => by simpa only [Pat.outline, Pat.bindSteps] using PatProp.bindSteps_allOutline props
  | .rest p => by simpa only [Pat.outline, Pat.bindSteps] using Pat.bindSteps_outline p
  | .withDefault p d => by
    simp only [Pat.outline, Outline.bindSteps, Pat.bindSteps, Pat.bindSteps_outline p]

theorem Pat.bindSteps_allOutline : ∀ elems : List (Option Pat),
    (Pat.allOutline elems).bindSteps sink = Pat.bindAllSteps sink .current elems
  | [] => rfl
  | none :: r => by simpa only [Pat.allOutline, Pat.bindAllSteps] using Pat.bindSteps_allOutline r
  | some p :: r => by
    simp only [Pat.allOutline, Outline.bindSteps, Pat.bindAllSteps, Pat.bindSteps_outline p,
      Pat.bindSteps_allOutline r]

theorem PatProp.bindSteps_allOutline : ∀ props : List PatProp,
    (PatProp.allOutline props).bindSteps sink = PatProp.bindSteps sink .current props
  | [] => rfl
  | .keyValue _ p :: r | .rest p :: r => by
    simp only [PatProp.allOutline, Outline.bindSteps, PatProp.bindSteps, Pat.bindSteps_outline p,
      PatProp.bindSteps_allOutline r]
  | .shorthand n none :: r => by
    simp only [PatProp.allOutline, Outline.bindSteps, PatProp.bindSteps, PatProp.bindSteps_allOutline r]
  | .shorthand n (some d) :: r => by
    simp [PatProp.allOutline, Outline.bindSteps, PatProp.bindSteps, PatProp.bindSteps_allOutline r]

end

mutual

theorem Pat.assignSteps_outline (plain : Bool) : ∀ p : Pat,
    p.outline.assignSteps sink plain = p.assignSteps sink plain
  | .ident _ | .target _ => rfl
  | .array elems => by simpa only [Pat.outline, Pat.assignSteps] using Pat.assignSteps_allOutline plain elems
  | .object props => by
    simpa only [Pat.outline, Pat.assignSteps] using PatProp.assignSteps_allOutline plain props
  | .rest p | .withDefault p _ => by
    simpa only [Pat.outline, Outline.assignSteps, Pat.assignSteps] using Pat.assignSteps_outline plain p

theorem Pat.assignSteps_allOutline (plain : Bool) : ∀ elems : List (Option Pat),
    (Pat.allOutline elems).assignSteps sink plain = Pat.assignAllSteps sink plain elems
  | [] => rfl
  | none :: r => by
    simpa only [Pat.allOutline, Pat.assignAllSteps] using Pat.assignSteps_allOutline plain r
  | some p :: r => by
    simp only [Pat.allOutline, Outline.assignSteps, Pat.assignAllSteps, Pat.assignSteps_outline plain p,
      Pat.assignSteps_allOutline plain r]

theorem PatProp.assignSteps_allOutline (plain : Bool) : ∀ props : List PatProp,
    (PatProp.allOutline props).assignSteps sink plain = PatProp.assignSteps sink plain props
  | [] => rfl
  | .keyValue _ p :: r | .rest p :: r => by
    simp only [PatProp.allOutline, Outline.assignSteps, PatProp.assignSteps, Pat.assignSteps_outline plain p,
      PatProp.assignSteps_allOutline plain r]
  | .shorthand n d :: r => by
    cases d <;> simp only [PatProp.allOutline, Outline.assignSteps, PatProp.assignSteps,
      PatProp.assignSteps_allOutline plain r]

end

end Script

namespace Script.Outline

variable {p : Patterns} {sink : String → Bool} {x : String}

/-- The taint that a name takes from the defaults around it in a declaration that begins in this state: that
of the first tainted one from the outside in, each evaluated where the declaration comes to it. -/
def defaultTaint (p : Patterns) (x : String) : Outline → WalkState → Option String
  | .nothing, _ | .name _, _ | .place _, _ => none
  | .both a b, s =>
    if x ∈ a.names then a.defaultTaint p x s else b.defaultTaint p x (s.run p (a.bindSteps p.isSink))
  | .withDefault a d, s =>
    let reached := s.run p (d.steps p.isSink)
    (reached.reading p d).origin.or (a.defaultTaint p x (reached.step p (.noteDefault d)))

/-- The name is written by no default. -/
def Spares (sink : String → Bool) (x : String) (o : Outline) : Prop :=
  ∀ d ∈ o.defaults, ∀ st ∈ d.steps sink, x ∉ st.writes

theorem bindSteps_nested (o : Outline) : Nested sink (o.bindSteps sink) := by
  induction o with
  | nothing | place _ => exact .nil
  | name n => exact .declare .current n
  | both a b iha ihb => exact iha.append ihb
  | withDefault a d ih =>
    have hnested := d.steps_nested.append (.noteDefault d ih)
    simpa [bindSteps] using hnested

/-- A declaration writes its names, and what its defaults write. -/
theorem not_mem_writes {o : Outline} (hspares : o.Spares sink x) (hx : x ∉ o.names) :
    ∀ st ∈ o.bindSteps sink, x ∉ st.writes := by
  induction o with
  | nothing | place _ => simp [bindSteps]
  | name n => simpa [bindSteps, Step.writes, names] using hx
  | both a b iha ihb =>
    rw [names, List.mem_append, not_or] at hx
    obtain ⟨ha, hb⟩ := List.forall_mem_append.mp hspares
    exact List.forall_mem_append.mpr ⟨iha ha hx.1, ihb hb hx.2⟩
  | withDefault a d ih =>
    obtain ⟨hd, ha⟩ := List.forall_mem_cons.mp hspares
    have hinner := ih ha hx
    simp only [bindSteps, List.forall_mem_append]
    exact ⟨⟨⟨hd, by simp [Step.writes]⟩, hinner⟩, by simp [Step.writes]⟩

/-- A declaration gives each of its names the latest taint, or else that of the defaults around it. -/
theorem own?_bind {o : Outline} (hnodup : o.names.Nodup) (hspares : o.Spares p.isSink x) (hx : x ∈ o.names)
    {s : WalkState} (hs : s.tracker.Placed) :
    (s.run p (o.bindSteps p.isSink)).tracker.scopes.own? s.tracker.current x =
      some (.declared x (s.latest.or (o.defaultTaint p x s))) := by
  induction o generalizing s with
  | nothing | place _ => simp [names] at hx
  | name n =>
    obtain rfl : x = n := by simpa [names] using hx
    have hwrite := @WalkState.isWrite_declare s .current hs.current_lt x s.latest
    simp only [bindSteps, WalkState.run_cons, WalkState.run_nil, WalkState.step, hwrite.own?]
    simp [Tracker.scopeOf, Variable.declared, defaultTaint]
  | both a b iha ihb =>
    rw [names, List.nodup_append'] at hnodup
    obtain ⟨hnodupa, hnodupb, hdisjoint⟩ := hnodup
    obtain ⟨ha, hb⟩ := List.forall_mem_append.mp hspares
    rw [bindSteps, WalkState.run_append, defaultTaint]
    by_cases hxa : x ∈ a.names
    · rw [if_pos hxa, WalkState.own?_run (not_mem_writes hb (hdisjoint hxa))]
      exact iha hnodupa ha hxa hs
    · have hxb : x ∈ b.names := (List.mem_append.mp hx).resolve_left hxa
      have hbind := ihb hnodupb hb hxb (WalkState.placed_run (p := p) hs (a.bindSteps p.isSink))
      rw [if_neg hxa]
      rwa [WalkState.run_current a.bindSteps_nested, WalkState.latest,
        WalkState.run_pending a.bindSteps_nested] at hbind
  | withDefault a d ih =>
    obtain ⟨-, ha⟩ := List.forall_mem_cons.mp hspares
    let reached := s.run p (d.steps p.isSink)
    have hreached : reached.tracker.Placed := WalkState.placed_run hs _
    have hnoted : (reached.step p (.noteDefault d)).tracker.Placed := WalkState.placed_step hreached _
    have hbind := ih hnodup ha hx hnoted
    have hcurrent : (reached.step p (.noteDefault d)).tracker.current = s.tracker.current := by
      rw [WalkState.step_tracker]
      exact WalkState.run_current d.steps_nested s
    have hlatest : (reached.step p (.noteDefault d)).latest = s.latest.or (reached.reading p d).origin := by
      have hpending : reached.latest = s.latest := by
        rw [WalkState.latest, WalkState.run_pending d.steps_nested, WalkState.latest]
      rw [WalkState.latest, WalkState.step_pending]
      simp only [List.head?_cons, Option.join_some, hpending]
    rw [hcurrent, hlatest, Option.or_assoc] at hbind
    simp only [bindSteps, WalkState.run_append, WalkState.run_cons, WalkState.run_nil]
    rw [WalkState.step_tracker]
    exact hbind

/-- Where all that is assigned to are names, the defaults leave no trace. -/
theorem assignSteps_eq {o : Outline} (h : o.places = []) (plain : Bool) :
    o.assignSteps sink plain = o.names.map (Step.assign plain) := by
  induction o with
  | nothing | name _ => rfl
  | place e => simp [places] at h
  | both a b iha ihb =>
    obtain ⟨ha, hb⟩ := List.append_eq_nil_iff.mp h
    rw [assignSteps, iha ha, ihb hb, names, List.map_append]
  | withDefault a d ih => exact ih h

end Script.Outline

theorem ScopeTree.lookup?_of_own? {t : ScopeTree} {i : ScopeId} {name : String} {v : Variable}
    (h : t.own? i name = some v) : t.lookup? i name = some v := by
  rw [lookup?, resolve?_of_own? (by rw [h]; rfl)]
  exact h

theorem Variable.declared_inj {name : String} {a b : Option String} :
    declared name a = declared name b ↔ a = b := by
  constructor
  · intro h
    have htainted := congrArg tainted h
    have horigin := congrArg origin h
    cases a <;> cases b <;> simp_all [declared]
  · rintro rfl
    rfl

/-- Whether an identifier occurs in a node, at any depth. -/
def Script.Node.Mentions (n : Node) (name : String) : Prop := ∃ m, n.Contains m ∧ name ∈ m.idents

namespace WalkState

variable {p : Patterns} {s : WalkState} {x : String}

/-- An assignment to a name of the current scope leaves it as a declaration would. -/
theorem own?_assign (hs : s.tracker.Placed) {name : String}
    (h : (s.tracker.scopes.own? s.tracker.current name).isSome = true) (taint : Option String) :
    (s.assign true name taint).tracker.scopes.own? s.tracker.current x =
      if x = name then some (.declared x taint) else s.tracker.scopes.own? s.tracker.current x := by
  obtain ⟨v, hv⟩ := Option.isSome_iff_exists.mp h
  have hwrite := isWrite_assign hs.scopes.wellFormed.root_lt true name taint
  have howner : s.tracker.scopes.ownerOf s.tracker.current name = s.tracker.current := by
    rw [ScopeTree.ownerOf, ScopeTree.resolve?_of_own? h, Option.getD_some]
  have hlookup : s.tracker.lookup? name = some v := ScopeTree.lookup?_of_own? hv
  rw [hwrite.own?, howner, Variable.assigned_name, hlookup]
  by_cases hx : x = name
  · subst hx
    cases taint <;> simp [Variable.assigned, Variable.declared, Variable.taint, Variable.untaint]
  · simp [hx]

theorem own?_assigns {names : List String} (hs : s.tracker.Placed)
    (hbound : ∀ y ∈ names, (s.tracker.scopes.own? s.tracker.current y).isSome = true)
    (hx : x ∈ names ∨ s.tracker.scopes.own? s.tracker.current x = some (.declared x s.latest)) :
    (s.run p (names.map (Step.assign true))).tracker.scopes.own? s.tracker.current x =
      some (.declared x s.latest) := by
  induction names generalizing s with
  | nil => exact hx.resolve_left (List.not_mem_nil)
  | cons y names ih =>
    obtain ⟨hy, hbound⟩ := List.forall_mem_cons.mp hbound
    have hown (z : String) := own?_assign (x := z) hs hy s.latest
    let assigned := s.assign true y s.latest
    have hcurrent : assigned.tracker.current = s.tracker.current := assign_current s true y s.latest
    have hlatest : assigned.latest = s.latest := by
      rw [latest, assign_pending, latest]
    have hrest := @ih assigned (placed_assign hs true y s.latest)
    rw [hcurrent, hlatest] at hrest
    apply hrest
    · intro z hz
      rw [hown]
      split
      · rfl
      · exact hbound z hz
    · rw [hown]
      by_cases hxy : x = y
      · exact .inr (if_pos hxy)
      · rw [if_neg hxy]
        exact hx.imp_left fun hmem => (List.mem_cons.mp hmem).resolve_left hxy

/-- Declares the names of a pattern in the current scope, for a value with this taint. -/
def bindPattern (p : Patterns) (s : WalkState) (pat : Script.Pat) (taint : Option String) : WalkState :=
  (s.push taint).run p (pat.bindSteps p.isSink .current ++ [.forget])

/-- Assigns a value with this taint to the names of a pattern. -/
def assignPattern (p : Patterns) (s : WalkState) (pat : Script.Pat) (taint : Option String) : WalkState :=
  (s.push taint).run p (pat.assignSteps p.isSink true ++ [.forget])

theorem lookup?_bindPattern (hs : s.tracker.Placed) {pat : Script.Pat} (hnodup : pat.names.Nodup)
    (hspares : pat.outline.Spares p.isSink x) (hx : x ∈ pat.names) (taint : Option String) :
    (s.bindPattern p pat taint).tracker.lookup? x =
      some (.declared x (taint.or (pat.outline.defaultTaint p x (s.push taint)))) := by
  rw [← pat.names_outline] at hnodup hx
  have hbind := Script.Outline.own?_bind hnodup hspares hx (s := s.push taint) hs
  have hcurrent : ((s.push taint).run p (pat.outline.bindSteps p.isSink)).tracker.current =
      s.tracker.current := run_current pat.outline.bindSteps_nested _
  simp only [bindPattern, run_append, run_cons, run_nil, ← pat.bindSteps_outline, step_tracker]
  rw [Tracker.lookup?, hcurrent]
  rw [latest_push] at hbind
  exact ScopeTree.lookup?_of_own? hbind

theorem lookup?_assignPattern (hs : s.tracker.Placed) {pat : Script.Pat} (hplaces : pat.outline.places = [])
    (hbound : ∀ y ∈ pat.names, (s.tracker.scopes.own? s.tracker.current y).isSome = true)
    (hx : x ∈ pat.names) (taint : Option String) :
    (s.assignPattern p pat taint).tracker.lookup? x = some (.declared x taint) := by
  have hassign := own?_assigns (p := p) (s := s.push taint) hs hbound (.inl hx)
  have hcurrent : ((s.push taint).run p (pat.assignSteps p.isSink true)).tracker.current =
      s.tracker.current := run_current (pat.assignSteps_nested true) _
  simp only [assignPattern, run_append, run_cons, run_nil, step_tracker]
  rw [Tracker.lookup?, hcurrent, ← pat.assignSteps_outline, Script.Outline.assignSteps_eq hplaces,
    pat.names_outline]
  rw [latest_push] at hassign
  exact ScopeTree.lookup?_of_own? hassign

/-- For a pattern of distinct names that are all bound in the current scope and occur in no default, a
declaration and an assignment leave a name with the same taint exactly if the value is tainted or no default
around the name is. -/
theorem bind_agrees_with_assign (p : Patterns) (s : WalkState) (hs : s.tracker.Placed) (pat : Script.Pat)
    (hplaces : pat.outline.places = []) (hnodup : pat.names.Nodup)
    (hbound : ∀ x ∈ pat.names, (s.tracker.scopes.own? s.tracker.current x).isSome = true)
    (hdefaults : ∀ d ∈ pat.outline.defaults, ∀ x ∈ pat.names, ¬ (Script.Node.expr d).Mentions x)
    (taint : Option String) {x : String} (hx : x ∈ pat.names) :
    (s.bindPattern p pat taint).tracker.lookup? x = (s.assignPattern p pat taint).tracker.lookup? x ↔
      taint.isSome = true ∨ pat.outline.defaultTaint p x (s.push taint) = none := by
  have hspares : pat.outline.Spares p.isSink x := by
    intro d hd st hst hwrites
    obtain ⟨m, hcontains, hwritten⟩ := (Script.Node.names_of_mem_steps (n := .expr d) hst).1 x hwrites
    exact hdefaults d hd x hx ⟨m, hcontains, m.written_subset_idents hwritten⟩
  rw [lookup?_bindPattern hs hnodup hspares hx, lookup?_assignPattern hs hplaces hbound hx,
    Option.some.injEq, Variable.declared_inj]
  cases taint <;> simp

theorem mentions_locationHash {x : String} : (Script.Node.expr Script.locationHash).Mentions x ↔ x = "location" := by
  simp [Script.Node.Mentions, Script.locationHash, Script.Node.contains_iff, Script.InParts, Script.Node.parts,
    Script.Expr.parts, Script.Key.parts, Script.Node.idents, Script.Expr.used, Script.Expr.written]

theorem not_mentions_of_locationHash {pat : Script.Pat} (hdefaults : pat.outline.defaults = [Script.locationHash])
    (hnames : "location" ∉ pat.names) :
    ∀ d ∈ pat.outline.defaults, ∀ x ∈ pat.names, ¬ (Script.Node.expr d).Mentions x := by
  rw [hdefaults, List.forall_mem_singleton]
  intro x hx hmentions
  rw [mentions_locationHash.mp hmentions] at hx
  exact hnames hx

/-- `[a, {k: [b] = location.hash, ...c}]` -/
def nestedPattern : Script.Pat :=
  .array [some (.ident "a"), none, some (.object [
    .keyValue (.name "k") (.withDefault (.array [some (.ident "b")]) Script.locationHash), .rest (.ident "c")])]

/-- With an untainted value the two agree on the names without a default, and with a tainted one on the name
that has a default too. -/
theorem bind_agrees_with_assign_nestedPattern :
    let p := Patterns.ofTexts ["location.hash"] ["eval"]
    let s := ({ tracker := ({} : Tracker).enter .block } : WalkState).walk p
      [.var .letKind [.mk (.ident "a") (some Script.locationHash), .mk (.ident "b") none,
        .mk (.ident "c") (some (.ident "a"))]]
    (s.bindPattern p nestedPattern none).tracker.lookup? "c" =
        (s.assignPattern p nestedPattern none).tracker.lookup? "c" ∧
      (s.bindPattern p nestedPattern (some "window.name")).tracker.lookup? "b" =
        (s.assignPattern p nestedPattern (some "window.name")).tracker.lookup? "b" := by
  intro p s
  have hs : s.tracker.Placed := placed_run (Tracker.Reachable.enter .start _).placed _
  have hagree := bind_agrees_with_assign p s hs nestedPattern rfl (by decide) (by decide)
    (not_mentions_of_locationHash rfl (by decide))
  exact ⟨(hagree none (by decide)).mpr (.inr (by decide)), (hagree _ (by decide)).mpr (.inl rfl)⟩

/-- `{a = location.hash}` -/
def defaultPattern : Script.Pat := .object [.shorthand "a" (some Script.locationHash)]

/-- A declaration with a tainted default taints the name, and an assignment with the same pattern clears it,
so the call of the sink behind it goes unreported. -/
theorem assigned_default_ignored :
    let p := Patterns.ofTexts ["location.hash"] ["eval"]
    let evalA : Script.Stmt := .expr (.call (.ident "eval") [.item (.ident "a")])
    let s := ({} : WalkState).walk p [.var .letKind [.mk (.ident "a") none]]
    s.tracker.Placed ∧ defaultPattern.outline.places = [] ∧ defaultPattern.names.Nodup ∧
      (∀ x ∈ defaultPattern.names, (s.tracker.scopes.own? s.tracker.current x).isSome = true) ∧
      (∀ d ∈ defaultPattern.outline.defaults, ∀ x ∈ defaultPattern.names,
        ¬ (Script.Node.expr d).Mentions x) ∧
      (s.bindPattern p defaultPattern none).tracker.lookup? "a" =
        some { name := "a", tainted := true, origin := "location.hash" } ∧
      (s.assignPattern p defaultPattern none).tracker.lookup? "a" =
        some { name := "a", tainted := false, origin := "" } ∧
      (s.walk p [.var .letKind [.mk defaultPattern (some (.object []))], evalA]).findings =
        [Flow.finding ⟨.call, "location.hash", "eval", "a"⟩] ∧
      (s.walk p [.expr (.paren (.assign .plain (.pattern defaultPattern) (.object []))), evalA]).findings =
        [] := by
  intro p evalA s
  exact ⟨placed_run Tracker.Reachable.start.placed _, rfl, by decide, by decide,
    not_mentions_of_locationHash rfl (by decide), by decide, by decide, by decide, by decide⟩

end WalkState

end DomFlow
