import DomFlow.Flow.Reading
import DomFlow.Script.Reads

/-! # Relations between readings

Two readings of one expression, under two sets of patterns and two meanings of names, are related as soon
as the readings of the names it reads are, for every relation that is compatible with the three ways in
which readings are made. The walk over the syntax is done once, here. -/

namespace DomFlow

variable {p p' : Patterns} {look look' : String → Option Variable} {R : Reading → Reading → Prop}

/-- A relation between readings that is kept by the ways in which readings are made. -/
structure ReadingRelation (p p' : Patterns) (R : Reading → Reading → Prop) : Prop where
  clean : R .clean .clean
  orElse {a a' b b' : Reading} : R a a' → R b b' → R (a.orElse b) (a'.orElse b')
  ofPath (path : String) : R (.ofPath p path) (.ofPath p' path)

namespace Script

mutual

theorem Expr.reading_related (hR : ReadingRelation p p' R) : ∀ e : Expr,
    (∀ n ∈ e.reads, R (readName p look n) (readName p' look' n)) →
      R (e.reading p look) (e.reading p' look')
  | .ident n, h => by
    simpa only [Expr.reading] using h n (by simp [Expr.reads])
  | .binary _ l r, h => by
    simp only [Expr.reads, List.mem_append] at h
    simpa only [Expr.reading] using hR.orElse (Expr.reading_related hR l fun n hn => h n (.inl hn))
      (Expr.reading_related hR r fun n hn => h n (.inr hn))
  | .member o k, h => by
    simp only [Expr.reads, List.mem_append] at h
    have ho := Expr.reading_related hR o fun n hn => h n (.inl hn)
    simp only [Expr.reading]
    split
    · exact hR.clean
    · exact hR.orElse (hR.ofPath _) ho
  | .optMember _ o k, h => by
    simp only [Expr.reads, List.mem_append] at h
    have ho := Expr.reading_related hR o fun n hn => h n (.inl hn)
    simp only [Expr.reading]
    split
    · exact hR.clean
    · exact hR.orElse (hR.ofPath _) ho
  | .call f _, _ => by simpa only [Expr.reading] using hR.ofPath f.path
  | .optCall _ f _, _ => by simpa only [Expr.reading] using hR.ofPath f.path
  | .superCall _, _ => by simpa only [Expr.reading] using hR.ofPath "super"
  | .importCall _, _ => by simpa only [Expr.reading] using hR.ofPath "import"
  | .object props, h => by
    simp only [Expr.reads] at h
    simpa only [Expr.reading] using Property.readings_related hR props h
  | .paren e, h => by
    simp only [Expr.reads] at h
    simpa only [Expr.reading] using Expr.reading_related hR e h
  | .template _ es, h => by
    simp only [Expr.reads] at h
    simpa only [Expr.reading] using Expr.readings_related hR es h
  | .cond test yes no, h => by
    simp only [Expr.reads, List.mem_append] at h
    simpa only [Expr.reading] using
      hR.orElse (Expr.reading_related hR yes fun n hn => h n (.inl (.inr hn)))
        (Expr.reading_related hR no fun n hn => h n (.inr hn))
  | .seq es, h => by
    simp only [Expr.reads] at h
    simpa only [Expr.reading] using Expr.lastReading_related hR es h
  | .assign _ t v, h => by
    simp only [Expr.reads, List.mem_append] at h
    simpa only [Expr.reading] using Expr.reading_related hR v fun n hn => h n (.inr hn)
  | .await e, h => by
    simp only [Expr.reads] at h
    simpa only [Expr.reading] using Expr.reading_related hR e h
  | .thisRef, _ | .null, _ | .bool _, _ | .num _, _ | .bigint _, _ | .str _, _ | .regex _ _, _
  | .tagged _ _ _, _ | .array _, _ | .func _ _ _ _, _ | .arrow _ _ _, _ | .classExpr _ _ _, _
  | .unary _ _, _ | .update _ _ _, _ | .new _ _, _ | .superMember _, _ | .yield _ _, _ | .newTarget, _
  | .hiddenName _, _ => by
    simpa only [Expr.reading] using hR.clean

theorem Expr.readings_related (hR : ReadingRelation p p' R) : ∀ es : List Expr,
    (∀ n ∈ Expr.allReads es, R (readName p look n) (readName p' look' n)) →
      R (Expr.readings p look es) (Expr.readings p' look' es)
  | [], _ => by simpa only [Expr.readings] using hR.clean
  | e :: r, h => by
    simp only [Expr.allReads, List.mem_append] at h
    simpa only [Expr.readings] using hR.orElse (Expr.reading_related hR e fun n hn => h n (.inl hn))
      (Expr.readings_related hR r fun n hn => h n (.inr hn))

theorem Expr.lastReading_related (hR : ReadingRelation p p' R) : ∀ es : List Expr,
    (∀ n ∈ Expr.allReads es, R (readName p look n) (readName p' look' n)) →
      R (Expr.lastReading p look es) (Expr.lastReading p' look' es)
  | [], _ => by simpa only [Expr.lastReading] using hR.clean
  | [e], h => by
    simp only [Expr.allReads, List.append_nil] at h
    simpa only [Expr.lastReading] using Expr.reading_related hR e h
  | _ :: e :: r, h => by
    rw [Expr.allReads] at h
    simpa only [Expr.lastReading] using
      Expr.lastReading_related hR (e :: r) fun n hn => h n (List.mem_append_right _ hn)

theorem Property.readings_related (hR : ReadingRelation p p' R) : ∀ ps : List Property,
    (∀ n ∈ Property.allReads ps, R (readName p look n) (readName p' look' n)) →
      R (Property.readings p look ps) (Property.readings p' look' ps)
  | [], _ => by simpa only [Property.readings] using hR.clean
  | .keyValue k v :: r, h => by
    simp only [Property.allReads, List.mem_append] at h
    simpa only [Property.readings] using
      hR.orElse (Expr.reading_related hR v fun n hn => h n (.inl (.inr hn)))
        (Property.readings_related hR r fun n hn => h n (.inr hn))
  | .shorthand n :: r, h => by
    simp only [Property.allReads, List.mem_cons] at h
    simpa only [Property.readings] using
      hR.orElse (h n (.inl rfl)) (Property.readings_related hR r fun m hm => h m (.inr hm))
  | .spread e :: r, h => by
    simp only [Property.allReads, List.mem_append] at h
    simpa only [Property.readings] using
      hR.orElse (Expr.reading_related hR e fun n hn => h n (.inl hn))
        (Property.readings_related hR r fun n hn => h n (.inr hn))
  | .cover _ _ :: r, h | .method _ _ _ _ :: r, h | .getter _ _ :: r, h | .setter _ _ _ :: r, h => by
    simp only [Property.allReads] at h
    simpa only [Property.readings] using Property.readings_related hR r h

end

/-- A property that the ways in which readings are made keep is one of every reading. -/
theorem Expr.reading_induction {P : Reading → Prop} (hclean : P .clean)
    (horElse : ∀ {a b : Reading}, P a → P b → P (a.orElse b))
    (hpath : ∀ path, P (.ofPath p path)) (e : Expr) (h : ∀ n ∈ e.reads, P (readName p look n)) :
    P (e.reading p look) := by
  have hR : ReadingRelation p p fun a b => P a ∧ P b := {
    clean := ⟨hclean, hclean⟩
    orElse := fun ha hb => ⟨horElse ha.1 hb.1, horElse ha.2 hb.2⟩
    ofPath := fun path => ⟨hpath path, hpath path⟩ }
  exact (e.reading_related hR fun n hn => ⟨h n hn, h n hn⟩).1

/-- A name that is met unbound is one that the expression reads, and it means nothing. -/
theorem Expr.of_mem_unbound (e : Expr) {n : String} (hn : n ∈ (e.reading p look).unbound) :
    n ∈ e.reads ∧ look n = none := by
  have hpath (path : String) : (Reading.ofPath p path).unbound = [] := by
    unfold Reading.ofPath
    split <;> rfl
  refine e.reading_induction (P := fun r => ∀ n ∈ r.unbound, n ∈ e.reads ∧ look n = none)
    (by simp [Reading.clean]) ?_ (by simp [hpath]) ?_ n hn
  · intro a b ha hb
    unfold Reading.orElse
    split
    · exact ha
    · exact List.forall_mem_append.mpr ⟨ha, hb⟩
  · intro m hm
    unfold readName
    split
    · split <;> simp [hpath]
    next hlook => simp [hm, hlook]

end Script

end DomFlow
