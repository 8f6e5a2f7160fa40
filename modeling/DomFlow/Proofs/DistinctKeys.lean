import DomFlow.Toml.Document
import Mathlib.Data.List.Nodup

/-! # Keys of a document are distinct

No table of a document has a key twice, at whatever depth it stands and in whichever way it was made. Readers
build tables only by setting an entry that is absent or already there, and every change deep in a tree leaves
the tables around it with the keys they had or with one new key. -/

namespace DomFlow.Toml

/-- No table in a value has a key twice. -/
inductive Value.Distinct : Value → Prop where
  | text (s : String) : Distinct (.text s)
  | integer (n : Int) : Distinct (.integer n)
  | float (written : String) : Distinct (.float written)
  | bool (b : Bool) : Distinct (.bool b)
  | moment (written : String) : Distinct (.moment written)
  | array {items : List Value} (hitems : ∀ v ∈ items, Distinct v) : Distinct (.array items)
  | table {t : List (String × Value)} (hkeys : (t.map Prod.fst).Nodup) (hvalues : ∀ e ∈ t, Distinct e.2) :
      Distinct (.table t)

theorem Value.Distinct.keys {t : List (String × Value)} (h : (Value.table t).Distinct) : (t.map Prod.fst).Nodup := by
  cases h with
  | table hkeys _ => exact hkeys

theorem Value.Distinct.of_mem {t : List (String × Value)} (h : (Value.table t).Distinct) {e : String × Value}
    (he : e ∈ t) : e.2.Distinct := by
  cases h with
  | table _ hvalues => exact hvalues e he

/-- No table in a part of a document has a key twice. -/
inductive Node.Distinct : Node → Prop where
  | value {v : Value} (hv : v.Distinct) : Distinct (.value v)
  | table {origin : Origin} {es : List (String × Node)} (hkeys : (es.map Prod.fst).Nodup)
      (hnodes : ∀ e ∈ es, Distinct e.2) : Distinct (.table origin es)
  | tables {items : List (List (String × Node))} (hkeys : ∀ es ∈ items, (es.map Prod.fst).Nodup)
      (hnodes : ∀ es ∈ items, ∀ e ∈ es, Distinct e.2) : Distinct (.tables items)

namespace Entries

structure Distinct (es : Entries) : Prop where
  keys : (es.map Prod.fst).Nodup
  nodes : ∀ e ∈ es, e.2.Distinct

theorem distinct_nil : Distinct [] := ⟨List.nodup_nil, by simp⟩

variable {es es' : Entries} {key : String} {n : Node}

theorem Distinct.table (h : es.Distinct) (origin : Origin) : (Node.table origin es).Distinct := .table h.keys h.nodes

theorem Distinct.of_table {origin : Origin} (h : (Node.table origin es).Distinct) : es.Distinct := by
  cases h with
  | table hkeys hnodes => exact ⟨hkeys, hnodes⟩

theorem Distinct.of_tables {items : List (List (String × Node))} (h : (Node.tables items).Distinct) :
    ∀ es ∈ items, Distinct es := by
  cases h with
  | tables hkeys hnodes => exact fun es hes => ⟨hkeys es hes, hnodes es hes⟩

theorem distinct_tables {items : List (List (String × Node))} (h : ∀ es ∈ items, Distinct es) :
    (Node.tables items).Distinct :=
  .tables (fun es hes => (h es hes).keys) fun es hes => (h es hes).nodes

theorem Distinct.of_lookup (h : es.Distinct) (hn : es.lookup key = some n) : n.Distinct := by
  obtain ⟨before, after, rfl, -⟩ := List.lookup_eq_some_iff.mp hn
  exact h.nodes (key, n) (by simp)

theorem Distinct.set (h : es.Distinct) (hn : n.Distinct) (key : String) : Distinct (Assoc.set key n es) where
  keys := Assoc.nodup_keys_set h.keys key n
  nodes e he := by
    rcases Assoc.mem_set he with he | he
    · exact h.nodes e he
    · exact he ▸ hn

/-- A change that keeps keys distinct in the table at the end of a path keeps them distinct around it. -/
theorem Distinct.descend {dotted : Bool} {f : Origin → Entries → Option Entries}
    (hf : ∀ origin es es', es.Distinct → f origin es = some es' → es'.Distinct) {path : List String}
    {origin : Origin} (h : es.Distinct) (hes : es.descend dotted f path origin = some es') : es'.Distinct := by
  induction path generalizing es es' origin with
  | nil => exact hf origin es es' h hes
  | cons k ks ih =>
    rw [Entries.descend] at hes
    split at hes
    · obtain ⟨sub, hsub, ⟨⟩⟩ := Option.bind_eq_some_iff.mp hes
      exact h.set ((ih distinct_nil hsub).table _) k
    · cases hes
    · cases hes
    next last before hlast =>
      obtain ⟨sub, hsub, ⟨⟩⟩ := Option.bind_eq_some_iff.mp hes
      have hitems := Distinct.of_tables (h.of_lookup hlast)
      have hdistinct := ih (hitems last List.mem_cons_self) hsub
      refine h.set (distinct_tables ?_) k
      exact List.forall_mem_cons.mpr ⟨hdistinct, fun es hes => hitems es (List.mem_cons_of_mem _ hes)⟩
    next origin' sub htable =>
      split at hes
      · cases hes
      · obtain ⟨sub', hsub, ⟨⟩⟩ := Option.bind_eq_some_iff.mp hes
        exact h.set ((ih (.of_table (h.of_lookup htable)) hsub).table _) k

theorem Distinct.add {path : List String} {v : Value} (h : es.Distinct) (hv : v.Distinct)
    (hes : es.add path key v = some es') : es'.Distinct := by
  refine h.descend (fun origin es es' h hes => ?_) hes
  split at hes
  · cases hes
  · cases hes
    exact h.set (.value hv) key

theorem Distinct.startTable {path : List String} (h : es.Distinct)
    (hes : es.startTable path key = some es') : es'.Distinct := by
  refine h.descend (fun _ es es' h hes => ?_) hes
  split at hes
  · cases hes
    exact h.set (distinct_nil.table _) key
  next sub hsub =>
    cases hes
    exact h.set ((Distinct.of_table (h.of_lookup hsub)).table _) key
  · cases hes

theorem Distinct.startItem {path : List String} (h : es.Distinct)
    (hes : es.startItem path key = some es') : es'.Distinct := by
  refine h.descend (fun _ es es' h hes => ?_) hes
  split at hes
  · cases hes
    exact h.set (distinct_tables (by simpa using distinct_nil)) key
  next items hitems =>
    cases hes
    refine h.set (distinct_tables ?_) key
    exact List.forall_mem_cons.mpr ⟨distinct_nil, Distinct.of_tables (h.of_lookup hitems)⟩
  · cases hes

end Entries

theorem Node.keys_tableOf (es : List (String × Node)) : (Node.tableOf es).map Prod.fst = es.map Prod.fst := by
  induction es with
  | nil => rfl
  | cons e es ih => rw [Node.tableOf, List.map_cons, List.map_cons, ih]

mutual

theorem Node.Distinct.toValue : ∀ {n : Node}, n.Distinct → n.toValue.Distinct
  | .value v, .value hv => hv
  | .table _ es, .table hkeys hnodes => by
    rw [Node.toValue]
    exact .table (by rwa [Node.keys_tableOf]) (Node.values_distinct hnodes)
  | .tables items, .tables hkeys hnodes => by
    rw [Node.toValue]
    exact .array fun v hv => Node.items_distinct hkeys hnodes v (List.mem_reverse.mp hv)

theorem Node.values_distinct : ∀ {es : List (String × Node)}, (∀ e ∈ es, e.2.Distinct) →
    ∀ e ∈ Node.tableOf es, e.2.Distinct
  | [], _ => by simp [Node.tableOf]
  | (k, n) :: es, h => by
    obtain ⟨hn, hes⟩ := List.forall_mem_cons.mp h
    exact List.forall_mem_cons.mpr ⟨Node.Distinct.toValue hn, Node.values_distinct hes⟩

theorem Node.items_distinct : ∀ {items : List (List (String × Node))},
    (∀ es ∈ items, (es.map Prod.fst).Nodup) → (∀ es ∈ items, ∀ e ∈ es, e.2.Distinct) →
    ∀ v ∈ Node.itemsOf items, v.Distinct
  | [], _, _ => by simp [Node.itemsOf]
  | es :: items, hkeys, hnodes => by
    obtain ⟨hkey, hkeys⟩ := List.forall_mem_cons.mp hkeys
    obtain ⟨hnode, hnodes⟩ := List.forall_mem_cons.mp hnodes
    refine List.forall_mem_cons.mpr ⟨?_, Node.items_distinct hkeys hnodes⟩
    exact .table (by rwa [Node.keys_tableOf]) (Node.values_distinct hnode)

end

theorem Entries.Distinct.tableOf {es : Entries} (h : es.Distinct) : (Value.table (Node.tableOf es)).Distinct :=
  .table (by rw [Node.keys_tableOf]; exact h.keys) (Node.values_distinct h.nodes)

theorem scalar_distinct {cs r : List Char} {v : Value} (h : scalar cs = some (v, r)) : v.Distinct := by
  unfold scalar at h
  split at h
  · cases h
  split at h
  · obtain ⟨x, -, ⟨⟩⟩ := Option.map_eq_some_iff.mp h
    exact .text _
  split at h
  · split at h
    · cases h
      exact .moment _
    · split at h
      · cases h
        exact .float _
      · obtain ⟨x, -, ⟨⟩⟩ := Option.map_eq_some_iff.mp h
        exact .integer _
  · split at h
    · cases h
      exact .bool _
    · cases h
      exact .bool _
    · cases h
      exact .float _
    · cases h
      exact .float _
    · cases h

/-- Values, items of arrays and pairs of inline tables that are read have distinct keys. -/
structure ReadDistinct (fuel : Nat) : Prop where
  value : ∀ {depth : Nat} {cs r : List Char} {v : Value}, valueAt fuel depth cs = some (v, r) → v.Distinct
  items : ∀ {depth : Nat} {cs r : List Char} {vs : List Value}, itemsAt fuel depth cs = some (vs, r) →
    ∀ v ∈ vs, v.Distinct
  pairs : ∀ {depth : Nat} {es es' : Entries} {cs r : List Char}, es.Distinct →
    pairsAt fuel depth es cs = some (es', r) → es'.Distinct

theorem readDistinct (fuel : Nat) : ReadDistinct fuel := by
  induction fuel with
  | zero => constructor <;> intros <;> simp_all [valueAt, itemsAt, pairsAt]
  | succ fuel ih =>
    constructor
    · intro depth cs r v h
      unfold valueAt at h
      split at h
      · split at h
        · obtain ⟨⟨vs, r'⟩, hvs, ⟨⟩⟩ := Option.map_eq_some_iff.mp h
          exact .array (ih.items hvs)
        · cases h
      · split at h
        · split at h
          · cases h
            exact .table List.nodup_nil (by simp)
          · obtain ⟨⟨es, r'⟩, hes, ⟨⟩⟩ := Option.map_eq_some_iff.mp h
            exact (ih.pairs Entries.distinct_nil hes).tableOf
        · cases h
      · exact scalar_distinct h
    · intro depth cs r vs h
      unfold itemsAt at h
      obtain ⟨inner, -, h⟩ := Option.bind_eq_some_iff.mp h
      split at h
      · cases h
        simp
      · obtain ⟨⟨v, r'⟩, hv, h⟩ := Option.bind_eq_some_iff.mp h
        obtain ⟨after, -, h⟩ := Option.bind_eq_some_iff.mp h
        split at h
        · obtain ⟨⟨vs', r''⟩, hvs, ⟨⟩⟩ := Option.bind_eq_some_iff.mp h
          exact List.forall_mem_cons.mpr ⟨ih.value hv, ih.items hvs⟩
        · cases h
          simpa using ih.value hv
        · cases h
    · intro depth es es' cs r hes h
      unfold pairsAt at h
      obtain ⟨⟨⟨path, last⟩, r₁⟩, -, h⟩ := Option.bind_eq_some_iff.mp h
      obtain ⟨r₂, -, h⟩ := Option.bind_eq_some_iff.mp h
      obtain ⟨⟨v, r₃⟩, hv, h⟩ := Option.bind_eq_some_iff.mp h
      obtain ⟨added, hadded, h⟩ := Option.bind_eq_some_iff.mp h
      have hdistinct := hes.add (ih.value hv) hadded
      split at h
      · exact ih.pairs hdistinct h
      · cases h
        exact hdistinct
      · cases h

namespace Draft

variable {d d' : Draft} {cs r : List Char}

theorem distinct_header (h : d.entries.Distinct) (hd : d.header cs = some (d', r)) : d'.entries.Distinct := by
  unfold header at hd
  split at hd
  · obtain ⟨⟨⟨path, last⟩, r₁⟩, -, hd⟩ := Option.bind_eq_some_iff.mp hd
    obtain ⟨r₂, -, hd⟩ := Option.bind_eq_some_iff.mp hd
    obtain ⟨r₃, -, hd⟩ := Option.bind_eq_some_iff.mp hd
    obtain ⟨es, hes, ⟨⟩⟩ := Option.bind_eq_some_iff.mp hd
    exact h.startItem hes
  · obtain ⟨⟨⟨path, last⟩, r₁⟩, -, hd⟩ := Option.bind_eq_some_iff.mp hd
    obtain ⟨r₂, -, hd⟩ := Option.bind_eq_some_iff.mp hd
    obtain ⟨es, hes, ⟨⟩⟩ := Option.bind_eq_some_iff.mp hd
    exact h.startTable hes

theorem distinct_pair (h : d.entries.Distinct) (hd : d.pair cs = some (d', r)) : d'.entries.Distinct := by
  unfold pair at hd
  obtain ⟨⟨⟨path, last⟩, r₁⟩, -, hd⟩ := Option.bind_eq_some_iff.mp hd
  obtain ⟨r₂, -, hd⟩ := Option.bind_eq_some_iff.mp hd
  obtain ⟨⟨v, r₃⟩, hv, hd⟩ := Option.bind_eq_some_iff.mp hd
  obtain ⟨added, hadded, ⟨⟩⟩ := Option.bind_eq_some_iff.mp hd
  obtain ⟨es, hes, ⟨⟩⟩ := Option.bind_eq_some_iff.mp hadded
  exact h.descend (fun _ _ _ h => h.add ((readDistinct _).value hv)) hes

/-- Each line keeps the keys of the draft distinct, so all lines do. -/
theorem distinct_lines {fuel : Nat} (h : d.entries.Distinct) (hd : d.lines fuel cs = some d') :
    d'.entries.Distinct := by
  induction fuel generalizing d cs with
  | zero => cases hd
  | succ fuel ih =>
    unfold lines at hd
    split at hd
    · cases hd
      exact h
    · split at hd
      · obtain ⟨rest, -, hd⟩ := Option.bind_eq_some_iff.mp hd
        exact ih h hd
      · dsimp only at hd
        split at hd
        · obtain ⟨⟨next, r⟩, hnext, hd⟩ := Option.bind_eq_some_iff.mp hd
          obtain ⟨rest, -, hd⟩ := Option.bind_eq_some_iff.mp hd
          exact ih (distinct_header h hnext) hd
        · obtain ⟨⟨next, r⟩, hnext, hd⟩ := Option.bind_eq_some_iff.mp hd
          obtain ⟨rest, -, hd⟩ := Option.bind_eq_some_iff.mp hd
          exact ih (distinct_pair h hnext) hd

end Draft

/-- No table of a document has a key twice. -/
theorem parse?_distinct {text : String} {t : Table} (h : parse? text = some t) : (Value.table t).Distinct := by
  obtain ⟨d, hd, rfl⟩ := Option.map_eq_some_iff.mp h
  exact (Draft.distinct_lines Entries.distinct_nil hd).tableOf

end DomFlow.Toml
