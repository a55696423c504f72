/-
Module: OwnerSwitch.Lib.JsMap
Layer: Lib
Purpose: The map of a JavaScript program: entries in insertion order, no key twice. The order is part of
  the value, since programs enumerate it.
Imports: none of the project
Trusted boundary: none
Main exports: JsMap, get?, set, delete, filter, mapVal, assign and their lookup lemmas
Open obligations: none
-/
import Mathlib.Data.List.Nodup

/-- Entries in insertion order, each key once. -/
structure JsMap (κ α : Type*) where
  entries : List (κ × α)
  nodup : (entries.map Prod.fst).Nodup

namespace JsMap

variable {κ α : Type*} [DecidableEq κ]

/-- Assigns one entry, keeping the place of a key that is already there. -/
def setEntry (es : List (κ × α)) (k : κ) (v : α) : List (κ × α) :=
  match es with
  | [] => [(k, v)]
  | (k', v') :: es => if k' = k then (k, v) :: es else (k', v') :: setEntry es k v

/-- The value of a key. -/
def findEntry (es : List (κ × α)) (k : κ) : Option α :=
  match es with
  | [] => none
  | (k', v) :: es => if k' = k then some v else findEntry es k

/-- A new key goes to the end. -/
theorem setEntry_new {es : List (κ × α)} {k : κ} {v : α} (h : k ∉ es.map Prod.fst) :
    setEntry es k v = es ++ [(k, v)] := by
  induction es with
  | nil => rfl
  | cons e es ih =>
      simp only [List.map_cons, List.mem_cons, not_or] at h
      simp [setEntry, Ne.symm h.1, ih h.2]

/-- A key that is set again keeps its place. -/
theorem setEntry_keys_old {es : List (κ × α)} {k : κ} {v : α} (h : k ∈ es.map Prod.fst) :
    (setEntry es k v).map Prod.fst = es.map Prod.fst := by
  induction es with
  | nil => simp at h
  | cons e es ih =>
      obtain ⟨k', v'⟩ := e
      by_cases hk : k' = k
      · simp [setEntry, hk]
      · simp only [List.map_cons, List.mem_cons, Ne.symm hk, false_or] at h
        simp [setEntry, hk, ih h]

theorem setEntry_nodup {es : List (κ × α)} {k : κ} {v : α} (h : (es.map Prod.fst).Nodup) :
    ((setEntry es k v).map Prod.fst).Nodup := by
  by_cases hk : k ∈ es.map Prod.fst
  · rwa [setEntry_keys_old hk]
  · rw [setEntry_new hk, List.map_append, List.nodup_append]
    exact ⟨h, by simp, by rintro a ha b hb rfl; simp_all⟩

/-- A lookup after a set. -/
theorem findEntry_setEntry (es : List (κ × α)) (k k' : κ) (v : α) :
    findEntry (setEntry es k v) k' = if k' = k then some v else findEntry es k' := by
  induction es with
  | nil => simp [setEntry, findEntry, eq_comm]
  | cons e es ih =>
      obtain ⟨k₁, v₁⟩ := e
      by_cases h₁ : k₁ = k
      · subst h₁
        by_cases hk : k₁ = k'
        · simp [setEntry, findEntry, hk]
        · simp [setEntry, findEntry, hk, Ne.symm hk]
      · by_cases hk : k₁ = k'
        · subst hk
          simp [setEntry, findEntry, h₁]
        · simp [setEntry, findEntry, h₁, hk, ih]

/-- Where each key stands once, a lookup finds exactly the entries. -/
theorem findEntry_eq_some_iff {es : List (κ × α)} (h : (es.map Prod.fst).Nodup) {k : κ} {v : α} :
    findEntry es k = some v ↔ (k, v) ∈ es := by
  induction es with
  | nil => simp [findEntry]
  | cons e es ih =>
      obtain ⟨k', v'⟩ := e
      simp only [List.map_cons, List.nodup_cons] at h
      by_cases hk : k' = k
      · subst hk
        have hnot : (k', v) ∉ es := fun hmem => h.1 (List.mem_map.mpr ⟨_, hmem, rfl⟩)
        simp [findEntry, hnot, eq_comm]
      · simp [findEntry, hk, Ne.symm hk, ih h.2]

/-! ### Operations -/

def empty : JsMap κ α :=
  ⟨[], List.nodup_nil⟩

instance : Inhabited (JsMap κ α) :=
  ⟨empty⟩

def get? (m : JsMap κ α) (k : κ) : Option α :=
  findEntry m.entries k

def has (m : JsMap κ α) (k : κ) : Bool :=
  (m.get? k).isSome

def set (m : JsMap κ α) (k : κ) (v : α) : JsMap κ α :=
  ⟨setEntry m.entries k v, setEntry_nodup m.nodup⟩

/-- The entries a test accepts. -/
def filter (m : JsMap κ α) (p : κ → α → Bool) : JsMap κ α :=
  ⟨m.entries.filter fun e => p e.1 e.2, m.nodup.sublist (List.filter_sublist.map _)⟩

def delete (m : JsMap κ α) (k : κ) : JsMap κ α :=
  m.filter fun k' _ => k' ≠ k

def keys (m : JsMap κ α) : List κ :=
  m.entries.map Prod.fst

def values (m : JsMap κ α) : List α :=
  m.entries.map Prod.snd

def size (m : JsMap κ α) : Nat :=
  m.entries.length

/-- The map built by assigning entries one after another. -/
def ofList (es : List (κ × α)) : JsMap κ α :=
  es.foldl (fun m e => m.set e.1 e.2) empty

omit [DecidableEq κ] in
/-- A map is its entries. -/
@[ext] theorem ext {m n : JsMap κ α} (h : m.entries = n.entries) : m = n := by
  cases m; cases n; cases h; rfl

theorem get?_eq_some_iff {m : JsMap κ α} {k : κ} {v : α} : m.get? k = some v ↔ (k, v) ∈ m.entries :=
  findEntry_eq_some_iff m.nodup

/-- A value is one that some key has. -/
theorem mem_values {m : JsMap κ α} {v : α} : v ∈ m.values ↔ ∃ k, m.get? k = some v := by
  unfold values
  rw [List.mem_map]
  constructor
  · rintro ⟨⟨k, _⟩, hmem, rfl⟩
    exact ⟨k, get?_eq_some_iff.mpr hmem⟩
  · rintro ⟨k, hget⟩
    exact ⟨(k, v), get?_eq_some_iff.mp hget, rfl⟩

@[simp] theorem get?_empty (k : κ) : (empty : JsMap κ α).get? k = none :=
  rfl

/-- A lookup after a set. -/
theorem get?_set (m : JsMap κ α) (k k' : κ) (v : α) :
    (m.set k v).get? k' = if k' = k then some v else m.get? k' :=
  findEntry_setEntry _ _ _ _

@[simp] theorem get?_set_self (m : JsMap κ α) (k : κ) (v : α) : (m.set k v).get? k = some v := by
  simp [get?_set]

/-- The values after a set are the new one and some of the old ones. -/
theorem mem_values_set {m : JsMap κ α} {k : κ} {v w : α} (h : w ∈ (m.set k v).values) : w = v ∨ w ∈ m.values := by
  obtain ⟨k', hget⟩ := mem_values.mp h
  by_cases hk : k' = k
  · rw [hk, get?_set_self] at hget
    exact .inl (Option.some.inj hget).symm
  · rw [get?_set, if_neg hk] at hget
    exact .inr (mem_values.mpr ⟨k', hget⟩)

theorem get?_set_ne (m : JsMap κ α) {k k' : κ} (v : α) (h : k' ≠ k) :
    (m.set k v).get? k' = m.get? k' := by
  simp [get?_set, h]

/-- A lookup in a filtered map passes the same test. -/
theorem get?_filter (m : JsMap κ α) (p : κ → α → Bool) (k : κ) :
    (m.filter p).get? k = (m.get? k).filter (p k) := by
  ext v
  rw [get?_eq_some_iff, filter, List.mem_filter, Option.filter_eq_some_iff, get?_eq_some_iff]

/-- A lookup after a removal. -/
theorem get?_delete (m : JsMap κ α) (k k' : κ) :
    (m.delete k).get? k' = if k' = k then none else m.get? k' := by
  rw [delete, get?_filter]
  by_cases h : k' = k
  · simp [h]
  · simp only [h, ne_eq, not_false_eq_true, decide_true, if_false]
    cases m.get? k' <;> rfl

@[simp] theorem get?_delete_self (m : JsMap κ α) (k : κ) : (m.delete k).get? k = none := by
  simp [get?_delete]

theorem get?_delete_ne (m : JsMap κ α) {k k' : κ} (h : k' ≠ k) : (m.delete k).get? k' = m.get? k' := by
  simp [get?_delete, h]

theorem get?_of_filter {m : JsMap κ α} {p : κ → α → Bool} {k : κ} {v : α}
    (h : (m.filter p).get? k = some v) : m.get? k = some v := by
  rw [get?_filter, Option.filter_eq_some_iff] at h
  exact h.1

theorem get?_of_delete {m : JsMap κ α} {k k' : κ} {v : α} (h : (m.delete k).get? k' = some v) :
    m.get? k' = some v :=
  get?_of_filter h

/-- Of two sets of one key the last counts. -/
theorem setEntry_setEntry (es : List (κ × α)) (k : κ) (v w : α) :
    setEntry (setEntry es k v) k w = setEntry es k w := by
  induction es with
  | nil => simp [setEntry]
  | cons e es ih =>
      by_cases hk : e.1 = k
      · simp [setEntry, hk]
      · simp [setEntry, hk, ih]

/-- A second assignment replaces the first. -/
@[simp] theorem set_set (m : JsMap κ α) (k : κ) (v w : α) : (m.set k v).set k w = m.set k w :=
  ext (setEntry_setEntry _ _ _ _)

/-- A key is there where a lookup finds something. -/
theorem has_iff {m : JsMap κ α} {k : κ} : m.has k = true ↔ ∃ v, m.get? k = some v :=
  Option.isSome_iff_exists

theorem has_eq_false_iff {m : JsMap κ α} {k : κ} : m.has k = false ↔ m.get? k = none := by
  simp [has]

theorem has_set (m : JsMap κ α) (k k' : κ) (v : α) :
    (m.set k v).has k' = (decide (k' = k) || m.has k') := by
  unfold has
  rw [get?_set]
  by_cases h : k' = k <;> simp [h]

theorem has_delete (m : JsMap κ α) (k k' : κ) :
    (m.delete k).has k' = (decide (k' ≠ k) && m.has k') := by
  unfold has
  rw [get?_delete]
  by_cases h : k' = k <;> simp [h]

theorem mem_keys {m : JsMap κ α} {k : κ} : k ∈ m.keys ↔ m.has k = true := by
  rw [has_iff, keys, List.mem_map]
  constructor
  · rintro ⟨⟨k', v⟩, hmem, rfl⟩
    exact ⟨v, get?_eq_some_iff.mpr hmem⟩
  · rintro ⟨v, hv⟩
    exact ⟨(k, v), get?_eq_some_iff.mp hv, rfl⟩

/-- A set adds one entry where the key is new, and none where it is not. -/
theorem size_set (m : JsMap κ α) (k : κ) (v : α) :
    (m.set k v).size = if m.has k then m.size else m.size + 1 := by
  have hlen : ∀ n : JsMap κ α, n.size = n.keys.length := by simp [size, keys]
  rw [hlen, hlen]
  split
  · rename_i h
    exact congrArg List.length (setEntry_keys_old (mem_keys.mpr h))
  · rename_i h
    have hnew := setEntry_new (v := v) fun hmem => h (mem_keys.mp hmem)
    have hkeys : (m.set k v).keys = m.keys ++ [k] := by
      show (setEntry m.entries k v).map Prod.fst = _
      rw [hnew]
      simp [keys]
    rw [hkeys, List.length_append, List.length_singleton]

/-- Entries with distinct keys are kept as they are. -/
theorem entries_ofList {es : List (κ × α)} (h : (es.map Prod.fst).Nodup) : (ofList es).entries = es := by
  suffices haux : ∀ m : JsMap κ α, ((m.entries ++ es).map Prod.fst).Nodup →
      (es.foldl (fun m e => m.set e.1 e.2) m).entries = m.entries ++ es by
    simpa [ofList, empty] using haux empty (by simpa [empty] using h)
  clear h
  induction es with
  | nil => intro m _; simp
  | cons e es ih =>
      intro m hm
      have hnew : e.1 ∉ m.entries.map Prod.fst := by
        rw [List.map_append, List.nodup_append] at hm
        intro hmem
        exact hm.2.2 _ hmem _ (by simp) rfl
      have hset : (m.set e.1 e.2).entries = m.entries ++ [e] := setEntry_new hnew
      rw [List.foldl_cons, ih _ (by simpa [hset] using hm), hset]
      simp

/-- What assigning entries to a map can add to it. -/
theorem foldl_set_bound (es : List (κ × α)) (m : JsMap κ α) :
    (es.foldl (fun m e => m.set e.1 e.2) m).size ≤ m.size + es.length ∧
      ∀ k ∈ (es.foldl (fun m e => m.set e.1 e.2) m).keys, k ∈ m.keys ∨ k ∈ es.map Prod.fst := by
  induction es generalizing m with
  | nil => simp
  | cons e es ih =>
      obtain ⟨hsize, hkeys⟩ := ih (m.set e.1 e.2)
      rw [List.foldl_cons]
      refine ⟨?_, fun k hk => ?_⟩
      · have hset := size_set m e.1 e.2
        rw [List.length_cons]
        split at hset <;> omega
      · rcases hkeys k hk with hk | hk
        · rw [mem_keys, has_set, Bool.or_eq_true, decide_eq_true_eq] at hk
          rcases hk with hk | hk
          · exact .inr (by simp [hk])
          · exact .inl (mem_keys.mpr hk)
        · exact .inr (List.mem_cons_of_mem _ hk)

/-- A map built from entries has at most as many. -/
theorem size_ofList_le (es : List (κ × α)) : (ofList es).size ≤ es.length := by
  simpa [ofList, size, empty] using (foldl_set_bound es empty).1

theorem keys_ofList_subset (es : List (κ × α)) : (ofList es).keys ⊆ es.map Prod.fst := fun k hk => by
  simpa [keys, empty] using (foldl_set_bound es empty).2 k hk

/-- Keys that are not set keep their values. -/
theorem get?_foldl_set_of_not_mem {es : List (κ × α)} {k : κ} (h : k ∉ es.map Prod.fst) (m : JsMap κ α) :
    (es.foldl (fun m e => m.set e.1 e.2) m).get? k = m.get? k := by
  induction es generalizing m with
  | nil => rfl
  | cons e es ih =>
      rw [List.map_cons, List.mem_cons, not_or] at h
      rw [List.foldl_cons, ih h.2, get?_set_ne m e.2 h.1]

/-- A key that is set has one of the values it was set to. -/
theorem get?_foldl_set_of_mem {es : List (κ × α)} {k : κ} (h : k ∈ es.map Prod.fst) (m : JsMap κ α) :
    ∃ v, (es.foldl (fun m e => m.set e.1 e.2) m).get? k = some v ∧ (k, v) ∈ es := by
  induction es generalizing m with
  | nil => simp at h
  | cons e es ih =>
      rw [List.foldl_cons]
      by_cases hes : k ∈ es.map Prod.fst
      · obtain ⟨v, hget, hmem⟩ := ih hes (m.set e.1 e.2)
        exact ⟨v, hget, List.mem_cons_of_mem _ hmem⟩
      · obtain rfl : k = e.1 := by
          rw [List.map_cons, List.mem_cons] at h
          exact h.resolve_right hes
        rw [get?_foldl_set_of_not_mem hes, get?_set_self]
        exact ⟨e.2, rfl, by simp⟩

/-- What a map built from entries has is one of the entries. -/
theorem mem_of_get?_ofList {es : List (κ × α)} {k : κ} {v : α} (h : (ofList es).get? k = some v) :
    (k, v) ∈ es := by
  by_cases hk : k ∈ es.map Prod.fst
  · obtain ⟨w, hget, hmem⟩ := get?_foldl_set_of_mem hk empty
    rw [ofList, hget] at h
    exact Option.some.inj h ▸ hmem
  · rw [ofList, get?_foldl_set_of_not_mem hk] at h
    simp at h

theorem get?_ofList_append_of_not_mem {es fs : List (κ × α)} {k : κ} (h : k ∉ fs.map Prod.fst) :
    (ofList (es ++ fs)).get? k = (ofList es).get? k := by
  rw [ofList, List.foldl_append, get?_foldl_set_of_not_mem h]
  rfl

theorem get?_ofList_append_of_mem (es : List (κ × α)) {fs : List (κ × α)} {k : κ} (h : k ∈ fs.map Prod.fst) :
    ∃ v, (ofList (es ++ fs)).get? k = some v ∧ (k, v) ∈ fs := by
  rw [ofList, List.foldl_append]
  exact get?_foldl_set_of_mem h _

/-- A map is built from its own entries. -/
theorem ofList_entries (m : JsMap κ α) : ofList m.entries = m :=
  ext (entries_ofList m.nodup)

omit [DecidableEq κ] in
/-- Every value replaced, each entry in its place. -/
def mapVal {β : Type*} (m : JsMap κ α) (f : κ → α → β) : JsMap κ β :=
  ⟨m.entries.map fun e => (e.1, f e.1 e.2), by simpa [List.map_map, Function.comp_def] using m.nodup⟩

theorem get?_mapVal {β : Type*} (m : JsMap κ α) (f : κ → α → β) (k : κ) :
    (m.mapVal f).get? k = (m.get? k).map (f k) := by
  obtain ⟨es, hes⟩ := m
  simp only [get?, mapVal]
  clear hes
  induction es with
  | nil => rfl
  | cons e es ih =>
      by_cases h : e.1 = k
      · simp [findEntry, h]
      · simp [findEntry, h, ih]

/-- `Object.assign(m, n)` -/
def assign (m n : JsMap κ α) : JsMap κ α :=
  n.entries.foldl (fun m e => m.set e.1 e.2) m

/-- The properties of the second object win. -/
theorem get?_assign (m n : JsMap κ α) (k : κ) : (m.assign n).get? k = (n.get? k).or (m.get? k) := by
  by_cases hk : k ∈ n.entries.map Prod.fst
  · obtain ⟨v, hget, hmem⟩ := get?_foldl_set_of_mem hk m
    rw [assign, hget, get?_eq_some_iff.mpr hmem, Option.some_or]
  · have hnone : n.get? k = none := has_eq_false_iff.mp (by simpa [mem_keys] using mt mem_keys.mpr hk)
    rw [assign, get?_foldl_set_of_not_mem hk, hnone, Option.none_or]

/-- The entries of an assigned map: those assigned, and those of the earlier map under other keys. -/
theorem assign_entries_perm (m n : JsMap κ α) :
    (m.assign n).entries.Perm (n.entries ++ (m.filter fun k _ => !n.has k).entries) := by
  have hleft : (m.assign n).entries.Nodup := (m.assign n).nodup.of_map _
  have hright : (n.entries ++ (m.filter fun k _ => !n.has k).entries).Nodup := by
    apply (n.nodup.of_map _).append ((m.filter _).nodup.of_map _)
    rintro ⟨k, v⟩ hn hm
    have hlisted : n.has k = true := has_iff.mpr ⟨v, get?_eq_some_iff.mpr hn⟩
    have hunlisted : (!n.has k) = true := (List.mem_filter.mp hm).2
    rw [hlisted] at hunlisted
    cases hunlisted
  apply (List.perm_ext_iff_of_nodup hleft hright).mpr
  rintro ⟨k, v⟩
  rw [List.mem_append, ← get?_eq_some_iff, ← get?_eq_some_iff, ← get?_eq_some_iff, get?_assign, get?_filter, has]
  cases n.get? k with
  | none => simp
  | some w => simp

theorem get?_of_size_eq_zero {m : JsMap κ α} (h : m.size = 0) (k : κ) : m.get? k = none := by
  rw [get?, List.length_eq_zero_iff.mp h]
  rfl

omit [DecidableEq κ] in
theorem size_filter_le (m : JsMap κ α) (p : κ → α → Bool) : (m.filter p).size ≤ m.size :=
  List.length_filter_le _ _

end JsMap
