/-
Module: OwnerSwitch.Lib.JsonCodec
Layer: Lib
Purpose: Tables as JSON objects. A map is written as an object with one property for each entry, and read back
  property by property; a reader that recovers what a writer wrote of each value recovers the map, in the order an
  object enumerates.
Imports: Lib.JsonRoundTrip
Trusted boundary: none
Main exports: Json.enumerate, Json.table, Json.readTable, Json.readOptional, Recovers, readTable_table,
  normal_of_parse
Open obligations: none
-/
import OwnerSwitch.Lib.JsonRoundTrip

namespace Json

/-- The properties of an object. -/
def fields? : Json → Option (List (JsString × Json))
  | .obj fs => some fs
  | _ => none

section Tables

variable {α : Type}

/-- A property that must be there. -/
def property (v : Json) (k : JsString) (read : Json → Option α) : Option α :=
  (v.get k).bind read

/-- The map in the order an object with its entries enumerates. -/
def enumerate (m : JsMap JsString α) : JsMap JsString α :=
  ⟨ofEntries m.entries, ofEntries_nodup m.nodup⟩

theorem get?_enumerate (m : JsMap JsString α) (k : JsString) : (enumerate m).get? k = m.get? k :=
  findEntry_ofEntries m.nodup k

/-- An object with one property for each entry. -/
def table (write : α → Json) (m : JsMap JsString α) : Json :=
  .obj (ofEntries (m.entries.map fun e => (e.1, write e.2)))

/-- Every property of an object, read one by one. -/
def readTable (read : JsString → Json → Option α) (v : Json) : Option (List (JsString × α)) :=
  v.fields?.bind fun fs => fs.mapM fun f => (read f.1 f.2).map fun a => (f.1, a)

/-- A property that may be absent. -/
def readOptional (read : Json → Option α) : Option Json → Option (Option α)
  | none => some none
  | some v => (read v).map some

/-- What is read of a written value is that value. -/
def Recovers (write : α → Json) (read : Json → Option α) : Prop :=
  ∀ a b, read (write a) = some b → b = a

theorem normal_table {write : α → Json} (hwrite : ∀ a, Normal (write a)) (m : JsMap JsString α) :
    Normal (table write m) := by
  have hnodup : ((m.entries.map fun e => (e.1, write e.2)).map Prod.fst).Nodup := by
    rw [List.map_map]
    exact m.nodup
  apply Normal.obj (ofEntries_ofEntries hnodup)
  intro f hf
  obtain ⟨e, -, rfl⟩ := List.mem_map.mp ((ofEntries_perm hnodup).mem_iff.mp hf)
  exact hwrite e.2

/-- The entries of a written table, in the order a reader meets them. -/
theorem fields?_table (write : α → Json) (m : JsMap JsString α) :
    (table write m).fields? = some ((ofEntries m.entries).map fun e => (e.1, write e.2)) := by
  rw [table, fields?, ofEntries_map write m.nodup]

theorem mapM_recovers {write : α → Json} {read : JsString → Json → Option α}
    (h : ∀ k, Recovers write (read k)) {es es' : List (JsString × α)}
    (hread : ((es.map fun e => (e.1, write e.2)).mapM fun f => (read f.1 f.2).map fun a => (f.1, a)) = some es') :
    es' = es := by
  induction es generalizing es' with
  | nil => simpa using hread.symm
  | cons e es ih =>
      rw [List.map_cons, List.mapM_cons] at hread
      obtain ⟨first, hfirst, hread⟩ := Option.bind_eq_some_iff.mp hread
      obtain ⟨rest, hrest, hread⟩ := Option.bind_eq_some_iff.mp hread
      obtain ⟨a, ha, rfl⟩ := Option.map_eq_some_iff.mp hfirst
      obtain rfl := Option.some.inj hread
      rw [ih hrest, h e.1 e.2 a ha]

/-- A table that is read back has the entries that were written. -/
theorem readTable_table {write : α → Json} {read : JsString → Json → Option α} (h : ∀ k, Recovers write (read k))
    {m : JsMap JsString α} {es : List (JsString × α)} (hread : readTable read (table write m) = some es) :
    es = ofEntries m.entries := by
  rw [readTable, fields?_table, Option.bind_some] at hread
  exact mapM_recovers h hread

theorem mapM_complete {write : α → Json} {read : JsString → Json → Option α} {es : List (JsString × α)}
    (h : ∀ e ∈ es, read e.1 (write e.2) = some e.2) :
    ((es.map fun e => (e.1, write e.2)).mapM fun f => (read f.1 f.2).map fun a => (f.1, a)) = some es := by
  induction es with
  | nil => rfl
  | cons e es ih =>
      have hrest := ih fun e' he' => h e' (List.mem_cons_of_mem _ he')
      rw [List.map_cons, List.mapM_cons, hrest, h e List.mem_cons_self]
      rfl

/-- A table whose values are all read back is read back. -/
theorem readTable_complete {write : α → Json} {read : JsString → Json → Option α} {m : JsMap JsString α}
    (h : ∀ k a, m.get? k = some a → read k (write a) = some a) :
    readTable read (table write m) = some (ofEntries m.entries) := by
  rw [readTable, fields?_table, Option.bind_some]
  apply mapM_complete
  intro e he
  exact h e.1 e.2 (JsMap.get?_eq_some_iff.mpr ((ofEntries_perm m.nodup).mem_iff.mp he))

/-- A table with a value that is refused is refused. -/
theorem readTable_refused {read : JsString → Json → Option α} {fs : List (JsString × Json)} {f : JsString × Json}
    (hf : f ∈ fs) (hrefused : read f.1 f.2 = none) : readTable read (.obj fs) = none := by
  rw [readTable, fields?, Option.bind_some]
  induction fs with
  | nil => cases hf
  | cons g fs ih =>
      rw [List.mapM_cons]
      rcases List.mem_cons.mp hf with rfl | hf
      · rw [hrefused]
        rfl
      · rw [ih hf]
        cases read g.1 g.2 <;> rfl

/-- A written table is read back when every value is, and as it was written. -/
theorem readTable_table_iff {write : α → Json} {read : JsString → Json → Option α} (h : ∀ k, Recovers write (read k))
    {m : JsMap JsString α} {es : List (JsString × α)} :
    readTable read (table write m) = some es ↔
      es = ofEntries m.entries ∧ ∀ k a, m.get? k = some a → read k (write a) = some a := by
  constructor
  · intro hread
    refine ⟨readTable_table h hread, fun k a hget => ?_⟩
    have hmem : (k, write a) ∈ ofEntries (m.entries.map fun e => (e.1, write e.2)) := by
      rw [ofEntries_map write m.nodup]
      exact List.mem_map.mpr ⟨(k, a), (ofEntries_perm m.nodup).mem_iff.mpr (JsMap.get?_eq_some_iff.mp hget), rfl⟩
    cases hvalue : read k (write a) with
    | none =>
        have hrefused := readTable_refused hmem hvalue
        rw [table, hrefused] at hread
        cases hread
    | some b => rw [h k a b hvalue]
  · rintro ⟨rfl, hall⟩
    exact readTable_complete hall

/-- The keys of a table that is read are the keys it was written with, and each value was read under its key. -/
theorem of_readTable {read : JsString → Json → Option α} {fs : List (JsString × Json)} {es : List (JsString × α)}
    (h : readTable read (.obj fs) = some es) :
    es.map Prod.fst = fs.map Prod.fst ∧ ∀ e ∈ es, ∃ v, (e.1, v) ∈ fs ∧ read e.1 v = some e.2 := by
  rw [readTable, fields?, Option.bind_some] at h
  induction fs generalizing es with
  | nil =>
      obtain rfl : [] = es := by simpa using h
      exact ⟨rfl, nofun⟩
  | cons f fs ih =>
      rw [List.mapM_cons] at h
      obtain ⟨first, hfirst, h⟩ := Option.bind_eq_some_iff.mp h
      obtain ⟨rest, hrest, h⟩ := Option.bind_eq_some_iff.mp h
      obtain ⟨a, ha, rfl⟩ := Option.map_eq_some_iff.mp hfirst
      obtain rfl := Option.some.inj h
      obtain ⟨hkeys, hvalues⟩ := ih hrest
      constructor
      · rw [List.map_cons, List.map_cons, hkeys]
      · intro e he
        rcases List.mem_cons.mp he with rfl | he
        · exact ⟨f.2, List.mem_cons_self, ha⟩
        · obtain ⟨v, hv, hread⟩ := hvalues e he
          exact ⟨v, List.mem_cons_of_mem _ hv, hread⟩

theorem readOptional_recovers {write : α → Json} {read : Json → Option α} (h : Recovers write read)
    {a b : Option α} (hread : readOptional read (a.map write) = some b) : b = a := by
  cases a with
  | none => exact (Option.some.inj hread).symm
  | some a =>
      obtain ⟨a', ha', rfl⟩ := Option.map_eq_some_iff.mp hread
      rw [h a a' ha']

end Tables

/-! ### Parsed values -/

/-- Every object that is parsed is enumerated as it stands. -/
theorem normal_of_parseValue (n : Nat) :
    (∀ s v r, parseValue n s = some (v, r) → Normal v) ∧
      (∀ s xs r, parseElems n s = some (xs, r) → ∀ x ∈ xs, Normal x) ∧
      ∀ s fs r, parseMembers n s = some (fs, r) → ∀ f ∈ fs, Normal f.2 := by
  induction n with
  | zero => exact ⟨nofun, nofun, nofun⟩
  | succ n ih =>
      obtain ⟨ihValue, ihElems, ihMembers⟩ := ih
      refine ⟨fun s v r h => ?_, fun s xs r h => ?_, fun s fs r h => ?_⟩
      · rcases parseValue_succ_inv h with ⟨t, -, -, rfl⟩ | ⟨t, fs, -, -, hfs, rfl⟩ | ⟨t, -, -, rfl⟩ |
          ⟨t, xs, -, -, hxs, rfl⟩ | ⟨t, k, -, -, rfl⟩ | ⟨t, -, -, rfl⟩ | ⟨t, -, -, rfl⟩ | ⟨t, -, -, rfl⟩ |
          ⟨c, t, d, -, -, -, -, -, -, -, -, -, rfl⟩
        · exact .obj rfl nofun
        · exact .obj (ofEntries_idem fs) fun f hf => ihMembers _ fs r hfs f (mem_of_mem_ofEntries hf)
        · exact .arr nofun
        · exact .arr (ihElems _ xs r hxs)
        · exact .str
        · exact .null
        · exact .bool
        · exact .bool
        · exact .num
      · obtain ⟨x, r', hx, hrest⟩ := parseElems_succ_iff.mp h
        intro y hy
        rcases hrest with ⟨-, rfl⟩ | ⟨u, ys, -, hys, rfl⟩
        · obtain rfl := List.mem_singleton.mp hy
          exact ihValue s y r' hx
        · rcases List.mem_cons.mp hy with rfl | hy
          · exact ihValue s y r' hx
          · exact ihElems u ys r hys y hy
      · obtain ⟨t, k, r₁, u, x, r₂, -, -, -, hx, hrest⟩ := parseMembers_succ_iff.mp h
        intro f hf
        rcases hrest with ⟨-, rfl⟩ | ⟨v, gs, -, hgs, rfl⟩
        · obtain rfl := List.mem_singleton.mp hf
          exact ihValue u x r₂ hx
        · rcases List.mem_cons.mp hf with rfl | hf
          · exact ihValue u x r₂ hx
          · exact ihMembers v gs r hgs f hf

theorem normal_of_parse {s : JsString} {v : Json} (h : parse s = some v) : Normal v := by
  unfold parse at h
  split at h
  · rename_i hvalue
    split at h
    · obtain rfl := Option.some.inj h
      exact (normal_of_parseValue _).1 _ _ _ hvalue
    · cases h
  · cases h

/-- A property of a value in normal form is in normal form. -/
theorem Normal.get {v w : Json} {k : JsString} (hv : Normal v) (h : v.get k = some w) : Normal w := by
  cases hv with
  | obj hentries hvalues =>
      exact hvalues (k, w) ((JsMap.findEntry_eq_some_iff (nodup_of_ofEntries_eq hentries)).mp h)
  | null => cases h
  | bool => cases h
  | num => cases h
  | str => cases h
  | arr => cases h

/-- An element of an array in normal form is in normal form. -/
theorem Normal.of_mem {xs : List Json} (h : Normal (.arr xs)) {x : Json} (hx : x ∈ xs) : Normal x := by
  cases h with
  | arr hxs => exact hxs x hx

/-- The keys of an object in normal form are distinct. -/
theorem Normal.nodup {fs : List (JsString × Json)} (h : Normal (.obj fs)) : (fs.map Prod.fst).Nodup := by
  cases h with
  | obj hentries => exact nodup_of_ofEntries_eq hentries

end Json
