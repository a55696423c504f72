/-
Module: OwnerSwitch.Shared.CanonicalValue
Layer: Shared
Purpose: Canonical text of the values that programs hold, whose numbers are in double precision, and the executor's own
  computation of it. It is the canonical text of what a value is written as.
Imports: Lib.JsValue, Shared.CanonicalJson
Trusted boundary: no value is nested deeper than the call stack holds
Main exports: JsValue.canonicalJson, canonicalizeArgs, canonicalJson_toJson, canonicalJson_eq_iff, parse_canonicalJson,
  canonicalizeArgs_eq
Open obligations: none
-/
import OwnerSwitch.Lib.JsValue
import OwnerSwitch.Shared.CanonicalJson

namespace OwnerSwitch

namespace JsValue

/-- `JSON.stringify` -/
def stringify (v : JsValue) : JsString :=
  Json.stringify v.toJson

mutual

/-- `sortDeep` of the signer and `stable` of the proxy: the same value with the properties of every object by name. -/
def stable : JsValue → JsValue
  | .arr items => .arr (stableItems items)
  | .obj fields => .obj (Json.ofEntries (sortByName (stableFields fields)))
  | v => v

def stableItems : List JsValue → List JsValue
  | [] => []
  | item :: items => stable item :: stableItems items

def stableFields : List (JsString × JsValue) → List (JsString × JsValue)
  | [] => []
  | (k, v) :: fields => (k, stable v) :: stableFields fields

end

/-- `canonicalJson` -/
def canonicalJson (value : JsValue) : JsString :=
  stringify (stable value)

theorem stableItems_eq_map (items : List JsValue) : stableItems items = items.map stable := by
  induction items with
  | nil => rw [stableItems, List.map_nil]
  | cons item items ih => rw [stableItems, ih, List.map_cons]

theorem stableFields_eq_map (fields : List (JsString × JsValue)) :
    stableFields fields = fields.map fun f => (f.1, stable f.2) := by
  induction fields with
  | nil => rw [stableFields, List.map_nil]
  | cons f fields ih => rw [stableFields, ih, List.map_cons]

/-! ### What is written -/

mutual

/-- Sorting the properties by name and writing the numbers do not interfere. -/
theorem toJson_stable : ∀ v : JsValue, Json.Normal v.toJson → (stable v).toJson = OwnerSwitch.stable v.toJson
  | .null, _ => by rw [stable, JsValue.toJson, stable_null]; all_goals nofun
  | .bool b, _ => by rw [stable, JsValue.toJson, stable_bool]; all_goals nofun
  | .num .nan, _ => by rw [stable]; exact stable_null.symm; all_goals nofun
  | .num (.inf _), _ => by rw [stable]; exact stable_null.symm; all_goals nofun
  | .num (.finite q _), _ => by rw [stable, JsValue.toJson, stable_num]; all_goals nofun
  | .str s, _ => by rw [stable, JsValue.toJson, stable_str]; all_goals nofun
  | .arr items, .arr hitems => by
      rw [stable, JsValue.toJson, JsValue.toJson, stable_arr, toJson_stableItems items hitems]
  | .obj fields, .obj hfields hvalues => by
      have hkeys : ((stableFields fields).map Prod.fst).Nodup := by
        have hnodup := Json.nodup_of_ofEntries_eq hfields
        rw [JsValue.fieldsToJson_eq_map, List.map_map] at hnodup
        rw [stableFields_eq_map, List.map_map]
        exact hnodup
      rw [stable, JsValue.toJson, JsValue.toJson, stable_obj, JsValue.fieldsToJson_eq_map,
        ← Json.ofEntries_map _ (nodup_sortByName hkeys), sortByName_map, toJson_stableFields fields hvalues]

theorem toJson_stableItems : ∀ items : List JsValue, (∀ v ∈ JsValue.itemsToJson items, Json.Normal v) →
    JsValue.itemsToJson (stableItems items) = (JsValue.itemsToJson items).map OwnerSwitch.stable
  | [], _ => rfl
  | item :: items, h => by
      rw [stableItems, JsValue.itemsToJson, JsValue.itemsToJson, List.map_cons,
        toJson_stable item (h _ (List.mem_cons_self ..)),
        toJson_stableItems items fun v hv => h v (List.mem_cons_of_mem _ hv)]

theorem toJson_stableFields : ∀ fields : List (JsString × JsValue),
    (∀ f ∈ JsValue.fieldsToJson fields, Json.Normal f.2) →
      ((stableFields fields).map fun f => (f.1, f.2.toJson)) = OwnerSwitch.stableFields (JsValue.fieldsToJson fields)
  | [], _ => rfl
  | (k, v) :: fields, h => by
      rw [stableFields, JsValue.fieldsToJson, List.map_cons, OwnerSwitch.stableFields,
        toJson_stable v (h _ (List.mem_cons_self ..)),
        toJson_stableFields fields fun f hf => h f (List.mem_cons_of_mem _ hf)]

end

/-- The canonical text of a value is that of what it is written as. -/
theorem canonicalJson_toJson {v : JsValue} (h : Json.Normal v.toJson) :
    canonicalJson v = OwnerSwitch.canonicalJson v.toJson := by
  rw [canonicalJson, stringify, toJson_stable v h, OwnerSwitch.canonicalJson]

/-- Canonical text tells values apart, but for the order of properties and what is written as null. -/
theorem canonicalJson_eq_iff (v w : JsValue.Held) :
    canonicalJson v.val = canonicalJson w.val ↔ JsValue.Same JsValue.Alike v.val w.val := by
  rw [canonicalJson_toJson v.normal, canonicalJson_toJson w.normal, OwnerSwitch.canonicalJson_eq_iff v.normal w.normal]
  exact JsValue.same_toJson_iff

/-! ### What is read -/

open Json in
mutual

/-- Sorting the properties by name leaves the decimals of the numbers. -/
theorem printed_stable : ∀ v : Json, JsValue.Printed v → JsValue.Printed (OwnerSwitch.stable v)
  | .null, h => by rwa [stable_null]
  | .bool _, h => by rwa [stable_bool]
  | .num _, h => by rwa [stable_num]
  | .str _, h => by rwa [stable_str]
  | .arr items, .arr hitems => by
      rw [OwnerSwitch.stable]
      exact .arr (printed_stableItems items hitems)
  | .obj fields, .obj hfields => by
      rw [stable_obj]
      apply JsValue.Printed.obj
      intro f hf
      exact printed_stableFields fields hfields f ((sortByName_perm _).mem_iff.mp (mem_of_mem_ofEntries hf))

theorem printed_stableItems : ∀ items : List Json, (∀ v ∈ items, JsValue.Printed v) →
    ∀ v ∈ OwnerSwitch.stableItems items, JsValue.Printed v
  | item :: items, h, v, hv => by
      rw [OwnerSwitch.stableItems] at hv
      cases hv with
      | head => exact printed_stable item (h _ (List.mem_cons_self ..))
      | tail _ hv => exact printed_stableItems items (fun v hv => h v (List.mem_cons_of_mem _ hv)) v hv

theorem printed_stableFields : ∀ fields : List (JsString × Json), (∀ f ∈ fields, JsValue.Printed f.2) →
    ∀ f ∈ OwnerSwitch.stableFields fields, JsValue.Printed f.2
  | (_, v) :: fields, h, f, hf => by
      rw [OwnerSwitch.stableFields] at hf
      cases hf with
      | head => exact printed_stable v (h _ (List.mem_cons_self ..))
      | tail _ hf => exact printed_stableFields fields (fun f hf => h f (List.mem_cons_of_mem _ hf)) f hf

end

/-- Canonical text is read as a value of that canonical text. -/
theorem parse_canonicalJson (v : JsValue.Held) :
    ∃ w, JsValue.parse (canonicalJson v.val) = some w ∧ canonicalJson w = canonicalJson v.val := by
  have hread := JsValue.toJson_ofJson (printed_stable _ (JsValue.printed_toJson v.val))
  have hnormal := normal_stable v.val.toJson
  refine ⟨JsValue.ofJson (OwnerSwitch.stable v.val.toJson), ?_, ?_⟩
  · rw [canonicalJson_toJson v.normal, JsValue.parse, OwnerSwitch.canonicalJson, Json.parse_stringify hnormal,
      Option.map_some]
  · rw [canonicalJson_toJson (hread.symm ▸ hnormal), canonicalJson_toJson v.normal, hread, OwnerSwitch.canonicalJson,
      stable_stable v.normal, OwnerSwitch.canonicalJson]

/-! ### The executor's canonical text -/

theorem sizeOf_lt_of_mem_sortByName {fields : List (JsString × JsValue)} {f : JsString × JsValue}
    (h : f ∈ sortByName fields) : sizeOf f.2 < sizeOf fields := by
  have hmem := List.sizeOf_lt_of_mem ((sortByName_perm fields).mem_iff.mp h)
  have hpair : sizeOf f.2 < sizeOf f := by
    cases f
    simp
  omega

/-- `sortDeep` of the executor: the entries of an object are sorted by name, then their values. -/
def sortDeep : JsValue → JsValue
  | .arr items => .arr (items.attach.map fun ⟨item, _⟩ => sortDeep item)
  | .obj fields => .obj (Json.ofEntries ((sortByName fields).attach.map fun ⟨f, _⟩ => (f.1, sortDeep f.2)))
  | v => v
termination_by v => sizeOf v
decreasing_by
  · rename_i h
    have := List.sizeOf_lt_of_mem h
    simp only [JsValue.arr.sizeOf_spec]
    omega
  · rename_i h
    have := sizeOf_lt_of_mem_sortByName h
    simp only [JsValue.obj.sizeOf_spec]
    omega

/-- `canonicalizeArgs` -/
def canonicalizeArgs (args : JsValue) : JsString :=
  stringify (sortDeep args)

/-- The executor's walk and the signer's come to one value. -/
theorem sortDeep_eq_stable (v : JsValue) : sortDeep v = stable v := by
  induction v using sortDeep.induct with
  | case1 items ih =>
      have hitems : (items.attach.map fun ⟨item, _⟩ => sortDeep item) = items.map stable := by
        have hattach : (items.attach.map fun item => stable item.1) = items.map stable := List.attach_map_val
        rw [← hattach]
        exact List.map_congr_left fun item _ => ih item.1 item.2
      rw [sortDeep, stable, stableItems_eq_map, hitems]
  | case2 fields ih =>
      have hfields : ((sortByName fields).attach.map fun ⟨f, _⟩ => (f.1, sortDeep f.2)) =
          (sortByName fields).map fun f => (f.1, stable f.2) := by
        have hattach : ((sortByName fields).attach.map fun f => (f.1.1, stable f.1.2)) =
            (sortByName fields).map fun f => (f.1, stable f.2) :=
          List.attach_map_val (f := fun f : JsString × JsValue => (f.1, stable f.2))
        rw [← hattach]
        apply List.map_congr_left
        intro f _
        exact congrArg (Prod.mk f.1.1) (ih f.1 f.2)
      rw [sortDeep, stable, hfields, sortByName_map, stableFields_eq_map]
  | case3 v harr hobj =>
      rw [sortDeep, stable]
      · exact harr
      · exact hobj
      · exact harr
      · exact hobj

/-- The executor's canonical text is the one that is signed. -/
theorem canonicalizeArgs_eq (args : JsValue) : canonicalizeArgs args = canonicalJson args := by
  rw [canonicalizeArgs, sortDeep_eq_stable, canonicalJson]

end JsValue

end OwnerSwitch
