/-
Module: OwnerSwitch.Shared.CanonicalJson
Layer: Shared
Purpose: What canonical text determines: its value is normal, so the text can be read back, and a property of the
  value is the property of the object it was made from. Two values have one canonical text if and only if they differ
  at most in the order of their properties.
Imports: Lib.JsonRoundTrip, Lib.JsonSame, Shared.ToolCall
Trusted boundary: none
Main exports: normal_stable, get_stable, canonicalJson_wellFormed, get_of_canonicalJson_eq, stable_eq_iff_same,
  canonicalJson_eq_iff
Open obligations: none
-/
import OwnerSwitch.Lib.JsonRoundTrip
import OwnerSwitch.Lib.JsonSame
import OwnerSwitch.Shared.ToolCall

namespace OwnerSwitch

open Json

/-! ### The sorted properties -/

theorem stableFields_eq_map (fields : List (JsString × Json)) :
    stableFields fields = fields.map fun f => (f.1, stable f.2) := by
  induction fields with
  | nil => rw [stableFields, List.map_nil]
  | cons f fields ih => rw [stableFields, ih, List.map_cons]

theorem stableItems_eq_map (items : List Json) : stableItems items = items.map stable := by
  induction items with
  | nil => rw [stableItems, List.map_nil]
  | cons item items ih => rw [stableItems, ih, List.map_cons]

mutual

/-- A canonical value is enumerated as a parser returns it. -/
theorem normal_stable : ∀ v : Json, Normal (stable v)
  | .null => by rw [stable]; exact .null; all_goals nofun
  | .bool _ => by rw [stable]; exact .bool; all_goals nofun
  | .num _ => by rw [stable]; exact .num; all_goals nofun
  | .str _ => by rw [stable]; exact .str; all_goals nofun
  | .arr items => by
      rw [stable]
      exact .arr (normal_stableItems items)
  | .obj fields => by
      rw [stable]
      apply Normal.obj (ofEntries_idem _)
      intro f hf
      exact normal_stableFields fields f (List.mem_mergeSort.mp (mem_of_mem_ofEntries hf))

theorem normal_stableItems : ∀ items : List Json, ∀ v ∈ stableItems items, Normal v
  | [], v, h => by
      rw [stableItems] at h
      cases h
  | item :: items, v, h => by
      rw [stableItems] at h
      cases h with
      | head => exact normal_stable item
      | tail _ h => exact normal_stableItems items v h

theorem normal_stableFields : ∀ fields : List (JsString × Json), ∀ f ∈ stableFields fields, Normal f.2
  | [], f, h => by
      rw [stableFields] at h
      cases h
  | (_, v) :: fields, f, h => by
      rw [stableFields] at h
      cases h with
      | head => exact normal_stable v
      | tail _ h => exact normal_stableFields fields f h

end

/-- The properties keep their names and values; only their order is another. -/
theorem get_stable {fields : List (JsString × Json)} (h : (fields.map Prod.fst).Nodup) (key : JsString) :
    (stable (.obj fields)).get key = ((Json.obj fields).get key).map stable := by
  have hkeys : ((stableFields fields).map Prod.fst).Nodup := by
    rw [stableFields_eq_map, List.map_map]
    exact h
  have hsorted := (List.mergeSort_perm (stableFields fields) fun a b => JsString.le a.1 b.1)
  have hnodup := (hsorted.map Prod.fst).nodup_iff.mpr hkeys
  rw [stable]
  show JsMap.findEntry (ofEntries _) key = (JsMap.findEntry fields key).map stable
  rw [findEntry_ofEntries hnodup]
  ext v
  rw [JsMap.findEntry_eq_some_iff hnodup, hsorted.mem_iff, stableFields_eq_map]
  constructor
  · intro hmem
    obtain ⟨f, hf, heq⟩ := List.mem_map.mp hmem
    obtain ⟨rfl, rfl⟩ := Prod.mk.inj heq
    rw [(JsMap.findEntry_eq_some_iff h).mpr hf, Option.map_some]
  · intro hget
    obtain ⟨w, hfind, rfl⟩ := Option.map_eq_some_iff.mp hget
    exact List.mem_map.mpr ⟨(key, w), (JsMap.findEntry_eq_some_iff h).mp hfind, rfl⟩

/-! ### Canonical text -/

/-- Canonical text has no half of a surrogate pair. -/
theorem canonicalJson_wellFormed (v : Json) : WellFormed (canonicalJson v) :=
  wellFormed_render 0 0 (stable v)

/-- Values of one canonical text have one canonical form. -/
theorem stable_eq_of_canonicalJson_eq {v w : Json} (h : canonicalJson v = canonicalJson w) : stable v = stable w :=
  stringify_injective (normal_stable v) (normal_stable w) h

/-- Two objects of one canonical text have the same properties, each up to its own order. -/
theorem get_of_canonicalJson_eq {fields fields' : List (JsString × Json)} (hnodup : (fields.map Prod.fst).Nodup)
    (hnodup' : (fields'.map Prod.fst).Nodup) (h : canonicalJson (.obj fields) = canonicalJson (.obj fields'))
    (key : JsString) :
    ((Json.obj fields).get key).map stable = ((Json.obj fields').get key).map stable := by
  rw [← get_stable hnodup, ← get_stable hnodup', stable_eq_of_canonicalJson_eq h]

@[simp] theorem stable_null : stable .null = .null := by
  rw [stable] <;> nofun

@[simp] theorem stable_bool (b : Bool) : stable (.bool b) = .bool b := by
  rw [stable] <;> nofun

@[simp] theorem stable_str (s : JsString) : stable (.str s) = .str s := by
  rw [stable] <;> nofun

@[simp] theorem stable_num (d : Decimal) : stable (.num d) = .num d := by
  rw [stable] <;> nofun

/-! ### Canonical text up to the order of properties -/

section SortByName

variable {α : Type*}

/-- The properties of an object by name. -/
def sortByName (fields : List (JsString × α)) : List (JsString × α) :=
  fields.mergeSort fun a b => JsString.le a.1 b.1

/-- Sorting by name reorders. -/
theorem sortByName_perm (fields : List (JsString × α)) : (sortByName fields).Perm fields :=
  List.mergeSort_perm _ _

theorem nodup_sortByName {fields : List (JsString × α)} (h : (fields.map Prod.fst).Nodup) :
    ((sortByName fields).map Prod.fst).Nodup :=
  ((sortByName_perm fields).map Prod.fst).nodup_iff.mpr h

/-- The order does not depend on the values. -/
theorem sortByName_map {β : Type*} (fields : List (JsString × α)) (g : α → β) :
    (sortByName fields).map (fun f => (f.1, g f.2)) = sortByName (fields.map fun f => (f.1, g f.2)) :=
  List.map_mergeSort fun _ _ _ _ => rfl

/-- Sorting by name forgets the order, where each name stands once. -/
theorem sortByName_eq {fields fields' : List (JsString × α)} (hnodup : (fields.map Prod.fst).Nodup)
    (hperm : fields.Perm fields') : sortByName fields = sortByName fields' := by
  have hsorted : ∀ fields : List (JsString × α),
    (sortByName fields).Pairwise fun a b => JsString.le a.1 b.1 = true := by
    intro fields
    apply List.pairwise_mergeSort
    · exact fun a b c => JsString.le_trans
    · exact fun a b => JsString.le_total a.1 b.1
  apply List.Perm.eq_of_pairwise _ (hsorted fields) (hsorted fields')
  · exact (sortByName_perm fields).trans (hperm.trans (sortByName_perm fields').symm)
  · intro a b ha hb hab hba
    have hname := JsString.le_antisymm hab hba
    have ha' := (sortByName_perm fields).mem_iff.mp ha
    have hb' := hperm.mem_iff.mpr ((sortByName_perm fields').mem_iff.mp hb)
    exact List.inj_on_of_nodup_map hnodup ha' hb' hname

end SortByName

theorem stable_obj (fields : List (JsString × Json)) :
    stable (.obj fields) = .obj (ofEntries (sortByName (stableFields fields))) := by
  rw [stable, sortByName]

theorem stable_arr (items : List Json) : stable (.arr items) = .arr (items.map stable) := by
  rw [stable, stableItems_eq_map]

/-- Values of one canonical form are permutations of one another, field by field. -/
theorem stableFields_perm {fields fields' : List (JsString × Json)} (hnodup : (fields.map Prod.fst).Nodup)
    (hnodup' : (fields'.map Prod.fst).Nodup) (h : stable (.obj fields) = stable (.obj fields')) :
    (stableFields fields).Perm (stableFields fields') := by
  have hback : ∀ fields : List (JsString × Json), (fields.map Prod.fst).Nodup →
      (ofEntries (sortByName (stableFields fields))).Perm (stableFields fields) := by
    intro fields hnodup
    have hkeys : ((stableFields fields).map Prod.fst).Nodup := by
      rw [stableFields_eq_map, List.map_map]
      exact hnodup
    exact (ofEntries_perm (nodup_sortByName hkeys)).trans (sortByName_perm (stableFields fields))
  rw [stable_obj, stable_obj] at h
  have hsorted := Json.obj.inj h
  have hperm := hback fields hnodup
  rw [hsorted] at hperm
  exact hperm.symm.trans (hback fields' hnodup')

mutual

/-- Values that differ in the order of properties have one canonical form. -/
theorem stable_eq_of_same : ∀ {v w : Json}, Normal v → Normal w → Same v w → stable v = stable w
  | _, _, _, _, .null => rfl
  | _, _, _, _, .bool _ => rfl
  | _, _, _, _, .num _ => rfl
  | _, _, _, _, .str _ => rfl
  | .arr xs, .arr ys, .arr hxs, .arr hys, .arr items => by
      rw [stable_arr, stable_arr, stableItems_eq_of_same hxs hys items]
  | .obj fs, .obj gs, .obj hfs hfvalues, .obj hgs hgvalues, .obj fields => by
      have hperm := stableFields_perm_of_same hfvalues hgvalues fields
      have hnodup : ((stableFields fs).map Prod.fst).Nodup := by
        rw [stableFields_eq_map, List.map_map]
        exact nodup_of_ofEntries_eq hfs
      rw [stable_obj, stable_obj, sortByName_eq hnodup hperm]

theorem stableItems_eq_of_same : ∀ {xs ys : List Json}, (∀ x ∈ xs, Normal x) → (∀ y ∈ ys, Normal y) →
    SameItems xs ys → xs.map stable = ys.map stable
  | _, _, _, _, .nil => rfl
  | x :: xs, y :: ys, hxs, hys, .cons head tail => by
      rw [List.map_cons, List.map_cons,
        stable_eq_of_same (hxs x (List.mem_cons_self ..)) (hys y (List.mem_cons_self ..)) head,
        stableItems_eq_of_same (fun v hv => hxs v (List.mem_cons_of_mem _ hv))
          (fun v hv => hys v (List.mem_cons_of_mem _ hv))
          tail]

theorem stableFields_perm_of_same : ∀ {fs gs : List (JsString × Json)}, (∀ f ∈ fs, Normal f.2) →
    (∀ g ∈ gs, Normal g.2) →
    SameFields fs gs → (stableFields fs).Perm (stableFields gs)
  | _, _, _, _, .nil => .refl _
  | (k, v) :: fs, gs, hfs, hgs, @SameFields.cons _ _ w _ _ rest order head tail => by
      have hw : Normal w := hgs (k, w) (order.mem_iff.mpr (List.mem_cons_self ..))
      have hrest : ∀ g ∈ rest, Normal g.2 := fun g hg => hgs g (order.mem_iff.mpr (List.mem_cons_of_mem _ hg))
      have hhead := stable_eq_of_same (hfs (k, v) (List.mem_cons_self ..)) hw head
      have htail := stableFields_perm_of_same (fun f hf => hfs f (List.mem_cons_of_mem _ hf)) hrest tail
      have horder := order.map fun f : JsString × Json => (f.1, stable f.2)
      rw [stableFields_eq_map] at htail ⊢
      rw [stableFields_eq_map] at htail ⊢
      rw [List.map_cons] at horder ⊢
      rw [hhead]
      exact (htail.cons _).trans horder.symm

end

/-- What the two values of one canonical form are. -/
inductive SameShape : Json → Json → Prop where
  | scalar (v : Json) (same : Same v v) : SameShape v v
  | arr {xs ys : List Json} (items : xs.map stable = ys.map stable) : SameShape (.arr xs) (.arr ys)
  | obj {fs gs : List (JsString × Json)} (fields : stable (.obj fs) = stable (.obj gs)) : SameShape (.obj fs) (.obj gs)

/-- Values of one canonical form are of one kind. -/
theorem sameShape_of_stable_eq {v w : Json} (h : stable v = stable w) : SameShape v w := by
  cases v with
  | null =>
      cases w with
      | null => exact .scalar _ .null
      | _ => simp [stable_obj, stable_arr] at h
  | bool b =>
      cases w with
      | bool c =>
          rw [stable_bool, stable_bool] at h
          rw [Json.bool.inj h]
          exact .scalar _ (.bool c)
      | _ => simp [stable_obj, stable_arr] at h
  | num d =>
      cases w with
      | num e =>
          rw [stable_num, stable_num] at h
          rw [Json.num.inj h]
          exact .scalar _ (.num e)
      | _ => simp [stable_obj, stable_arr] at h
  | str s =>
      cases w with
      | str u =>
          rw [stable_str, stable_str] at h
          rw [Json.str.inj h]
          exact .scalar _ (.str u)
      | _ => simp [stable_obj, stable_arr] at h
  | arr xs =>
      cases w with
      | arr ys =>
          rw [stable_arr, stable_arr] at h
          exact .arr (Json.arr.inj h)
      | _ => simp [stable_obj, stable_arr] at h
  | obj fs =>
      cases w with
      | obj gs => exact .obj h
      | _ => simp [stable_obj, stable_arr] at h

/-- Items of one canonical form differ at most in the order of properties. -/
theorem sameItems_of_map_eq {xs ys : List Json}
    (ih : ∀ x ∈ xs, ∀ {w}, Normal w → stable x = stable w → Same x w) (hys : ∀ y ∈ ys, Normal y)
    (h : xs.map stable = ys.map stable) : SameItems xs ys := by
  induction xs generalizing ys with
  | nil =>
      obtain rfl := List.map_eq_nil_iff.mp h.symm
      exact .nil
  | cons x xs ihs =>
      obtain ⟨y, ys, rfl, hy, htail⟩ := List.map_eq_cons_iff.mp h.symm
      have hhead := ih x (List.mem_cons_self ..) (hys y (List.mem_cons_self ..)) hy.symm
      exact .cons hhead
        (ihs (fun v hv => ih v (List.mem_cons_of_mem _ hv)) (fun v hv => hys v (List.mem_cons_of_mem _ hv))
        htail.symm)

/-- Properties of one canonical form differ at most in their order, all the way down. -/
theorem sameFields_of_perm {fs gs : List (JsString × Json)}
    (ih : ∀ f ∈ fs, ∀ {w}, Normal w → stable f.2 = stable w → Same f.2 w) (hgs : ∀ g ∈ gs, Normal g.2)
    (h : (stableFields fs).Perm (stableFields gs)) : SameFields fs gs := by
  rw [stableFields_eq_map] at h
  rw [stableFields_eq_map] at h
  induction fs generalizing gs with
  | nil =>
      obtain rfl := List.map_eq_nil_iff.mp (List.nil_perm.mp h)
      exact .nil
  | cons f fs ihs =>
      -- the first field has a counterpart, and the others are counterparts of what is left
      obtain ⟨g, hg, heq⟩ := List.mem_map.mp (h.mem_iff.mp (List.mem_cons_self ..))
      obtain ⟨hname, hvalue⟩ := Prod.mk.inj heq
      obtain ⟨before, after, rfl⟩ := List.append_of_mem hg
      have htail : (fs.map fun f => (f.1, stable f.2)).Perm ((before ++ after).map fun f => (f.1, stable f.2)) := by
        have hcons := h.trans (List.perm_middle.map fun f : JsString × Json => (f.1, stable f.2))
        rw [List.map_cons, List.map_cons, heq] at hcons
        exact hcons.cons_inv
      have hrest : ∀ g' ∈ before ++ after, Normal g'.2 := by
        intro g' hg'
        exact hgs g' (List.perm_middle.mem_iff.mpr (List.mem_cons_of_mem _ hg'))
      obtain ⟨k, v⟩ := f
      obtain ⟨k', w⟩ := g
      obtain rfl : k' = k := hname
      exact .cons List.perm_middle (ih (k', v) (List.mem_cons_self ..) (hgs _ hg) hvalue.symm)
        (ihs (fun f hf => ih f (List.mem_cons_of_mem _ hf)) hrest htail)

/-- Values of one canonical form differ at most in the order of properties. -/
theorem same_of_stable_eq {v w : Json} (hv : Normal v) (hw : Normal w) (h : stable v = stable w) : Same v w := by
  induction hv generalizing w with
  | arr _ ih =>
      cases sameShape_of_stable_eq h with
      | scalar _ same => exact same
      | arr items =>
          cases hw with
          | arr hys => exact .arr (sameItems_of_map_eq (fun x hx w => ih x hx) hys items)
  | obj hfs _ ih =>
      cases sameShape_of_stable_eq h with
      | scalar _ same => exact same
      | obj fields =>
          cases hw with
          | obj hgs hvalues =>
              have hperm := stableFields_perm (nodup_of_ofEntries_eq hfs) (nodup_of_ofEntries_eq hgs) fields
              exact .obj (sameFields_of_perm (fun f hf w => ih f hf) hvalues hperm)
  | _ =>
      cases sameShape_of_stable_eq h with
      | scalar _ same => exact same

/-- The canonical form tells values apart up to the order of properties. -/
theorem stable_eq_iff_same {v w : Json} (hv : Normal v) (hw : Normal w) : stable v = stable w ↔ Same v w :=
  ⟨same_of_stable_eq hv hw, stable_eq_of_same hv hw⟩

/-- Canonical text tells values apart, up to the order of properties. -/
theorem canonicalJson_eq_iff {v w : Json} (hv : Normal v) (hw : Normal w) :
    canonicalJson v = canonicalJson w ↔ Same v w := by
  rw [← stable_eq_iff_same hv hw]
  constructor
  · exact stable_eq_of_canonicalJson_eq
  · intro h
    rw [canonicalJson, h, canonicalJson]

/-! ### A canonical value is its own canonical form -/

/-- A value differs from its canonical form in the order of properties alone. -/
theorem same_stable {v : Json} (hv : Normal v) : Same v (stable v) := by
  induction hv with
  | null =>
      rw [stable_null]
      exact .null
  | bool =>
      rw [stable_bool]
      exact .bool _
  | num =>
      rw [stable_num]
      exact .num _
  | str =>
      rw [stable_str]
      exact .str _
  | @arr xs hxs ih =>
      rw [stable_arr]
      apply Same.arr
      clear hxs
      induction xs with
      | nil => exact .nil
      | cons x xs ihs => exact .cons (ih x (List.mem_cons_self ..)) (ihs fun v hv => ih v (List.mem_cons_of_mem _ hv))
  | @obj fs hfs hvalues ih =>
      have hfields : SameFields fs (stableFields fs) := by
        rw [stableFields_eq_map]
        clear hfs hvalues
        induction fs with
        | nil => exact .nil
        | cons f fs ihs =>
            exact .cons (.refl _) (ih f (List.mem_cons_self ..)) (ihs fun g hg => ih g (List.mem_cons_of_mem _ hg))
      have hkeys : ((stableFields fs).map Prod.fst).Nodup := by
        rw [stableFields_eq_map, List.map_map]
        exact nodup_of_ofEntries_eq hfs
      rw [stable_obj]
      exact .obj (hfields.perm ((ofEntries_perm (nodup_sortByName hkeys)).trans (sortByName_perm _)).symm)

/-- A canonical form is its own canonical form. -/
theorem stable_stable {v : Json} (hv : Normal v) : stable (stable v) = stable v :=
  (stable_eq_of_same hv (normal_stable v) (same_stable hv)).symm

end OwnerSwitch
