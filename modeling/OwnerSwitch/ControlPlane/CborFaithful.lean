/-
Module: OwnerSwitch.ControlPlane.CborFaithful
Layer: ControlPlane
Purpose: The decoder as a reader of data items. It stays within its limits, reads nothing but items of the subset, and
  reads an item as what it denotes exactly where no text of it begins with a byte order mark, which the text decoder
  drops.
Imports: ControlPlane.CborReads
Trusted boundary: none
Main exports: CborItem, CborItem.Faithful, cbor_faithful_iff, cbor_mark_collides
Open obligations: none
-/
import OwnerSwitch.ControlPlane.CborReads

namespace OwnerSwitch

/-! ### The limits -/

namespace Cbor

/-- At most one item more than allowed was begun, and none more where the step returned. -/
def Counted {α : Type} : EStateM.Result JsString Reader α → Prop
  | .ok _ r => r.items ≤ MAX_ITEMS
  | .error _ r => r.items ≤ MAX_ITEMS + 1

/-- A step that stays within the limit. -/
def Counts {α : Type} (x : ReaderM α) : Prop :=
  ∀ r, r.items ≤ MAX_ITEMS → Counted (x r)

namespace Counts

variable {α β : Type} {x : ReaderM α} {f : α → ReaderM β}

/-- A program counts where its parts do. -/
theorem bind (hx : Counts x) (hf : ∀ v, Counts (f v)) : Counts (x >>= f) := by
  intro r hr
  have hcounted := hx r hr
  simp only [Bind.bind, EStateM.bind]
  cases hrun : x r with
  | ok v r' =>
      rw [hrun] at hcounted
      exact hf v r' hcounted
  | error e r' =>
      rw [hrun] at hcounted
      exact hcounted

theorem pure (v : α) : Counts (Pure.pure v : ReaderM α) :=
  fun _ hr => hr

theorem throw (e : JsString) : Counts (MonadExcept.throw e : ReaderM α) :=
  fun _ hr => Nat.le_succ_of_le hr

theorem ite {c : Prop} [Decidable c] {y : ReaderM α} (hx : Counts x) (hy : Counts y) : Counts (if c then x else y) := by
  split
  · exact hx
  · exact hy

theorem need (count : Nat) : Counts (Cbor.need count) := by
  intro r hr
  by_cases hle : r.offset + count ≤ r.bytes.length
  · rw [need_ok hle]
    exact hr
  · rw [need_error hle]
    exact Nat.le_succ_of_le hr

theorem u8 : Counts Cbor.u8 :=
  (need 1).bind fun _ _ hr => hr

theorem take (count : Nat) : Counts (Cbor.take count) :=
  (need count).bind fun _ _ hr => hr

theorem countItem : Counts Cbor.countItem := by
  intro r hr
  rcases countItem_settles r with ⟨hle, hrun⟩ | ⟨hnot, -⟩
  · rw [hrun]
    exact hle
  · have hgt : r.items + 1 > MAX_ITEMS := by omega
    simp only [Cbor.countItem, modify, modifyGet, MonadStateOf.modifyGet, EStateM.modifyGet, Bind.bind, EStateM.bind,
      get, getThe, MonadStateOf.get, EStateM.get, if_pos hgt]
    exact Nat.succ_le_succ hr

theorem readLength (additional : Nat) : Counts (Cbor.readLength additional) := by
  unfold Cbor.readLength
  refine .ite (.pure _) (.ite u8 (.ite ?_ (.ite ?_ (.throw _))))
  · exact (take 2).bind fun _ => .pure _
  · exact (take 4).bind fun _ => .pure _

theorem keyName (v : CborValue) : Counts (Cbor.keyName v) := by
  unfold Cbor.keyName
  split
  · exact .ite (.throw _) (.pure _)
  · exact .ite (.pure _) (.throw _)
  · exact .throw _

theorem freshName (name : JsString) (out : List (JsString × CborValue)) : Counts (Cbor.freshName name out) := by
  have hdistinct : Counts (if (out.any fun e => decide (e.1 = name)) = true then
      MonadExcept.throw (js "CBOR: duplicate map key " ++ Json.quote name) else Pure.pure () : ReaderM Unit) :=
    .ite (.throw _) (.pure _)
  unfold Cbor.freshName
  exact .ite ((throw _).bind fun _ => hdistinct) hdistinct

/-- The elements of an array are counted. -/
theorem decodeElements {item : ReaderM CborValue} (hitem : Counts item) (count : Nat) :
    Counts (Cbor.decodeElements item count) := by
  induction count with
  | zero => exact .pure _
  | succ count ih => exact hitem.bind fun _ => ih.bind fun _ => .pure _

/-- The entries of a map are counted. -/
theorem decodeEntries {item : ReaderM CborValue} (hitem : Counts item) (count : Nat)
    (out : List (JsString × CborValue)) : Counts (Cbor.decodeEntries item out count) := by
  induction count generalizing out with
  | zero => exact .pure _
  | succ count ih =>
      exact hitem.bind fun _ => (keyName _).bind fun _ => (freshName _ _).bind fun _ => hitem.bind fun _ => ih _

/-- The body of an item is counted. -/
theorem decodeBody {item : ReaderM CborValue} (hitem : Counts item) (major additional : Nat) :
    Counts (Cbor.decodeBody item major additional) := by
  unfold Cbor.decodeBody
  split
  · exact (readLength _).bind fun _ => .pure _
  · exact (readLength _).bind fun _ => .pure _
  · exact (readLength _).bind fun _ => (take _).bind fun _ => .pure _
  · refine (readLength _).bind fun _ => (take _).bind fun raw => ?_
    unfold decodeText
    split
    · exact .pure _
    · exact .throw _
  · exact (readLength _).bind fun _ => (decodeElements hitem _).bind fun _ => .pure _
  · exact (readLength _).bind fun _ => (decodeEntries hitem _ _).bind fun _ => .pure _
  · exact .ite (.pure _) (.ite (.pure _) (.ite (.pure _) (.throw _)))
  · exact .throw _

/-- Decoding an item counts what it reads. -/
theorem decodeItem (levels : Nat) : Counts (Cbor.decodeItem levels) := by
  induction levels with
  | zero => exact .throw _
  | succ levels ih =>
      exact countItem.bind fun _ => u8.bind fun _ =>
        .ite ((throw _).bind fun _ => decodeBody ih _ _) (decodeBody ih _ _)

end Counts

end Cbor

/-! ### Byte order marks -/

theorem dropMark_of_not_mark {s : JsString} (h : s.head? ≠ some byteOrderMark) : dropMark s = s := by
  cases s with
  | nil => rfl
  | cons u s =>
      rw [dropMark, if_neg]
      rintro rfl
      exact h rfl

theorem length_dropMark_le (s : JsString) : (dropMark s).length ≤ s.length := by
  cases s with
  | nil => exact le_rfl
  | cons u s =>
      rw [dropMark]
      split
      · exact Nat.le_succ _
      · exact le_rfl

/-- A mark that is dropped was there. -/
theorem length_dropMark_lt {s : JsString} (h : s.head? = some byteOrderMark) : (dropMark s).length < s.length := by
  cases s with
  | nil => cases h
  | cons u s =>
      obtain rfl : u = byteOrderMark := Option.some.inj h
      rw [dropMark, if_pos rfl]
      exact Nat.lt_succ_self _

namespace CborData

theorem toProperties_eq_map (es : List (CborKey × CborData)) :
    toProperties es = es.map fun e => (e.1.name, toValue e.2) := by
  induction es with
  | nil => rfl
  | cons e es ih => rw [toProperties, List.map_cons, ih]

theorem unmarkedEntries_eq_map (es : List (CborKey × CborData)) :
    unmarkedEntries es = es.map fun e => (e.1.unmarked, unmarked e.2) := by
  induction es with
  | nil => rfl
  | cons e es ih => rw [unmarkedEntries, List.map_cons, ih]

theorem unmarkedAll_eq_map (xs : List CborData) : unmarkedAll xs = xs.map unmarked := by
  induction xs with
  | nil => rfl
  | cons x xs ih => rw [unmarkedAll, List.map_cons, ih]

/-- A key without a byte order mark is read as it is. -/
theorem unmarked_of_not_marked_key {k : CborKey} (h : ¬ Marked k.data) : k.unmarked = k := by
  cases k with
  | int z => rfl
  | text s => rw [CborKey.unmarked, dropMark_of_not_mark fun hmark => h (.string hmark)]

/-- An item without byte order marks is read as it is. -/
theorem unmarked_of_not_marked {d : CborData} (h : ¬ Marked d) : unmarked d = d := by
  induction d using Cbor.induct with
  | number z => rfl
  | string s => rw [unmarked, dropMark_of_not_mark fun hmark => h (.string hmark)]
  | bytes bs => rfl
  | bool b => rfl
  | null => rfl
  | array xs ih =>
      have hparts : xs.map unmarked = xs.map id :=
        List.map_congr_left fun x hx => ih x hx fun hmarked => h (.element hx hmarked)
      rw [unmarked, unmarkedAll_eq_map, hparts, List.map_id]
  | object es ih =>
      have hparts : (es.map fun e => (e.1.unmarked, unmarked e.2)) = es.map id :=
        List.map_congr_left fun e he => by
          rw [unmarked_of_not_marked_key fun hmarked => h (.key he hmarked),
            ih e he fun hmarked => h (.entry he hmarked)]
          rfl
      rw [unmarked, unmarkedEntries_eq_map, hparts, List.map_id]

end CborData

/-! ### How much text -/

namespace Cbor

mutual

/-- The units of all texts of a value, the names of properties among them. -/
def textUnits : CborValue → Nat
  | .string s => s.length
  | .array xs => textUnitsAll xs
  | .object es => textUnitsEntries es
  | _ => 0

def textUnitsAll : List CborValue → Nat
  | [] => 0
  | x :: xs => x.textUnits + textUnitsAll xs

def textUnitsEntries : List (JsString × CborValue) → Nat
  | [] => 0
  | (k, x) :: es => k.length + x.textUnits + textUnitsEntries es

end

/-- The units of the entries do not depend on their order. -/
theorem textUnitsEntries_perm {es fs : List (JsString × CborValue)} (h : es.Perm fs) :
    textUnitsEntries es = textUnitsEntries fs := by
  induction h with
  | nil => rfl
  | cons e _ ih => rw [textUnitsEntries, textUnitsEntries, ih]
  | swap e f es =>
      rw [textUnitsEntries, textUnitsEntries, textUnitsEntries, textUnitsEntries]
      omega
  | trans _ _ ih₁ ih₂ => rw [ih₁, ih₂]

end Cbor

namespace CborData

/-- The names of an admissible map are distinct. -/
theorem Keyed.names_nodup {es : List (CborKey × CborData)} (h : Keyed CborKey.Allowed (.object es)) :
    ((toProperties es).map Prod.fst).Nodup := by
  obtain ⟨hnodup, hallowed, -⟩ := keyed_object_iff.mp h
  rw [toProperties_keys]
  exact (names_nodup_iff hallowed).mpr hnodup

/-- An object has the units of its properties. -/
theorem textUnits_object {es : List (CborKey × CborData)} (h : Keyed CborKey.Allowed (.object es)) :
    Cbor.textUnits (toValue (.object es)) = Cbor.textUnitsEntries (toProperties es) := by
  rw [toValue, Cbor.textUnits]
  exact Cbor.textUnitsEntries_perm (Json.ofEntries_perm h.names_nodup)

/-- What a key loses with its mark. -/
theorem length_unmarked_name (k : CborKey) :
    k.unmarked.name.length ≤ k.name.length ∧ (Marked k.data → k.unmarked.name.length < k.name.length) := by
  cases k with
  | int z => exact ⟨le_rfl, nofun⟩
  | text s =>
      refine ⟨length_dropMark_le s, fun h => ?_⟩
      cases h with
      | string hmark => exact length_dropMark_lt hmark

/-- An item with a byte order mark at the start of a text is read as one with less text. -/
theorem textUnits_unmarked {d : CborData} (h : Keyed CborKey.Allowed d) (h' : Keyed CborKey.Allowed (unmarked d)) :
    Cbor.textUnits (toValue (unmarked d)) ≤ Cbor.textUnits (toValue d) ∧
      (Marked d → Cbor.textUnits (toValue (unmarked d)) < Cbor.textUnits (toValue d)) := by
  induction d using Cbor.induct with
  | number z => exact ⟨le_rfl, fun hmarked => by cases hmarked⟩
  | string s =>
      refine ⟨length_dropMark_le s, fun hmarked => ?_⟩
      cases hmarked with
      | string hmark => exact length_dropMark_lt hmark
  | bytes bs => exact ⟨le_rfl, fun hmarked => by cases hmarked⟩
  | bool b => exact ⟨le_rfl, fun hmarked => by cases hmarked⟩
  | null => exact ⟨le_rfl, fun hmarked => by cases hmarked⟩
  | array xs ih =>
      rw [keyed_array_iff] at h
      rw [unmarked, keyed_array_iff, unmarkedAll_eq_map, List.forall_mem_map] at h'
      have hsum : Cbor.textUnitsAll (toValues (unmarkedAll xs)) ≤ Cbor.textUnitsAll (toValues xs) ∧
          ((∃ x ∈ xs, Marked x) →
            Cbor.textUnitsAll (toValues (unmarkedAll xs)) < Cbor.textUnitsAll (toValues xs)) := by
        induction xs with
        | nil =>
            refine ⟨le_rfl, ?_⟩
            rintro ⟨x, hx, -⟩
            cases hx
        | cons x xs ihs =>
            rw [List.forall_mem_cons] at h h' ih
            obtain ⟨hle, hlt⟩ := ih.1 h.1 h'.1
            obtain ⟨hles, hlts⟩ := ihs ih.2 h.2 h'.2
            simp only [unmarkedAll, toValues, Cbor.textUnitsAll]
            refine ⟨Nat.add_le_add hle hles, ?_⟩
            rintro ⟨y, hy, hmarked⟩
            rcases List.mem_cons.mp hy with rfl | hy
            · exact Nat.add_lt_add_of_lt_of_le (hlt hmarked) hles
            · exact Nat.add_lt_add_of_le_of_lt hle (hlts ⟨y, hy, hmarked⟩)
      refine ⟨hsum.1, fun hmarked => hsum.2 ?_⟩
      cases hmarked with
      | element hx hmarked => exact ⟨_, hx, hmarked⟩
  | object es ih =>
      have hunits := textUnits_object h
      have hunits' : Cbor.textUnits (toValue (unmarked (.object es))) = _ := textUnits_object h'
      rw [hunits, hunits']
      clear hunits hunits'
      rw [keyed_object_iff] at h
      rw [unmarked, keyed_object_iff, unmarkedEntries_eq_map, List.forall_mem_map, List.forall_mem_map] at h'
      obtain ⟨-, -, h⟩ := h
      obtain ⟨-, -, h'⟩ := h'
      have hsum : Cbor.textUnitsEntries (toProperties (unmarkedEntries es)) ≤ Cbor.textUnitsEntries (toProperties es) ∧
          ((∃ e ∈ es, Marked (CborKey.data e.1) ∨ Marked e.2) →
            Cbor.textUnitsEntries (toProperties (unmarkedEntries es)) < Cbor.textUnitsEntries (toProperties es)) := by
        induction es with
        | nil =>
            refine ⟨le_rfl, ?_⟩
            rintro ⟨x, hx, -⟩
            cases hx
        | cons e es ihs =>
            rw [List.forall_mem_cons] at h h' ih
            obtain ⟨hle, hlt⟩ := ih.1 h.1 h'.1
            obtain ⟨hles, hlts⟩ := ihs ih.2 h.2 h'.2
            obtain ⟨hname, hnamelt⟩ := length_unmarked_name e.1
            simp only [unmarkedEntries, toProperties, Cbor.textUnitsEntries]
            refine ⟨by omega, ?_⟩
            rintro ⟨f, hf, hmarked⟩
            rcases List.mem_cons.mp hf with rfl | hf
            · rcases hmarked with hmarked | hmarked
              · have hlt := hnamelt hmarked
                omega
              · have hlt := hlt hmarked
                omega
            · have hlt := hlts ⟨f, hf, hmarked⟩
              omega
      refine ⟨hsum.1, fun hmarked => hsum.2 ?_⟩
      cases hmarked with
      | key he hmarked => exact ⟨_, he, .inl hmarked⟩
      | entry he hmarked => exact ⟨_, he, .inr hmarked⟩

end CborData

/-! ### Different items denote different values -/

namespace Cbor

variable {κ : Type}

/-- The entries of a map are the same in any order. -/
theorem sameEntries_iff {es fs : List (κ × Cbor κ)} :
    SameEntries es fs ↔ ∀ e ∈ es, ∃ y, (e.1, y) ∈ fs ∧ Same e.2 y := by
  induction es with
  | nil => simp [SameEntries]
  | cons e es ih => rw [SameEntries, List.forall_mem_cons, ih]

end Cbor

namespace CborData

/-- Lists of values are the same where their data are, one by one. -/
theorem sameAll_toValues_iff {xs ys : List CborData}
    (h : ∀ x ∈ xs, ∀ y ∈ ys, Cbor.Same (toValue x) (toValue y) ↔ Cbor.Same x y) :
    Cbor.SameAll (toValues xs) (toValues ys) ↔ Cbor.SameAll xs ys := by
  induction xs generalizing ys with
  | nil =>
      cases ys with
      | nil => exact Iff.rfl
      | cons y ys => exact Iff.rfl
  | cons x xs ih =>
      cases ys with
      | nil => exact Iff.rfl
      | cons y ys =>
          simp only [toValues, Cbor.SameAll]
          rw [h x (List.mem_cons_self ..) y (List.mem_cons_self ..),
            ih fun x hx y hy => h x (List.mem_cons_of_mem _ hx) y (List.mem_cons_of_mem _ hy)]

/-- Two items denote the same value exactly where they are the same up to the order of entries. -/
theorem same_toValue_iff {d d' : CborData} (h : Keyed CborKey.Allowed d) (h' : Keyed CborKey.Allowed d') :
    Cbor.Same (toValue d) (toValue d') ↔ Cbor.Same d d' := by
  induction d using Cbor.induct generalizing d' with
  | number z => cases d' <;> simp [toValue, Cbor.Same]
  | string s => cases d' <;> simp [toValue, Cbor.Same]
  | bytes bs => cases d' <;> simp [toValue, Cbor.Same]
  | bool b => cases d' <;> simp [toValue, Cbor.Same]
  | null => cases d' <;> simp [toValue, Cbor.Same]
  | array xs ih =>
      cases d' with
      | array ys =>
          rw [keyed_array_iff] at h h'
          simp only [toValue, Cbor.Same]
          exact sameAll_toValues_iff fun x hx y hy => ih x hx (h x hx) (h' y hy)
      | _ => simp [toValue, Cbor.Same]
  | object es ih =>
      cases d' with
      | object fs =>
          have hperm := Json.ofEntries_perm h.names_nodup
          have hperm' := Json.ofEntries_perm h'.names_nodup
          rw [keyed_object_iff] at h h'
          obtain ⟨-, hallowed, hkeyed⟩ := h
          obtain ⟨-, hallowed', hkeyed'⟩ := h'
          have hentry : ∀ e ∈ es, (∃ w, (e.1.name, w) ∈ Json.ofEntries (toProperties fs) ∧ Cbor.Same (toValue e.2) w) ↔
              ∃ y, (e.1, y) ∈ fs ∧ Cbor.Same e.2 y := by
            intro e he
            have hmem : ∀ w, (e.1.name, w) ∈ Json.ofEntries (toProperties fs) ↔
                ∃ f ∈ fs, f.1.name = e.1.name ∧ toValue f.2 = w := by
              intro w
              rw [hperm'.mem_iff, toProperties_eq_map, List.mem_map]
              simp only [Prod.mk.injEq]
            constructor
            · rintro ⟨w, hw, hsame⟩
              obtain ⟨f, hf, hname, rfl⟩ := (hmem w).mp hw
              have hkey : f.1 = e.1 := CborKey.name_injective (hallowed' f hf) (hallowed e he) hname
              exact ⟨f.2, hkey ▸ hf, (ih e he (hkeyed e he) (hkeyed' f hf)).mp hsame⟩
            · rintro ⟨y, hy, hsame⟩
              exact ⟨_, (hmem _).mpr ⟨(e.1, y), hy, rfl, rfl⟩, (ih e he (hkeyed e he) (hkeyed' _ hy)).mpr hsame⟩
          simp only [toValue, Cbor.Same, Cbor.sameEntries_iff, hperm.length_eq, hperm'.length_eq, hperm.mem_iff]
          rw [toProperties_eq_map, toProperties_eq_map, List.length_map, List.length_map, List.forall_mem_map,
            ← toProperties_eq_map]
          exact and_congr_right fun _ => forall₂_congr hentry
      | _ => simp [toValue, Cbor.Same]

end CborData

/-! ### The decoder -/

section Decoder

variable {d : CborData} {bs bytes : Bytes} {v : CborValue} {n : Nat}

/-- What an item must be for the decoder to read it. -/
structure CborData.Accepted (d : CborData) : Prop where
  keyed : CborData.Keyed CborKey.Allowed (CborData.unmarked d)
  depth : d.height ≤ Cbor.MAX_DEPTH + 1
  count : d.items ≤ Cbor.MAX_ITEMS

/-- The first item, and where it ends. -/
theorem cborDecodeFirst_eq_ok_iff :
    cborDecodeFirst bytes = .ok ⟨v, n⟩ ↔ ∃ r, Cbor.decodeRoot bytes = .ok v r ∧ r.offset = n := by
  unfold cborDecodeFirst
  cases Cbor.decodeRoot bytes with
  | ok w r => simp [eq_comm]
  | error e r => simp

/-- An accepted item is read, whatever follows it. -/
theorem cborDecodeFirst_append (hd : Encodes d bs) (haccepted : d.Accepted) (suffix : Bytes) :
    cborDecodeFirst (bs ++ suffix) = .ok ⟨CborData.toValue (CborData.unmarked d), bs.length⟩ := by
  have hr : (⟨bs ++ suffix, 0, 0⟩ : Cbor.Reader).Holds bs := ⟨Nat.zero_le _, List.prefix_append _ _⟩
  have hsettles := Cbor.decodeItem_settles (Cbor.MAX_DEPTH + 1) hd hr (Nat.zero_le _)
  have hrun := hsettles.eq_ok ⟨haccepted.keyed, haccepted.depth, by simpa using haccepted.count⟩
  exact cborDecodeFirst_eq_ok_iff.mpr ⟨_, hrun, Nat.zero_add _⟩

/-- Only accepted items are read. -/
theorem accepted_of_cborDecodeFirst (h : cborDecodeFirst bytes = .ok ⟨v, n⟩) (hd : Encodes d bs)
    (hstarts : bs <+: bytes) : d.Accepted ∧ v = CborData.toValue (CborData.unmarked d) ∧ n = bs.length := by
  obtain ⟨r, hrun, rfl⟩ := cborDecodeFirst_eq_ok_iff.mp h
  have hr : (⟨bytes, 0, 0⟩ : Cbor.Reader).Holds bs := ⟨Nat.zero_le _, hstarts⟩
  have hsettles := Cbor.decodeItem_settles (Cbor.MAX_DEPTH + 1) hd hr (Nat.zero_le _)
  rw [show Cbor.decodeItem _ _ = _ from hrun] at hsettles
  obtain ⟨⟨hkeyed, hdepth, hcount⟩, rfl, rfl⟩ := hsettles.of_ok
  exact ⟨⟨hkeyed, hdepth, by simpa using hcount⟩, rfl, Nat.zero_add _⟩

/-- Whatever is read is an accepted item. -/
theorem exists_encodes_of_cborDecodeFirst (h : cborDecodeFirst bytes = .ok ⟨v, n⟩) :
    ∃ d, Encodes d (bytes.take n) ∧ n ≤ bytes.length ∧ d.Accepted ∧ v = CborData.toValue (CborData.unmarked d) := by
  obtain ⟨r, hrun, -⟩ := cborDecodeFirst_eq_ok_iff.mp h
  obtain ⟨d, bs, hd, hr⟩ :=
    Cbor.decodeItem_recognises (Cbor.MAX_DEPTH + 1) (r := ⟨bytes, 0, 0⟩) (Nat.zero_le _) (Nat.zero_le _) hrun
  obtain ⟨haccepted, hv, rfl⟩ := accepted_of_cborDecodeFirst h hd hr.next
  have htake : bytes.take bs.length = bs := (List.prefix_iff_eq_take.mp hr.next).symm
  exact ⟨d, htake.symm ▸ hd, hr.next.length_le, haccepted, hv⟩

/-- A first item that takes all the octets is the exact one. -/
theorem cborDecodeExact_of_first (h : cborDecodeFirst bytes = .ok ⟨v, bytes.length⟩) :
    cborDecodeExact bytes = .ok v := by
  simp only [cborDecodeExact, Bind.bind, Except.bind, h]
  rw [if_neg (not_not.mpr rfl)]
  rfl

end Decoder

namespace CborData

/-- Marks dropped or not, the keys of a map that is read are distinct. -/
theorem Keyed.of_unmarked {p : CborKey → Prop} {d : CborData} (h : Keyed p (unmarked d)) : Keyed (fun _ => True) d := by
  induction d using Cbor.induct with
  | number z => exact .number
  | string s => exact .string
  | bytes bs => exact .bytes
  | bool b => exact .bool
  | null => exact .null
  | array xs ih =>
      rw [unmarked, keyed_array_iff, unmarkedAll_eq_map, List.forall_mem_map] at h
      exact .array fun x hx => ih x hx (h x hx)
  | object es ih =>
      rw [unmarked, keyed_object_iff, unmarkedEntries_eq_map, List.map_map, List.forall_mem_map,
        List.forall_mem_map] at h
      obtain ⟨hnodup, -, hkeyed⟩ := h
      have hkeys : (es.map fun e => e.1.unmarked) = (es.map Prod.fst).map CborKey.unmarked := by
        rw [List.map_map]
        rfl
      refine .object ?_ (fun _ _ => trivial) fun e he => ih e he (hkeyed e he)
      exact List.Nodup.of_map CborKey.unmarked (hkeys ▸ hnodup)

end CborData

/-- An item of the subset within the limits, as it is sent. -/
structure CborItem where
  bytes : Bytes
  data : CborData
  encodes : Encodes data bytes
  keyed : CborData.Keyed CborKey.Allowed data
  depth : data.height ≤ Cbor.MAX_DEPTH + 1
  count : data.items ≤ Cbor.MAX_ITEMS

namespace CborItem

/-- The item is read as what it denotes, whatever follows it. -/
structure Faithful (item : CborItem) : Prop where
  first : ∀ suffix, cborDecodeFirst (item.bytes ++ suffix) = .ok ⟨CborData.toValue item.data, item.bytes.length⟩
  exact : cborDecodeExact item.bytes = .ok (CborData.toValue item.data)

variable (item : CborItem)

/-- An item is read faithfully where no text of it starts with a byte order mark. -/
theorem faithful_iff : item.Faithful ↔ ¬ CborData.Marked item.data := by
  constructor
  · intro h hmarked
    have hfirst := h.first []
    rw [List.append_nil] at hfirst
    obtain ⟨haccepted, hvalue, -⟩ := accepted_of_cborDecodeFirst hfirst item.encodes (List.prefix_refl _)
    have hlt := (CborData.textUnits_unmarked item.keyed haccepted.keyed).2 hmarked
    rw [← hvalue] at hlt
    exact lt_irrefl _ hlt
  · intro h
    have hunmarked := CborData.unmarked_of_not_marked h
    have haccepted : item.data.Accepted := ⟨hunmarked.symm ▸ item.keyed, item.depth, item.count⟩
    have hfirst := cborDecodeFirst_append item.encodes haccepted
    rw [hunmarked] at hfirst
    refine ⟨hfirst, cborDecodeExact_of_first ?_⟩
    simpa using hfirst []

end CborItem

/-- The decoder stays within its limits on every input; what it reads is an item of the subset, the same whatever follows;
    different items denote different values; and it reads an item as what it denotes exactly where no text of the item
    begins with a byte order mark. -/
theorem cbor_faithful_iff (bytes : Bytes) (item other : CborItem) :
    Cbor.Counted (Cbor.decodeRoot bytes) ∧
      (∀ v n, cborDecodeFirst bytes = .ok ⟨v, n⟩ →
        n ≤ bytes.length ∧ (∀ suffix, cborDecodeFirst (bytes ++ suffix) = .ok ⟨v, n⟩) ∧
          ∃ d : CborData, Encodes d (bytes.take n) ∧ CborData.Keyed (fun _ => True) d ∧
            d.height ≤ Cbor.MAX_DEPTH + 1 ∧ d.items ≤ Cbor.MAX_ITEMS) ∧
      (Cbor.Same (CborData.toValue item.data) (CborData.toValue other.data) ↔ Cbor.Same item.data other.data) ∧
      (item.Faithful ↔ ¬ CborData.Marked item.data) := by
  refine ⟨Cbor.Counts.decodeItem _ _ (Nat.zero_le _), ?_, CborData.same_toValue_iff item.keyed other.keyed,
    item.faithful_iff⟩
  intro v n h
  obtain ⟨d, hd, hle, haccepted, rfl⟩ := exists_encodes_of_cborDecodeFirst h
  refine ⟨hle, fun suffix => ?_, d, hd, haccepted.keyed.of_unmarked, haccepted.depth, haccepted.count⟩
  have hlength : (bytes.take n).length = n := by
    rw [List.length_take]
    omega
  have happend := cborDecodeFirst_append hd haccepted (bytes.drop n ++ suffix)
  rwa [← List.append_assoc, List.take_append_drop, hlength] at happend

/-! ### A key that passes for another -/

/-- The map of one short key. -/
def keyItem (s : JsString) (hwell : WellFormed s) (hshort : (Utf8.encode s).length < 24)
    (hallowed : (CborKey.text s).Allowed) : CborItem where
  bytes := [0xA1] ++ (([UInt8.ofNat (3 * 0x20 + (Utf8.encode s).length)] ++ Utf8.encode s) ++ ([0x01] ++ []))
  data := .object [(.text s, .number (1 : Nat))]
  encodes := by
    have hkey : Encodes (CborKey.text s).data _ := .string hwell (.direct hshort)
    have hvalue : Encodes (.number (1 : Nat)) [0x01] := .nonneg (.direct (by decide))
    exact Encodes.object (h := [0xA1]) (.direct (show 1 < 24 by decide)) (.cons hkey hvalue .nil)
  keyed := by
    refine .object (List.nodup_singleton _) (fun e he => ?_) fun e he => ?_
    · rwa [List.mem_singleton.mp he]
    · rw [List.mem_singleton.mp he]
      exact .number
  depth := show 2 ≤ 9 by decide
  count := show 3 ≤ 1024 by decide

def fmtItem : CborItem :=
  keyItem (js "fmt") (WellFormed.ascii_all rfl) (by decide) ⟨by decide, by decide⟩

/-- The same with a byte order mark in front of the key. -/
def markedFmtItem : CborItem :=
  keyItem (byteOrderMark :: js "fmt") (.unit rfl rfl (WellFormed.ascii_all rfl)) (by decide) ⟨by decide, by decide⟩

/-- Two different items decode to one value, the key `fmt` with a mark passing for `fmt`. -/
theorem cbor_mark_collides :
    fmtItem.bytes = [0xA1, 0x63, 0x66, 0x6D, 0x74, 0x01] ∧
      markedFmtItem.bytes = [0xA1, 0x66, 0xEF, 0xBB, 0xBF, 0x66, 0x6D, 0x74, 0x01] ∧
      ¬ Cbor.Same fmtItem.data markedFmtItem.data ∧
      cborDecodeExact fmtItem.bytes = .ok (.object [(js "fmt", .number 1)]) ∧
      cborDecodeExact markedFmtItem.bytes = .ok (.object [(js "fmt", .number 1)]) := by
  refine ⟨by decide, by decide, ?_, rfl, rfl⟩
  simp only [fmtItem, markedFmtItem, keyItem, Cbor.Same, Cbor.sameEntries_iff]
  rintro ⟨-, h⟩
  obtain ⟨y, hy, -⟩ := h _ (List.mem_cons_self ..)
  simp only [List.mem_singleton, Prod.mk.injEq, CborKey.text.injEq] at hy
  exact absurd hy.1 (by decide)

end OwnerSwitch
