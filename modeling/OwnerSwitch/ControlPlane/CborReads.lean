/-
Module: OwnerSwitch.ControlPlane.CborReads
Layer: ControlPlane
Purpose: What the decoder does on the encoding of an item: it reads the item, less the byte order marks its texts begin
  with, exactly where the item so read keeps the rules for keys and is within the limits. What it reads is always the
  encoding of an item.
Imports: ControlPlane.CborSteps
Trusted boundary: none
Main exports: Readable, decodeItem_settles, decodeItem_recognises, Decodes.of_ok
Open obligations: none
-/
import OwnerSwitch.ControlPlane.CborSteps

namespace OwnerSwitch

namespace Cbor

open CborData

variable {levels : Nat} {item : ReaderM CborValue}

/-- The item as it is read keeps the rules for keys, and is within the limits of depth and count. -/
def Readable (levels : Nat) (r : Reader) (d : CborData) : Prop :=
  Keyed CborKey.Allowed (unmarked d) ∧ d.height ≤ levels ∧ r.items + d.items ≤ MAX_ITEMS

/-- The decoder of items at most so many levels high. -/
def Decodes (levels : Nat) (item : ReaderM CborValue) : Prop :=
  ∀ {d bs r}, Encodes d bs → r.Holds bs → r.items ≤ MAX_ITEMS →
    Settles (Readable levels r d) (toValue (unmarked d)) (r.past bs d.items) (item r)

/-! ### Elements and entries -/

theorem decodeElements_settles (hitem : Decodes levels item) {xs : List CborData} {body : Bytes}
    (hxs : Concat Encodes xs body) {r : Reader} (hr : r.Holds body) (hcount : r.items ≤ MAX_ITEMS) :
    Settles ((∀ x ∈ xs, Keyed CborKey.Allowed (unmarked x)) ∧ heightAll xs ≤ levels
        ∧ r.items + itemsAll xs ≤ MAX_ITEMS)
      (toValues (unmarkedAll xs)) (r.past body (itemsAll xs)) (decodeElements item xs.length r) := by
  induction hxs generalizing r with
  | nil => exact .ok ⟨nofun, Nat.zero_le _, hcount⟩ rfl
  | @cons x xs bs body hx _ ih =>
      have hhead := hitem hx hr.left hcount
      have hsettles := hhead.bind (f := fun v => do
        let vs ← decodeElements item xs.length
        return v :: vs) (w := toValues (unmarkedAll (x :: xs))) fun hreadable =>
          (ih (hr.right x.items) (by rw [Reader.past_items]; exact hreadable.2.2)).bind fun _ =>
            Settles.ok (P := True) trivial rfl
      rw [Reader.past_past] at hsettles
      refine hsettles.congr ?_
      simp only [Readable, Reader.past_items, List.forall_mem_cons, heightAll, itemsAll, Nat.max_le, and_true]
      constructor
      · rintro ⟨⟨hkeyed, hheight, -⟩, hall, hheights, hitems⟩
        exact ⟨⟨hkeyed, hall⟩, ⟨hheight, hheights⟩, by omega⟩
      · rintro ⟨⟨hkeyed, hall⟩, ⟨hheight, hheights⟩, hitems⟩
        exact ⟨⟨hkeyed, hheight, by omega⟩, hall, hheights, by omega⟩

/-- The entries, as they are read, can be assigned after those that already are. -/
def Assignable (out : List (JsString × CborValue)) (es : List (CborKey × CborData)) : Prop :=
  (∀ e ∈ unmarkedEntries es, e.1.Allowed) ∧
    (out.map Prod.fst ++ (unmarkedEntries es).map fun e => e.1.name).Nodup ∧
    ∀ e ∈ unmarkedEntries es, Keyed CborKey.Allowed e.2

theorem decodeEntries_settles (hitem : Decodes levels item) {es : List (CborKey × CborData)} {body : Bytes}
    (hes : ConcatEntries Encodes es body) {out : List (JsString × CborValue)} (hout : (out.map Prod.fst).Nodup)
    {r : Reader} (hr : r.Holds body) (hcount : r.items ≤ MAX_ITEMS) :
    Settles (Assignable out es ∧ heightEntries es ≤ levels ∧ r.items + itemsEntries es ≤ MAX_ITEMS)
      (out ++ toProperties (unmarkedEntries es)) (r.past body (itemsEntries es))
      (decodeEntries item out es.length r) := by
  induction hes generalizing r out with
  | nil =>
      refine .ok ⟨⟨nofun, by simpa [unmarkedEntries] using hout, nofun⟩, Nat.zero_le _, hcount⟩ ?_
      simp only [unmarkedEntries, toProperties, List.append_nil]
      rfl
  | @cons k x es key bs body hk hx _ ih =>
      have hsmall : ∀ z, k.unmarked = .int z → z.natAbs ≤ 2 ^ 32 := by
        intro z hz
        cases k with
        | int w =>
            obtain rfl := CborKey.int.inj hz
            exact encodes_number_le hk
        | text s => cases hz
      have hkey := hitem hk hr.left hcount
      rw [unmarked_key, items_key] at hkey
      have hvalue : r.items + 1 ≤ MAX_ITEMS → _ := fun hle => hitem hx (hr.right 1).left hle
      have hsettles := hkey.bind (f := fun v => do
        let name ← keyName v
        freshName name out
        let x ← item
        decodeEntries item (out ++ [(name, x)]) es.length)
        (w := out ++ toProperties (unmarkedEntries ((k, x) :: es))) fun hreadable =>
          have hone : r.items + 1 ≤ MAX_ITEMS := by
            have hitems := hreadable.2.2
            rwa [items_key] at hitems
          (keyName_settles hsmall _).bind fun _ => (freshName_settles _ out _).bind fun hfresh =>
            (hvalue hone).bind fun hreadable' => by
              have hdistinct : ((out ++ [(k.unmarked.name, toValue (unmarked x))]).map Prod.fst).Nodup := by
                rw [List.map_append, List.map_singleton, List.nodup_append]
                refine ⟨hout, List.nodup_singleton _, fun a ha b hb => ?_⟩
                rw [List.mem_singleton.mp hb]
                rintro rfl
                exact hfresh.2 ha
              have hrest := ih hdistinct ((hr.right 1).right x.items) hreadable'.2.2
              rw [List.append_assoc] at hrest
              exact hrest
      rw [Reader.past_past, Reader.past_past, List.append_assoc] at hsettles
      refine hsettles.congr ?_
      have hpos := height_pos x
      simp only [Readable, unmarked_key, keyed_key, height_key, items_key, true_and, Reader.past_items, Assignable,
        unmarkedEntries, List.forall_mem_cons, List.map_append, List.map_cons, List.map_nil, List.append_assoc,
        List.cons_append, List.nil_append, heightEntries, itemsEntries, Nat.max_le, allowed_iff k.unmarked]
      constructor
      · rintro ⟨-, hdistinguished, ⟨hpollutes, -⟩, ⟨hkeyed, hheight, -⟩, ⟨hallowed, hnodup, hkeyeds⟩, hheights, hitems⟩
        exact ⟨⟨⟨⟨hdistinguished, hpollutes⟩, hallowed⟩, hnodup, hkeyed, hkeyeds⟩, ⟨hheight, hheights⟩, by omega⟩
      · rintro ⟨⟨⟨⟨hdistinguished, hpollutes⟩, hallowed⟩, hnodup, hkeyed, hkeyeds⟩, ⟨hheight, hheights⟩, hitems⟩
        have hfresh : k.unmarked.name ∉ out.map Prod.fst := fun hmem =>
          (List.nodup_append.mp hnodup).2.2 _ hmem _ (List.mem_cons_self ..) rfl
        exact ⟨⟨by omega, by omega⟩, hdistinguished, ⟨hpollutes, hfresh⟩, ⟨hkeyed, hheight, by omega⟩,
          ⟨hallowed, hnodup, hkeyeds⟩, hheights, by omega⟩

theorem mem_unmarkedAll {xs : List CborData} {P : CborData → Prop} :
    (∀ x ∈ unmarkedAll xs, P x) ↔ ∀ x ∈ xs, P (unmarked x) := by
  induction xs with
  | nil => simp [unmarkedAll]
  | cons x xs ih => rw [unmarkedAll, List.forall_mem_cons, List.forall_mem_cons, ih]

/-- The entries of a map as it is read. -/
theorem assignable_nil_iff (es : List (CborKey × CborData)) :
    Assignable [] es ↔ Keyed CborKey.Allowed (unmarked (.object es)) := by
  rw [unmarked, keyed_object_iff, Assignable, List.map_nil, List.nil_append]
  constructor
  · rintro ⟨hallowed, hnodup, hkeyed⟩
    exact ⟨(names_nodup_iff hallowed).mp hnodup, hallowed, hkeyed⟩
  · rintro ⟨hnodup, hallowed, hkeyed⟩
    exact ⟨hallowed, (names_nodup_iff hallowed).mpr hnodup, hkeyed⟩

/-! ### Items -/

/-- An item with a head: the item is counted, the head read, and then comes what follows the head. -/
theorem decodeItem_of_head (levels : Nat) {Q : Prop} {v : CborValue} {r r'' : Reader} {major n : Nat} {h : Bytes}
    {k : Nat → ReaderM CborValue} (hmajor : major < 8)
    (hbody : ∀ info, decodeBody (decodeItem levels) major info = readLength info >>= k) (hhead : IsHead major n h)
    (hr : r.Holds h) (hrest : r.items + 1 ≤ MAX_ITEMS → Settles Q v r'' (k n (r.past h 1))) :
    Settles (r.items + 1 ≤ MAX_ITEMS ∧ Q) v r'' (decodeItem (levels + 1) r) := by
  obtain ⟨b, info, arg, rfl, hb, hinfo, hread⟩ := isHead_cases hmajor hhead
  have hholds : r.Holds ([b] ++ arg) := hr
  have hcounted : (r.past [] 1).Holds ([b] ++ arg) := hholds.counted 1
  have hinitial : u8 (r.past [] 1) = .ok b.toNat (r.past [b] 1) := u8_holds hcounted.left
  have harg : readLength info (r.past [b] 1) = .ok n (r.past ([b] ++ arg) 1) := by
    rw [hread _ (hholds.right 1), Reader.past_past]
  have hmod : b.toNat % 0x20 = info := by omega
  have hdiv : b.toNat / 0x20 = major := by omega
  have hnot : ¬ info = 31 := by omega
  refine (countItem_settles r).bind fun hle => ?_
  have hrun : (do
      let initial ← u8
      if initial % 0x20 = 31 then throw (js "CBOR: indefinite lengths are refused")
      decodeBody (decodeItem levels) (initial / 0x20) (initial % 0x20) : ReaderM CborValue) (r.past [] 1)
      = k n (r.past ([b] ++ arg) 1) := by
    simp only [Bind.bind, EStateM.bind, hinitial, hmod, hdiv, if_neg hnot, hbody]
    simp only [harg]
  rw [hrun]
  exact hrest hle

/-- An item without a head: its initial byte is all of it. -/
theorem decodeItem_of_simple {v : CborValue} {r : Reader} {b : UInt8} (hb : b.toNat % 0x20 ≠ 31)
    (hbody : decodeBody (decodeItem levels) (b.toNat / 0x20) (b.toNat % 0x20) = pure v) (hr : r.Holds [b]) :
    Settles (r.items + 1 ≤ MAX_ITEMS ∧ True) v (r.past [b] 1) (decodeItem (levels + 1) r) := by
  have hcounted : (r.past [] 1).Holds [b] := hr.counted 1
  refine (countItem_settles r).bind fun _ => .ok trivial ?_
  simp only [Bind.bind, EStateM.bind, u8_holds hcounted, if_neg hb, hbody]
  rfl

/-- An item without parts is read where it can be counted. -/
theorem readable_leaf_iff {r : Reader} {d : CborData} (hkeyed : Keyed CborKey.Allowed (unmarked d))
    (hheight : d.height = 1) (hitems : d.items = 1) :
    r.items + 1 ≤ MAX_ITEMS ∧ True ↔ Readable (levels + 1) r d := by
  rw [Readable, hheight, hitems]
  constructor
  · rintro ⟨hle, -⟩
    exact ⟨hkeyed, by omega, hle⟩
  · rintro ⟨-, -, hle⟩
    exact ⟨hle, trivial⟩

/-- On the encoding of an item the decoder reads the item less its byte order marks, where that is readable, and throws
    elsewhere. -/
theorem decodeItem_settles (levels : Nat) : Decodes levels (decodeItem levels) := by
  induction levels with
  | zero =>
      intro d bs r _ _ _
      have hpos := height_pos d
      have hnot : ¬ Readable 0 r d := fun h => by
        have hle := h.2.1
        omega
      exact .error hnot (e := js "CBOR: nesting too deep") (s := r) rfl
  | succ levels ih =>
      intro d bs r hd hr hcount
      cases hd with
      | @nonneg n _ hhead =>
          have hsettles : Settles _ _ (r.past bs 1) _ :=
            decodeItem_of_head levels (k := fun n => pure (.number n)) (Q := True) (by decide)
              (fun _ => rfl) hhead hr fun _ => .ok trivial rfl
          exact hsettles.congr (readable_leaf_iff .number rfl rfl)
      | @negative n _ hhead =>
          have hsettles : Settles _ _ (r.past bs 1) _ :=
            decodeItem_of_head levels (k := fun n => pure (.number (-1 - n))) (Q := True) (by decide)
              (fun _ => rfl) hhead hr fun _ => .ok trivial rfl
          exact hsettles.congr (readable_leaf_iff .number rfl rfl)
      | @bytes bs h hhead =>
          have htake : take bs.length (r.past h 1) = .ok bs (r.past (h ++ bs) 1) := by
            rw [take_holds (hr.right 1), Reader.past_past]
          have hsettles : Settles _ _ (r.past (h ++ bs) 1) _ :=
            decodeItem_of_head levels (k := fun n => do let raw ← take n; return .bytes raw) (Q := True)
              (v := .bytes bs) (by decide) (fun _ => rfl) hhead hr.left fun _ => .ok trivial (by
                simp only [Bind.bind, EStateM.bind, htake]
                rfl)
          exact hsettles.congr (readable_leaf_iff .bytes rfl rfl)
      | @string s h hwell hhead =>
          have htake :
            take (Utf8.encode s).length (r.past h 1) = .ok (Utf8.encode s) (r.past (h ++ Utf8.encode s) 1) := by
            rw [take_holds (hr.right 1), Reader.past_past]
          have hsettles : Settles _ _ (r.past (h ++ Utf8.encode s) 1) _ :=
            decodeItem_of_head levels (k := fun n => do let raw ← take n; decodeText raw) (Q := True)
              (v := .string (dropMark s)) (by decide) (fun _ => rfl) hhead hr.left fun _ => .ok trivial (by
                simp only [Bind.bind, EStateM.bind, htake, decodeText, textDecode_encode hwell]
                rfl)
          exact hsettles.congr (readable_leaf_iff .string rfl rfl)
      | @array xs h body hhead hxs =>
          have hsettles :=
            decodeItem_of_head levels (k := fun n => do let vs ← decodeElements (decodeItem levels) n; return .array vs)
              (v := .array (toValues (unmarkedAll xs))) (by decide) (fun _ => rfl) hhead hr.left
              fun hle => (decodeElements_settles ih hxs (hr.right 1) hle).bind fun _ => .ok (P := True) trivial rfl
          rw [Reader.past_past] at hsettles
          simp only [unmarked, toValue, items]
          rw [Nat.add_comm (itemsAll xs) 1]
          refine hsettles.congr ?_
          simp only [Readable, unmarked, keyed_array_iff, mem_unmarkedAll, height, items, Reader.past_items, and_true]
          constructor
          · rintro ⟨-, hkeyed, hheight, hitems⟩
            exact ⟨hkeyed, by omega, by omega⟩
          · rintro ⟨hkeyed, hheight, hitems⟩
            exact ⟨by omega, hkeyed, by omega, by omega⟩
      | @object es h body hhead hes =>
          have hnil : (([] : List (JsString × CborValue)).map Prod.fst).Nodup := List.nodup_nil
          have hsettles :=
            decodeItem_of_head levels
              (k := fun n => do let out ← decodeEntries (decodeItem levels) [] n; return .object (Json.ofEntries out))
              (v := .object (Json.ofEntries (toProperties (unmarkedEntries es)))) (by decide)
              (fun _ => rfl) hhead hr.left fun hle =>
                (decodeEntries_settles ih hes hnil (hr.right 1) hle).bind fun _ => .ok (P := True) trivial rfl
          rw [Reader.past_past] at hsettles
          simp only [unmarked, toValue, items]
          rw [Nat.add_comm (itemsEntries es) 1]
          refine hsettles.congr ?_
          simp only [Readable, assignable_nil_iff, height, items, Reader.past_items, and_true]
          constructor
          · rintro ⟨-, hkeyed, hheight, hitems⟩
            exact ⟨hkeyed, by omega, by omega⟩
          · rintro ⟨hkeyed, hheight, hitems⟩
            exact ⟨by omega, hkeyed, by omega, by omega⟩
      | @bool b =>
          cases b with
          | false => exact (decodeItem_of_simple (by decide) rfl hr).congr (readable_leaf_iff .bool rfl rfl)
          | true => exact (decodeItem_of_simple (by decide) rfl hr).congr (readable_leaf_iff .bool rfl rfl)
      | null => exact (decodeItem_of_simple (by decide) rfl hr).congr (readable_leaf_iff .null rfl rfl)

/-! ### What is read -/

/-- Whatever is decoded stands there as the encoding of an item. -/
def Recognises (item : ReaderM CborValue) : Prop :=
  ∀ {r v r'}, r.offset ≤ r.bytes.length → r.items ≤ MAX_ITEMS → item r = .ok v r' →
    ∃ d bs, Encodes d bs ∧ r.Holds bs

/-- What is decoded is the item that stands there. -/
theorem Decodes.of_ok (hdecodes : Decodes levels item) (hrecognises : Recognises item) {r r' : Reader} {v : CborValue}
    (hinside : r.offset ≤ r.bytes.length) (hcount : r.items ≤ MAX_ITEMS) (h : item r = .ok v r') :
    ∃ d bs, Encodes d bs ∧ r.Holds bs ∧ Readable levels r d ∧ v = toValue (unmarked d) ∧ r' = r.past bs d.items := by
  obtain ⟨d, bs, hd, hr⟩ := hrecognises hinside hcount h
  have hsettles := hdecodes hd hr hcount
  rw [h] at hsettles
  obtain ⟨hreadable, hv, hr'⟩ := hsettles.of_ok
  exact ⟨d, bs, hd, hr, hreadable, hv, hr'⟩

theorem decodeElements_encodes (hdecodes : Decodes levels item) (hrecognises : Recognises item) {count : Nat}
    {r r' : Reader} {vs : List CborValue} (hinside : r.offset ≤ r.bytes.length) (hcount : r.items ≤ MAX_ITEMS)
    (h : decodeElements item count r = .ok vs r') :
    ∃ xs body, xs.length = count ∧ Concat Encodes xs body ∧ r.Holds body := by
  induction count generalizing r r' vs with
  | zero => exact ⟨[], [], rfl, .nil, ⟨hinside, List.nil_prefix⟩⟩
  | succ count ih =>
      obtain ⟨v, r₁, hitem, hrest⟩ := bind_ok h
      obtain ⟨x, bs, hx, hr, hreadable, -, rfl⟩ := hdecodes.of_ok hrecognises hinside hcount hitem
      obtain ⟨ws, r₂, helements, -⟩ := bind_ok hrest
      obtain ⟨xs, body, hlength, hxs, hbody⟩ := ih hr.length_le hreadable.2.2 helements
      exact ⟨x :: xs, bs ++ body, by rw [List.length_cons, hlength], .cons hx hxs, hr.append hbody⟩

/-- A value that names a property was read from a key. -/
theorem exists_key_of_keyName {d : CborData} {r r' : Reader} {name : JsString}
    (h : keyName (toValue (unmarked d)) r = .ok name r') : ∃ k : CborKey, d = k.data ∧ r' = r := by
  have hkeeps : ∀ v, keyName v r = .ok name r' → r' = r := by
    intro v hv
    unfold keyName at hv
    split at hv
    · split at hv
      · cases hv
      · cases hv
        rfl
    · split at hv
      · cases hv
        rfl
      · cases hv
    · cases hv
  have hr := hkeeps _ h
  cases d with
  | number z => exact ⟨.int z, rfl, hr⟩
  | string s => exact ⟨.text s, rfl, hr⟩
  | bytes bs => cases h
  | bool b => cases h
  | null => cases h
  | array xs => cases h
  | object es => cases h

theorem decodeEntries_encodes (hdecodes : Decodes levels item) (hrecognises : Recognises item) {count : Nat}
    {r r' : Reader} {out out' : List (JsString × CborValue)} (hinside : r.offset ≤ r.bytes.length)
    (hcount : r.items ≤ MAX_ITEMS) (h : decodeEntries item out count r = .ok out' r') :
    ∃ es body, es.length = count ∧ ConcatEntries Encodes es body ∧ r.Holds body := by
  induction count generalizing r r' out with
  | zero => exact ⟨[], [], rfl, .nil, ⟨hinside, List.nil_prefix⟩⟩
  | succ count ih =>
      obtain ⟨v, r₁, hitem, hrest⟩ := bind_ok h
      obtain ⟨d, key, hd, hr, hreadable, rfl, rfl⟩ := hdecodes.of_ok hrecognises hinside hcount hitem
      obtain ⟨name, r₂, hname, hrest⟩ := bind_ok hrest
      obtain ⟨k, rfl, rfl⟩ := exists_key_of_keyName hname
      obtain ⟨_, r₃, hfresh, hrest⟩ := bind_ok hrest
      have hsettles := freshName_settles name out (r.past key k.data.items)
      rw [hfresh] at hsettles
      obtain ⟨-, -, rfl⟩ := hsettles.of_ok
      obtain ⟨v, r₄, hvalue, hrest⟩ := bind_ok hrest
      obtain ⟨x, bs, hx, hr₁, hreadable', rfl, rfl⟩ :=
        hdecodes.of_ok hrecognises hr.length_le hreadable.2.2 hvalue
      obtain ⟨es, body, hlength, hes, hbody⟩ := ih hr₁.length_le hreadable'.2.2 hrest
      exact ⟨(k, x) :: es, key ++ (bs ++ body), by rw [List.length_cons, hlength], .cons hd hx hes,
        hr.append (hr₁.append hbody)⟩

theorem initial_eq {b c : UInt8} (hdiv : b.toNat / 0x20 = c.toNat / 0x20) (hmod : b.toNat % 0x20 = c.toNat % 0x20) :
    b = c := by
  apply UInt8.toNat_inj.mp
  omega

/-- What follows the initial byte is the rest of the encoding of an item. -/
theorem decodeBody_encodes (hdecodes : Decodes levels item) (hrecognises : Recognises item) {b : UInt8}
    {r r' : Reader} {v : CborValue} (hinside : r.offset ≤ r.bytes.length) (hcount : r.items ≤ MAX_ITEMS)
    (h : decodeBody item (b.toNat / 0x20) (b.toNat % 0x20) r = .ok v r') :
    ∃ d bs, Encodes d (b :: bs) ∧ r.Holds bs := by
  have hhead : ∀ {k : Nat → ReaderM CborValue},
      (readLength (b.toNat % 0x20) >>= k) r = .ok v r' →
      ∃ n arg, IsHead (b.toNat / 0x20) n (b :: arg) ∧ r.Holds arg ∧ k n (r.past arg 0) = .ok v r' := by
    intro k hk
    obtain ⟨n, r₁, hlength, hrest⟩ := bind_ok hk
    obtain ⟨arg, hhead, hr, rfl⟩ := isHead_of_readLength hinside hlength
    exact ⟨n, arg, hhead, hr, hrest⟩
  generalize hmajor : b.toNat / 0x20 = major at h hhead
  unfold decodeBody at h
  split at h
  · obtain ⟨n, arg, hn, hr, -⟩ := hhead h
    exact ⟨.number n, arg, .nonneg hn, hr⟩
  · obtain ⟨n, arg, hn, hr, -⟩ := hhead h
    exact ⟨.number (-1 - n), arg, .negative hn, hr⟩
  · obtain ⟨n, arg, hn, hr, hrest⟩ := hhead h
    obtain ⟨raw, r₁, htake, -⟩ := bind_ok hrest
    obtain ⟨rfl, hraw, -⟩ := take_ok hr.length_le htake
    exact ⟨.bytes raw, arg ++ raw, .bytes hn, hr.append hraw⟩
  · obtain ⟨n, arg, hn, hr, hrest⟩ := hhead h
    obtain ⟨raw, r₁, htake, htext⟩ := bind_ok hrest
    obtain ⟨rfl, hraw, -⟩ := take_ok hr.length_le htake
    cases hs : textDecode raw with
    | some s =>
        obtain ⟨t, hwell, rfl, -⟩ := textDecode_iff.mp hs
        exact ⟨.string t, arg ++ Utf8.encode t, .string hwell hn, hr.append hraw⟩
    | none =>
        rw [decodeText, hs] at htext
        cases htext
  · obtain ⟨n, arg, hn, hr, hrest⟩ := hhead h
    obtain ⟨vs, r₁, helements, -⟩ := bind_ok hrest
    obtain ⟨xs, body, rfl, hxs, hbody⟩ :=
      decodeElements_encodes (r := r.past arg 0) hdecodes hrecognises hr.length_le hcount
      helements
    exact ⟨.array xs, arg ++ body, .array hn hxs, hr.append hbody⟩
  · obtain ⟨n, arg, hn, hr, hrest⟩ := hhead h
    obtain ⟨out, r₁, hentries, -⟩ := bind_ok hrest
    obtain ⟨es, body, rfl, hes, hbody⟩ :=
      decodeEntries_encodes (r := r.past arg 0) hdecodes hrecognises hr.length_le hcount
      hentries
    exact ⟨.object es, arg ++ body, .object hn hes, hr.append hbody⟩
  · have hnothing : r.Holds [] := ⟨hinside, List.nil_prefix⟩
    split at h
    · rename_i hinfo
      obtain rfl : b = 0xF4 := initial_eq hmajor hinfo
      exact ⟨.bool false, [], .bool, hnothing⟩
    · split at h
      · rename_i hinfo
        obtain rfl : b = 0xF5 := initial_eq hmajor hinfo
        exact ⟨.bool true, [], .bool, hnothing⟩
      · split at h
        · rename_i hinfo
          obtain rfl : b = 0xF6 := initial_eq hmajor hinfo
          exact ⟨.null, [], .null, hnothing⟩
        · cases h
  · cases h

/-- Only the encoding of an item is decoded. -/
theorem decodeItem_recognises (levels : Nat) : Recognises (decodeItem levels) := by
  induction levels with
  | zero =>
      intro r v r' _ _ h
      cases h
  | succ levels ih =>
      intro r v r' hinside hcount h
      obtain ⟨_, r₁, hitem, hrest⟩ := bind_ok h
      have hsettles := countItem_settles r
      rw [hitem] at hsettles
      obtain ⟨hle, -, rfl⟩ := hsettles.of_ok
      obtain ⟨n, r₂, hinitial, hrest⟩ := bind_ok hrest
      obtain ⟨b, rfl, hb, rfl⟩ := u8_ok (r := r.past [] 1) hinside hinitial
      split at hrest
      · cases hrest
      · obtain ⟨d, bs, hd, hr⟩ := decodeBody_encodes (decodeItem_settles levels) ih hb.length_le hle hrest
        rw [Reader.past_past] at hr
        have hinitial : r.Holds [b] := ⟨hb.inside, hb.next⟩
        exact ⟨d, b :: bs, hd, hinitial.append hr⟩

end Cbor

end OwnerSwitch
