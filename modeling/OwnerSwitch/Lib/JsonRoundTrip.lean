/-
Module: OwnerSwitch.Lib.JsonRoundTrip
Layer: Lib
Purpose: The parser reads back every value the writer writes, compact or indented, and reads nothing
  that is an object from the octets of a written object cut off before their end. The second rests on
  two facts about the parser alone: what it read stays read when more text follows (`parseValue_append`)
  and what it leaves is a suffix of what it was given (`parseValue_suffix`).
Imports: JsonLex
Trusted boundary: none
Main exports: parse_render, stringify_injective, wellFormed_render, parse_torn_object
Open obligations: none
-/
import Mathlib.Data.List.DropRight
import OwnerSwitch.Lib.JsonLex

namespace Json

/-! ### Size -/

mutual

/-- Nesting the parser must be allowed to read a value. -/
def size : Json → Nat
  | .arr xs => 1 + sizeElems xs
  | .obj fs => 1 + sizeMembers fs
  | _ => 1

def sizeElems : List Json → Nat
  | [] => 0
  | x :: xs => 1 + size x + sizeElems xs

def sizeMembers : List (JsString × Json) → Nat
  | [] => 0
  | (_, x) :: fs => 1 + size x + sizeMembers fs

end

theorem length_numText (d : Decimal) : 1 ≤ (numText d).length := by
  have hne := List.length_pos_iff.mpr (natText_ne_nil (d.mant.natAbs / 10 ^ d.places))
  rw [numText, List.length_append]
  apply Nat.le_add_left_of_le
  split
  · rw [plainText, List.length_append]
    omega
  · rw [exponentText, List.length_append, List.length_cons]
    omega

mutual

/-- The text of a value is as long as the value has parts. -/
theorem size_le_length (gap ind : Nat) : ∀ v : Json, size v ≤ (render gap ind v).length
  | .null => by simp [size, render, js, utf16]
  | .bool true => by simp [size, render, js, utf16]
  | .bool false => by simp [size, render, js, utf16]
  | .num d => by simpa [size, render] using length_numText d
  | .str s => by simp [size, render, quote]
  | .arr [] => by simp [size, sizeElems, render]
  | .arr (x :: xs) => by
      have hx := size_le_length gap (ind + gap) x
      have hxs := sizeElems_le_length gap (ind + gap) xs
      simp only [size, sizeElems, render, List.length_cons, List.length_append]
      omega
  | .obj [] => by simp [size, sizeMembers, render]
  | .obj ((k, x) :: fs) => by
      have hx := size_le_length gap (ind + gap) x
      have hfs := sizeMembers_le_length gap (ind + gap) fs
      simp only [size, sizeMembers, render, List.length_cons, List.length_append]
      omega

theorem sizeElems_le_length (gap ind : Nat) :
    ∀ xs : List Json, sizeElems xs ≤ (renderElems gap ind xs).length
  | [] => by simp [sizeElems]
  | x :: xs => by
      have hx := size_le_length gap ind x
      have hxs := sizeElems_le_length gap ind xs
      simp only [sizeElems, renderElems, List.length_cons, List.length_append]
      omega

theorem sizeMembers_le_length (gap ind : Nat) :
    ∀ fs : List (JsString × Json), sizeMembers fs ≤ (renderMembers gap ind fs).length
  | [] => by simp [sizeMembers]
  | (k, x) :: fs => by
      have hx := size_le_length gap ind x
      have hfs := sizeMembers_le_length gap ind fs
      simp only [sizeMembers, renderMembers, List.length_cons, List.length_append]
      omega

end

/-! ### White space -/

theorem skipWs_cons {c : UInt16} (h : isWs c = false) (t : JsString) : skipWs (c :: t) = c :: t := by
  simp [skipWs, h]

theorem skipWs_newline (gap ind : Nat) (s : JsString) : skipWs (newline gap ind ++ s) = skipWs s := by
  refine List.dropWhile_append_of_pos fun u hu => ?_
  unfold newline at hu
  split at hu
  · simp at hu
  · rcases List.mem_cons.mp hu with rfl | hu
    · rfl
    · rw [(List.mem_replicate.mp hu).2]
      rfl

theorem skipWs_colon (gap : Nat) (s : JsString) :
    ∃ t, skipWs (colon gap ++ s) = 0x3A :: t ∧ skipWs t = skipWs s := by
  unfold colon
  split
  · exact ⟨s, rfl, rfl⟩
  · exact ⟨0x20 :: s, rfl, rfl⟩

/-- A parser sees its text only from the first character that is not blank. -/
theorem parseValue_congr {n : Nat} {s t : JsString} (h : skipWs s = skipWs t) :
    parseValue n s = parseValue n t := by
  cases n with
  | zero => rw [parseValue, parseValue]
  | succ n => rw [parseValue, parseValue, h]

theorem parseElems_congr {n : Nat} {s t : JsString} (h : skipWs s = skipWs t) :
    parseElems n s = parseElems n t := by
  cases n with
  | zero => rw [parseElems, parseElems]
  | succ n => rw [parseElems, parseElems, parseValue_congr h]

theorem parseMembers_congr {n : Nat} {s t : JsString} (h : skipWs s = skipWs t) :
    parseMembers n s = parseMembers n t := by
  cases n with
  | zero => rw [parseMembers, parseMembers]
  | succ n => rw [parseMembers, parseMembers, h]

/-! ### One step of each parser -/

/-- The items of an array are one item, then the end or a comma and more items. -/
theorem parseElems_succ_iff {n : Nat} {s w : JsString} {xs : List Json} :
    parseElems (n + 1) s = some (xs, w) ↔
      ∃ x r, parseValue n s = some (x, r) ∧
        ((skipWs r = 0x5D :: w ∧ xs = [x]) ∨
          ∃ u ys, skipWs r = 0x2C :: u ∧ parseElems n u = some (ys, w) ∧ xs = x :: ys) := by
  rw [parseElems, Option.bind_eq_some_iff]
  constructor
  · rintro ⟨⟨x, r⟩, hx, h⟩
    refine ⟨x, r, hx, ?_⟩
    simp only at h
    split at h
    · obtain ⟨rfl, rfl⟩ := Prod.mk.inj (Option.some.inj h)
      exact .inl ⟨‹_›, rfl⟩
    · obtain ⟨⟨ys, w'⟩, hys, h⟩ := Option.map_eq_some_iff.mp h
      obtain ⟨rfl, rfl⟩ := Prod.mk.inj h
      exact .inr ⟨_, ys, ‹_›, hys, rfl⟩
    · exact absurd h (by simp)
  · rintro ⟨x, r, hx, ⟨hr, rfl⟩ | ⟨u, ys, hr, hys, rfl⟩⟩
    · exact ⟨(x, r), hx, by simp [hr]⟩
    · exact ⟨(x, r), hx, by simp [hr, hys]⟩

/-- The properties of an object are one name and value, then the end or a comma and more properties. -/
theorem parseMembers_succ_iff {n : Nat} {s w : JsString} {fs : List (JsString × Json)} :
    parseMembers (n + 1) s = some (fs, w) ↔
      ∃ t k r u x r', skipWs s = 0x22 :: t ∧ parseChars t = some (k, r) ∧ skipWs r = 0x3A :: u ∧
        parseValue n u = some (x, r') ∧
        ((skipWs r' = 0x7D :: w ∧ fs = [(k, x)]) ∨
          ∃ v gs, skipWs r' = 0x2C :: v ∧ parseMembers n v = some (gs, w) ∧ fs = (k, x) :: gs) := by
  rw [parseMembers]
  constructor
  · intro h
    split at h
    · obtain ⟨⟨k, r⟩, hk, h⟩ := Option.bind_eq_some_iff.mp h
      simp only at h
      split at h
      · obtain ⟨⟨x, r'⟩, hx, h⟩ := Option.bind_eq_some_iff.mp h
        refine ⟨_, k, r, _, x, r', ‹_›, hk, ‹_›, hx, ?_⟩
        simp only at h
        split at h
        · obtain ⟨rfl, rfl⟩ := Prod.mk.inj (Option.some.inj h)
          exact .inl ⟨‹_›, rfl⟩
        · obtain ⟨⟨gs, w'⟩, hgs, h⟩ := Option.map_eq_some_iff.mp h
          obtain ⟨rfl, rfl⟩ := Prod.mk.inj h
          exact .inr ⟨_, gs, ‹_›, hgs, rfl⟩
        · exact absurd h (by simp)
      · exact absurd h (by simp)
    · exact absurd h (by simp)
  · rintro ⟨t, k, r, u, x, r', hs, hk, hr, hx, ⟨hr', rfl⟩ | ⟨v, gs, hr', hgs, rfl⟩⟩
    · simp [hs, hk, hr, hx, hr']
    · simp [hs, hk, hr, hx, hr', hgs]

/-- A bracket that is not closed at once opens the items of an array. -/
theorem parseValue_arr {n : Nat} {s t r : JsString} {xs : List Json} (hs : skipWs s = 0x5B :: t)
    (ht : ∀ u, skipWs t ≠ 0x5D :: u) (hxs : parseElems n (skipWs t) = some (xs, r)) :
    parseValue (n + 1) s = some (.arr xs, r) := by
  rw [parseValue, hs]
  simp [hxs]

/-- A brace that is not closed at once opens the properties of an object. -/
theorem parseValue_obj {n : Nat} {s t r : JsString} {fs : List (JsString × Json)}
    (hs : skipWs s = 0x7B :: t) (ht : ∀ u, skipWs t ≠ 0x7D :: u)
    (hfs : parseMembers n (skipWs t) = some (fs, r)) :
    parseValue (n + 1) s = some (.obj (ofEntries fs), r) := by
  rw [parseValue, hs]
  simp [hfs]

/-! ### Reading back what was written -/

/-- What may follow a numeral. -/
def NumEnd (r : JsString) : Prop :=
  ∀ c ∈ r.head?, isNumUnit c = false

theorem numEnd_cons {c : UInt16} (h : isNumUnit c = false) (r : JsString) : NumEnd (c :: r) := by
  simpa [NumEnd] using h

theorem numEnd_newline {gap ind : Nat} {c : UInt16} (h : isNumUnit c = false) (r : JsString) :
    NumEnd (newline gap ind ++ c :: r) := by
  unfold newline
  split
  · exact numEnd_cons h r
  · exact numEnd_cons rfl _

/-- A literal is read off the front of a text. -/
theorem dropLit_append (lit r : JsString) : dropLit lit (lit ++ r) = some r := by
  induction lit with
  | nil => simp [dropLit]
  | cons c lit ih => simp [dropLit, ih]

/-- A written number is read up to what ends it. -/
theorem parseValue_numText (n : Nat) (d : Decimal) {r : JsString} (hr : NumEnd r) :
    parseValue (n + 1) (numText d ++ r) = some (.num d, r) := by
  obtain ⟨c, t, hct⟩ := List.exists_cons_of_length_pos (length_numText d)
  have hc : isNumUnit c = true := numText_units (d := d) (by simp [hct])
  have hne : ∀ u, isNumUnit u = false → c ≠ u := by
    rintro u hu rfl
    simp [hu] at hc
  have hws : isWs c = false := by
    simp [isWs, hne 0x20 rfl, hne 0x09 rfl, hne 0x0A rfl, hne 0x0D rfl]
  have htake : ((c :: t) ++ r).takeWhile isNumUnit = numText d := by
    rw [← hct]; exact takeWhile_append_stop (fun _ hu => numText_units hu) hr
  have hdrop : ((c :: t) ++ r).dropWhile isNumUnit = r := by
    rw [← hct]; exact dropWhile_append_stop (fun _ hu => numText_units hu) hr
  rw [hct, parseValue, List.cons_append, skipWs_cons hws]
  simp only [hne 0x7B rfl, hne 0x5B rfl, hne 0x22 rfl, hne 0x6E rfl, hne 0x74 rfl, hne 0x66 rfl, if_false]
  rw [← List.cons_append, htake, hdrop, readNumber_numText]
  rfl

/-- A value's text starts with a unit that is neither white space nor a closing bracket. -/
theorem render_head (gap ind : Nat) (v : Json) :
    ∃ c t, render gap ind v = c :: t ∧ isWs c = false ∧ c ≠ 0x5D := by
  cases v with
  | null => exact ⟨_, _, rfl, rfl, by decide⟩
  | bool b => cases b <;> exact ⟨_, _, rfl, rfl, by decide⟩
  | num d =>
      obtain ⟨c, t, hct⟩ := List.exists_cons_of_length_pos (length_numText d)
      have hc : isNumUnit c = true := numText_units (d := d) (by simp [hct])
      have hne : ∀ u, isNumUnit u = false → c ≠ u := by
        rintro u hu rfl
        simp [hu] at hc
      exact ⟨c, t, hct, by simp [isWs, hne 0x20 rfl, hne 0x09 rfl, hne 0x0A rfl, hne 0x0D rfl],
        hne _ rfl⟩
  | str s => exact ⟨_, _, rfl, rfl, by decide⟩
  | arr xs => cases xs <;> exact ⟨_, _, rfl, rfl, by decide⟩
  | obj fs => cases fs <;> exact ⟨_, _, rfl, rfl, by decide⟩

/-! ### What is read back -/

mutual

/-- The value a parser makes of a written one: the properties of each object are assigned one after the other. -/
def tidy : Json → Json
  | .arr xs => .arr (tidyElems xs)
  | .obj fs => .obj (ofEntries (tidyMembers fs))
  | v => v

def tidyElems : List Json → List Json
  | [] => []
  | x :: xs => tidy x :: tidyElems xs

def tidyMembers : List (JsString × Json) → List (JsString × Json)
  | [] => []
  | (k, x) :: fs => (k, tidy x) :: tidyMembers fs

end

/-- Items that are tidy already stay as they are. -/
theorem tidyElems_eq {xs : List Json} (h : ∀ x ∈ xs, tidy x = x) : tidyElems xs = xs := by
  induction xs with
  | nil => rfl
  | cons x xs ih =>
      rw [List.forall_mem_cons] at h
      rw [tidyElems, h.1, ih h.2]

theorem tidyMembers_eq {fs : List (JsString × Json)} (h : ∀ f ∈ fs, tidy f.2 = f.2) : tidyMembers fs = fs := by
  induction fs with
  | nil => rfl
  | cons f fs ih =>
      rw [List.forall_mem_cons] at h
      rw [tidyMembers, h.1, ih h.2]

/-- A normal value is read back as it is. -/
theorem tidy_of_normal {v : Json} (h : Normal v) : tidy v = v := by
  induction h with
  | null => rfl
  | bool => rfl
  | num => rfl
  | str => rfl
  | arr _ ih => rw [tidy, tidyElems_eq ih]
  | obj hord _ ih => rw [tidy, tidyMembers_eq ih, hord]

/-- The induction is on the nesting allowed; the three parts follow the three mutual parsers. -/
theorem parse_render_aux (gap n : Nat) :
    (∀ v ind r, size v ≤ n → NumEnd r → parseValue n (render gap ind v ++ r) = some (tidy v, r)) ∧
    (∀ x xs ind ind' r, sizeElems (x :: xs) ≤ n →
      parseElems n (render gap ind x ++ renderElems gap ind xs ++ newline gap ind' ++ 0x5D :: r)
        = some (tidyElems (x :: xs), r)) ∧
    (∀ k x fs ind ind' r, sizeMembers ((k, x) :: fs) ≤ n →
      parseMembers n (quote k ++ colon gap ++ render gap ind x ++ renderMembers gap ind fs
        ++ newline gap ind' ++ 0x7D :: r) = some (tidyMembers ((k, x) :: fs), r)) := by
  induction n with
  | zero =>
      refine ⟨?_, ?_, ?_⟩
      · intro v ind r hv
        cases v <;> simp [size] at hv
      · intro x xs ind ind' r hx
        simp [sizeElems] at hx
      · intro k x fs ind ind' r hx
        simp [sizeMembers] at hx
  | succ n ih =>
      obtain ⟨ihv, ihe, ihm⟩ := ih
      refine ⟨?_, ?_, ?_⟩
      · intro v ind r hv hr
        cases v with
        | null =>
            have hlit : parseValue (n + 1) (0x6E :: (js "ull" ++ r)) = some (.null, r) := by
              rw [parseValue, skipWs_cons rfl]
              simp [dropLit_append]
            exact hlit
        | bool b =>
            cases b with
            | true =>
                have hlit : parseValue (n + 1) (0x74 :: (js "rue" ++ r)) = some (.bool true, r) := by
                  rw [parseValue, skipWs_cons rfl]
                  simp [dropLit_append]
                exact hlit
            | false =>
                have hlit : parseValue (n + 1) (0x66 :: (js "alse" ++ r)) = some (.bool false, r) := by
                  rw [parseValue, skipWs_cons rfl]
                  simp [dropLit_append]
                exact hlit
        | num d =>
            rw [render]
            exact parseValue_numText n d hr
        | str s =>
            rw [render, quote, List.cons_append, parseValue, skipWs_cons rfl]
            simp [parseChars_quoteUnits, tidy]
        | arr xs =>
            cases xs with
            | nil => rw [render, parseValue]; rfl
            | cons x xs =>
                obtain ⟨c, t, hct, hws, hc⟩ := render_head gap (ind + gap) x
                have hskip : skipWs (newline gap (ind + gap) ++ render gap (ind + gap) x
                    ++ renderElems gap (ind + gap) xs ++ newline gap ind ++ 0x5D :: r)
                    = render gap (ind + gap) x ++ renderElems gap (ind + gap) xs ++ newline gap ind
                      ++ 0x5D :: r := by
                  simp only [List.append_assoc]
                  rw [skipWs_newline, hct, List.cons_append, skipWs_cons hws]
                have helems := ihe x xs (ind + gap) ind r (by simp only [size] at hv; omega)
                rw [render, List.cons_append, tidy]
                refine parseValue_arr (skipWs_cons rfl _) ?_ ?_
                · intro u hu
                  rw [show ∀ a b : JsString, a ++ [0x5D] ++ b = a ++ 0x5D :: b by simp, hskip, hct] at hu
                  exact hc (List.cons.inj hu).1
                · rw [show ∀ a b : JsString, a ++ [0x5D] ++ b = a ++ 0x5D :: b by simp, hskip]
                  exact helems
        | obj fs =>
            cases fs with
            | nil => rw [render, parseValue]; rfl
            | cons f fs =>
                obtain ⟨k, x⟩ := f
                have hskip : skipWs (newline gap (ind + gap) ++ quote k ++ colon gap
                    ++ render gap (ind + gap) x ++ renderMembers gap (ind + gap) fs ++ newline gap ind
                    ++ 0x7D :: r)
                    = quote k ++ colon gap ++ render gap (ind + gap) x
                      ++ renderMembers gap (ind + gap) fs ++ newline gap ind ++ 0x7D :: r := by
                  simp only [List.append_assoc]
                  rw [skipWs_newline, quote, List.cons_append, skipWs_cons rfl]
                have hmembers := ihm k x fs (ind + gap) ind r (by simp only [size] at hv; omega)
                rw [render, List.cons_append, tidy]
                refine parseValue_obj (skipWs_cons rfl _) ?_ ?_
                · intro u hu
                  rw [show ∀ a b : JsString, a ++ [0x7D] ++ b = a ++ 0x7D :: b by simp, hskip, quote] at hu
                  simp at hu
                · rw [show ∀ a b : JsString, a ++ [0x7D] ++ b = a ++ 0x7D :: b by simp, hskip]
                  exact hmembers
      · intro x xs ind ind' r hx
        simp only [sizeElems] at hx
        rw [parseElems_succ_iff]
        cases xs with
        | nil =>
            refine ⟨tidy x, newline gap ind' ++ 0x5D :: r, ?_, .inl ⟨?_, rfl⟩⟩
            · simpa [renderElems] using
                ihv x ind _ (by omega) (numEnd_newline rfl r)
            · rw [skipWs_newline, skipWs_cons rfl]
        | cons y ys =>
            have hrest := ihe y ys ind ind' r (by simp only [sizeElems] at hx ⊢; omega)
            refine ⟨tidy x, renderElems gap ind (y :: ys) ++ newline gap ind' ++ 0x5D :: r, ?_,
              .inr ⟨newline gap ind ++ render gap ind y ++ renderElems gap ind ys ++ newline gap ind'
                ++ 0x5D :: r, tidyElems (y :: ys), ?_, ?_, rfl⟩⟩
            · have hx' := ihv x ind (renderElems gap ind (y :: ys) ++ newline gap ind' ++ 0x5D :: r)
                (by omega) (numEnd_cons rfl _)
              simpa using hx'
            · rw [renderElems, List.cons_append, List.cons_append, skipWs_cons rfl]
            · rw [← hrest]
              refine parseElems_congr ?_
              simp only [List.append_assoc]
              rw [skipWs_newline]
      · intro k x fs ind ind' r hx
        simp only [sizeMembers] at hx
        rw [parseMembers_succ_iff]
        obtain ⟨u, hcolon, hu⟩ := skipWs_colon gap (render gap ind x ++ renderMembers gap ind fs
          ++ newline gap ind' ++ 0x7D :: r)
        refine ⟨quoteUnits k ++ 0x22 :: (colon gap ++ (render gap ind x ++ renderMembers gap ind fs
          ++ newline gap ind' ++ 0x7D :: r)), k, _, u, tidy x,
          renderMembers gap ind fs ++ newline gap ind' ++ 0x7D :: r, ?_,
          parseChars_quoteUnits _ _, hcolon, ?_, ?_⟩
        · simp only [quote, List.cons_append, List.append_assoc]
          rw [skipWs_cons rfl]
          simp
        · rw [parseValue_congr hu]
          have hend : NumEnd (renderMembers gap ind fs ++ newline gap ind' ++ 0x7D :: r) := by
            cases fs with
            | nil => simpa [renderMembers] using numEnd_newline rfl r
            | cons f fs => exact numEnd_cons rfl _
          simpa using ihv x ind _ (by omega) hend
        · cases fs with
          | nil =>
              refine .inl ⟨?_, rfl⟩
              rw [renderMembers, List.nil_append, skipWs_newline, skipWs_cons rfl]
          | cons f fs =>
              obtain ⟨k', x'⟩ := f
              have hrest := ihm k' x' fs ind ind' r (by simp only [sizeMembers] at hx ⊢; omega)
              refine .inr ⟨newline gap ind ++ quote k' ++ colon gap ++ render gap ind x'
                ++ renderMembers gap ind fs ++ newline gap ind' ++ 0x7D :: r, tidyMembers ((k', x') :: fs), ?_, ?_, rfl⟩
              · rw [renderMembers, List.cons_append, List.cons_append, skipWs_cons rfl]
              · rw [← hrest]
                refine parseMembers_congr ?_
                simp only [List.append_assoc]
                rw [skipWs_newline]

/-- The parser reads back what the writer wrote, each object assigned property by property, with any white space after
    it. -/
theorem parse_render_tidy (gap ind : Nat) (v : Json) {w : JsString} (hw : ∀ u ∈ w, isWs u = true) :
    parse (render gap ind v ++ w) = some (tidy v) := by
  have hend : NumEnd w := by
    intro u hu
    have hws := hw u (List.mem_of_mem_head? hu)
    simp only [isWs, Bool.or_eq_true, decide_eq_true_eq] at hws
    rcases hws with ((rfl | rfl) | rfl) | rfl <;> rfl
  have hlen := size_le_length gap ind v
  have hval := (parse_render_aux gap ((render gap ind v ++ w).length + 1)).1 v ind w
    (by rw [List.length_append]; omega) hend
  have hskip : skipWs w = [] := List.dropWhile_eq_nil_iff.mpr hw
  rw [parse, hval]
  simp [hskip]

/-- A normal value is read back as it was written. -/
theorem parse_render {gap ind : Nat} {v : Json} (hv : Normal v) {w : JsString}
    (hw : ∀ u ∈ w, isWs u = true) : parse (render gap ind v ++ w) = some v := by
  rw [parse_render_tidy gap ind v hw, tidy_of_normal hv]

/-- What is written is read with the properties of each object as the program enumerates them. -/
theorem parse_stringify_tidy (v : Json) : parse (stringify v) = some (tidy v) := by
  have h : parse (render 0 0 v ++ []) = some (tidy v) := parse_render_tidy 0 0 v (by simp)
  rwa [List.append_nil] at h

/-- A value whose objects are enumerated in their own order is read back. -/
theorem parse_stringify {v : Json} (hv : Normal v) : parse (stringify v) = some v := by
  have h : parse (render 0 0 v ++ []) = some v := parse_render hv (by simp)
  rwa [List.append_nil] at h

/-- Such values of one text are one value. -/
theorem stringify_injective {v w : Json} (hv : Normal v) (hw : Normal w)
    (h : stringify v = stringify w) : v = w := by
  have hparse := parse_stringify hv
  rw [h, parse_stringify hw] at hparse
  exact (Option.some.inj hparse).symm

/-! ### What is written is well formed -/

theorem wellFormed_newline (gap ind : Nat) : WellFormed (newline gap ind) := by
  unfold newline
  split
  · exact .nil
  · exact .unit rfl rfl (.ascii fun u hu => by rw [(List.mem_replicate.mp hu).2]; decide)

theorem wellFormed_colon (gap : Nat) : WellFormed (colon gap) := by
  unfold colon
  split <;> exact .ascii_all rfl

theorem ascii_numText (d : Decimal) : ∀ u ∈ numText d, u.toNat < 0x80 := by
  intro u hu
  have h := numText_units hu
  simp only [isNumUnit, isDigit, Bool.or_eq_true, Bool.and_eq_true, decide_eq_true_eq,
    UInt16.le_iff_toNat_le] at h
  rcases h with (((((⟨_, h⟩ | rfl) | rfl) | rfl) | rfl) | rfl)
  · have h9 : (0x39 : UInt16).toNat = 0x39 := rfl
    omega
  all_goals decide

theorem wellFormed_numText (d : Decimal) : WellFormed (numText d) :=
  .ascii (ascii_numText d)

mutual

/-- A written value has no half of a surrogate pair. -/
theorem wellFormed_render (gap ind : Nat) : ∀ v : Json, WellFormed (render gap ind v)
  | .null => .ascii_all (by rw [render]; rfl)
  | .bool true => .ascii_all (by rw [render]; rfl)
  | .bool false => .ascii_all (by rw [render]; rfl)
  | .num d => wellFormed_numText d
  | .str s => wellFormed_quote s
  | .arr [] => .ascii_all (by rw [render]; rfl)
  | .arr (x :: xs) =>
      .unit rfl rfl <| ((((wellFormed_newline _ _).append (wellFormed_render gap (ind + gap) x)).append
        (wellFormed_renderElems gap (ind + gap) xs)).append (wellFormed_newline _ _)).append
        (.ascii_all rfl)
  | .obj [] => .ascii_all (by rw [render]; rfl)
  | .obj ((k, x) :: fs) =>
      .unit rfl rfl <| ((((((wellFormed_newline _ _).append (wellFormed_quote k)).append
        (wellFormed_colon gap)).append (wellFormed_render gap (ind + gap) x)).append
        (wellFormed_renderMembers gap (ind + gap) fs)).append (wellFormed_newline _ _)).append
        (.ascii_all rfl)

theorem wellFormed_renderElems (gap ind : Nat) :
    ∀ xs : List Json, WellFormed (renderElems gap ind xs)
  | [] => .nil
  | x :: xs =>
      .unit rfl rfl <| ((wellFormed_newline _ _).append (wellFormed_render gap ind x)).append
        (wellFormed_renderElems gap ind xs)

theorem wellFormed_renderMembers (gap ind : Nat) :
    ∀ fs : List (JsString × Json), WellFormed (renderMembers gap ind fs)
  | [] => .nil
  | (k, x) :: fs =>
      .unit rfl rfl <| ((((wellFormed_newline _ _).append (wellFormed_quote k)).append
        (wellFormed_colon gap)).append (wellFormed_render gap ind x)).append
        (wellFormed_renderMembers gap ind fs)

end

/-! ### What the parser leaves -/

/-- Skipping blanks leaves a suffix. -/
theorem skipWs_suffix (s : JsString) : skipWs s <:+ s :=
  List.dropWhile_suffix _

theorem dropLit_suffix {lit s r : JsString} (h : dropLit lit s = some r) : r <:+ s := by
  induction lit generalizing s with
  | nil =>
      obtain rfl := Option.some.inj h
      exact List.suffix_rfl
  | cons c lit ih =>
      cases s with
      | nil => simp [dropLit] at h
      | cons u s =>
          simp only [dropLit] at h
          split at h
          · exact (ih h).trans (List.suffix_cons _ _)
          · simp at h

/-- A literal that was read is read with more text behind it. -/
theorem dropLit_more {lit s r : JsString} (h : dropLit lit s = some r) (x : JsString) :
    dropLit lit (s ++ x) = some (r ++ x) := by
  induction lit generalizing s with
  | nil =>
      obtain rfl := Option.some.inj h
      rfl
  | cons c lit ih =>
      cases s with
      | nil => simp [dropLit] at h
      | cons u s =>
          simp only [dropLit] at h
          split at h
          · rename_i hcu
            simp only [List.cons_append, dropLit, hcu, if_true]
            exact ih h
          · simp at h

theorem skipWs_more {s t : JsString} {c : UInt16} (h : skipWs s = c :: t) (x : JsString) :
    skipWs (s ++ x) = c :: (t ++ x) := by
  induction s with
  | nil => simp [skipWs] at h
  | cons u s ih =>
      by_cases hu : isWs u = true
      · simp only [skipWs, hu, List.dropWhile_cons_of_pos, List.cons_append] at h ih ⊢
        exact ih h
      · simp only [Bool.not_eq_true] at hu
        rw [skipWs_cons hu] at h
        rw [List.cons_append, skipWs_cons hu]
        obtain ⟨rfl, rfl⟩ := List.cons.inj h
        rfl

/-- What was read of a string stays read when more text follows, and the rest is a suffix. -/
theorem parseChars_more {s k r : JsString} (h : parseChars s = some (k, r)) :
    r <:+ s ∧ ∀ x, parseChars (s ++ x) = some (k, r ++ x) := by
  induction s using parseChars.induct generalizing k with
  | case1 => simp [parseChars] at h
  | case2 t =>
      rw [parseChars_close] at h
      obtain ⟨rfl, rfl⟩ := Prod.mk.inj (Option.some.inj h)
      exact ⟨List.suffix_cons _ _, fun x => parseChars_close _⟩
  | case3 _ => simp [parseChars] at h
  | case4 a b c d t _ ih =>
      rw [parseChars.eq_def] at h
      simp only [(by decide : (0x5C : UInt16) ≠ 0x22), if_false, if_true] at h
      obtain ⟨u, hu, h⟩ := Option.bind_eq_some_iff.mp h
      obtain ⟨⟨k', r'⟩, hk, h⟩ := Option.map_eq_some_iff.mp h
      obtain ⟨rfl, rfl⟩ := Prod.mk.inj h
      obtain ⟨hsuf, hmore⟩ := ih hk
      refine ⟨hsuf.trans ⟨[0x5C, 0x75, a, b, c, d], rfl⟩, fun x => ?_⟩
      rw [parseChars.eq_def]
      simp [hu, hmore x]
  | case5 t ht _ =>
      rw [parseChars.eq_def] at h
      simp at h
  | case6 e t he _ ih =>
      rw [parseChars.eq_def] at h
      simp only [(by decide : (0x5C : UInt16) ≠ 0x22), if_false, if_true, he] at h
      obtain ⟨u, hu, h⟩ := Option.bind_eq_some_iff.mp h
      obtain ⟨⟨k', r'⟩, hk, h⟩ := Option.map_eq_some_iff.mp h
      obtain ⟨rfl, rfl⟩ := Prod.mk.inj h
      obtain ⟨hsuf, hmore⟩ := ih hk
      refine ⟨hsuf.trans ⟨[0x5C, e], rfl⟩, fun x => ?_⟩
      rw [List.cons_append, List.cons_append, parseChars_escape he hu, hmore x]
      rfl
  | case7 c t hq hb hc =>
      rw [parseChars.eq_def] at h
      simp [hq, hb, hc] at h
  | case8 c t hq hb hc ih =>
      rw [parseChars_raw hq hb hc] at h
      obtain ⟨⟨k', r'⟩, hk, h⟩ := Option.map_eq_some_iff.mp h
      obtain ⟨rfl, rfl⟩ := Prod.mk.inj h
      obtain ⟨hsuf, hmore⟩ := ih hk
      refine ⟨hsuf.trans (List.suffix_cons _ _), fun x => ?_⟩
      rw [List.cons_append, parseChars_raw hq hb hc, hmore x]
      rfl

/-- How a value is read, by its first unit. -/
theorem parseValue_succ_inv {n : Nat} {s r : JsString} {v : Json}
    (h : parseValue (n + 1) s = some (v, r)) :
    (∃ t, skipWs s = 0x7B :: t ∧ skipWs t = 0x7D :: r ∧ v = .obj []) ∨
    (∃ t fs, skipWs s = 0x7B :: t ∧ (∀ u, skipWs t ≠ 0x7D :: u) ∧
      parseMembers n (skipWs t) = some (fs, r) ∧ v = .obj (ofEntries fs)) ∨
    (∃ t, skipWs s = 0x5B :: t ∧ skipWs t = 0x5D :: r ∧ v = .arr []) ∨
    (∃ t xs, skipWs s = 0x5B :: t ∧ (∀ u, skipWs t ≠ 0x5D :: u) ∧
      parseElems n (skipWs t) = some (xs, r) ∧ v = .arr xs) ∨
    (∃ t k, skipWs s = 0x22 :: t ∧ parseChars t = some (k, r) ∧ v = .str k) ∨
    (∃ t, skipWs s = 0x6E :: t ∧ dropLit (js "ull") t = some r ∧ v = .null) ∨
    (∃ t, skipWs s = 0x74 :: t ∧ dropLit (js "rue") t = some r ∧ v = .bool true) ∨
    (∃ t, skipWs s = 0x66 :: t ∧ dropLit (js "alse") t = some r ∧ v = .bool false) ∨
    (∃ c t d, skipWs s = c :: t ∧ c ≠ 0x7B ∧ c ≠ 0x5B ∧ c ≠ 0x22 ∧ c ≠ 0x6E ∧ c ≠ 0x74 ∧ c ≠ 0x66 ∧
      readNumber ((c :: t).takeWhile isNumUnit) = some d ∧ r = (c :: t).dropWhile isNumUnit ∧
      v = .num d) := by
  rw [parseValue] at h
  split at h
  · exact absurd h (by simp)
  rename_i c t hs
  split_ifs at h with h1 h2 h3 h4 h5 h6
  · subst h1
    split at h
    · obtain ⟨rfl, rfl⟩ := Prod.mk.inj (Option.some.inj h)
      exact .inl ⟨t, hs, ‹_›, rfl⟩
    · obtain ⟨⟨fs, r'⟩, hfs, h⟩ := Option.map_eq_some_iff.mp h
      obtain ⟨rfl, rfl⟩ := Prod.mk.inj h
      exact .inr (.inl ⟨t, fs, hs, ‹_›, hfs, rfl⟩)
  · subst h2
    split at h
    · obtain ⟨rfl, rfl⟩ := Prod.mk.inj (Option.some.inj h)
      exact .inr (.inr (.inl ⟨t, hs, ‹_›, rfl⟩))
    · obtain ⟨⟨xs, r'⟩, hxs, h⟩ := Option.map_eq_some_iff.mp h
      obtain ⟨rfl, rfl⟩ := Prod.mk.inj h
      exact .inr (.inr (.inr (.inl ⟨t, xs, hs, ‹_›, hxs, rfl⟩)))
  · subst h3
    obtain ⟨⟨k, r'⟩, hk, h⟩ := Option.map_eq_some_iff.mp h
    obtain ⟨rfl, rfl⟩ := Prod.mk.inj h
    exact .inr (.inr (.inr (.inr (.inl ⟨t, k, hs, hk, rfl⟩))))
  · subst h4
    obtain ⟨r', hr, h⟩ := Option.map_eq_some_iff.mp h
    obtain ⟨rfl, rfl⟩ := Prod.mk.inj h
    exact .inr (.inr (.inr (.inr (.inr (.inl ⟨t, hs, hr, rfl⟩)))))
  · subst h5
    obtain ⟨r', hr, h⟩ := Option.map_eq_some_iff.mp h
    obtain ⟨rfl, rfl⟩ := Prod.mk.inj h
    exact .inr (.inr (.inr (.inr (.inr (.inr (.inl ⟨t, hs, hr, rfl⟩))))))
  · subst h6
    obtain ⟨r', hr, h⟩ := Option.map_eq_some_iff.mp h
    obtain ⟨rfl, rfl⟩ := Prod.mk.inj h
    exact .inr (.inr (.inr (.inr (.inr (.inr (.inr (.inl ⟨t, hs, hr, rfl⟩)))))))
  · obtain ⟨d, hd, h⟩ := Option.map_eq_some_iff.mp h
    obtain ⟨rfl, rfl⟩ := Prod.mk.inj h
    exact .inr (.inr (.inr (.inr (.inr (.inr (.inr (.inr
      ⟨c, t, d, hs, h1, h2, h3, h4, h5, h6, hd, rfl, rfl⟩)))))))

/-- Blanks are skipped once. -/
theorem skipWs_skipWs (s : JsString) : skipWs (skipWs s) = skipWs s :=
  List.dropWhile_idempotent isWs s

/-- What a value is read from is not blank. -/
theorem parseValue_nonblank {n : Nat} {s : JsString} {p : Json × JsString}
    (h : parseValue n s = some p) : ∃ c t, skipWs s = c :: t := by
  cases n with
  | zero => simp [parseValue] at h
  | succ n =>
      rw [parseValue] at h
      split at h
      · simp at h
      · exact ⟨_, _, ‹_›⟩

theorem parseElems_nonblank {n : Nat} {s : JsString} {p : List Json × JsString}
    (h : parseElems n s = some p) : ∃ c t, skipWs s = c :: t := by
  cases n with
  | zero => simp [parseElems] at h
  | succ n =>
      obtain ⟨x, r, hx, _⟩ := parseElems_succ_iff.mp h
      exact parseValue_nonblank hx

theorem parseMembers_nonblank {n : Nat} {s : JsString} {p : List (JsString × Json) × JsString}
    (h : parseMembers n s = some p) : ∃ c t, skipWs s = c :: t := by
  cases n with
  | zero => simp [parseMembers] at h
  | succ n =>
      obtain ⟨t, _, _, _, _, _, hs, _⟩ := parseMembers_succ_iff.mp h
      exact ⟨_, t, hs⟩

theorem suffix_of_skipWs {s t r : JsString} {c : UInt16} (h : skipWs s = c :: t) (hr : r <:+ t) :
    r <:+ s :=
  (hr.trans (List.suffix_cons c t)).trans (h ▸ skipWs_suffix s)

/-- A numeral that ends is read alike with more text behind it. -/
theorem dropWhile_more {s r : JsString} (h : s.dropWhile isNumUnit = r) (hr : r ≠ []) (x : JsString) :
    (s ++ x).takeWhile isNumUnit = s.takeWhile isNumUnit ∧ (s ++ x).dropWhile isNumUnit = r ++ x := by
  induction s with
  | nil => exact absurd h.symm hr
  | cons u s ih =>
      by_cases hu : isNumUnit u = true
      · simp only [hu, List.dropWhile_cons_of_pos] at h
        simp [hu, ih h]
      · simp only [Bool.not_eq_true] at hu
        simp only [hu, List.cons_append, List.takeWhile_cons, List.dropWhile_cons, Bool.false_eq_true,
          if_false, true_and] at h ⊢
        rw [← h, List.cons_append]

/-- The three parsers leave a suffix, and read the same when more text follows. A numeral is the
    exception where nothing follows it. -/
theorem parse_more_aux (n : Nat) :
    (∀ s v r, parseValue n s = some (v, r) → r <:+ s ∧ (∀ fs, v = .obj fs → 0x7D :: r <:+ s) ∧
      (r ≠ [] ∨ (∀ d, v ≠ .num d) → ∀ m, n ≤ m → ∀ x, parseValue m (s ++ x) = some (v, r ++ x))) ∧
    (∀ s xs r, parseElems n s = some (xs, r) → r <:+ s ∧
      ∀ m, n ≤ m → ∀ x, parseElems m (s ++ x) = some (xs, r ++ x)) ∧
    (∀ s fs r, parseMembers n s = some (fs, r) → 0x7D :: r <:+ s ∧
      ∀ m, n ≤ m → ∀ x, parseMembers m (s ++ x) = some (fs, r ++ x)) := by
  induction n with
  | zero => exact ⟨by simp [parseValue], by simp [parseElems], by simp [parseMembers]⟩
  | succ n ih =>
      obtain ⟨ihv, ihe, ihm⟩ := ih
      refine ⟨?_, ?_, ?_⟩
      · intro s v r h
        rcases parseValue_succ_inv h with ⟨t, hs, ht, rfl⟩ | ⟨t, fs, hs, ht, hfs, rfl⟩ |
          ⟨t, hs, ht, rfl⟩ | ⟨t, xs, hs, ht, hxs, rfl⟩ | ⟨t, k, hs, hk, rfl⟩ | ⟨t, hs, hd, rfl⟩ |
          ⟨t, hs, hd, rfl⟩ | ⟨t, hs, hd, rfl⟩ | ⟨c, t, d, hs, h1, h2, h3, h4, h5, h6, hd, rfl, rfl⟩
        · have hclose : 0x7D :: r <:+ s := suffix_of_skipWs hs (ht ▸ skipWs_suffix t)
          refine ⟨(List.suffix_cons _ _).trans hclose, fun _ _ => hclose, fun _ m hm x => ?_⟩
          obtain ⟨m, rfl⟩ := Nat.exists_eq_add_of_lt hm
          rw [parseValue, skipWs_more hs]
          simp [skipWs_more ht]
        · obtain ⟨hsuf, hmore⟩ := ihm _ _ _ hfs
          have hclose : 0x7D :: r <:+ s := suffix_of_skipWs hs (hsuf.trans (skipWs_suffix t))
          refine ⟨(List.suffix_cons _ _).trans hclose, fun _ _ => hclose, fun _ m hm x => ?_⟩
          obtain ⟨m, rfl⟩ := Nat.exists_eq_add_of_lt hm
          obtain ⟨c, u, hcu⟩ := parseMembers_nonblank hfs
          rw [skipWs_skipWs] at hcu
          refine parseValue_obj (skipWs_more hs x) ?_ ?_
          · intro w hw
            rw [skipWs_more hcu, List.cons.injEq] at hw
            exact ht u (by rw [hcu, hw.1])
          · rw [skipWs_more hcu, ← List.cons_append, ← hcu]
            exact hmore _ (by omega) x
        · have hclose : r <:+ s :=
            suffix_of_skipWs hs ((List.suffix_cons _ _).trans (ht ▸ skipWs_suffix t))
          refine ⟨hclose, by simp, fun _ m hm x => ?_⟩
          obtain ⟨m, rfl⟩ := Nat.exists_eq_add_of_lt hm
          rw [parseValue, skipWs_more hs]
          simp [skipWs_more ht]
        · obtain ⟨hsuf, hmore⟩ := ihe _ _ _ hxs
          refine ⟨suffix_of_skipWs hs (hsuf.trans (skipWs_suffix t)), by simp, fun _ m hm x => ?_⟩
          obtain ⟨m, rfl⟩ := Nat.exists_eq_add_of_lt hm
          obtain ⟨c, u, hcu⟩ := parseElems_nonblank hxs
          rw [skipWs_skipWs] at hcu
          refine parseValue_arr (skipWs_more hs x) ?_ ?_
          · intro w hw
            rw [skipWs_more hcu, List.cons.injEq] at hw
            exact ht u (by rw [hcu, hw.1])
          · rw [skipWs_more hcu, ← List.cons_append, ← hcu]
            exact hmore _ (by omega) x
        · obtain ⟨hsuf, hmore⟩ := parseChars_more hk
          refine ⟨suffix_of_skipWs hs hsuf, by simp, fun _ m hm x => ?_⟩
          obtain ⟨m, rfl⟩ := Nat.exists_eq_add_of_lt hm
          rw [parseValue, skipWs_more hs]
          simp [hmore x]
        · refine ⟨suffix_of_skipWs hs (dropLit_suffix hd), by simp, fun _ m hm x => ?_⟩
          obtain ⟨m, rfl⟩ := Nat.exists_eq_add_of_lt hm
          rw [parseValue, skipWs_more hs]
          simp [dropLit_more hd x]
        · refine ⟨suffix_of_skipWs hs (dropLit_suffix hd), by simp, fun _ m hm x => ?_⟩
          obtain ⟨m, rfl⟩ := Nat.exists_eq_add_of_lt hm
          rw [parseValue, skipWs_more hs]
          simp [dropLit_more hd x]
        · refine ⟨suffix_of_skipWs hs (dropLit_suffix hd), by simp, fun _ m hm x => ?_⟩
          obtain ⟨m, rfl⟩ := Nat.exists_eq_add_of_lt hm
          rw [parseValue, skipWs_more hs]
          simp [dropLit_more hd x]
        · refine ⟨(List.dropWhile_suffix _).trans (hs ▸ skipWs_suffix s), by simp, fun hr m hm x => ?_⟩
          obtain ⟨m, rfl⟩ := Nat.exists_eq_add_of_lt hm
          have hne : (c :: t).dropWhile isNumUnit ≠ [] := hr.resolve_right (by simp)
          obtain ⟨htake, hdrop⟩ := dropWhile_more rfl hne x
          rw [parseValue, skipWs_more hs]
          simp only [h1, h2, h3, h4, h5, h6, if_false]
          rw [← List.cons_append, htake, hdrop, hd]
          rfl
      · intro s xs r h
        obtain ⟨x, r', hx, h⟩ := parseElems_succ_iff.mp h
        obtain ⟨hsuf, -, hmore⟩ := ihv _ _ _ hx
        rcases h with ⟨hr, rfl⟩ | ⟨u, ys, hr, hys, rfl⟩
        · have hne : r' ≠ [] := by rintro rfl; simp [skipWs] at hr
          refine ⟨(suffix_of_skipWs hr List.suffix_rfl).trans hsuf, fun m hm y => ?_⟩
          obtain ⟨m, rfl⟩ := Nat.exists_eq_add_of_lt hm
          exact parseElems_succ_iff.mpr
            ⟨x, r' ++ y, hmore (.inl hne) _ (by omega) y, .inl ⟨skipWs_more hr y, rfl⟩⟩
        · have hne : r' ≠ [] := by rintro rfl; simp [skipWs] at hr
          obtain ⟨hsuf', hmore'⟩ := ihe _ _ _ hys
          refine ⟨(suffix_of_skipWs hr hsuf').trans hsuf, fun m hm y => ?_⟩
          obtain ⟨m, rfl⟩ := Nat.exists_eq_add_of_lt hm
          exact parseElems_succ_iff.mpr ⟨x, r' ++ y, hmore (.inl hne) _ (by omega) y,
            .inr ⟨u ++ y, ys, skipWs_more hr y, hmore' _ (by omega) y, rfl⟩⟩
      · intro s fs r h
        obtain ⟨t, k, r₁, u, x, r₂, hs, hk, hr₁, hx, h⟩ := parseMembers_succ_iff.mp h
        obtain ⟨hsufk, hmorek⟩ := parseChars_more hk
        obtain ⟨hsuf, -, hmore⟩ := ihv _ _ _ hx
        have hin : ∀ {w}, w <:+ r₂ → w <:+ s := fun hw =>
          suffix_of_skipWs hs ((suffix_of_skipWs hr₁ (hw.trans hsuf)).trans hsufk)
        rcases h with ⟨hr, rfl⟩ | ⟨v, gs, hr, hgs, rfl⟩
        · have hne : r₂ ≠ [] := by rintro rfl; simp [skipWs] at hr
          refine ⟨hin (hr ▸ skipWs_suffix r₂), fun m hm y => ?_⟩
          obtain ⟨m, rfl⟩ := Nat.exists_eq_add_of_lt hm
          exact parseMembers_succ_iff.mpr ⟨t ++ y, k, r₁ ++ y, u ++ y, x, r₂ ++ y, skipWs_more hs y,
            hmorek y, skipWs_more hr₁ y, hmore (.inl hne) _ (by omega) y, .inl ⟨skipWs_more hr y, rfl⟩⟩
        · have hne : r₂ ≠ [] := by rintro rfl; simp [skipWs] at hr
          obtain ⟨hsuf', hmore'⟩ := ihm _ _ _ hgs
          refine ⟨hin (suffix_of_skipWs hr hsuf'), fun m hm y => ?_⟩
          obtain ⟨m, rfl⟩ := Nat.exists_eq_add_of_lt hm
          exact parseMembers_succ_iff.mpr ⟨t ++ y, k, r₁ ++ y, u ++ y, x, r₂ ++ y, skipWs_more hs y,
            hmorek y, skipWs_more hr₁ y, hmore (.inl hne) _ (by omega) y,
            .inr ⟨v ++ y, gs, skipWs_more hr y, hmore' _ (by omega) y, rfl⟩⟩

/-! ### Torn objects -/

/-- A proper prefix of an object's text is not the text of an object. -/
theorem parse_prefix_not_object {fs : List (JsString × Json)} {q t : JsString}
    (h : stringify (.obj fs) = q ++ t) (ht : t ≠ []) (gs : List (JsString × Json)) :
    parse q ≠ some (.obj gs) := by
  intro hq
  rw [parse] at hq
  split at hq
  · rename_i v r hval
    split at hq
    · obtain rfl := Option.some.inj hq
      have hmore := ((parse_more_aux _).1 _ _ _ hval).2.2 (.inr (by simp))
        ((stringify (.obj fs)).length + 1) (by rw [h, List.length_append]; omega) t
      rw [← h] at hmore
      have hfull := (parse_render_aux 0 ((stringify (.obj fs)).length + 1)).1 (.obj fs) 0 []
        (by have := size_le_length 0 0 (.obj fs); unfold stringify; omega) (by simp [NumEnd])
      rw [List.append_nil, ← stringify, hmore, Option.some_inj, Prod.mk.injEq,
        List.append_eq_nil_iff] at hfull
      exact ht hfull.2.2
    · simp at hq
  · simp at hq

/-- A text that ends in a replacement character is no object. -/
theorem parse_replaced_not_object (q : JsString) (gs : List (JsString × Json)) :
    parse (q ++ [Utf8.replacement]) ≠ some (.obj gs) := by
  intro hq
  rw [parse] at hq
  split at hq
  · rename_i v r hval
    split at hq
    · rename_i hr
      obtain rfl := Option.some.inj hq
      obtain ⟨p, hp⟩ := ((parse_more_aux _).1 _ _ _ hval).2.1 gs rfl
      rcases List.eq_nil_or_concat r with rfl | ⟨r', c, rfl⟩
      · have hlast := List.append_inj_right' hp rfl
        simp [Utf8.replacement] at hlast
      · rw [List.concat_eq_append] at hp hr
        rw [← List.cons_append, ← List.append_assoc] at hp
        obtain rfl := (List.cons.inj (List.append_inj_right' hp rfl)).1
        have hall := List.dropWhile_eq_nil_iff.mp hr Utf8.replacement (by simp)
        exact absurd hall (by decide)
    · simp at hq
  · simp at hq

/-- What is read of an object's octets cut off before their end is not an object. -/
theorem parse_torn_object {fs : List (JsString × Json)} {p r : Bytes}
    (h : Utf8.encode (stringify (.obj fs)) = p ++ r) (hr : r ≠ []) (gs : List (JsString × Json)) :
    parse (Utf8.decode p) ≠ some (.obj gs) := by
  obtain ⟨q, t, hqt, ht, hdec | hdec⟩ :=
    Utf8.decode_prefix (wellFormed_render 0 0 (.obj fs)) h hr
  · rw [hdec]
    exact parse_prefix_not_object hqt ht gs
  · rw [hdec]
    exact parse_replaced_not_object q gs

end Json
