/-
Module: OwnerSwitch.Lib.LineReader
Layer: Lib
Purpose: Reading one line from a stream. Chunks are decoded one by one and collected until a line break has come or the
  text outgrows a bound; what follows is not read. The writer sends the text of a value and a line break, and what the
  reader makes of it depends on where the stream was cut.
Imports: Lib.JsonGarble
Trusted boundary: none
Main exports: LineReader, LineReader.data, LineReader.events, LineReader.events_eq, LineReader.events_value_iff
Open obligations: none
-/
import OwnerSwitch.Lib.JsonGarble

/-- The text collected so far; a closed reader takes no more. -/
structure LineReader where
  buffer : JsString
  closed : Bool

/-- What a reader ends in: its text outgrew the bound, or its line. -/
inductive LineEvent where
  | oversize
  | line (text : JsString)
  deriving DecidableEq, Repr

namespace LineEvent

def line? : LineEvent → Option JsString
  | .oversize => none
  | .line text => some text

/-- The value of the line; nothing where there is no line, or no value in it. -/
def value (e : LineEvent) : Option Json :=
  e.line?.bind Json.parse

end LineEvent

namespace LineReader

open Utf8

/-- U+000A -/
def lineBreak : UInt16 := 0x0A

def fresh : LineReader :=
  ⟨[], false⟩

/-- One chunk arrives. -/
def data (bound : Nat) (r : LineReader) (chunk : Bytes) : LineReader × Option LineEvent :=
  if r.closed then (r, none)
  else
    let buffer := r.buffer ++ decode chunk
    if bound < buffer.length then (⟨buffer, true⟩, some .oversize)
    else if buffer.contains lineBreak then (⟨buffer, true⟩, some (.line (buffer.takeWhile (· ≠ lineBreak))))
    else (⟨buffer, false⟩, none)

/-- What the reader makes of some chunks, in order. -/
def events (bound : Nat) (r : LineReader) : List Bytes → List LineEvent
  | [] => []
  | chunk :: chunks => (r.data bound chunk).2.toList ++ events bound (r.data bound chunk).1 chunks

variable {bound : Nat} {r : LineReader}

theorem data_closed (h : r.closed = true) (chunk : Bytes) : r.data bound chunk = (r, none) := by
  rw [data, if_pos h]

theorem events_closed (h : r.closed = true) (chunks : List Bytes) : r.events bound chunks = [] := by
  induction chunks with
  | nil => rfl
  | cons chunk chunks ih =>
      rw [events, data_closed h]
      exact ih

/-- The line of a text that ends with its only line break. -/
theorem takeWhile_line {g : JsString} (h : lineBreak ∉ g) : (g ++ [lineBreak]).takeWhile (· ≠ lineBreak) = g := by
  have hall : ∀ u ∈ g, decide (u ≠ lineBreak) = true := by
    intro u hu
    apply decide_eq_true
    rintro rfl
    exact h hu
  rw [List.takeWhile_append_of_pos hall]
  exact List.append_nil g

/-- A text of one line, however it is cut: the reader ends once, and its line is the text unless that is too long. -/
theorem events_eq {buffer g : JsString} {chunks : List Bytes} (hg : lineBreak ∉ g)
    (h : buffer ++ decodeChunks chunks = g ++ [lineBreak]) (hopen : lineBreak ∉ buffer) :
    events bound ⟨buffer, false⟩ chunks = if bound < g.length + 1 then [.oversize] else [.line g] := by
  induction chunks generalizing buffer with
  | nil =>
      have hlast : lineBreak ∈ buffer ++ decodeChunks [] := by
        rw [h]
        exact List.mem_append_right _ (List.mem_singleton_self _)
      exact absurd (List.append_nil buffer ▸ hlast) hopen
  | cons chunk chunks ih =>
      have hsplit : (buffer ++ decode chunk) ++ decodeChunks chunks = g ++ [lineBreak] := by
        rw [← h, List.append_assoc]
        rfl
      have hlength : (buffer ++ decode chunk).length + (decodeChunks chunks).length = g.length + 1 := by
        rw [← List.length_append, hsplit, List.length_append, List.length_singleton]
      rw [events, data, if_neg Bool.false_ne_true]
      by_cases hover : bound < (buffer ++ decode chunk).length
      · rw [if_pos hover, if_pos (by omega)]
        exact congrArg (LineEvent.oversize :: ·) (events_closed rfl chunks)
      · rw [if_neg hover]
        by_cases hbreak : lineBreak ∈ buffer ++ decode chunk
        · -- the line break is the last unit, so nothing is left to come
          have hdone : decodeChunks chunks = [] := by
            rcases List.append_eq_append_iff.mp hsplit with ⟨rest, hrest, -⟩ | ⟨rest, hrest, hlast⟩
            · rw [hrest] at hg
              exact absurd (List.mem_append_left _ hbreak) hg
            · cases rest with
              | nil =>
                  rw [List.append_nil] at hrest
                  rw [hrest] at hbreak
                  exact absurd hbreak hg
              | cons u rest =>
                  obtain ⟨-, hnil⟩ := List.cons.inj hlast
                  exact (List.append_eq_nil_iff.mp hnil.symm).2
          rw [hdone, List.append_nil] at hsplit
          rw [hdone, List.length_nil, Nat.add_zero] at hlength
          rw [if_pos (List.contains_iff_mem.mpr hbreak), if_neg (by omega), hsplit, takeWhile_line hg]
          exact congrArg (LineEvent.line g :: ·) (events_closed rfl chunks)
        · have hnot : ¬ (buffer ++ decode chunk).contains lineBreak = true := fun hmem =>
            hbreak (List.contains_iff_mem.mp hmem)
          rw [if_neg hnot]
          exact ih hsplit hbreak

/-! ### Values -/

/-- What a writer sends for a value. -/
def lineOf (v : Json) : JsString :=
  v.stringify ++ [lineBreak]

theorem lineBreak_not_mem_stringify (v : Json) : lineBreak ∉ v.stringify := fun h =>
  absurd (Json.printable_stringify h) (by decide)

theorem wellFormed_lineOf (v : Json) : WellFormed (lineOf v) :=
  (Json.wellFormed_render 0 0 v).append (.ascii_all rfl)

/-- However the text of a value is cut, what arrives is one line. -/
theorem decodeChunks_lineOf {v : Json} {chunks : List Bytes} (h : chunks.flatten = encode (lineOf v)) :
    ∃ g, decodeChunks chunks = g ++ [lineBreak] ∧ Garbles v.stringify g ∧ lineBreak ∉ g := by
  have hgarbles := garbles_decodeChunks (wellFormed_lineOf v) h
  obtain ⟨g, last, hg, hvalue, hlast⟩ := Garbles.split (Json.wellFormed_render 0 0 v) hgarbles
  obtain rfl := Garbles.eq_of_ascii_all rfl hlast
  refine ⟨g, hg, hvalue, fun hmem => ?_⟩
  obtain ⟨w, rfl, -⟩ := Json.exists_render_of_garbles 0 v hvalue
  exact lineBreak_not_mem_stringify w hmem

/-- However the text of a value is cut, a reader of it ends once. -/
theorem events_singleton (bound : Nat) {v : Json} {chunks : List Bytes} (h : chunks.flatten = encode (lineOf v)) :
    ∃ e, events bound fresh chunks = [e] := by
  obtain ⟨g, hg, -, hbreak⟩ := decodeChunks_lineOf h
  have hevents : events bound ⟨[], false⟩ chunks = _ := events_eq hbreak hg List.not_mem_nil
  rw [fresh, hevents]
  split
  · exact ⟨_, rfl⟩
  · exact ⟨_, rfl⟩

/-- The value is read exactly where its line fits and no chunk begins or ends inside a character. -/
theorem events_value_iff (bound : Nat) {v : Json} (hv : v.Normal) {chunks : List Bytes}
    (h : chunks.flatten = encode (lineOf v)) :
    (events bound fresh chunks).map LineEvent.value = [some v] ↔
      (lineOf v).length ≤ bound ∧ ∀ chunk ∈ chunks, Whole chunk := by
  obtain ⟨g, hg, -, hbreak⟩ := decodeChunks_lineOf h
  have hevents : events bound ⟨[], false⟩ chunks = _ := events_eq hbreak hg List.not_mem_nil
  have hwhole := Json.parse_decodeChunks_iff hv (by decide) h hg
  rw [fresh, hevents]
  constructor
  · intro hvalue
    split at hvalue
    · cases hvalue
    · rename_i hfits
      have hparse : Json.parse g = some v := (List.cons.inj hvalue).1
      have hchunks := hwhole.mp hparse
      have hsame := (decodeChunks_eq_iff_whole (wellFormed_lineOf v) h).mpr hchunks
      rw [hg] at hsame
      refine ⟨?_, hchunks⟩
      rw [← hsame, List.length_append, List.length_singleton]
      omega
  · rintro ⟨hfits, hchunks⟩
    have hsame := (decodeChunks_eq_iff_whole (wellFormed_lineOf v) h).mpr hchunks
    rw [hg] at hsame
    rw [← hsame, List.length_append, List.length_singleton] at hfits
    rw [if_neg (by omega)]
    exact congrArg ([·]) (hwhole.mpr hchunks)

/-- Reading goes on where it stopped. -/
theorem events_append (bound : Nat) (r : LineReader) (xs ys : List Bytes) :
    ∃ r' : LineReader, r.events bound (xs ++ ys) = r.events bound xs ++ r'.events bound ys := by
  induction xs generalizing r with
  | nil => exact ⟨r, rfl⟩
  | cons x xs ih =>
      obtain ⟨r', hrest⟩ := ih (r.data bound x).1
      refine ⟨r', ?_⟩
      rw [List.cons_append, events, events, hrest, List.append_assoc]

/-- Nothing comes out of nothing. -/
theorem events_silent (bound : Nat) {chunks : List Bytes} (h : chunks.flatten = []) :
    fresh.events bound chunks = [] := by
  induction chunks with
  | nil => rfl
  | cons chunk chunks ih =>
      rw [List.flatten_cons, List.append_eq_nil_iff] at h
      obtain ⟨rfl, hrest⟩ := h
      have hdata : fresh.data bound [] = (fresh, none) := by
        have hopen : ¬ fresh.closed = true := Bool.false_ne_true
        have hnothing : fresh.buffer ++ decode [] = [] := rfl
        unfold data
        rw [if_neg hopen]
        dsimp only
        rw [hnothing, List.length_nil, if_neg (Nat.not_lt_zero bound), if_neg (by decide)]
        rfl
      rw [events, hdata]
      exact ih hrest

/-- A line that comes out of a part of what was sent for a value is what became of the value's text. -/
theorem garbles_of_line {v : Json} {chunks : List Bytes} (h : chunks.flatten <+: encode (lineOf v)) {g : JsString}
    (hg : .line g ∈ fresh.events bound chunks) : Garbles v.stringify g := by
  obtain ⟨rest, hrest⟩ := h
  have hall : (chunks ++ [rest]).flatten = encode (lineOf v) := by
    rw [List.flatten_append, List.flatten_singleton, hrest]
  obtain ⟨text, htext, hgarbles, hbreak⟩ := decodeChunks_lineOf hall
  have hevents : events bound ⟨[], false⟩ (chunks ++ [rest]) = _ := events_eq hbreak htext List.not_mem_nil
  obtain ⟨r', happend⟩ := events_append bound fresh chunks [rest]
  have hmem : .line g ∈ fresh.events bound (chunks ++ [rest]) := by
    rw [happend]
    exact List.mem_append_left _ hg
  rw [fresh, hevents] at hmem
  split at hmem
  · cases List.mem_singleton.mp hmem
  · cases List.mem_singleton.mp hmem
    exact hgarbles

end LineReader
