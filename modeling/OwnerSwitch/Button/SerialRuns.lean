/-
Module: OwnerSwitch.Button.SerialRuns
Layer: Button
Purpose: What the serial press source makes of the octets of a device, whatever the chunks they come in. A cut inside a
  character and a cut after more units than are kept change a line, so the lines that every division of the octets reads
  alike are told apart from the others.
Imports: Button.Serial
Trusted boundary: none
Main exports: SerialSource.wholeLines, SerialSource.Readable, serial_reads_iff
Open obligations: none
-/
import OwnerSwitch.Button.Serial

namespace OwnerSwitch

open Utf8 JsString

/-! ### The end of a text -/

/-- What is kept of a text is its end. -/
theorem sliceEnd_suffix (n : Nat) (t : JsString) : sliceEnd n t <:+ t :=
  List.drop_suffix _ _

theorem length_sliceEnd (n : Nat) (t : JsString) : (sliceEnd n t).length = min n t.length := by
  rw [sliceEnd, List.length_drop]
  omega

theorem sliceEnd_of_le {n : Nat} {t : JsString} (h : t.length ≤ n) : sliceEnd n t = t := by
  rw [sliceEnd, Nat.sub_eq_zero_of_le h, List.drop_zero]

theorem sliceEnd_of_suffix {n : Nat} {t u : JsString} (h : u <:+ t) (hlength : u.length = min n t.length) :
    sliceEnd n t = u := by
  apply List.IsSuffix.eq_of_length
  · exact List.suffix_of_suffix_length_le (sliceEnd_suffix n t) h (by rw [length_sliceEnd, hlength])
  · rw [length_sliceEnd, hlength]

/-- What was cut off before is cut off after. -/
theorem sliceEnd_sliceEnd_append (n : Nat) (t u : JsString) : sliceEnd n (sliceEnd n t ++ u) = sliceEnd n (t ++ u) := by
  apply (sliceEnd_of_suffix _ _).symm
  · have hsuffix : sliceEnd n t ++ u <:+ t ++ u := List.suffix_append_self_iff.mpr (sliceEnd_suffix n t)
    exact (sliceEnd_suffix n _).trans hsuffix
  · rw [length_sliceEnd, List.length_append, List.length_append, length_sliceEnd]
    omega

namespace SerialSource

variable {s : SerialSource}

/-- What is kept of an unfinished line. -/
def kept (t : JsString) : JsString :=
  sliceEnd serialBufferCap t

/-- Cutting a text before more of it arrives or after comes to the same. -/
theorem kept_kept_append (t u : JsString) : kept (kept t ++ u) = kept (t ++ u) :=
  sliceEnd_sliceEnd_append _ t u

/-! ### The scan -/

/-- Text without a line feed is kept as it is. -/
theorem scan_open {buffer : JsString} (h : 0x0A ∉ buffer) : s.scan buffer = ([], buffer) := by
  rw [scan, if_neg h]

/-- The first line is read, then the rest. -/
theorem scan_line {line : JsString} (h : 0x0A ∉ line) (rest : JsString) :
    s.scan (line ++ 0x0A :: rest) = ((s.lineEvent line).toList ++ (s.scan rest).1, (s.scan rest).2) := by
  have hmem : 0x0A ∈ line ++ 0x0A :: rest := List.mem_append_right _ List.mem_cons_self
  have htake : (line ++ 0x0A :: rest).takeWhile (· ≠ 0x0A) = line := by
    rw [List.takeWhile_append_of_pos, List.takeWhile_cons_of_neg (by simp), List.append_nil]
    intro u hu
    apply decide_eq_true
    rintro rfl
    exact h hu
  have hdrop : (line ++ 0x0A :: rest).drop (line.length + 1) = rest := by
    rw [← List.drop_drop, List.drop_left]
    rfl
  rw [scan, if_pos hmem]
  simp only [htake, hdrop]

/-- A chunk without a line break sets off nothing. -/
theorem feed_open {buffer : JsString} {chunk : Bytes} (hbuffer : 0x0A ∉ buffer) (hchunk : 0x0A ∉ chunk) :
    s.feed buffer (.buffer chunk) = ([], kept (buffer ++ decode chunk)) := by
  have hopen : 0x0A ∉ buffer ++ decode chunk := by
    rw [List.mem_append]
    rintro (hmem | hmem)
    · exact hbuffer hmem
    · obtain ⟨b, hb, hvalue⟩ := mem_decode hmem (by decide)
      obtain rfl : b = 0x0A := UInt8.toNat_inj.mp hvalue
      exact hchunk hb
  have htext : (SerialChunk.buffer chunk).toText = decode chunk := rfl
  rw [feed, htext, scan_open hopen]
  dsimp only
  split
  · rfl
  · rename_i hshort
    rw [kept, sliceEnd_of_le (Nat.not_lt.mp hshort)]

/-- The first line break of a chunk ends the unfinished line, and what follows it begins a new one. -/
theorem feed_line {buffer : JsString} {chunk : Bytes} (hbuffer : 0x0A ∉ buffer) (hchunk : 0x0A ∉ chunk) (rest : Bytes) :
    s.feed buffer (.buffer (chunk ++ 0x0A :: rest)) =
      ((s.lineEvent (buffer ++ decode chunk)).toList ++ (s.feed [] (.buffer rest)).1,
        (s.feed [] (.buffer rest)).2) := by
  have hopen : 0x0A ∉ buffer ++ decode chunk := by
    rw [List.mem_append]
    rintro (hmem | hmem)
    · exact hbuffer hmem
    · obtain ⟨b, hb, hvalue⟩ := mem_decode hmem (by decide)
      obtain rfl : b = 0x0A := UInt8.toNat_inj.mp hvalue
      exact hchunk hb
  have htext : buffer ++ (SerialChunk.buffer (chunk ++ 0x0A :: rest)).toText
      = (buffer ++ decode chunk) ++ 0x0A :: decode rest := by
    have hread : decode (chunk ++ 0x0A :: rest) = decode chunk ++ 0x0A :: decode rest :=
      decode_append_ascii chunk (by decide) rest
    rw [SerialChunk.toText, hread, List.append_assoc]
  rw [feed, htext, scan_line hopen]
  rfl

/-! ### Lines -/

/-- The octets of the lines that a stream ends. -/
def wholeLines (octets : Bytes) : List Bytes :=
  (octets.splitOn 0x0A).dropLast

theorem wholeLines_open {octets : Bytes} (h : 0x0A ∉ octets) : wholeLines octets = [] := by
  rw [wholeLines, List.splitOn_eq_singleton h]
  rfl

/-- The whole lines up to a line feed are those before it, and those after. -/
theorem wholeLines_append (octets rest : Bytes) :
    wholeLines (octets ++ 0x0A :: rest) = octets.splitOn 0x0A ++ wholeLines rest := by
  rw [wholeLines, List.splitOn_append_cons_self, List.dropLast_append_of_ne_nil (List.splitOn_ne_nil _ _), wholeLines]

theorem wholeLines_line {line : Bytes} (h : 0x0A ∉ line) (rest : Bytes) :
    wholeLines (line ++ 0x0A :: rest) = line :: wholeLines rest := by
  rw [wholeLines_append, List.splitOn_eq_singleton h]
  rfl

variable (s) in
/-- What the lines of a stream should set off: a press for each that is the trigger, a fault for each that is the fault
    line. -/
def expected (octets : Bytes) : List SerialEvent :=
  (wholeLines octets).filterMap fun line => s.lineEvent (decode line)

variable (s) in
/-- The line is read alike however it is cut in two. -/
def Settled (line : Bytes) : Prop :=
  ∀ pre post, line = pre ++ post → s.lineEvent (kept (decode pre) ++ decode post) = s.lineEvent (decode line)

/-! ### One line -/

variable (s) in
/-- Neither text holds a replacement character. -/
structure Clean : Prop where
  trigger : replacement ∉ s.trigger
  faultLine : replacement ∉ s.faultLine

/-- A text with a replacement character sets off nothing. -/
theorem not_mem_of_lineEvent (hclean : s.Clean) {t : JsString} (h : s.lineEvent t ≠ none) : replacement ∉ t := by
  intro hmem
  have htrim : replacement ∈ trim t := mem_trim (by decide) hmem
  unfold lineEvent at h
  dsimp only at h
  split at h
  · rename_i heq
    exact hclean.trigger (heq ▸ htrim)
  · split at h
    · rename_i heq
      exact hclean.faultLine (heq ▸ htrim)
    · exact h rfl

/-- The text of pieces whose kept end holds no replacement character ends as it does in one piece. -/
theorem kept_decodeChunks {ps : List Bytes} (h : replacement ∉ kept (decodeChunks ps)) :
    kept (decodeChunks ps) = kept (decode ps.flatten) := by
  by_cases hlong : serialBufferCap ≤ (decodeChunks ps).length
  · have hsuffix := suffix_decode_flatten ps h (sliceEnd_suffix _ _)
    have hlength : (kept (decodeChunks ps)).length = serialBufferCap := by
      rw [kept, length_sliceEnd, Nat.min_eq_left hlong]
    refine (sliceEnd_of_suffix hsuffix ?_).symm
    have hle := hsuffix.length_le
    omega
  · rw [kept, sliceEnd_of_le (Nat.le_of_not_le hlong)] at h ⊢
    have hwhole : decodeChunks ps = decode ps.flatten := by
      apply decodeChunks_eq_of_replaced_le
      rw [replaced, List.count_eq_zero_of_not_mem h]
      exact Nat.zero_le _
    rw [← hwhole, kept, sliceEnd_of_le (Nat.le_of_not_le hlong)]

/-- Where no end of the octets begins inside a character, no cut changes the text. -/
theorem decodeChunks_of_uncut {ps : List Bytes}
    (h : ∀ pre post, ps.flatten = pre ++ post → replacement ∉ decode post) : decodeChunks ps = decode ps.flatten := by
  induction ps with
  | nil => rfl
  | cons p ps ih =>
      have hrest : decodeChunks ps = decode ps.flatten := by
        refine ih fun pre post hsplit => h (p ++ pre) post ?_
        rw [List.flatten_cons, hsplit, List.append_assoc]
      have hcut : decode (p ++ ps.flatten) = decode p ++ decode ps.flatten := by
        rcases decode_cut p ps.flatten with ⟨hcont, -⟩ | ⟨-, heq⟩
        · obtain ⟨-, k, r, -, hread⟩ := decode_resumes hcont
          have hpost := h p ps.flatten rfl
          rw [hread] at hpost
          exact absurd (List.mem_append_left _ List.mem_cons_self) hpost
        · exact heq
      rw [List.flatten_cons, hcut, ← hrest]
      rfl

/-- A line that no single cut changes is changed by none. -/
theorem lineEvent_pieces (hclean : s.Clean) {ps : List Bytes} {last : Bytes} (h : s.Settled (ps.flatten ++ last)) :
    s.lineEvent (kept (decodeChunks ps) ++ decode last) = s.lineEvent (decode (ps.flatten ++ last)) := by
  by_cases hevent : s.lineEvent (decode (ps.flatten ++ last)) = none
  · rw [hevent]
    by_contra hnone
    have hfree := not_mem_of_lineEvent hclean hnone
    rw [List.mem_append, not_or] at hfree
    rw [kept_decodeChunks hfree.1, h ps.flatten last rfl] at hnone
    exact hnone hevent
  · -- each end of the octets is read in its own right, so none begins inside a character
    have huncut : ∀ pre post, (ps ++ [last]).flatten = pre ++ post → replacement ∉ decode post := by
      intro pre post hsplit
      rw [List.flatten_append, List.flatten_singleton] at hsplit
      have hfree := not_mem_of_lineEvent hclean (fun hnone => hevent (h pre post hsplit ▸ hnone))
      rw [List.mem_append, not_or] at hfree
      exact hfree.2
    have hwhole := decodeChunks_of_uncut huncut
    have hhead : decode (ps.flatten ++ last) = decode ps.flatten ++ decode last := by
      rcases decode_cut ps.flatten last with ⟨hcont, -⟩ | ⟨-, heq⟩
      · obtain ⟨-, k, r, -, hread⟩ := decode_resumes hcont
        have hpost := huncut ps.flatten last (by rw [List.flatten_append, List.flatten_singleton])
        rw [hread] at hpost
        exact absurd (List.mem_append_left _ List.mem_cons_self) hpost
      · exact heq
    rw [List.flatten_append, List.flatten_singleton, decodeChunks_append, decodeChunks_singleton, hhead,
      List.append_cancel_right_eq] at hwhole
    rw [hwhole, h ps.flatten last rfl]

/-! ### Streams -/

/-- What is kept of an open line holds no line feed. -/
theorem lineFeed_not_mem_kept {ps : List Bytes} (h : ∀ p ∈ ps, 0x0A ∉ p) : 0x0A ∉ kept (decodeChunks ps) := by
  intro hmem
  obtain ⟨p, hp, hmem⟩ := List.mem_flatMap.mp ((sliceEnd_suffix _ _).subset hmem)
  obtain ⟨b, hb, hvalue⟩ := mem_decode hmem (by decide)
  obtain rfl : b = 0x0A := UInt8.toNat_inj.mp hvalue
  exact h p hp hb

/-- The events of a stream whose lines no cut changes, while a line is unfinished. -/
theorem events_pieces (hclean : s.Clean) (chunks : List Bytes) : ∀ ps : List Bytes, (∀ p ∈ ps, 0x0A ∉ p) →
    (∀ line ∈ wholeLines (ps.flatten ++ chunks.flatten), s.Settled line) →
    s.events (kept (decodeChunks ps)) (chunks.map .buffer) = s.expected (ps.flatten ++ chunks.flatten) := by
  induction chunks with
  | nil =>
      intro ps hps _
      have hopen : 0x0A ∉ ps.flatten ++ [] := by
        rw [List.append_nil, List.mem_flatten]
        rintro ⟨p, hp, hmem⟩
        exact hps p hp hmem
      rw [List.flatten_nil, expected, wholeLines_open hopen]
      rfl
  | cons chunk chunks ih =>
      -- the lines of the chunk, one after the other
      induction hn : chunk.length using Nat.strongRecOn generalizing chunk with
      | ind n ihn =>
          intro ps hps hlines
          have hbuffer := lineFeed_not_mem_kept hps
          rw [List.flatten_cons] at hlines ⊢
          by_cases hbreak : 0x0A ∈ chunk
          · obtain ⟨last, rest, rfl, hlast⟩ := List.eq_append_cons_of_mem hbreak
            have hline : 0x0A ∉ ps.flatten ++ last := by
              rw [List.mem_append, List.mem_flatten]
              rintro (⟨p, hp, hmem⟩ | hmem)
              · exact hps p hp hmem
              · exact hlast hmem
            have hsplit : ps.flatten ++ ((last ++ 0x0A :: rest) ++ chunks.flatten)
                = (ps.flatten ++ last) ++ 0x0A :: (rest ++ chunks.flatten) := by
              simp only [List.append_assoc, List.cons_append]
            rw [hsplit, wholeLines_line hline, List.forall_mem_cons] at hlines
            have hshort : rest.length < n := by
              rw [← hn, List.length_append, List.length_cons]
              omega
            have hrest := ihn _ hshort rest rfl [] (fun p hp => by cases hp) (by
              rw [List.flatten_nil, List.nil_append, List.flatten_cons]
              exact hlines.2)
            rw [List.flatten_nil, List.nil_append, List.flatten_cons] at hrest
            have hkept : kept (decodeChunks []) = [] := rfl
            rw [hkept, List.map_cons, events] at hrest
            rw [hsplit, List.map_cons, events, feed_line hbuffer hlast, expected, wholeLines_line hline]
            dsimp only
            rw [List.append_assoc, hrest, lineEvent_pieces hclean hlines.1, List.filterMap_cons, expected]
            cases s.lineEvent (decode (ps.flatten ++ last)) with
            | none => rfl
            | some event => rfl
          · have hnext := ih (ps ++ [chunk]) (by
              rw [List.forall_mem_append]
              exact ⟨hps, fun p hp => List.mem_singleton.mp hp ▸ hbreak⟩) (by
              rw [List.flatten_append, List.flatten_singleton, List.append_assoc]
              exact hlines)
            rw [List.flatten_append, List.flatten_singleton, List.append_assoc] at hnext
            rw [List.map_cons, events, feed_open hbuffer hbreak]
            dsimp only
            rw [kept_kept_append, List.nil_append, ← hnext, decodeChunks_append, decodeChunks_singleton]

/-- A whole line of a stream stands after others, which set off what they should. -/
theorem exists_before {octets line : Bytes} (h : line ∈ wholeLines octets) :
    ∃ lines before after, octets = before ++ (line ++ 0x0A :: after) ∧ 0x0A ∉ line ∧
      ∀ rest, wholeLines (before ++ rest) = lines ++ wholeLines rest ∧
        s.feed [] (.buffer (before ++ rest)) =
          ((lines.filterMap fun line => s.lineEvent (decode line)) ++ (s.feed [] (.buffer rest)).1,
            (s.feed [] (.buffer rest)).2) := by
  induction hn : octets.length using Nat.strongRecOn generalizing octets with
  | ind n ih =>
      by_cases hbreak : 0x0A ∈ octets
      · obtain ⟨first, rest, rfl, hfirst⟩ := List.eq_append_cons_of_mem hbreak
        rw [wholeLines_line hfirst, List.mem_cons] at h
        rcases h with rfl | h
        · exact ⟨[], [], rest, rfl, hfirst, fun rest => ⟨rfl, rfl⟩⟩
        · have hshort : rest.length < n := by
            rw [← hn, List.length_append, List.length_cons]
            omega
          obtain ⟨lines, before, after, rfl, hline, hrest⟩ := ih _ hshort h rfl
          refine ⟨first :: lines, first ++ 0x0A :: before, after, ?_, hline, fun rest => ?_⟩
          · rw [List.append_assoc, List.cons_append]
          · obtain ⟨hlines, hfeed⟩ := hrest rest
            have hsplit : (first ++ 0x0A :: before) ++ rest = first ++ 0x0A :: (before ++ rest) := by
              rw [List.append_assoc, List.cons_append]
            rw [hsplit, wholeLines_line hfirst, hlines, feed_line List.not_mem_nil hfirst, hfeed]
            refine ⟨rfl, Prod.ext ?_ rfl⟩
            rw [List.filterMap_cons, List.nil_append]
            cases s.lineEvent (decode first) with
            | none => rfl
            | some event => rfl
      · rw [wholeLines_open hbreak] at h
        cases h

/-- The events of what is read in one chunk. -/
theorem feed_expected (octets : Bytes) : (s.feed [] (.buffer octets)).1 = s.expected octets := by
  induction hn : octets.length using Nat.strongRecOn generalizing octets with
  | ind n ih =>
      by_cases hbreak : 0x0A ∈ octets
      · obtain ⟨first, rest, rfl, hfirst⟩ := List.eq_append_cons_of_mem hbreak
        have hshort : rest.length < n := by
          rw [← hn, List.length_append, List.length_cons]
          omega
        rw [feed_line List.not_mem_nil hfirst, expected, wholeLines_line hfirst, List.filterMap_cons, List.nil_append]
        dsimp only
        rw [ih _ hshort rest rfl, expected]
        cases s.lineEvent (decode first) with
        | none => rfl
        | some event => rfl
      · rw [feed_open List.not_mem_nil hbreak, expected, wholeLines_open hbreak]
        rfl

/-- If every division of a stream reads its lines as they are, no cut changes one of them. -/
theorem settled_of_reads {octets line : Bytes}
    (h : ∀ chunks : List Bytes, chunks.flatten = octets → s.events [] (chunks.map .buffer) = s.expected octets)
    (hline : line ∈ wholeLines octets) : s.Settled line := by
  intro pre post hsplit
  obtain ⟨lines, before, after, rfl, hopen, hrest⟩ := exists_before (s := s) hline
  subst hsplit
  rw [List.mem_append, not_or] at hopen
  have hkept : 0x0A ∉ kept (decode pre) := by
    have hmem : 0x0A ∉ kept (decodeChunks [pre]) :=
      lineFeed_not_mem_kept fun p hp => List.mem_singleton.mp hp ▸ hopen.1
    rwa [decodeChunks_singleton] at hmem
  have hflat : [before ++ pre, post ++ 0x0A :: after].flatten = before ++ ((pre ++ post) ++ 0x0A :: after) := by
    simp only [List.flatten_cons, List.flatten_nil, List.append_assoc, List.append_nil]
  have hread := h _ hflat
  have hfirst : s.feed [] (.buffer (before ++ pre)) =
      (lines.filterMap fun line => s.lineEvent (decode line), kept (decode pre)) := by
    rw [(hrest pre).2, feed_open List.not_mem_nil hopen.1, List.append_nil, List.nil_append]
  have hsecond : (s.feed (kept (decode pre)) (.buffer (post ++ 0x0A :: after))).1 =
      (s.lineEvent (kept (decode pre) ++ decode post)).toList ++ s.expected after := by
    rw [feed_line hkept hopen.2, feed_expected]
  have hlines : s.expected (before ++ ((pre ++ post) ++ 0x0A :: after)) =
      (lines.filterMap fun line => s.lineEvent (decode line)) ++
        ((s.lineEvent (decode (pre ++ post))).toList ++ s.expected after) := by
    rw [expected, (hrest _).1, wholeLines_line (List.mem_append.not.mpr (not_or.mpr hopen)), List.filterMap_append,
      List.filterMap_cons, expected]
    cases s.lineEvent (decode (pre ++ post)) with
    | none => rfl
    | some event => rfl
  rw [hlines, List.map_cons, List.map_cons, List.map_nil, events, events, events, hfirst] at hread
  dsimp only at hread
  rw [hsecond, List.append_nil, List.append_cancel_left_eq, List.append_cancel_right_eq] at hread
  have hsame := congrArg List.head? hread
  rwa [Option.head?_toList, Option.head?_toList] at hsame

/-! ### Which lines no cut changes -/

variable (s) in
/-- A line that no division of the octets reads as another. One that sets something off is ASCII, so that no cut falls
    inside a character, and nothing of it but white space at its start is lost when all of it has come before its line
    break. One that sets off nothing has no end, kept when more has come than is kept, that sets something off. -/
structure Readable (line : Bytes) : Prop where
  acts : s.lineEvent (decode line) ≠ none →
    (∀ b ∈ line, b.toNat < 0x80) ∧ (trimStart (decode line)).length ≤ serialBufferCap
  quiet : s.lineEvent (decode line) = none → ∀ pre post, line = pre ++ post → serialBufferCap < (decode pre).length →
    s.lineEvent (sliceEnd serialBufferCap (decode pre) ++ decode post) = none

/-- One octet outside ASCII, read on its own, is replaced. -/
theorem decode_broken_octet {b : UInt8} (h : 0x80 ≤ b.toNat) : decode [b] = [replacement] := by
  rw [decode, decodeFrom, step_start, lead, if_neg (Nat.not_lt.mpr h)]
  split
  · rfl
  · split
    · rfl
    · split
      · rfl
      · split
        · rfl
        · rfl

/-- A line is read by its trimmed text. -/
theorem lineEvent_congr {t u : JsString} (h : trim t = trim u) : s.lineEvent t = s.lineEvent u := by
  rw [lineEvent, lineEvent, h]

theorem trim_ne_nil_of_lineEvent {t : JsString} (h : s.lineEvent t ≠ none) : trim t ≠ [] := by
  intro hnil
  unfold lineEvent at h
  rw [hnil, if_neg s.trigger_line.nonempty.symm, if_neg s.faultLine_line.nonempty.symm] at h
  exact h rfl

/-- Two lines that set off the same trim to the same text. -/
theorem trim_eq_of_lineEvent {t u : JsString} (h : s.lineEvent t = s.lineEvent u) (hevent : s.lineEvent u ≠ none) :
    trim t = trim u := by
  unfold lineEvent at h hevent
  dsimp only at h hevent
  split at h
  · rename_i ht
    split at h
    · rename_i hu
      rw [ht, hu]
    · split at h <;> cases h
  · split at h
    · rename_i ht
      split at h
      · cases h
      · split at h
        · rename_i hu
          rw [ht, hu]
        · cases h
    · exact absurd h.symm hevent

/-- A line is settled where it is readable, for a source whose triggers are clean. -/
theorem settled_iff_readable (hclean : s.Clean) {line : Bytes} : s.Settled line ↔ s.Readable line := by
  constructor
  · intro h
    constructor
    · intro hevent
      constructor
      · intro b hb
        by_contra hbig
        obtain ⟨pre, post, rfl⟩ := List.append_of_mem hb
        -- the octet on its own is replaced, and the text that ends the line there holds the replacement
        have hfree : ∀ pre' post', pre ++ b :: post = pre' ++ post' → replacement ∉ decode post' := by
          intro pre' post' hsplit
          have hread := not_mem_of_lineEvent hclean (fun hnone => hevent (h pre' post' hsplit ▸ hnone))
          rw [List.mem_append, not_or] at hread
          exact hread.2
        have hflat : [pre, [b], post].flatten = pre ++ b :: post := by
          simp only [List.flatten_cons, List.flatten_nil, List.append_nil, List.singleton_append]
        have hwhole : decodeChunks [pre, [b], post] = decode [pre, [b], post].flatten :=
          decodeChunks_of_uncut fun pre' post' hsplit => hfree pre' post' (hflat.symm.trans hsplit)
        have hall := hfree [] (pre ++ b :: post) rfl
        rw [hflat, decodeChunks, List.flatMap_cons, List.flatMap_cons,
          decode_broken_octet (Nat.not_lt.mp hbig)] at hwhole
        rw [← hwhole] at hall
        exact hall (List.mem_append_right _ List.mem_cons_self)
      · have hread := h line [] (List.append_nil line).symm
        have hnil : decode [] = [] := rfl
        rw [hnil, List.append_nil] at hread
        have htrim := trim_eq_of_lineEvent hread hevent
        have hle := length_trimStart_le (sliceEnd_suffix _ _) htrim (trim_ne_nil_of_lineEvent hevent)
        rw [length_sliceEnd] at hle
        exact Nat.le_trans hle (Nat.min_le_left ..)
    · intro hnone pre post hsplit hlong
      have hread := h pre post hsplit
      rw [hnone] at hread
      exact hread
  · intro h pre post hsplit
    by_cases hnone : s.lineEvent (decode line) = none
    · rw [hnone]
      by_cases hlong : serialBufferCap < (decode pre).length
      · exact h.quiet hnone pre post hsplit hlong
      · rw [kept, sliceEnd_of_le (Nat.le_of_not_lt hlong)]
        rcases decode_cut pre post with ⟨hcont, -⟩ | ⟨-, heq⟩
        · obtain ⟨-, k, r, -, hread⟩ := decode_resumes hcont
          by_contra hevent
          refine not_mem_of_lineEvent hclean hevent (List.mem_append_right _ ?_)
          rw [hread]
          exact List.mem_append_left _ List.mem_cons_self
        · rw [← heq, ← hsplit, hnone]
    · obtain ⟨hascii, hlength⟩ := h.acts hnone
      subst hsplit
      have hhead : decode (pre ++ post) = decode pre ++ decode post := by
        rw [decode_of_ascii hascii, decode_of_ascii fun b hb => hascii b (List.mem_append_left _ hb),
          decode_of_ascii fun b hb => hascii b (List.mem_append_right _ hb), List.map_append]
      rw [hhead] at hlength ⊢
      apply lineEvent_congr
      have hsuffix : kept (decode pre) ++ decode post <:+ decode pre ++ decode post :=
        List.suffix_append_self_iff.mpr (sliceEnd_suffix _ _)
      refine trim_of_suffix hsuffix ?_
      have hle := (trimStart_suffix (decode pre ++ decode post)).length_le
      rw [List.length_append] at hle
      rw [List.length_append, kept, length_sliceEnd]
      omega

/-- If every division of a stream reads its lines as they are, each is one that no division changes. -/
theorem readable_of_reads (hclean : s.Clean) {octets line : Bytes}
    (h : ∀ chunks : List Bytes, chunks.flatten = octets → s.events [] (chunks.map .buffer) = s.expected octets)
    (hline : line ∈ wholeLines octets) : s.Readable line :=
  (settled_iff_readable hclean).mp (settled_of_reads h hline)

/-- Short lines of ASCII, which is what the firmware prints, are read alike. -/
theorem readable_of_ascii {line : Bytes} (hascii : ∀ b ∈ line, b.toNat < 0x80)
    (hlength : line.length ≤ serialBufferCap) :
    s.Readable line := by
  constructor
  · intro _
    refine ⟨hascii, ?_⟩
    have hle := (trimStart_suffix (decode line)).length_le
    rw [decode_of_ascii hascii, List.length_map] at hle
    rw [decode_of_ascii hascii]
    exact Nat.le_trans hle hlength
  · intro _ pre post hsplit hlong
    subst hsplit
    rw [decode_of_ascii fun b hb => hascii b (List.mem_append_left _ hb), List.length_map] at hlong
    rw [List.length_append] at hlength
    omega

end SerialSource

/-- Every division of a stream into chunks sets off the same, a press for each line that is the trigger and a fault for
    each that is the fault line, exactly where each of its lines is read alike however it is cut. -/
theorem serial_reads_iff (s : SerialSource) (octets : Bytes) (htrigger : replacement ∉ s.trigger)
    (hfault : replacement ∉ s.faultLine) :
    (∀ chunks : List Bytes, chunks.flatten = octets → s.events [] (chunks.map .buffer) = s.expected octets) ↔
      ∀ line ∈ SerialSource.wholeLines octets, s.Readable line := by
  have hclean : s.Clean := ⟨htrigger, hfault⟩
  constructor
  · exact fun h line hline => SerialSource.readable_of_reads hclean h hline
  · intro h chunks hchunks
    have hread := SerialSource.events_pieces hclean chunks [] (fun p hp => by cases hp) (fun line hline => by
      rw [List.flatten_nil, List.nil_append, hchunks] at hline
      exact (SerialSource.settled_iff_readable hclean).mpr (h line hline))
    rw [List.flatten_nil, List.nil_append, hchunks] at hread
    exact hread

/-- The source of the reference firmware. -/
def defaultSerialSource : SerialSource where
  trigger := defaultSerialTrigger
  faultLine := defaultSerialFaultLine
  trigger_line := by constructor <;> decide +kernel
  faultLine_line := by constructor <;> decide +kernel
  distinct := by decide +kernel

/-- The firmware starts, the button is pressed, and a fault is found. -/
def firmwareStream : Bytes :=
  encode (js "READY\r\nKILL\r\nFAULT\r\n")

/-- Whatever the chunks, the button is pressed once and the fault is reported once. -/
theorem serial_reads_iff_firmware :
    defaultSerialSource.expected firmwareStream = [.press, .fault] ∧
      ∀ chunks : List Bytes, chunks.flatten = firmwareStream →
        defaultSerialSource.events [] (chunks.map .buffer) = defaultSerialSource.expected firmwareStream := by
  refine ⟨by decide +kernel, ?_⟩
  refine (serial_reads_iff defaultSerialSource firmwareStream (by decide +kernel) (by decide +kernel)).mpr ?_
  intro line hline
  have hlines : SerialSource.wholeLines firmwareStream = [encode (js "READY\r"), encode (js "KILL\r"), encode (js "FAULT\r")] := by
    decide +kernel
  rw [hlines] at hline
  apply SerialSource.readable_of_ascii
  · simp only [List.mem_cons, List.not_mem_nil, or_false] at hline
    rcases hline with rfl | rfl | rfl
    · exact List.all_iff_forall_prop.mp (by decide +kernel)
    · exact List.all_iff_forall_prop.mp (by decide +kernel)
    · exact List.all_iff_forall_prop.mp (by decide +kernel)
  · simp only [List.mem_cons, List.not_mem_nil, or_false] at hline
    rcases hline with rfl | rfl | rfl <;> decide +kernel

/-- A press after a no-break space, which is two octets. -/
def spacedLine : Bytes :=
  [0xC2, 0xA0, 0x4B, 0x49, 0x4C, 0x4C]

/-- A line that is not the trigger, and ends in it after as many spaces as are kept before it. -/
def paddedLine : Bytes :=
  0x78 :: (List.replicate 4092 0x20 ++ [0x4B, 0x49, 0x4C, 0x4C])

theorem paddedLine_ascii : ∀ b ∈ paddedLine, b.toNat < 0x80 := by
  intro b hb
  rcases List.mem_cons.mp hb with rfl | hb
  · decide
  · rcases List.mem_append.mp hb with hb | hb
    · obtain rfl := List.eq_of_mem_replicate hb
      decide
    · exact List.all_iff_forall_prop.mp (by decide : [0x4B, 0x49, 0x4C, 0x4C].all fun b : UInt8 => b.toNat < 0x80) b hb

theorem decode_paddedLine : decode paddedLine = 0x78 :: (List.replicate 4092 0x20 ++ js "KILL") := by
  rw [decode_of_ascii paddedLine_ascii, paddedLine, List.map_cons, List.map_append, List.map_replicate]
  rfl

/-- A press after a no-break space is not readable. -/
theorem spacedLine_unread : ¬ defaultSerialSource.Readable spacedLine := by
  intro h
  have hascii := (h.acts (by decide +kernel)).1 0xC2 List.mem_cons_self
  exact absurd hascii (by decide)

theorem lineEvent_paddedLine : defaultSerialSource.lineEvent (decode paddedLine) = none := by
  have hfirst : (0x78 : UInt16) ∈ trim (decode paddedLine) :=
    mem_trim (by decide) (by rw [decode_paddedLine]; exact List.mem_cons_self)
  unfold SerialSource.lineEvent
  dsimp only
  rw [if_neg, if_neg]
  · intro heq
    rw [heq] at hfirst
    exact absurd hfirst (by decide +kernel)
  · intro heq
    rw [heq] at hfirst
    exact absurd hfirst (by decide +kernel)

/-- A line of which only the end is kept is not readable. -/
theorem paddedLine_unread : ¬ defaultSerialSource.Readable paddedLine := by
  intro h
  have hlength : (decode paddedLine).length = 4097 := by
    rw [decode_paddedLine, List.length_cons, List.length_append, List.length_replicate]
    rfl
  have hend := h.quiet lineEvent_paddedLine paddedLine [] (List.append_nil _).symm (by rw [hlength]; decide)
  have hkept : sliceEnd serialBufferCap (decode paddedLine) = List.replicate 4092 0x20 ++ js "KILL" := by
    rw [sliceEnd, hlength, decode_paddedLine]
    rfl
  have hkill : trim (List.replicate 4092 0x20 ++ js "KILL") = trim (js "KILL") := by
    symm
    apply trim_of_suffix (List.suffix_append _ _)
    rw [trimStart, List.dropWhile_append_of_pos fun u hu => by rw [List.eq_of_mem_replicate hu]; decide]
    decide +kernel
  have hnil : decode [] = [] := rfl
  rw [hkept, hnil, List.append_nil, SerialSource.lineEvent_congr hkill] at hend
  exact absurd hend (by decide +kernel)

/-- Some division of the first stream loses its press, and some division of the second forges one. -/
theorem serial_reads_misread :
    (defaultSerialSource.expected (spacedLine ++ [0x0A]) = [.press] ∧
      ¬ ∀ chunks : List Bytes, chunks.flatten = spacedLine ++ [0x0A] →
        defaultSerialSource.events [] (chunks.map .buffer) = defaultSerialSource.expected (spacedLine ++ [0x0A])) ∧
    (defaultSerialSource.expected (paddedLine ++ [0x0A]) = [] ∧
      ¬ ∀ chunks : List Bytes, chunks.flatten = paddedLine ++ [0x0A] →
        defaultSerialSource.events [] (chunks.map .buffer) = defaultSerialSource.expected (paddedLine ++ [0x0A])) := by
  have hclean : defaultSerialSource.Clean := ⟨by decide +kernel, by decide +kernel⟩
  have hspaced : SerialSource.wholeLines (spacedLine ++ [0x0A]) = [spacedLine] :=
    SerialSource.wholeLines_line (by decide) []
  have hpadded : SerialSource.wholeLines (paddedLine ++ [0x0A]) = [paddedLine] := by
    refine SerialSource.wholeLines_line ?_ []
    rw [paddedLine, List.mem_cons, List.mem_append, List.mem_replicate]
    decide
  refine ⟨⟨by decide +kernel, fun h => ?_⟩, ?_, fun h => ?_⟩
  · refine spacedLine_unread (SerialSource.readable_of_reads hclean h ?_)
    rw [hspaced]
    exact List.mem_singleton_self _
  · rw [SerialSource.expected, hpadded, List.filterMap_cons, lineEvent_paddedLine]
    rfl
  · refine paddedLine_unread (SerialSource.readable_of_reads hclean h ?_)
    rw [hpadded]
    exact List.mem_singleton_self _

end OwnerSwitch
