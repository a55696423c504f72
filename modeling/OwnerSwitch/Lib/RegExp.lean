/-
Module: OwnerSwitch.Lib.RegExp
Layer: Lib
Purpose: Regular expressions without flags, over code units, in the part that anchors, single units and `.` make up,
  each unit or `.` possibly under `*`. A pattern is a text; `parse` reads it and `test` searches a subject for it.
Imports: Lib.JsString
Trusted boundary: a pattern outside this part is not read at all
Main exports: RegExp.parse, RegExp.test, isLineTerminator, tokens_escapeUnit, search_anchored
Open obligations: none
-/
import OwnerSwitch.Lib.JsString

namespace RegExp

/-! ### Patterns -/

/-- `LineTerminator`, which `.` does not match. -/
def isLineTerminator (u : UInt16) : Bool :=
  u = 0x0A || u = 0x0D || u = 0x2028 || u = 0x2029

/-- What matches one unit. -/
inductive Atom where
  | unit (u : UInt16)
  | any
  deriving DecidableEq, Repr

def Atom.accepts : Atom → UInt16 → Bool
  | .unit u, v => u = v
  | .any, v => !isLineTerminator v

inductive Token where
  | start
  | stop
  | star
  | atom (a : Atom)
  deriving DecidableEq, Repr

inductive Term where
  | start
  | stop
  | one (a : Atom)
  | many (a : Atom)
  deriving DecidableEq, Repr

/-- `SyntaxCharacter` -/
def syntaxUnits : JsString :=
  js "^$\\.*+?()[]\x7b\x7d|"

def isSyntaxUnit (u : UInt16) : Bool :=
  syntaxUnits.contains u

/-- The tokens of a pattern; the flag says that the unit before was a backslash. -/
def tokens : Bool → JsString → Option (List Token)
  | false, [] => some []
  | true, [] => none
  | true, u :: s => if isSyntaxUnit u then (tokens false s).map (.atom (.unit u) :: ·) else none
  | false, u :: s =>
      if u = 0x5C then tokens true s
      else if u = 0x5E then (tokens false s).map (.start :: ·)
      else if u = 0x24 then (tokens false s).map (.stop :: ·)
      else if u = 0x2A then (tokens false s).map (.star :: ·)
      else if u = 0x2E then (tokens false s).map (.atom .any :: ·)
      else if isSyntaxUnit u then none
      else (tokens false s).map (.atom (.unit u) :: ·)

/-- A star belongs to the atom before it. -/
def terms : List Token → Option (List Term)
  | [] => some []
  | .start :: ts => (terms ts).map (.start :: ·)
  | .stop :: ts => (terms ts).map (.stop :: ·)
  | .star :: _ => none
  | .atom a :: .star :: ts => (terms ts).map (.many a :: ·)
  | .atom a :: ts => (terms ts).map (.one a :: ·)

def parse (pattern : JsString) : Option (List Term) :=
  (tokens false pattern).bind terms

/-! ### Matching -/

/-- Any number of units that `a` accepts, then `rest`; the flag says that the subject begins here. -/
def repeated (a : Atom) (rest : Bool → JsString → Bool) : Bool → JsString → Bool
  | b, [] => rest b []
  | b, u :: s => rest b (u :: s) || (a.accepts u && repeated a rest false s)

def matchHere : List Term → Bool → JsString → Bool
  | [], _, _ => true
  | .start :: ts, b, s => b && matchHere ts b s
  | .stop :: ts, b, s => s.isEmpty && matchHere ts b s
  | .one _ :: _, _, [] => false
  | .one a :: ts, _, u :: s => a.accepts u && matchHere ts false s
  | .many a :: ts, b, s => repeated a (matchHere ts) b s

/-- A match that begins here or later. -/
def search (ts : List Term) : Bool → JsString → Bool
  | b, [] => matchHere ts b []
  | b, u :: s => matchHere ts b (u :: s) || search ts false s

/-- `new RegExp(pattern).test(subject)` -/
def test (pattern subject : JsString) : Option Bool :=
  (parse pattern).map fun ts => search ts true subject

/-! ### Literal text -/

/-- A unit with a backslash where it would mean something else. -/
def escapeUnit (u : UInt16) : JsString :=
  if isSyntaxUnit u then [0x5C, u] else [u]

theorem tokens_escapeUnit (u : UInt16) (s : JsString) :
    tokens false (escapeUnit u ++ s) = (tokens false s).map (.atom (.unit u) :: ·) := by
  unfold escapeUnit
  split_ifs with hsyntax
  · show tokens false (0x5C :: u :: s) = _
    rw [tokens, if_pos rfl, tokens, if_pos hsyntax]
  · have hne : ∀ c : UInt16, isSyntaxUnit c = true → u ≠ c := by
      rintro c hc rfl
      exact hsyntax hc
    show tokens false (u :: s) = _
    rw [tokens, if_neg (hne 0x5C (by decide)), if_neg (hne 0x5E (by decide)), if_neg (hne 0x24 (by decide)),
      if_neg (hne 0x2A (by decide)), if_neg (hne 0x2E (by decide)), if_neg hsyntax]

/-! ### Anchored patterns -/

/-- A pattern anchored at its start is found nowhere but there. -/
theorem search_start (ts : List Term) (s : JsString) : search (.start :: ts) false s = false := by
  induction s with
  | nil => rfl
  | cons u s ih => rw [search, ih, matchHere, Bool.false_and, Bool.false_or]

theorem search_anchored (ts : List Term) (s : JsString) : search (.start :: ts) true s = matchHere ts true s := by
  cases s with
  | nil => rw [search, matchHere, Bool.true_and]
  | cons u s => rw [search, search_start, matchHere, Bool.true_and, Bool.or_false]

/-- Any run of units that the atom accepts may come before what the rest matches. -/
theorem repeated_iff {a : Atom} {rest : Bool → JsString → Bool} {b : Bool} {s : JsString} :
    repeated a rest b s = true ↔
      ∃ skipped left, s = skipped ++ left ∧ (∀ u ∈ skipped, a.accepts u = true) ∧
        rest (if skipped = [] then b else false) left = true := by
  induction s generalizing b with
  | nil =>
      rw [repeated]
      constructor
      · exact fun h => ⟨[], [], rfl, nofun, h⟩
      · rintro ⟨skipped, left, hs, -, h⟩
        obtain ⟨rfl, rfl⟩ := List.append_eq_nil_iff.mp hs.symm
        exact h
  | cons u s ih =>
      rw [repeated, Bool.or_eq_true, Bool.and_eq_true, ih]
      constructor
      · rintro (h | ⟨hu, skipped, left, rfl, hskipped, h⟩)
        · exact ⟨[], u :: s, rfl, nofun, h⟩
        · refine ⟨u :: skipped, left, rfl, ?_, ?_⟩
          · intro v hv
            cases hv with
            | head => exact hu
            | tail _ hv => exact hskipped v hv
          · rw [ite_self] at h
            rw [if_neg (List.cons_ne_nil u skipped)]
            exact h
      · rintro ⟨skipped, left, hs, hskipped, h⟩
        cases skipped with
        | nil => exact .inl (hs ▸ h)
        | cons v skipped =>
            obtain ⟨rfl, rfl⟩ := List.cons.inj hs
            rw [if_neg (List.cons_ne_nil _ _)] at h
            refine .inr ⟨hskipped _ (List.mem_cons_self ..), skipped, left, rfl, ?_, ?_⟩
            · exact fun w hw => hskipped w (List.mem_cons_of_mem _ hw)
            · rw [ite_self]
              exact h

end RegExp
