/-
Module: OwnerSwitch.Lib.RateLimit
Layer: Lib
Purpose: Two ways to bound what a sender does over time, with the law each of them enforces: a log of
  instants pruned to a horizon, which bounds every interval of that length, and one bucket that is reset
  when a new period begins, which bounds what each period costs, added up in the order of its charges.
Imports: none of the project
Trusted boundary: none
Main exports: recent, within, Keeps, AtMost, AtMost.record, chargesIn, spentIn, chargesIn_snoc_within, Charged,
  Charged.charge
Open obligations: none
-/
import Mathlib.Algebra.Order.Group.Defs
import Mathlib.Algebra.Order.Group.Basic
import Mathlib.Algebra.Order.Sub.Basic
import Mathlib.Data.List.Basic

namespace RateLimit

/-! ### A log pruned to a horizon -/

section Horizon

variable {α : Type*} [AddCommGroup α] [LinearOrder α]

/-- The instants of a log that are less than `w` old at `now`. -/
def recent (w : α) (log : List α) (now : α) : List α :=
  log.filter fun a => now - a < w

/-- The instants of the half-open interval of length `w` from `start` on. -/
def within (w start : α) (sent : List α) : List α :=
  sent.filter fun a => start ≤ a ∧ a < start + w

/-- The log holds what still counts of all that was sent, now and later. -/
structure Keeps (w : α) (sent log : List α) (now : α) : Prop where
  past : ∀ a ∈ sent, a ≤ now
  recent : ∀ t, now ≤ t → recent w log t = recent w sent t

/-- No interval of length `w` holds more than `n`. -/
def AtMost (w : α) (n : Nat) (sent : List α) : Prop :=
  ∀ start, (within w start sent).length ≤ n

variable {w now t : α} {sent log : List α} {n : Nat}

theorem Keeps.nil (w now : α) : Keeps w [] [] now where
  past := nofun
  recent := fun _ _ => rfl

/-- A log stays right as time passes. -/
theorem Keeps.later (h : Keeps w sent log now) (hlater : now ≤ t) : Keeps w sent log t where
  past := fun a ha => (h.past a ha).trans hlater
  recent := fun u hu => h.recent u (hlater.trans hu)

/-- A log stays right where what is sent is recorded. -/
theorem Keeps.record (h : Keeps w sent log now) : Keeps w (sent ++ [now]) (log ++ [now]) now where
  past := by
    intro a ha
    rcases List.mem_append.mp ha with ha | ha
    · exact h.past a ha
    · exact le_of_eq (List.mem_singleton.mp ha)
  recent := by
    intro u hu
    have hkept := h.recent u hu
    unfold RateLimit.recent at hkept ⊢
    rw [List.filter_append, List.filter_append, hkept]

theorem AtMost.nil (w : α) (n : Nat) : AtMost w n [] :=
  fun _ => Nat.zero_le n

variable [IsOrderedAddMonoid α]

/-- What has aged out by now has aged out later. -/
theorem recent_recent (h : now ≤ t) : recent w (recent w log now) t = recent w log t := by
  unfold recent
  rw [List.filter_filter]
  apply List.filter_congr
  intro a _
  have hage : now - a ≤ t - a := sub_le_sub_right h a
  simp only [Bool.and_eq_left_iff_imp, decide_eq_true_eq]
  exact fun hcounts => lt_of_le_of_lt hage hcounts

/-- A log stays right where what is too old is dropped. -/
theorem Keeps.prune (h : Keeps w sent log now) : Keeps w sent (RateLimit.recent w log now) now where
  past := h.past
  recent := fun u hu => (recent_recent hu).trans (h.recent u hu)

/-- Where the log has room, sending once more keeps the bound: an interval that holds the present holds
    nothing older than the horizon. -/
theorem AtMost.record (h : AtMost w n sent) (hkeeps : Keeps w sent log now)
    (hroom : (recent w log now).length < n) : AtMost w n (sent ++ [now]) := by
  intro start
  unfold within
  rw [List.filter_append, List.length_append]
  by_cases hnow : start ≤ now ∧ now < start + w
  · have hsublist : ((within w start sent)).length ≤ (recent w sent now).length := by
      apply List.Sublist.length_le
      apply List.monotone_filter_right
      intro a ha
      simp only [decide_eq_true_eq] at ha ⊢
      rw [sub_lt_iff_lt_add]
      exact lt_of_lt_of_le hnow.2 ((add_comm start w).le.trans (add_le_add_right ha.1 w))
    rw [← hkeeps.recent now le_rfl] at hsublist
    rw [List.filter_cons_of_pos (by simpa using hnow), List.filter_nil, List.length_singleton]
    exact Nat.le_trans (Nat.succ_le_succ hsublist) hroom
  · rw [List.filter_cons_of_neg (by simpa using hnow), List.filter_nil, List.length_nil, Nat.add_zero]
    exact h start

end Horizon

/-! ### A bucket for each period -/

section Period

variable {τ ι β : Type*} [LinearOrder ι]

/-- The charges of one period. -/
def chargesIn (period : τ → ι) (charges : List (τ × β)) (p : ι) : List β :=
  (charges.filter fun c => period c.1 = p).map Prod.snd

/-- What the charges of one period add up to, one after another. -/
def spentIn [Add β] [Zero β] (period : τ → ι) (charges : List (τ × β)) (p : ι) : β :=
  (chargesIn period charges p).foldl (· + ·) 0

variable {period : τ → ι} {charges : List (τ × β)} {current : ι} {spent cost : β} {now t : τ}

/-- The charges of a period after one more. -/
theorem chargesIn_snoc (p : ι) :
    chargesIn period (charges ++ [(now, cost)]) p =
      if period now = p then chargesIn period charges p ++ [cost] else chargesIn period charges p := by
  unfold chargesIn
  rw [List.filter_append, List.map_append]
  by_cases hp : period now = p
  · simp [hp]
  · simp [hp]

theorem chargesIn_eq_nil {p : ι} (h : ∀ c ∈ charges, period c.1 ≠ p) : chargesIn period charges p = [] := by
  unfold chargesIn
  rw [List.filter_eq_nil_iff.mpr fun c hc => by simpa using h c hc]
  rfl

/-- What holds of the charges of every period still holds when one of them is charged, if it does of that one. -/
theorem chargesIn_snoc_within {P : List β → Prop} (hwithin : ∀ p, P (chargesIn period charges p))
    (hroom : P (chargesIn period charges (period now)) → P (chargesIn period charges (period now) ++ [cost])) (p : ι) :
    P (chargesIn period (charges ++ [(now, cost)]) p) := by
  rw [chargesIn_snoc]
  split_ifs with hp
  · rw [← hp]
    exact hroom (hwithin _)
  · exact hwithin p

variable [Add β] [Zero β]

/-- The bucket holds what was spent in its period, and nothing was spent after it. -/
structure Charged (period : τ → ι) (charges : List (τ × β)) (current : ι) (spent : β) (now : τ) : Prop where
  total : spentIn period charges current = spent
  latest : ∀ c ∈ charges, period c.1 ≤ current
  reached : charges ≠ [] → current ≤ period now

theorem Charged.nil (current : ι) (now : τ) : Charged period ([] : List (τ × β)) current 0 now where
  total := rfl
  latest := nofun
  reached := fun h => absurd rfl h

/-- An account stays right within its period. -/
theorem Charged.later (h : Charged period charges current spent now) (hlater : period now ≤ period t) :
    Charged period charges current spent t where
  total := h.total
  latest := h.latest
  reached := fun hsome => (h.reached hsome).trans hlater

/-- A bucket of an earlier period is emptied into the present one. -/
theorem Charged.reset (h : Charged period charges current spent now) (hother : current ≠ period now) :
    Charged period charges (period now) 0 now where
  total := by
    have hnone : chargesIn period charges (period now) = [] := ?_
    · rw [spentIn, hnone]
      rfl
    apply chargesIn_eq_nil
    intro c hc
    have hreached := h.reached (List.ne_nil_of_mem hc)
    exact ((h.latest c hc).trans_lt (lt_of_le_of_ne hreached hother)).ne
  latest := fun c hc => (h.latest c hc).trans (h.reached (List.ne_nil_of_mem hc))
  reached := fun _ => le_rfl

/-- A charge within what the bucket has left. -/
theorem Charged.charge (h : Charged period charges (period now) spent now) :
    Charged period (charges ++ [(now, cost)]) (period now) (spent + cost) now where
  total := by rw [spentIn, chargesIn_snoc, if_pos rfl, List.foldl_append, ← h.total]; rfl
  latest := by
    intro c hc
    rcases List.mem_append.mp hc with hc | hc
    · exact h.latest c hc
    · rw [List.mem_singleton.mp hc]
  reached := fun _ => le_rfl

end Period

end RateLimit
