import Mathlib.Algebra.BigOperators.Group.List.Basic
import Mathlib.Data.UInt

/-!
# Sampled two-valued signals

The `duration` of a list of samples is the sum of the differences of their 32-bit clock readings; it
can exceed a wrap (`reading_snoc`).  `Alternating` lists of blocks are the maximal stretches of
a two-valued signal, and `spans` are the times from block to block.  The lemmas append a sample at
the end, to the last block or as a new one.
-/

namespace RoboticCar.Lib.Signal

variable {α : Type*} (time : α → UInt32)

def gaps : List α → List ℕ
  | a :: b :: l => (time b - time a).toNat :: gaps (b :: l)
  | _ => []

/-- The time from the first sample to the last. -/
def duration (l : List α) : ℕ := (gaps time l).sum

def largest (l : List ℕ) : ℕ := l.foldr max 0

theorem largest_append (l : List ℕ) (g : ℕ) : largest (l ++ [g]) = max (largest l) g := by
  induction l with
  | nil => simp [largest]
  | cons a l ih =>
    simp only [largest, List.cons_append, List.foldr_cons] at ih ⊢
    rw [ih, max_assoc]

variable {time} {l : List α} {x y : α}

@[simp]
theorem gaps_singleton (a : α) : gaps time [a] = [] := rfl

@[simp]
theorem duration_singleton (a : α) : duration time [a] = 0 := rfl

theorem gaps_append_cons (l₁ : List α) (a : α) (l₂ : List α) :
    gaps time (l₁ ++ a :: l₂) = gaps time (l₁ ++ [a]) ++ gaps time (a :: l₂) := by
  induction l₁ with
  | nil => rfl
  | cons b l₁ ih =>
    cases l₁ with
    | nil => rfl
    | cons => simpa [gaps] using ih

theorem gaps_snoc (h : l.getLast? = some y) :
    gaps time (l ++ [x]) = gaps time l ++ [(time x - time y).toNat] := by
  obtain ⟨l, rfl⟩ := List.getLast?_eq_some_iff.1 h
  rw [List.append_assoc, List.singleton_append, gaps_append_cons]
  rfl

theorem duration_snoc (h : l.getLast? = some y) :
    duration time (l ++ [x]) = duration time l + (time x - time y).toNat := by
  simp [duration, gaps_snoc h]

theorem duration_append_cons (l₁ : List α) (a : α) (l₂ : List α) :
    duration time (l₁ ++ a :: l₂) = duration time (l₁ ++ [a]) + duration time (a :: l₂) := by
  simp only [duration]
  rw [gaps_append_cons, List.sum_append]

theorem mem_gaps_append {g : ℕ} (l₁ : List α) {l₂ : List α} (h : g ∈ gaps time l₂) :
    g ∈ gaps time (l₁ ++ l₂) := by
  cases l₂ with
  | nil => simp [gaps] at h
  | cons a l₂ => exact gaps_append_cons l₁ a l₂ ▸ List.mem_append_right _ h

/-- A part at the end does not last longer than the whole. -/
theorem duration_le_append (l₁ l₂ : List α) : duration time l₂ ≤ duration time (l₁ ++ l₂) := by
  cases l₂ with
  | nil => exact Nat.zero_le _
  | cons a l₂ => exact duration_append_cons l₁ a l₂ ▸ Nat.le_add_left _ _

/-- One more sample, by readings: the time since `start` grows by the gap. -/
theorem reading_snoc {start : UInt32} (h : l.getLast? = some y)
    (hl : time y - start = UInt32.ofNat (duration time l)) :
    time x - start = UInt32.ofNat (duration time (l ++ [x])) := by
  rw [duration_snoc h, UInt32.ofNat_add, ← hl, UInt32.ofNat_toNat]
  exact (sub_add_sub_cancel' _ _ _).symm

/-- The blocks are not empty and alternate in colour, beginning with `c`. -/
def Alternating (colour : α → Bool) : Bool → List (List α) → Prop
  | _, [] => True
  | c, b :: bs => b ≠ [] ∧ (∀ a ∈ b, colour a = c) ∧ Alternating colour (!c) bs

variable (time) in
/-- The times from block to block. -/
def spans : List (List α) → List ℕ
  | b :: b' :: bs => duration time (b ++ b'.take 1) :: spans (b' :: bs)
  | _ => []

/-- The colour of the block after `n` blocks that begin with `c`. -/
def colourAt (c : Bool) (n : ℕ) : Bool := c ^^ decide (n % 2 = 1)

theorem colourAt_succ (c : Bool) (n : ℕ) : colourAt c (n + 1) = !colourAt c n := by
  rcases Nat.mod_two_eq_zero_or_one n with h | h <;> simp [colourAt, Nat.add_mod, h]

theorem alternating_snoc {colour : α → Bool} {c : Bool} {bs : List (List α)} {b : List α} :
    Alternating colour c (bs ++ [b]) ↔
      Alternating colour c bs ∧ b ≠ [] ∧ ∀ a ∈ b, colour a = colourAt c bs.length := by
  induction bs generalizing c with
  | nil => simp [Alternating, colourAt]
  | cons b' bs ih =>
    have hc : colourAt (!c) bs.length = colourAt c (b' :: bs).length := by
      rw [List.length_cons, colourAt_succ]
      simp [colourAt]
    simp only [List.cons_append, Alternating, ih, hc]
    tauto

theorem spans_append_cons (bs : List (List α)) (b : List α) (bs' : List (List α)) :
    spans time (bs ++ b :: bs') = spans time (bs ++ [b]) ++ spans time (b :: bs') := by
  induction bs with
  | nil => rfl
  | cons b₁ bs ih =>
    cases bs with
    | nil => rfl
    | cons => simpa [spans] using ih

/-- A new block adds the time of the one before it. -/
theorem spans_new (bs : List (List α)) (b : List α) (x : α) :
    spans time (bs ++ [b, [x]]) = spans time (bs ++ [b]) ++ [duration time (b ++ [x])] := by
  rw [spans_append_cons]
  rfl

/-- A longer last block changes no time. -/
theorem spans_grow (bs : List (List α)) {b : List α} (hb : b ≠ []) (x : α) :
    spans time (bs ++ [b ++ [x]]) = spans time (bs ++ [b]) := by
  induction bs with
  | nil => rfl
  | cons b₁ bs ih =>
    cases bs with
    | nil =>
      obtain ⟨a, b, rfl⟩ := List.exists_cons_of_ne_nil hb
      rfl
    | cons => simpa [spans] using ih

theorem length_spans (bs : List (List α)) (b : List α) :
    (spans time (bs ++ [b])).length = bs.length := by
  induction bs with
  | nil => rfl
  | cons b₁ bs ih =>
    cases bs with
    | nil => rfl
    | cons => simpa [spans] using ih

end RoboticCar.Lib.Signal
