import Mathlib.Algebra.Group.Action.Defs
import Mathlib.Algebra.Order.BigOperators.Group.List
import Mathlib.Data.List.FinRange
import Mathlib.Data.List.Sort
import RoboticCar.Navigation.Navigation

/-!
# The widths of a barcode

A barcode is a Code 39 star, a letter and a star again: 29 stripes, alternately black and white.
`decodeRuns` is `s3_barcode_decode_runs`, the validator of both readers.  They call it before they
have seen the white behind the last stripe; by `decodeRuns_trailing` its verdict is the final one
from the margin `quietModules * narrow` on, with `narrow` from the last star.
-/

namespace RoboticCar.Barcode

open Navigation

/-- `S3_BARCODE_RUNS`. -/
def runCount : ℕ := 29

/-- `s3_barcode_defaults`. -/
def defaults : BarcodeConfig := ⟨30000, 30000, 1000000, 15000000, 10⟩

/-- `config_valid`, for a pointer that is not null. -/
def configValid (c : BarcodeConfig) : Bool :=
  0 < c.maxGapUs && 0 < c.minNarrowUs && c.minNarrowUs ≤ c.maxRunUs &&
    c.maxRunUs < c.maxFrameUs && c.maxFrameUs < 0x80000000 && c.maxGapUs ≤ c.maxRunUs &&
    10 ≤ c.quietModules && c.quietModules ≤ 50 &&
    decide (c.maxRunUs.toNat * c.quietModules.toNat < 0x80000000)

/-- `g_letters`, as the list that is searched. -/
def letters : List ℕ :=
  [0x109, 0x049, 0x148, 0x019, 0x118, 0x058, 0x00D, 0x10C, 0x04C, 0x01C,
   0x103, 0x043, 0x142, 0x013, 0x112, 0x052, 0x007, 0x106, 0x046, 0x016,
   0x181, 0x0C1, 0x1C0, 0x091, 0x190, 0x0D0]

def star : ℕ := 0x094

def letterOf (pattern : ℕ) : Option (Fin 26) :=
  (List.finRange 26).find? fun k => letters.getD k 0 = pattern

/-- `S3_BARCODE_WIDTH_MIN_PERCENT`. -/
def widthMinPercent : ℕ := 65

/-- `S3_BARCODE_WIDTH_MAX_PERCENT`. -/
def widthMaxPercent : ℕ := 135

/-- `S3_BARCODE_PAYLOAD_SPACE_MAX_PERCENT`. -/
def payloadSpaceMaxPercent : ℕ := 150

def sorted (runs : List ℕ) : List ℕ := runs.insertionSort (· ≤ ·)

/-- The mean of the six smallest widths. -/
def narrowOf (runs : List ℕ) : ℕ := ((sorted runs).take 6).sum / 6

/-- The mean of the three others. -/
def wideOf (runs : List ℕ) : ℕ := ((sorted runs).drop 6).sum / 3

/-- Half-way between the largest narrow and the smallest wide width. -/
def splitOf (runs : List ℕ) : ℕ := ((sorted runs).getD 5 0 + (sorted runs).getD 6 0) / 2

/-- The last loop of `character_widths`: the next width, whether a white gap was excused, the
pattern. -/
def classify (narrow wide split : ℕ) (payload : Bool) : ℕ → Bool → ℕ → List ℕ → Option ℕ
  | _, _, pattern, [] => some pattern
  | i, extended, pattern, run :: runs =>
    let isWide := split < run
    let reference := if isWide then wide else narrow
    let pattern' := pattern * 2 + if isWide then 1 else 0
    if run * 100 < reference * widthMinPercent then none
    else if reference * widthMaxPercent < run * 100 then
      if !payload ∨ isWide ∨ i % 2 = 0 ∨ extended ∨
          reference * payloadSpaceMaxPercent < run * 100 then none
      else classify narrow wide split payload (i + 1) true pattern' runs
    else classify narrow wide split payload (i + 1) extended pattern' runs

def widthOk (c : BarcodeConfig) (run : ℕ) : Bool := run ≠ 0 && run ≤ c.maxRunUs.toNat

/-- The checks of `character_widths` on the two means. -/
def meansOk (c : BarcodeConfig) (gap : ℕ) (runs : List ℕ) : Bool :=
  c.minNarrowUs.toNat ≤ narrowOf runs && 3 * gap ≤ narrowOf runs &&
    narrowOf runs * 180 ≤ wideOf runs * 100 && wideOf runs * 100 ≤ narrowOf runs * 350

/-- `character_widths` on nine widths: the pattern, and the width of a narrow stripe. -/
def characterWidths (runs : List ℕ) (gap : ℕ) (c : BarcodeConfig) (payload : Bool) :
    Option (ℕ × ℕ) :=
  if runs.all (widthOk c) ∧ meansOk c gap runs then
    (classify (narrowOf runs) (wideOf runs) (splitOf runs) payload 0 false 0 runs).map
      fun pattern => (pattern, narrowOf runs)
  else none

/-- `character`: the strict check of a star. -/
def character (runs : List ℕ) (gap : ℕ) (c : BarcodeConfig) : Option (ℕ × ℕ) :=
  characterWidths runs gap c false

/-- The widths in the direction of travel or against it. -/
def oriented (reversed : Bool) (runs : List ℕ) : List ℕ := if reversed then runs.reverse else runs

/-- The widths of the character `i`. -/
def char (i : ℕ) (runs : List ℕ) : List ℕ := (runs.drop (10 * i)).take 9

/-- The white space after the character `i`, against the narrow widths on its two sides. -/
def spaceOk (i : ℕ) (runs : List ℕ) (before after : ℕ) : Bool :=
  let reference := (before + after) / 2
  let space := runs.getD (9 + i * 10) 0
  reference ≤ space * 2 && space * 2 ≤ reference * 3

/-- One round of the loop over the orientations. -/
def decodeOriented (reversed : Bool) (runs : List ℕ) (leading trailing gap : ℕ)
    (c : BarcodeConfig) : Option (Fin 26 × Bool) := do
  let runs := oriented reversed runs
  let (pattern₀, narrow₀) ← characterWidths (char 0 runs) gap c false
  let (pattern₁, narrow₁) ← characterWidths (char 1 runs) gap c true
  let (pattern₂, narrow₂) ← characterWidths (char 2 runs) gap c false
  guard (pattern₀ = star ∧ pattern₂ = star)
  guard (spaceOk 0 runs narrow₀ narrow₁ ∧ spaceOk 1 runs narrow₁ narrow₂)
  guard (c.quietModules.toNat * narrow₀ ≤ (if reversed then trailing else leading))
  guard (c.quietModules.toNat * narrow₂ ≤ (if reversed then leading else trailing))
  let letter ← letterOf pattern₁
  return (letter, reversed)

/-- `s3_barcode_decode_runs`: the letter and the direction. -/
def decodeRuns (runs : List ℕ) (leading trailing gap : ℕ) (c : BarcodeConfig) :
    Option (Fin 26 × Bool) :=
  if runs.length = runCount ∧ configValid c ∧ gap ≤ c.maxGapUs.toNat ∧ runs.all (widthOk c) ∧
      runs.sum ≤ c.maxFrameUs.toNat then
    (decodeOriented false runs leading trailing gap c).or
      (decodeOriented true runs leading trailing gap c)
  else none

/-! ## The trailing margin -/

theorem perm_sorted (runs : List ℕ) : (sorted runs).Perm runs := List.perm_insertionSort _ _

theorem sorted_reverse (runs : List ℕ) : sorted runs.reverse = sorted runs :=
  ((perm_sorted _).trans (runs.reverse_perm.trans (perm_sorted _).symm)).eq_of_pairwise'
    (List.pairwise_insertionSort (· ≤ ·) _) (List.pairwise_insertionSort (· ≤ ·) _)

theorem narrowOf_reverse (runs : List ℕ) : narrowOf runs.reverse = narrowOf runs := by
  simp only [narrowOf, sorted_reverse]

theorem narrowOf_le {runs : List ℕ} {m : ℕ} (h : ∀ run ∈ runs, run ≤ m) : narrowOf runs ≤ m := by
  have hsum : ((sorted runs).take 6).sum ≤ ((sorted runs).take 6).length • m :=
    List.sum_le_card_nsmul _ _ fun run hrun =>
      h run ((perm_sorted runs).mem_iff.1 (List.mem_of_mem_take hrun))
  have hlen : ((sorted runs).take 6).length ≤ 6 := List.length_take_le _ _
  have hmul : ((sorted runs).take 6).length * m ≤ 6 * m := Nat.mul_le_mul_right m hlen
  unfold narrowOf
  rw [smul_eq_mul] at hsum
  omega

theorem le_of_widthOk {c : BarcodeConfig} {runs : List ℕ} (h : runs.all (widthOk c))
    {run : ℕ} (hrun : run ∈ runs) : run ≤ c.maxRunUs.toNat := by
  have := List.all_eq_true.1 h run hrun
  simp only [widthOk, Bool.and_eq_true, decide_eq_true_eq] at this
  exact this.2

theorem quiet_lt {c : BarcodeConfig} {runs : List ℕ} (hc : configValid c)
    (h : runs.all (widthOk c)) :
    c.quietModules.toNat * narrowOf runs < 0x80000000 := by
  have hnarrow : narrowOf runs ≤ c.maxRunUs.toNat := narrowOf_le fun _ => le_of_widthOk h
  have hmax : c.maxRunUs.toNat * c.quietModules.toNat < 0x80000000 := by
    simp only [configValid, Bool.and_eq_true, decide_eq_true_eq] at hc
    exact hc.2
  calc c.quietModules.toNat * narrowOf runs
      ≤ c.quietModules.toNat * c.maxRunUs.toNat := Nat.mul_le_mul_left _ hnarrow
    _ = c.maxRunUs.toNat * c.quietModules.toNat := Nat.mul_comm _ _
    _ < 0x80000000 := hmax

theorem characterWidths_narrow {runs : List ℕ} {gap pattern narrow : ℕ} {c : BarcodeConfig}
    {payload : Bool} (h : characterWidths runs gap c payload = some (pattern, narrow)) :
    narrow = narrowOf runs ∧ runs.all (widthOk c) := by
  unfold characterWidths at h
  split at h
  · rename_i hok
    obtain ⟨_, -, h⟩ := Option.map_eq_some_iff.1 h
    exact ⟨(Prod.mk.inj h).2.symm, hok.1⟩
  · simp at h

theorem char_zero_reverse {runs : List ℕ} (h : runs.length = runCount) :
    char 0 runs.reverse = (char 2 runs).reverse := by
  unfold char
  rw [Nat.mul_zero, List.drop_zero, List.take_reverse, h]
  congr 1
  exact (List.take_of_length_le (by simp [h, runCount])).symm

theorem char_two_reverse {runs : List ℕ} (h : runs.length = runCount) :
    char 2 runs.reverse = (char 0 runs).reverse := by
  have := char_zero_reverse (runs.length_reverse.trans h)
  rw [List.reverse_reverse] at this
  rw [this, List.reverse_reverse]

variable {runs : List ℕ} {leading trailing gap : ℕ} {c : BarcodeConfig}

theorem decodeOriented_trailing (reversed : Bool) (h : runs.length = runCount) :
    decodeOriented reversed runs leading trailing gap c =
      if c.quietModules.toNat * narrowOf (char 2 runs) ≤ trailing then
        decodeOriented reversed runs leading (c.quietModules.toNat * narrowOf (char 2 runs)) gap c
      else none := by
  unfold decodeOriented
  generalize hruns : oriented reversed runs = runs'
  rcases h₀ : characterWidths (char 0 runs') gap c false with - | ⟨p₀, n₀⟩
  · simp [h₀]
  rcases h₁ : characterWidths (char 1 runs') gap c true with - | ⟨p₁, n₁⟩
  · simp [h₀, h₁]
  rcases h₂ : characterWidths (char 2 runs') gap c false with - | ⟨p₂, n₂⟩
  · simp [h₀, h₁, h₂]
  -- the star that the trailing margin is compared with
  have hn : (if reversed then n₀ else n₂) = narrowOf (char 2 runs) := by
    cases reversed with
    | false =>
      rw [if_neg (by decide), (characterWidths_narrow h₂).1, ← hruns, oriented, if_neg (by decide)]
    | true =>
      rw [if_pos rfl, (characterWidths_narrow h₀).1, ← hruns, oriented, if_pos rfl,
        char_zero_reverse h, narrowOf_reverse]
  cases reversed <;> simp only [↓reduceIte, Bool.false_eq_true] at hn ⊢ <;> subst hn <;>
    by_cases hq : c.quietModules.toNat * narrowOf (char 2 runs) ≤ trailing <;>
    simp [h₀, h₁, h₂, hq, guard]

/-- **The trailing margin.**  From the quiet zone of the last star on, the verdict does not depend
on the white after the barcode. -/
theorem decodeRuns_trailing (h : c.quietModules.toNat * narrowOf (char 2 runs) ≤ trailing) :
    decodeRuns runs leading trailing gap c = decodeRuns runs leading 0x7FFFFFFF gap c := by
  refine if_ctx_congr Iff.rfl (fun hok => ?_) fun _ => rfl
  obtain ⟨hlen, hc, -, hwidths, -⟩ := hok
  have hq : c.quietModules.toNat * narrowOf (char 2 runs) ≤ 0x7FFFFFFF := by
    refine Nat.le_of_lt_succ (quiet_lt hc (List.all_eq_true.2 fun run hrun => ?_))
    exact List.all_eq_true.1 hwidths run (List.mem_of_mem_drop (List.mem_of_mem_take hrun))
  have heq (reversed : Bool) : decodeOriented reversed runs leading trailing gap c =
      decodeOriented reversed runs leading 0x7FFFFFFF gap c := by
    rw [decodeOriented_trailing reversed hlen, if_pos h]
    exact ((decodeOriented_trailing reversed hlen).trans (if_pos hq)).symm
  rw [heq false, heq true]

/-- What passes has its quiet zone in front. -/
theorem le_leading_of_decodeOriented {reversed : Bool} {result : Fin 26 × Bool}
    (hlen : runs.length = runCount)
    (h : decodeOriented reversed runs leading trailing gap c = some result) :
    c.quietModules.toNat * narrowOf (char 0 runs) ≤ leading := by
  unfold decodeOriented at h
  simp only [Option.bind_eq_bind, Option.bind_eq_some_iff, Option.guard_eq_some'] at h
  obtain ⟨⟨p₀, n₀⟩, h₀, -, -, ⟨p₂, n₂⟩, h₂, -, -, -, -, -, hfirst, -, hlast, -⟩ := h
  cases reversed with
  | false =>
    rw [if_neg (by decide), (characterWidths_narrow h₀).1] at hfirst
    exact hfirst
  | true =>
    rw [if_pos rfl, (characterWidths_narrow h₂).1, oriented, if_pos rfl, char_two_reverse hlen,
      narrowOf_reverse] at hlast
    exact hlast

/-- **The leading margin.**  Accepted widths have the quiet zone of the first star before them. -/
theorem le_leading_of_decodeRuns {result : Fin 26 × Bool}
    (h : decodeRuns runs leading trailing gap c = some result) :
    c.quietModules.toNat * narrowOf (char 0 runs) ≤ leading := by
  unfold decodeRuns at h
  split_ifs at h with hok
  rcases Option.or_eq_some_iff.1 h with h | ⟨-, h⟩ <;> exact le_leading_of_decodeOriented hok.1 h

end RoboticCar.Barcode
