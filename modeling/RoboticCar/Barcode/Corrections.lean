import Mathlib.Data.List.GetD
import Mathlib.Data.List.Induction
import RoboticCar.Barcode.Reversal

/-!
# What the corrections do to the widths

The corrections look at the stars only: the shared one lengthens every bar and shortens every space
by one bias, the varying one moves each edge by half of a bias that goes from that of the first star
to that of the last.  A search over a grid picks the biases.

Both commute with reversing the scan: the stars have the same errors for every bias
(`starScore_reverse`), and the edge `k` is the edge `29 - k` of the reversed widths, moved by the
opposite amount (`edgeShift_reverse`).  `star_corrections` collects this with what the loops write
into the arrays.
-/

namespace RoboticCar.Barcode

open Navigation

/-! ## Mirrored stars -/

def starOf (reversed : Bool) : ℕ := if reversed then starReversed else star

theorem isWide_mirror : ∀ (reversed : Bool) (i : Fin 9),
    isWide (starOf reversed) (8 - i) = isWide (starOf !reversed) i := by
  decide

variable {runs : List ℕ}

theorem map_zipIdx_reverse {β : Type*} (f : ℕ → Bool → β) (reversed : Bool) (h : runs.length = 9) :
    runs.reverse.zipIdx.map (fun x => f x.1 (isWide (starOf reversed) x.2)) =
      (runs.zipIdx.map fun x => f x.1 (isWide (starOf !reversed) x.2)).reverse := by
  refine List.ext_getElem (by simp) fun i hi hi' => ?_
  simp only [List.length_map, List.length_zipIdx, List.length_reverse, h] at hi
  have hmirror := isWide_mirror (!reversed) ⟨i, hi⟩
  rw [Bool.not_not] at hmirror
  simp [h, hmirror]

theorem sum_filter_reverse (wide reversed : Bool) (h : runs.length = 9) :
    ((runs.reverse.zipIdx.filter fun x => isWide (starOf reversed) x.2 == wide).map Prod.fst).sum =
      ((runs.zipIdx.filter fun x => isWide (starOf !reversed) x.2 == wide).map Prod.fst).sum := by
  match runs, h with
  | [r₀, r₁, r₂, r₃, r₄, r₅, r₆, r₇, r₈], _ =>
    cases wide <;> cases reversed <;>
    · simp [isWide, starOf, star, starReversed, List.zipIdx, List.filter, Nat.testBit]
      omega

theorem starNarrow_reverse (reversed : Bool) (h : runs.length = 9) :
    starNarrow (starOf reversed) runs.reverse = starNarrow (starOf !reversed) runs := by
  have hsum := sum_filter_reverse false reversed h
  simp only [beq_false] at hsum
  rw [starNarrow, starNarrow, List.take_of_length_le (by simp [h]),
    List.take_of_length_le h.le, hsum]

theorem biased_reverse (c : BarcodeConfig) (bias : ℤ) (h : runs.length % 2 = 1) :
    biased c bias runs.reverse = (biased c bias runs).map List.reverse := by
  have hadjusted : (runs.reverse.zipIdx.map fun x =>
        (x.1 : ℤ) + if x.2 % 2 = 1 then -bias else bias) =
      (runs.zipIdx.map fun x => (x.1 : ℤ) + if x.2 % 2 = 1 then -bias else bias).reverse := by
    refine List.ext_getElem (by simp) fun i hi hi' => ?_
    simp only [List.length_map, List.length_zipIdx, List.length_reverse] at hi
    have hparity : (runs.length - 1 - i) % 2 = i % 2 := by omega
    simp [hparity]
  simp only [biased, hadjusted, List.all_reverse, List.map_reverse]
  split <;> rfl

variable {c : BarcodeConfig} {bias : ℤ} {adjusted : List ℕ}

theorem of_biased (h : biased c bias runs = some adjusted) :
    adjusted.length = runs.length ∧ ∀ i < runs.length,
      (adjusted.getD i 0 : ℤ) = runs.getD i 0 + (if i % 2 = 1 then -bias else bias) ∧
        0 < adjusted.getD i 0 ∧ adjusted.getD i 0 ≤ c.maxRunUs.toNat := by
  obtain ⟨hall, hadjusted⟩ := Option.ite_none_right_eq_some.1 h
  rw [← Option.some.inj hadjusted]
  refine ⟨by simp, fun i hi => ?_⟩
  have hrange := List.all_eq_true.1 hall _ (List.getElem_mem (n := i) (by simpa using hi))
  simp only [List.getElem_map, List.getElem_zipIdx, zero_add, Bool.and_eq_true,
    decide_eq_true_eq] at hrange
  simp [List.getD_eq_getElem?_getD, hi]
  omega

/-- A star is one in the mirror. -/
theorem character_mirror (reversed : Bool) (h : runs.length = 9) (gap : ℕ) (c : BarcodeConfig)
    (narrow : ℕ) :
    character runs.reverse gap c = some (starOf reversed, narrow) ↔
      character runs gap c = some (starOf !reversed, narrow) := by
  cases reversed with
  | false => exact character_reverse h gap c narrow
  | true =>
    have hlen : runs.reverse.length = 9 := List.length_reverse.trans h
    have hback := character_reverse hlen gap c narrow
    rw [List.reverse_reverse] at hback
    exact hback.symm

variable {gap pattern : ℕ}

theorem starScore_eq_some {score : ℕ} :
    starScore c gap pattern bias runs = some score ↔
      ∃ adjusted narrow, biased c bias (runs.take 9) = some adjusted ∧
        character adjusted gap c = some (pattern, narrow) ∧
        score = (adjusted.zipIdx.map fun x => widthError x.1 (if isWide pattern x.2 then
          ((adjusted.zipIdx.filter fun x => isWide pattern x.2).map Prod.fst).sum / 3
          else narrow)).foldl max 0 := by
  unfold starScore
  constructor
  · intro h
    simp only [Option.bind_eq_bind, Option.bind_eq_some_iff] at h
    obtain ⟨adjusted, hbiased, ⟨found, narrow⟩, hchar, h⟩ := h
    by_cases hfound : found = pattern
    · subst hfound
      simp only [ne_eq, not_true, if_false] at h
      exact ⟨adjusted, narrow, hbiased, hchar, (Option.some.inj h).symm⟩
    · simp [hfound] at h
  · rintro ⟨adjusted, narrow, hbiased, hchar, rfl⟩
    simp [hbiased, hchar]

/-- **A star read backwards has the same error** for every bias. -/
theorem starScore_reverse (c : BarcodeConfig) (gap : ℕ) (bias : ℤ) (reversed : Bool)
    (h : runs.length = 9) :
    starScore c gap (starOf reversed) bias runs.reverse =
      starScore c gap (starOf !reversed) bias runs := by
  have hscore (reversed : Bool) {adjusted : List ℕ} (hlen : adjusted.length = 9) (narrow : ℕ) :
      (adjusted.reverse.zipIdx.map fun x => widthError x.1 (if isWide (starOf reversed) x.2 then
          ((adjusted.reverse.zipIdx.filter fun x => isWide (starOf reversed) x.2).map
            Prod.fst).sum / 3 else narrow)).foldl max 0 =
        (adjusted.zipIdx.map fun x => widthError x.1 (if isWide (starOf !reversed) x.2 then
          ((adjusted.zipIdx.filter fun x => isWide (starOf !reversed) x.2).map
            Prod.fst).sum / 3 else narrow)).foldl max 0 := by
    have hsum := sum_filter_reverse true reversed hlen
    simp only [beq_true] at hsum
    rw [hsum, map_zipIdx_reverse (fun run wide => widthError run (if wide then _ else narrow)) _
      hlen]
    exact (List.reverse_perm _).foldl_eq _
  ext score
  rw [starScore_eq_some, starScore_eq_some, List.take_of_length_le (by simp [h]),
    List.take_of_length_le h.le, biased_reverse c bias (by rw [h])]
  constructor
  · rintro ⟨adjusted, narrow, hbiased, hchar, rfl⟩
    obtain ⟨adjusted, hforward, rfl⟩ := Option.map_eq_some_iff.1 hbiased
    have hlen : adjusted.length = 9 := (of_biased hforward).1.trans h
    exact ⟨adjusted, narrow, hforward, (character_mirror _ hlen _ _ _).1 hchar, hscore _ hlen _⟩
  · rintro ⟨adjusted, narrow, hbiased, hchar, rfl⟩
    have hlen : adjusted.length = 9 := (of_biased hbiased).1.trans h
    exact ⟨adjusted.reverse, narrow, by rw [hbiased]; rfl,
      (character_mirror _ hlen _ _ _).2 hchar, (hscore _ hlen _).symm⟩

section

variable {runs : List ℕ} (hlen : runs.length = runCount) (c : BarcodeConfig) (gap : ℕ)

include hlen

theorem take_nine_reverse : runs.reverse.take 9 = (runs.drop 20).reverse := by
  rw [List.take_reverse, hlen]
  rfl

theorem drop_twenty_reverse : runs.reverse.drop 20 = (runs.take 9).reverse := by
  rw [List.drop_reverse, hlen]
  rfl

theorem length_take_nine : (runs.take 9).length = 9 := by
  rw [List.length_take, hlen]
  rfl

theorem length_drop_twenty : (runs.drop 20).length = 9 := by
  rw [List.length_drop, hlen]
  rfl

omit hlen in
theorem starNarrow_take (pattern : ℕ) :
    starNarrow pattern (runs.take 9) = starNarrow pattern runs := by
  rw [starNarrow, starNarrow, List.take_take, min_self]

omit hlen in
theorem starScore_take (pattern : ℕ) (bias : ℤ) :
    starScore c gap pattern bias (runs.take 9) = starScore c gap pattern bias runs := by
  rw [starScore, starScore, List.take_take, min_self]

theorem starNarrow_first (reversed : Bool) :
    starNarrow (starOf reversed) runs.reverse = starNarrow (starOf !reversed) (runs.drop 20) := by
  rw [← starNarrow_take, take_nine_reverse hlen, starNarrow_reverse _ (length_drop_twenty hlen)]

theorem starNarrow_last (reversed : Bool) :
    starNarrow (starOf reversed) (runs.reverse.drop 20) = starNarrow (starOf !reversed) runs := by
  rw [drop_twenty_reverse hlen, starNarrow_reverse _ (length_take_nine hlen), starNarrow_take]

theorem starScore_first (reversed : Bool) (bias : ℤ) :
    starScore c gap (starOf reversed) bias runs.reverse =
      starScore c gap (starOf !reversed) bias (runs.drop 20) := by
  rw [← starScore_take, take_nine_reverse hlen,
    starScore_reverse _ _ _ _ (length_drop_twenty hlen)]

theorem starScore_last (reversed : Bool) (bias : ℤ) :
    starScore c gap (starOf reversed) bias (runs.reverse.drop 20) =
      starScore c gap (starOf !reversed) bias runs := by
  rw [drop_twenty_reverse hlen, starScore_reverse _ _ _ _ (length_take_nine hlen),
    starScore_take]

/-- The shared bias is that of the reversed scan. -/
theorem sharedFit_reverse (reversed : Bool) :
    sharedFit c gap (starOf reversed) runs.reverse = sharedFit c gap (starOf !reversed) runs := by
  have hscore (bias : ℤ) :
      (do
        let first ← starScore c gap (starOf reversed) bias runs.reverse
        let last ← starScore c gap (starOf reversed) bias (runs.reverse.drop 20)
        return max first last : Option ℕ) =
      (do
        let first ← starScore c gap (starOf !reversed) bias runs
        let last ← starScore c gap (starOf !reversed) bias (runs.drop 20)
        return max first last) := by
    rw [starScore_first hlen, starScore_last hlen]
    cases starScore c gap (starOf !reversed) bias runs <;>
      cases starScore c gap (starOf !reversed) bias (runs.drop 20) <;>
      simp [max_comm]
  unfold sharedFit
  rw [funext hscore, starNarrow_first hlen, starNarrow_last hlen, min_comm]

/-- **The shared correction commutes with reversing the scan.** -/
theorem correctSharedRuns_reverse :
    correctSharedRuns runs.reverse gap c =
      ((correctSharedRuns runs gap c).1,
        (correctSharedRuns runs gap c).2.map fun r => (r.1.reverse, r.2)) := by
  have hodd : runs.length % 2 = 1 := by rw [hlen]; rfl
  have hforward : sharedFit c gap star runs.reverse = sharedFit c gap starReversed runs :=
    sharedFit_reverse hlen c gap false
  have hbackward : sharedFit c gap starReversed runs.reverse = sharedFit c gap star runs :=
    sharedFit_reverse hlen c gap true
  unfold correctSharedRuns
  rw [hforward, hbackward]
  split
  · rfl
  · cases sharedFit c gap star runs <;> cases sharedFit c gap starReversed runs <;>
      simp [biased_reverse c _ hodd, Function.comp_def]

theorem fitStar_first (reversed : Bool) :
    fitStar c gap (starOf reversed) runs.reverse =
      fitStar c gap (starOf !reversed) (runs.drop 20) := by
  unfold fitStar
  rw [starNarrow_first hlen, funext (starScore_first hlen c gap reversed)]

theorem fitStar_last (reversed : Bool) :
    fitStar c gap (starOf reversed) (runs.reverse.drop 20) =
      fitStar c gap (starOf !reversed) runs := by
  unfold fitStar
  rw [starNarrow_last hlen, funext (starScore_last hlen c gap reversed)]

/-- The two biases change places. -/
theorem varyingFit_reverse (reversed : Bool) :
    varyingFit c gap (starOf reversed) runs.reverse =
      (varyingFit c gap (starOf !reversed) runs).map Prod.swap := by
  unfold varyingFit
  rw [fitStar_first hlen, fitStar_last hlen]
  rcases fitStar c gap (starOf !reversed) runs with _ | ⟨bias₀, narrow₀⟩ <;>
    rcases fitStar c gap (starOf !reversed) (runs.drop 20) with _ | ⟨bias₁, narrow₁⟩ <;>
    try rfl
  have hsign : (bias₁ < 0 ∧ 0 < bias₀ ∨ 0 < bias₁ ∧ bias₀ < 0) ↔
      (bias₀ < 0 ∧ 0 < bias₁ ∨ 0 < bias₀ ∧ bias₁ < 0) := by omega
  have hdrift : (bias₀ - bias₁).natAbs = (bias₁ - bias₀).natAbs := by omega
  simp only [Option.bind_eq_bind, Option.bind_some, hsign, hdrift, min_comm narrow₁]
  split
  · rfl
  · split <;> rfl

end

theorem mem_grid_of_bestFit {score : ℤ → Option ℕ} {trial : ℤ → ℤ} {fit : ℕ × ℤ}
    (h : bestFit score trial = some fit) : ∃ tick, fit.2 = trial tick := by
  unfold bestFit at h
  generalize ticks = grid at h
  -- the induction is on the grid from its end: the last point is taken or the earlier fit stays
  induction grid using List.reverseRecOn generalizing fit with
  | nil => cases h
  | append_singleton grid tick ih =>
    rw [List.foldl_append, List.foldl_cons, List.foldl_nil] at h
    split at h
    · unfold betterFit at h
      split at h
      · exact ⟨tick, by rw [← Option.some.inj h]⟩
      · split at h
        · exact ⟨tick, by rw [← Option.some.inj h]⟩
        · exact ih h
    · exact ih h

theorem even_of_fitStar {narrow : ℕ} (h : fitStar c gap pattern runs = some (bias, narrow)) :
    2 ∣ bias := by
  obtain ⟨-, h⟩ := Option.ite_none_left_eq_some.1 h
  obtain ⟨fit, hfit, heq⟩ := Option.map_eq_some_iff.1 h
  obtain ⟨tick, htick⟩ := mem_grid_of_bestFit hfit
  obtain ⟨rfl, -⟩ := Prod.mk.inj heq
  exact htick ▸ Dvd.intro_left _ rfl

variable {bias₀ bias₁ : ℤ}

theorem of_varyingFit (h : varyingFit c gap pattern runs = some (bias₀, bias₁)) :
    2 ∣ bias₀ ∧ 2 ∣ bias₁ ∧ ¬(bias₀ < 0 ∧ 0 < bias₁ ∨ 0 < bias₀ ∧ bias₁ < 0) := by
  unfold varyingFit at h
  simp only [Option.bind_eq_bind, Option.bind_eq_some_iff] at h
  obtain ⟨⟨b₀, narrow₀⟩, hfirst, ⟨b₁, narrow₁⟩, hlast, h⟩ := h
  by_cases hsign : b₀ < 0 ∧ 0 < b₁ ∨ 0 < b₀ ∧ b₁ < 0
  · simp [hsign] at h
  by_cases hdrift : min narrow₀ narrow₁ / 2 < (b₁ - b₀).natAbs
  · simp [hsign, hdrift] at h
  · simp only [hsign, hdrift, if_false] at h
    obtain ⟨rfl, rfl⟩ := Prod.mk.inj (Option.some.inj h)
    exact ⟨even_of_fitStar hfirst, even_of_fitStar hlast, hsign⟩

/-! ## The edges -/

/-- The bias at the time `t`: that of a star inside it, and in proportion between them. -/
def biasAt (bias₀ bias₁ : ℤ) (start finish t : ℕ) : ℤ :=
  if t ≤ start then bias₀ else if finish ≤ t then bias₁
  else (bias₀ * ((finish : ℤ) - t) + bias₁ * ((t : ℤ) - start)).tdiv ((finish : ℤ) - start)

/-- How far the edge `k` moves: edges into the ink move back and those out of it move on. -/
def edgeShift (bias₀ bias₁ : ℤ) (start finish k t : ℕ) : ℤ :=
  if k % 2 = 1 then (biasAt bias₀ bias₁ start finish t).tdiv 2
  else (-biasAt bias₀ bias₁ start finish t).tdiv 2

variable {start finish t : ℕ}

/-- The bias at a time, seen from the other end. -/
theorem biasAt_reverse (bias₀ bias₁ : ℤ) {total : ℕ} (h : start < finish) (hfinish : finish ≤ total)
    (ht : t ≤ total) :
    biasAt bias₁ bias₀ (total - finish) (total - start) (total - t) =
      biasAt bias₀ bias₁ start finish t := by
  unfold biasAt
  by_cases hstart : t ≤ start
  · rw [if_neg (by omega), if_pos (by omega), if_pos hstart]
  by_cases hend : finish ≤ t
  · rw [if_pos (by omega), if_neg hstart, if_pos hend]
  · rw [if_neg (by omega), if_neg (by omega), if_neg hstart, if_neg hend]
    congr 1
    · push_cast [Nat.cast_sub ht, Nat.cast_sub (h.le.trans hfinish), Nat.cast_sub hfinish]
      ring
    · omega

/-- **An edge seen from the other side moves the other way.** -/
theorem edgeShift_reverse (bias₀ bias₁ : ℤ) {k total : ℕ} (h : start < finish)
    (hfinish : finish ≤ total) (ht : t ≤ total) (hk : k ≤ runCount) :
    edgeShift bias₁ bias₀ (total - finish) (total - start) (runCount - k) (total - t) =
      -edgeShift bias₀ bias₁ start finish k t := by
  unfold edgeShift
  rw [biasAt_reverse bias₀ bias₁ h hfinish ht]
  by_cases hodd : k % 2 = 1
  · rw [if_neg (by unfold runCount at *; omega), if_pos hodd, Int.neg_tdiv]
  · rw [if_pos (by unfold runCount at *; omega), if_neg hodd, Int.neg_tdiv, neg_neg]

/-- How far the loop moves the edge behind the width `i`, at the time `t`. -/
def loopShift (bias₀ bias₁ : ℤ) (start finish i t : ℕ) : ℤ :=
  if i % 2 = 1 then (-biasAt bias₀ bias₁ start finish t).tdiv 2
  else (biasAt bias₀ bias₁ start finish t).tdiv 2

theorem shiftEdges_cons (c : BarcodeConfig) (bias₀ bias₁ : ℤ) (start finish run i t : ℕ)
    (runs : List ℕ) (shift shift' : ℤ)
    (h : shift' = loopShift bias₀ bias₁ start finish i (t + run)) :
    shiftEdges c bias₀ bias₁ start finish (run :: runs) i t shift =
      if (run : ℤ) + shift' - shift ≤ 0 ∨ (c.maxRunUs.toNat : ℤ) < run + shift' - shift then none
      else (shiftEdges c bias₀ bias₁ start finish runs (i + 1) (t + run) shift').map
        (((run : ℤ) + shift' - shift).toNat :: ·) := by
  rw [h, shiftEdges, Option.map_eq_bind]
  exact if_congr Iff.rfl rfl rfl

/-- The last loop from the edge `i` at the time `t` on: every width changes by the difference of the
shifts of its edges. -/
theorem shiftEdges_eq_some {σ : ℕ → ℕ → ℤ} (hσ : σ = edgeShift bias₀ bias₁ start finish) {i : ℕ} :
    shiftEdges c bias₀ bias₁ start finish runs i t (σ i t) = some adjusted ↔
      adjusted.length = runs.length ∧ ∀ j < runs.length,
        (adjusted.getD j 0 : ℤ) = runs.getD j 0 + σ (i + j + 1) (t + (runs.take (j + 1)).sum) -
            σ (i + j) (t + (runs.take j).sum) ∧
          0 < adjusted.getD j 0 ∧ adjusted.getD j 0 ≤ c.maxRunUs.toNat := by
  induction runs generalizing adjusted i t with
  | nil =>
    simp [shiftEdges, eq_comm]
  | cons run runs ih =>
    have hshift : σ (i + 1) (t + run) = loopShift bias₀ bias₁ start finish i (t + run) := by
      rw [hσ, edgeShift, loopShift]
      by_cases hi : i % 2 = 1
      · rw [if_pos hi, if_neg (by omega)]
      · rw [if_neg hi, if_pos (by omega)]
    rw [shiftEdges_cons _ _ _ _ _ _ _ _ _ _ _ hshift, Option.ite_none_left_eq_some,
      Option.map_eq_some_iff]
    constructor
    · rintro ⟨hrange, rest, hrest, rfl⟩
      obtain ⟨hlen, hrest⟩ := ih.1 hrest
      refine ⟨by simp [hlen], fun j hj => ?_⟩
      cases j with
      | zero => simp; omega
      | succ j =>
        have hj := hrest j (by simpa using hj)
        simpa [add_assoc, add_comm, add_left_comm] using hj
    · rintro ⟨hlen, hrest⟩
      cases adjusted with
      | nil => simp at hlen
      | cons width rest =>
        have hwidth := hrest 0 (by simp)
        simp at hwidth
        refine ⟨by omega, rest, ih.2 ⟨by simpa using hlen, fun j hj => ?_⟩, ?_⟩
        · have hj := hrest (j + 1) (by simpa using hj)
          simpa [add_assoc, add_comm, add_left_comm] using hj
        · congr 1
          omega

/-! ## The varying correction -/

/-- How far the edge `k` of the widths moves. -/
def shiftOf (bias₀ bias₁ : ℤ) (runs : List ℕ) (k : ℕ) : ℤ :=
  edgeShift bias₀ bias₁ (runs.take 9).sum (runs.take 20).sum k (runs.take k).sum

/-- The widths after the varying correction by the given biases, if they stay in range. -/
def shifted (c : BarcodeConfig) (bias₀ bias₁ : ℤ) (runs : List ℕ) : Option (List ℕ) :=
  shiftEdges c bias₀ bias₁ (runs.take 9).sum (runs.take 20).sum runs 0 0 ((-bias₀).tdiv 2)

/-- The varying correction, width by width. -/
theorem shifted_eq_some :
    shifted c bias₀ bias₁ runs = some adjusted ↔
      adjusted.length = runs.length ∧ ∀ j < runs.length,
        (adjusted.getD j 0 : ℤ) = runs.getD j 0 + shiftOf bias₀ bias₁ runs (j + 1) -
            shiftOf bias₀ bias₁ runs j ∧
          0 < adjusted.getD j 0 ∧ adjusted.getD j 0 ≤ c.maxRunUs.toNat := by
  have hfirst : (-bias₀).tdiv 2 =
      edgeShift bias₀ bias₁ (runs.take 9).sum (runs.take 20).sum 0 0 := by
    simp [edgeShift, biasAt]
  rw [shifted, hfirst, shiftEdges_eq_some rfl]
  simp only [zero_add, shiftOf]

section

variable {runs : List ℕ} (hlen : runs.length = runCount) (hpos : ∀ run ∈ runs, 0 < run)

variable {k : ℕ}

include hpos in
theorem sum_take_lt {m : ℕ} (h : k < m) (hm : m ≤ runs.length) :
    (runs.take k).sum < (runs.take m).sum := by
  induction m, h using Nat.le_induction with
  | base =>
    rw [List.sum_take_succ _ _ hm]
    exact Nat.lt_add_of_pos_right (hpos _ (List.getElem_mem _))
  | succ m hkm ih =>
    rw [List.sum_take_succ _ _ hm]
    exact Nat.lt_add_right _ (ih (Nat.le_of_succ_le hm))

include hlen

theorem sum_take_reverse (hk : k ≤ runCount) :
    (runs.reverse.take (runCount - k)).sum = runs.sum - (runs.take k).sum := by
  have hsum := List.sum_take_add_sum_drop runs k
  rw [List.take_reverse, List.sum_reverse, hlen, Nat.sub_sub_self hk]
  omega

/-- The edges are where their shifts put them. -/
theorem sum_take_shifted {c : BarcodeConfig} {bias₀ bias₁ : ℤ} {adjusted : List ℕ}
    (h : shifted c bias₀ bias₁ runs = some adjusted) (hk : k ≤ runCount) :
    ((adjusted.take k).sum : ℤ) =
      (runs.take k).sum + shiftOf bias₀ bias₁ runs k - shiftOf bias₀ bias₁ runs 0 := by
  obtain ⟨hadjusted, hwidths⟩ := shifted_eq_some.1 h
  induction k with
  | zero => simp
  | succ k ih =>
    have hwidth := (hwidths k (by omega)).1
    rw [List.getD_eq_getElem _ _ (by omega), List.getD_eq_getElem _ _ (by omega)] at hwidth
    rw [List.sum_take_succ _ _ (by omega), List.sum_take_succ _ _ (by omega), Nat.cast_add,
      Nat.cast_add]
    rw [ih (by omega), hwidth]
    ring

include hpos

/-- **The edges of the reversed widths** move by the same amounts, the other way. -/
theorem shiftOf_reverse (bias₀ bias₁ : ℤ) (hk : k ≤ runCount) :
    shiftOf bias₁ bias₀ runs.reverse (runCount - k) = -shiftOf bias₀ bias₁ runs k := by
  have htotal (m : ℕ) : (runs.take m).sum ≤ runs.sum := by
    rw [← List.sum_take_add_sum_drop runs m]
    exact Nat.le_add_right _ _
  have hstart : (runs.reverse.take 9).sum = runs.sum - (runs.take 20).sum :=
    sum_take_reverse hlen (k := 20) (by decide)
  have hfinish : (runs.reverse.take 20).sum = runs.sum - (runs.take 9).sum :=
    sum_take_reverse hlen (k := 9) (by decide)
  have hedges : (runs.take 9).sum < (runs.take 20).sum :=
    sum_take_lt hpos (by decide) (by rw [hlen]; decide)
  rw [shiftOf, shiftOf, sum_take_reverse hlen hk, hstart, hfinish]
  exact edgeShift_reverse bias₀ bias₁ hedges (htotal 20) (htotal k) hk

theorem shiftOf_first (bias₀ bias₁ : ℤ) (hk : k ≤ 9) :
    shiftOf bias₀ bias₁ runs k = if k % 2 = 1 then bias₀.tdiv 2 else (-bias₀).tdiv 2 := by
  have hle : (runs.take k).sum ≤ (runs.take 9).sum := by
    rcases hk.eq_or_lt with rfl | hk
    · exact le_rfl
    · exact (sum_take_lt hpos hk (by rw [hlen]; decide)).le
  simp only [shiftOf, edgeShift, biasAt, if_pos hle]

theorem shiftOf_last (bias₀ bias₁ : ℤ) (hk : 20 ≤ k) (hk' : k ≤ runCount) :
    shiftOf bias₀ bias₁ runs k = if k % 2 = 1 then bias₁.tdiv 2 else (-bias₁).tdiv 2 := by
  have hlt : ¬(runs.take k).sum ≤ (runs.take 9).sum :=
    Nat.not_le_of_lt (sum_take_lt hpos (by omega) (by rw [hlen]; exact hk'))
  have hle : (runs.take 20).sum ≤ (runs.take k).sum := by
    rcases hk.eq_or_lt with rfl | hk
    · exact le_rfl
    · exact (sum_take_lt hpos hk (by rw [hlen]; exact hk')).le
  simp only [shiftOf, edgeShift, biasAt, if_neg hlt, if_pos hle]

theorem shifted_reverse_of {c : BarcodeConfig} {bias₀ bias₁ : ℤ} {adjusted : List ℕ}
    (h : shifted c bias₀ bias₁ runs = some adjusted) :
    shifted c bias₁ bias₀ runs.reverse = some adjusted.reverse := by
  obtain ⟨hadjusted, hwidths⟩ := shifted_eq_some.1 h
  refine shifted_eq_some.2 ⟨by simp [hadjusted], fun j hj => ?_⟩
  rw [List.length_reverse] at hj
  have hmirror (l : List ℕ) (hl : l.length = runs.length) :
      l.reverse.getD j 0 = l.getD (runs.length - 1 - j) 0 := by
    rw [List.getD_eq_getElem?_getD, List.getElem?_reverse (by omega), hl,
      ← List.getD_eq_getElem?_getD]
  have hwidth := hwidths (runs.length - 1 - j) (by omega)
  have hbefore := shiftOf_reverse hlen hpos bias₀ bias₁ (k := runCount - j) (by omega)
  have hafter := shiftOf_reverse hlen hpos bias₀ bias₁ (k := runCount - (j + 1)) (by omega)
  rw [Nat.sub_sub_self (by omega)] at hbefore hafter
  rw [hmirror _ hadjusted, hmirror _ rfl, hbefore, hafter]
  have hk : runs.length - 1 - j + 1 = runCount - j := by omega
  have hk' : runs.length - 1 - j = runCount - (j + 1) := by omega
  rw [hk, hk'] at hwidth
  rw [hk']
  refine ⟨?_, hwidth.2⟩
  rw [hwidth.1]
  ring

/-- The varying correction commutes with reversing. -/
theorem shifted_reverse (c : BarcodeConfig) (bias₀ bias₁ : ℤ) :
    shifted c bias₁ bias₀ runs.reverse = (shifted c bias₀ bias₁ runs).map List.reverse := by
  ext adjusted
  rw [Option.map_eq_some_iff]
  constructor
  · intro h
    have hback := shifted_reverse_of (by simpa using hlen) (by simpa using hpos) h
    rw [List.reverse_reverse] at hback
    exact ⟨adjusted.reverse, hback, List.reverse_reverse _⟩
  · rintro ⟨adjusted, h, rfl⟩
    exact shifted_reverse_of hlen hpos h

end

def onlyFit (forward backward : Option (ℤ × ℤ)) : Option (ℤ × ℤ) :=
  match forward, backward with
  | some fit, none | none, some fit => some fit
  | _, _ => none

theorem correctVaryingRuns_eq (runs : List ℕ) (gap : ℕ) (c : BarcodeConfig) :
    correctVaryingRuns runs gap c =
      if !configValid c ∨ c.maxGapUs.toNat < gap ∨ !runs.all (widthOk c) ∨
          c.maxFrameUs.toNat < runs.sum then none
      else (onlyFit (varyingFit c gap star runs) (varyingFit c gap starReversed runs)).bind
        fun fit => (shifted c fit.1 fit.2 runs).map fun r => (r, fit) := by
  simp only [Option.map_eq_bind, correctVaryingRuns]
  cases varyingFit c gap star runs <;> cases varyingFit c gap starReversed runs <;>
    exact if_congr Iff.rfl rfl rfl

theorem pos_of_widthOk (h : runs.all (widthOk c)) : ∀ run ∈ runs, 0 < run := by
  intro run hrun
  have hok := List.all_eq_true.1 h run hrun
  simp only [widthOk, Bool.and_eq_true, decide_eq_true_eq] at hok
  exact Nat.pos_of_ne_zero hok.1

/-- A successful varying correction: widths in range, the biases of both stars in one direction, and
shifted edges. -/
theorem of_correctVaryingRuns (h : correctVaryingRuns runs gap c = some (adjusted, bias₀, bias₁)) :
    (∀ run ∈ runs, 0 < run) ∧ (∃ pattern, varyingFit c gap pattern runs = some (bias₀, bias₁)) ∧
      shifted c bias₀ bias₁ runs = some adjusted := by
  rw [correctVaryingRuns_eq] at h
  obtain ⟨hok, h⟩ := Option.ite_none_left_eq_some.1 h
  obtain ⟨fit, hfit, h⟩ := Option.bind_eq_some_iff.1 h
  obtain ⟨r, hr, heq⟩ := Option.map_eq_some_iff.1 h
  obtain ⟨rfl, rfl⟩ := Prod.mk.inj heq
  simp only [not_or, Bool.not_eq_true, Bool.not_eq_false'] at hok
  refine ⟨pos_of_widthOk hok.2.2.1, ?_, hr⟩
  unfold onlyFit at hfit
  split at hfit
  · exact ⟨star, by rw [← hfit]; assumption⟩
  · exact ⟨starReversed, by rw [← hfit]; assumption⟩
  · cases hfit

/-- **The varying correction commutes with reversing the scan**, with the biases exchanged. -/
theorem correctVaryingRuns_reverse (hlen : runs.length = runCount) (gap : ℕ) (c : BarcodeConfig) :
    correctVaryingRuns runs.reverse gap c =
      (correctVaryingRuns runs gap c).map fun r => (r.1.reverse, r.2.swap) := by
  have hforward : varyingFit c gap star runs.reverse =
      (varyingFit c gap starReversed runs).map Prod.swap := varyingFit_reverse hlen c gap false
  have hbackward : varyingFit c gap starReversed runs.reverse =
      (varyingFit c gap star runs).map Prod.swap := varyingFit_reverse hlen c gap true
  have hfit : onlyFit (varyingFit c gap star runs.reverse)
      (varyingFit c gap starReversed runs.reverse) =
      (onlyFit (varyingFit c gap star runs) (varyingFit c gap starReversed runs)).map
        Prod.swap := by
    rw [hforward, hbackward]
    cases varyingFit c gap star runs <;> cases varyingFit c gap starReversed runs <;> rfl
  rw [correctVaryingRuns_eq, correctVaryingRuns_eq, hfit, List.all_reverse, List.sum_reverse]
  split
  · rfl
  · rename_i hok
    simp only [not_or, Bool.not_eq_true, Bool.not_eq_false'] at hok
    have hpos := pos_of_widthOk hok.2.2.1
    cases onlyFit (varyingFit c gap star runs) (varyingFit c gap starReversed runs) with
    | none => rfl
    | some => simp [shifted_reverse hlen hpos, Function.comp_def]

/-! ## The arrays of the corrections -/

/-- A loop over the indices `is` that writes the entries of an array in place. -/
def writeLoop (value : ℕ → ℕ → ℕ) (is a : List ℕ) : List ℕ :=
  is.foldl (fun a i => a.set i (value i (a.getD i 0))) a

theorem set_append_cons (a b : List ℕ) (x y : ℕ) :
    (a ++ x :: b).set a.length y = (a ++ [y]) ++ b ∧ (a ++ x :: b).getD a.length 0 = x := by
  simp [List.getD_eq_getElem?_getD]

theorem writeLoop_append (value : ℕ → ℕ → ℕ) (a b : List ℕ) :
    writeLoop value (List.range' a.length b.length) (a ++ b) =
      a ++ b.mapIdx fun i => value (a.length + i) := by
  induction b generalizing a with
  | nil => rfl
  | cons x b ih =>
    have hnext := ih (a ++ [value a.length x])
    simp only [List.length_append, List.length_singleton] at hnext
    rw [List.length_cons, List.range'_succ, writeLoop, List.foldl_cons,
      (set_append_cons a b x 0).2, (set_append_cons a b x _).1]
    refine hnext.trans ?_
    simp [List.mapIdx_cons, Nat.add_comm 1, Nat.add_assoc]

theorem writeLoop_range (value : ℕ → ℕ → ℕ) (a : List ℕ) :
    writeLoop value (List.range a.length) a = a.mapIdx value := by
  simpa [List.range_eq_range'] using writeLoop_append value [] a

/-- A width with the bias: a bar is longer by it and a space is shorter. -/
def moved (bias : ℤ) (i run : ℕ) : ℤ := run + if i % 2 = 1 then -bias else bias

/-- The last loops of `rec_correct_shared_runs`: one checks all widths, the other writes them in
place. -/
def writeShared (c : BarcodeConfig) (bias : ℤ) (runs : List ℕ) : Bool × List ℕ :=
  if (List.range runCount).all fun i =>
      0 < moved bias i (runs.getD i 0) && moved bias i (runs.getD i 0) ≤ c.maxRunUs.toNat then
    (true, writeLoop (fun i run => (moved bias i run).toNat) (List.range runCount) runs)
  else (false, runs)

/-- `rec_correct_shared_runs` as it changes the caller's array. -/
def correctSharedArray (runs : List ℕ) (gap : ℕ) (c : BarcodeConfig) : Bool × List ℕ :=
  if !configValid c ∨ c.maxGapUs.toNat < gap then (false, runs)
  else
    match sharedFit c gap star runs, sharedFit c gap starReversed runs with
    | some bias, none | none, some bias => writeShared c bias runs
    | _, _ => (false, runs)

theorem biased_eq_mapIdx (c : BarcodeConfig) (bias : ℤ) (runs : List ℕ) : biased c bias runs =
    if (runs.mapIdx (moved bias)).all fun v => 0 < v && v ≤ c.maxRunUs.toNat then
      some (runs.mapIdx fun i run => (moved bias i run).toNat)
    else none := by
  have h : (runs.zipIdx.map fun x => (x.1 : ℤ) + if x.2 % 2 = 1 then -bias else bias) =
      runs.mapIdx (moved bias) := by
    rw [List.mapIdx_eq_zipIdx_map]
    rfl
  unfold biased
  rw [h]
  simp [List.mapIdx_eq_zipIdx_map, Function.comp_def]

/-- The two loops write the corrected widths, or nothing. -/
theorem writeShared_eq (hlen : runs.length = runCount) (c : BarcodeConfig) (bias : ℤ) :
    writeShared c bias runs = ((biased c bias runs).isSome, (biased c bias runs).getD runs) := by
  have hall : ((List.range runs.length).all fun i =>
      0 < moved bias i (runs.getD i 0) && moved bias i (runs.getD i 0) ≤ c.maxRunUs.toNat) =
      (runs.mapIdx (moved bias)).all fun v => 0 < v && v ≤ c.maxRunUs.toNat := by
    rw [Bool.eq_iff_iff, List.all_eq_true, List.all_eq_true]
    simp only [List.mem_range, List.mem_mapIdx]
    constructor
    · rintro h v ⟨i, hi, rfl⟩
      simpa [hi] using h i hi
    · intro h i hi
      simpa [hi] using h _ ⟨i, hi, rfl⟩
  rw [writeShared, ← hlen, hall, writeLoop_range, biased_eq_mapIdx]
  split_ifs <;> rfl

/-- **The array after the shared correction.** -/
theorem correctSharedArray_eq (hlen : runs.length = runCount) (gap : ℕ) (c : BarcodeConfig) :
    correctSharedArray runs gap c = ((correctSharedRuns runs gap c).2.isSome,
      ((correctSharedRuns runs gap c).2.map Prod.fst).getD runs) := by
  unfold correctSharedArray correctSharedRuns
  split
  · rfl
  · cases sharedFit c gap star runs <;> cases sharedFit c gap starReversed runs <;>
      simp [writeShared_eq hlen, Function.comp_def]

/-- The caller's widths and the array `adjusted` of the varying correction. -/
structure Arrays where
  runs : List ℕ
  adjusted : List ℕ

/-- The loop that fills `adjusted`, up to the first width that is out of range. -/
def fillLoop (c : BarcodeConfig) (bias₀ bias₁ : ℤ) (start finish : ℕ) :
    List ℕ → ℕ → ℤ → Arrays → Bool × Arrays
  | [], _, _, a => (true, a)
  | i :: is, t, shift, a =>
    let t := t + a.runs.getD i 0
    let shift' := loopShift bias₀ bias₁ start finish i t
    let width := (a.runs.getD i 0 : ℤ) + shift' - shift
    if width ≤ 0 ∨ (c.maxRunUs.toNat : ℤ) < width then (false, a)
    else fillLoop c bias₀ bias₁ start finish is t shift'
      { a with adjusted := a.adjusted.set i width.toNat }

/-- The loop fills the array with the shifted widths. -/
theorem fillLoop_eq (c : BarcodeConfig) (bias₀ bias₁ : ℤ) (start finish : ℕ)
    (a b done rest : List ℕ) (hdone : done.length = a.length) (hrest : rest.length = b.length)
    (t : ℕ) (shift : ℤ) :
    ∃ adjusted, fillLoop c bias₀ bias₁ start finish (List.range' a.length b.length) t shift
        ⟨a ++ b, done ++ rest⟩ =
          ((shiftEdges c bias₀ bias₁ start finish b a.length t shift).isSome, ⟨a ++ b, adjusted⟩) ∧
      ∀ new, shiftEdges c bias₀ bias₁ start finish b a.length t shift = some new →
        adjusted = done ++ new := by
  induction b generalizing a done rest t shift with
  | nil =>
    obtain rfl : rest = [] := List.length_eq_zero_iff.1 hrest
    exact ⟨_, rfl, by simp [shiftEdges]⟩
  | cons run b ih =>
    obtain ⟨x, rest, rfl⟩ := List.exists_cons_of_length_eq_add_one hrest
    rw [List.length_cons, List.range'_succ, fillLoop]
    simp only [(set_append_cons a b run 0).2]
    generalize hshift : loopShift bias₀ bias₁ start finish a.length (t + run) = shift'
    rw [shiftEdges_cons _ _ _ _ _ _ _ _ _ _ _ hshift.symm]
    split_ifs with hout
    · exact ⟨_, rfl, by simp⟩
    · obtain ⟨adjusted, hloop, hnew⟩ := ih (a ++ [run])
        (done ++ [((run : ℤ) + shift' - shift).toNat]) rest (by simp [hdone])
        (by simpa using hrest) (t + run) shift'
      simp only [List.length_append, List.length_singleton] at hloop hnew
      refine ⟨adjusted, ?_, ?_⟩
      · rw [← hdone, (set_append_cons done rest x _).1, hdone, List.append_cons a run b, hloop,
          Option.isSome_map]
      · intro new h
        obtain ⟨new, hnew', rfl⟩ := Option.map_eq_some_iff.1 h
        rw [hnew new hnew', List.append_assoc]
        rfl

/-- `s3_barcode_record_correct_varying_runs` as it changes the caller's array. -/
def correctVaryingArray (runs : List ℕ) (gap : ℕ) (c : BarcodeConfig) : Bool × List ℕ :=
  if !configValid c ∨ c.maxGapUs.toNat < gap ∨ !runs.all (widthOk c) ∨
      c.maxFrameUs.toNat < runs.sum then (false, runs)
  else
    match onlyFit (varyingFit c gap star runs) (varyingFit c gap starReversed runs) with
    | none => (false, runs)
    | some (bias₀, bias₁) =>
      match fillLoop c bias₀ bias₁ (runs.take 9).sum (runs.take 20).sum (List.range runCount) 0
          ((-bias₀).tdiv 2) ⟨runs, List.replicate runCount 0⟩ with
      | (false, a) => (false, a.runs)
      | (true, a) => (true, writeLoop (fun i _ => a.adjusted.getD i 0) (List.range runCount) a.runs)

/-- **The array after the varying correction.** -/
theorem correctVaryingArray_eq (hlen : runs.length = runCount) (gap : ℕ) (c : BarcodeConfig) :
    correctVaryingArray runs gap c = ((correctVaryingRuns runs gap c).isSome,
      ((correctVaryingRuns runs gap c).map Prod.fst).getD runs) := by
  rw [correctVaryingRuns_eq, correctVaryingArray]
  split
  · rfl
  cases onlyFit (varyingFit c gap star runs) (varyingFit c gap starReversed runs) with
  | none => rfl
  | some fit =>
    obtain ⟨bias₀, bias₁⟩ := fit
    obtain ⟨adjusted, hloop, hnew⟩ := fillLoop_eq c bias₀ bias₁ (runs.take 9).sum
      (runs.take 20).sum [] runs [] (List.replicate runCount 0) rfl (by simp [hlen]) 0
      ((-bias₀).tdiv 2)
    simp only [List.nil_append, List.length_nil, ← List.range_eq_range', hlen] at hloop hnew
    dsimp only
    rw [hloop, show shiftEdges c bias₀ bias₁ (runs.take 9).sum (runs.take 20).sum runs 0 0
      ((-bias₀).tdiv 2) = shifted c bias₀ bias₁ runs from rfl]
    cases hshifted : shifted c bias₀ bias₁ runs with
    | none => simp [hshifted]
    | some new =>
      obtain rfl := hnew new hshifted
      have hcopy : runs.mapIdx (fun i _ => adjusted.getD i 0) = adjusted := by
        have hlength := (shifted_eq_some.1 hshifted).1
        refine List.ext_getElem (by simp [hlength]) fun i _ hi => ?_
        simp [hi]
      simpa [hshifted, ← hlen, writeLoop_range] using hcopy

/-! ## What the corrections change -/

/-- The width `i` is changed by the bias: a bar is longer by it and a space is shorter. -/
def ChangedBy (bias : ℤ) (runs adjusted : List ℕ) (i : ℕ) : Prop :=
  (adjusted.getD i 0 : ℤ) = runs.getD i 0 + if i % 2 = 1 then -bias else bias

def WidthsOk (c : BarcodeConfig) (adjusted : List ℕ) : Prop :=
  adjusted.length = runCount ∧ ∀ i < runCount,
    0 < adjusted.getD i 0 ∧ adjusted.getD i 0 ≤ c.maxRunUs.toNat

theorem of_correctSharedRuns (hlen : runs.length = runCount)
    (h : (correctSharedRuns runs gap c).2 = some (adjusted, bias)) :
    (∀ i < runCount, ChangedBy bias runs adjusted i) ∧ WidthsOk c adjusted := by
  have hbiased : biased c bias runs = some adjusted := by
    unfold correctSharedRuns at h
    split at h
    · cases h
    · split at h
      · cases h
      · cases h
      all_goals
        obtain ⟨r, hr, heq⟩ := Option.map_eq_some_iff.1 h
        obtain ⟨rfl, rfl⟩ := Prod.mk.inj heq
        exact hr
  obtain ⟨hadjusted, hwidths⟩ := of_biased hbiased
  rw [hlen] at hadjusted hwidths
  exact ⟨fun i hi => (hwidths i hi).1, hadjusted, fun i hi => (hwidths i hi).2⟩

theorem widths_of_correctVaryingRuns (hlen : runs.length = runCount)
    (h : correctVaryingRuns runs gap c = some (adjusted, bias₀, bias₁)) :
    (∀ i < 9, ChangedBy bias₀ runs adjusted i) ∧
      (∀ i, 20 ≤ i → i < runCount → ChangedBy bias₁ runs adjusted i) ∧
      (adjusted.sum : ℤ) = runs.sum + (bias₀ + bias₁) / 2 ∧ WidthsOk c adjusted := by
  obtain ⟨hpos, ⟨pattern, hfit⟩, hshifted⟩ := of_correctVaryingRuns h
  obtain ⟨⟨half₀, rfl⟩, ⟨half₁, rfl⟩, -⟩ := of_varyingFit hfit
  have hfirst {k : ℕ} (hk : k ≤ 9) := shiftOf_first hlen hpos (2 * half₀) (2 * half₁) hk
  have hlast {k : ℕ} (hk : 20 ≤ k) (hk' : k ≤ runCount) :=
    shiftOf_last hlen hpos (2 * half₀) (2 * half₁) hk hk'
  simp only [Int.neg_tdiv, Int.mul_tdiv_cancel_left _ two_ne_zero] at hfirst hlast
  obtain ⟨hadjusted, hwidths⟩ := shifted_eq_some.1 hshifted
  rw [hlen] at hadjusted hwidths
  refine ⟨fun i hi => ?_, fun i hi hi' => ?_, ?_, hadjusted, fun i hi => (hwidths i hi).2⟩
  · have hwidth := (hwidths i (by unfold runCount; omega)).1
    rw [hfirst (by omega), hfirst (by omega)] at hwidth
    unfold ChangedBy
    split_ifs at hwidth ⊢ <;> omega
  · have hwidth := (hwidths i hi').1
    rw [hlast (by omega) (by omega), hlast hi (by omega)] at hwidth
    unfold ChangedBy
    split_ifs at hwidth ⊢ <;> omega
  · have hsum := sum_take_shifted hlen hshifted le_rfl
    rw [List.take_of_length_le hadjusted.le, List.take_of_length_le hlen.le,
      hlast (by decide) le_rfl, hfirst (Nat.zero_le 9),
      if_pos (show runCount % 2 = 1 from rfl), if_neg (show ¬0 % 2 = 1 by decide)] at hsum
    rw [hsum, ← mul_add, Int.mul_ediv_cancel_left _ two_ne_zero]
    ring

/-- **The corrections from the stars.**  A failed correction changes nothing.  The shared one
changes bars and spaces by its bias, the varying one those of each star by its even bias.  Both keep
the widths in range and commute with reversing the scan. -/
theorem star_corrections (runs : List ℕ) (hlen : runs.length = runCount) (gap : ℕ)
    (c : BarcodeConfig) :
    (correctSharedArray runs gap c).1 = (correctSharedRuns runs gap c).2.isSome ∧
      (correctVaryingArray runs gap c).1 = (correctVaryingRuns runs gap c).isSome ∧
      ((correctSharedArray runs gap c).1 = false → (correctSharedArray runs gap c).2 = runs) ∧
      ((correctVaryingArray runs gap c).1 = false → (correctVaryingArray runs gap c).2 = runs) ∧
      (∀ adjusted bias, (correctSharedRuns runs gap c).2 = some (adjusted, bias) →
        (correctSharedArray runs gap c).2 = adjusted ∧
        (∀ i < runCount, ChangedBy bias runs adjusted i) ∧ WidthsOk c adjusted) ∧
      (∀ adjusted bias₀ bias₁, correctVaryingRuns runs gap c = some (adjusted, bias₀, bias₁) →
        (correctVaryingArray runs gap c).2 = adjusted ∧
        (∀ i < 9, ChangedBy bias₀ runs adjusted i) ∧
        (∀ i, 20 ≤ i → i < runCount → ChangedBy bias₁ runs adjusted i) ∧
        2 ∣ bias₀ ∧ 2 ∣ bias₁ ∧
        (adjusted.sum : ℤ) = runs.sum + (bias₀ + bias₁) / 2 ∧
        ¬(bias₀ < 0 ∧ 0 < bias₁ ∨ 0 < bias₀ ∧ bias₁ < 0) ∧ WidthsOk c adjusted) ∧
      (∀ adjusted bias, (correctSharedRuns runs.reverse gap c).2 = some (adjusted.reverse, bias) ↔
        (correctSharedRuns runs gap c).2 = some (adjusted, bias)) ∧
      ∀ adjusted bias₀ bias₁,
        correctVaryingRuns runs.reverse gap c = some (adjusted.reverse, bias₁, bias₀) ↔
          correctVaryingRuns runs gap c = some (adjusted, bias₀, bias₁) := by
  rw [correctSharedArray_eq hlen, correctVaryingArray_eq hlen]
  refine ⟨rfl, rfl, fun h => ?_, fun h => ?_, fun adjusted bias h => ?_,
    fun adjusted bias₀ bias₁ h => ?_, fun adjusted bias => ?_, fun adjusted bias₀ bias₁ => ?_⟩
  · rw [Option.isSome_eq_false_iff, Option.isNone_iff_eq_none] at h
    rw [h]
    rfl
  · rw [Option.isSome_eq_false_iff, Option.isNone_iff_eq_none] at h
    rw [h]
    rfl
  · exact ⟨by rw [h]; rfl, of_correctSharedRuns hlen h⟩
  · obtain ⟨-, ⟨pattern, hfit⟩, -⟩ := of_correctVaryingRuns h
    obtain ⟨heven₀, heven₁, hsign⟩ := of_varyingFit hfit
    obtain ⟨hfirst, hlast, hsum, hok⟩ := widths_of_correctVaryingRuns hlen h
    exact ⟨by rw [h]; rfl, hfirst, hlast, heven₀, heven₁, hsum, hsign, hok⟩
  · have hinj : Function.Injective fun r : List ℕ × ℤ => (r.1.reverse, r.2) := fun _ _ h =>
      Prod.ext (List.reverse_injective (Prod.mk.inj h).1) (Prod.mk.inj h).2
    rw [correctSharedRuns_reverse hlen]
    exact (Option.map_injective hinj).eq_iff (b := some (adjusted, bias))
  · have hinj : Function.Injective fun r : List ℕ × ℤ × ℤ => (r.1.reverse, r.2.swap) :=
      fun _ _ h => Prod.ext (List.reverse_injective (Prod.mk.inj h).1)
        (Prod.swap_injective (Prod.mk.inj h).2)
    rw [correctVaryingRuns_reverse hlen]
    exact (Option.map_injective hinj).eq_iff (b := some (adjusted, bias₀, bias₁))

/-- The printed `A` under a light that makes bars longer and longer. -/
def driftedA : List ℕ :=
  printedA.zipIdx.map fun x =>
    if x.2 % 2 = 1 then x.1 - 16000 - 300 * x.2 else x.1 + 16000 + 300 * x.2

/-- The printed `A` under a light that makes all bars longer. -/
def brightA : List ℕ :=
  printedA.zipIdx.map fun x => if x.2 % 2 = 1 then x.1 - 15000 else x.1 + 15000

/-- The stars of the first have the biases −17234 and −23290, and half of their sum goes from the
total; the second has the bias −15000. -/
theorem star_corrections_bench :
    (correctVaryingRuns driftedA 10000 defaults).map Prod.snd = some (-17234, -23290) ∧
      ((correctVaryingArray driftedA 10000 defaults).2.sum : ℤ) = driftedA.sum - 20262 ∧
      (correctSharedRuns brightA 10000 defaults).2.map Prod.snd = some (-15000) ∧
      ∀ i < runCount,
        ChangedBy (-15000) brightA (correctSharedArray brightA 10000 defaults).2 i := by
  have hbiases : (correctVaryingRuns driftedA 10000 defaults).map Prod.snd =
      some (-17234, -23290) := by
    decide +kernel
  have hbias : (correctSharedRuns brightA 10000 defaults).2.map Prod.snd = some (-15000) := by
    decide +kernel
  obtain ⟨⟨adjusted, biases⟩, hvarying, rfl⟩ := Option.map_eq_some_iff.1 hbiases
  obtain ⟨hwritten, -, -, -, -, hsum, -⟩ :=
    (star_corrections driftedA rfl 10000 defaults).2.2.2.2.2.1 adjusted _ _ hvarying
  obtain ⟨⟨adjusted', bias⟩, hshared, rfl⟩ := Option.map_eq_some_iff.1 hbias
  obtain ⟨hwritten', hchanged, -⟩ :=
    (star_corrections brightA rfl 10000 defaults).2.2.2.2.1 adjusted' _ hshared
  refine ⟨hbiases, ?_, hbias, hwritten' ▸ hchanged⟩
  rw [hwritten, hsum]
  rfl

end RoboticCar.Barcode
