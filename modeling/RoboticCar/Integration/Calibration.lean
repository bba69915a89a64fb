import Mathlib.Algebra.Order.BigOperators.Group.List
import RoboticCar.Integration.Owner

/-!
# Collected calibrations separate the surfaces

`ir_calibration.c` on its packed records, whose fields have 16, 28, 12 and 12 bits.

* `collect_holds`: a range counts, sums up and encloses exactly the accepted readings of its
  surface, so no assignment loses a bit.
* `darkness_mono`: the darkness grows from the white to the black reference.
* `calibration_separates`: an accepted calibration has its references in the collected ranges and
  no white reading is darker than a black one; a refused one changes nothing.
-/

namespace RoboticCar.Integration.Calibration

open Navigation Reflectance

/-- A call of `s3_calibration_add`. -/
structure Reading where
  label : Surface
  raw : UInt16

/-- Assignments to the fields of an `s3_calibration_range_t`. -/
def store (count sum minimum maximum : ℕ) : CalibrationRange :=
  ⟨count % 2 ^ 16, sum % 2 ^ 28, minimum % 2 ^ 12, maximum % 2 ^ 12⟩

/-- The part of `s3_calibration_add` on the range of the surface. -/
def rangeAdd (r : CalibrationRange) (raw : ℕ) : Bool × CalibrationRange :=
  if 65535 ≤ r.count then (false, r)
  else (true, store (r.count + 1) (r.sum + raw) (if raw < r.minimum then raw else r.minimum)
    (if raw > r.maximum then raw else r.maximum))

/-- `s3_calibration_begin`. -/
def begin : CalibrationCollector := ⟨emptyRange, emptyRange⟩

/-- `s3_calibration_add`. -/
def add (c : CalibrationCollector) (x : Reading) : Bool × CalibrationCollector :=
  if x.raw.toNat > 4095 then (false, c)
  else
    match x.label with
    | .unknown => (false, c)
    | .white =>
      let r := rangeAdd c.white x.raw.toNat
      (r.1, { c with white := r.2 })
    | .black =>
      let r := rangeAdd c.black x.raw.toNat
      (r.1, { c with black := r.2 })

/-- `s3_calibration_finish`: whether it accepts, and the active calibration after it. -/
def finish (c : CalibrationCollector) (active : IrCalibration) : Bool × IrCalibration :=
  if c.white.count < 10 ∨ c.black.count < 10 then (false, active)
  else if ¬(c.white.maximum < c.black.minimum ∨ c.black.maximum < c.white.minimum) then
    (false, active)
  else
    let candidate := { active with
      whiteRaw := c.white.sum / c.white.count % 2 ^ 16
      blackRaw := c.black.sum / c.black.count % 2 ^ 16 }
    if !(init candidate ⟨active, .unknown, false⟩).1 then (false, active)
    else (true, candidate)

def step (s : CalibrationCollector × List Reading) (x : Reading) :
    CalibrationCollector × List Reading :=
  ((add s.1 x).2, if (add s.1 x).1 then s.2 ++ [x] else s.2)

/-- The collector after some calls, and the readings it accepted. -/
def collect (calls : List Reading) : CalibrationCollector × List Reading :=
  calls.foldl step (begin, [])

def labelled (surface : Surface) (l : List Reading) : List ℕ :=
  (l.filter fun x => x.label = surface).map fun x => x.raw.toNat

/-- The range counts, sums up and encloses the readings. -/
structure Holds (r : CalibrationRange) (l : List ℕ) : Prop where
  count : r.count = l.length
  sum : r.sum = l.sum
  few : l.length ≤ 65535
  minimum : r.minimum ≤ 4095
  maximum : r.maximum ≤ 4095
  le : ∀ x ∈ l, x ≤ 4095
  encloses : ∀ x ∈ l, r.minimum ≤ x ∧ x ≤ r.maximum

theorem holds_empty : Holds emptyRange [] :=
  ⟨rfl, rfl, by simp, le_rfl, by simp [emptyRange], by simp, by simp⟩

theorem sum_lt {l : List ℕ} (hfew : l.length ≤ 65535) (hle : ∀ x ∈ l, x ≤ 4095) :
    l.sum < 2 ^ 28 := by
  have hsum : l.sum ≤ l.length * 4095 := by
    simpa using List.sum_le_card_nsmul l 4095 hle
  omega

theorem Holds.add {r : CalibrationRange} {l : List ℕ} (h : Holds r l) {raw : ℕ}
    (hraw : raw ≤ 4095) (hcount : r.count < 65535) :
    rangeAdd r raw = (true, addToRange r raw) ∧ Holds (addToRange r raw) (l ++ [raw]) := by
  have hfew : (l ++ [raw]).length ≤ 65535 := by
    rw [List.length_append, List.length_singleton, ← h.count]
    exact hcount
  have hle : ∀ x ∈ l ++ [raw], x ≤ 4095 := by
    intro x hx
    rcases List.mem_append.1 hx with hx | hx
    · exact h.le x hx
    · exact (List.mem_singleton.1 hx).trans_le hraw
  have hsum := sum_lt hfew hle
  have hmin := h.minimum
  have hmax := h.maximum
  have hcount' : ¬65535 ≤ r.count := not_le.2 hcount
  have hadd : addToRange r raw =
      ⟨r.count + 1, r.sum + raw, min r.minimum raw, max r.maximum raw⟩ := if_neg hcount'
  rw [List.sum_append, List.sum_singleton, ← h.sum] at hsum
  refine ⟨?_, ?_⟩
  · rw [rangeAdd, if_neg hcount', hadd, store]
    congr 2
    · omega
    · omega
    · split <;> omega
    · split <;> omega
  · rw [hadd]
    refine ⟨by simp [h.count], by simp [h.sum], hfew, ?_, ?_, hle, ?_⟩
    · exact (min_le_right _ _).trans hraw
    · exact max_le hmax hraw
    · intro x hx
      rcases List.mem_append.1 hx with hx | hx
      · exact ⟨(min_le_left _ _).trans (h.encloses x hx).1,
          (h.encloses x hx).2.trans (le_max_left _ _)⟩
      · obtain rfl := List.mem_singleton.1 hx
        exact ⟨min_le_right _ _, le_max_right _ _⟩

/-- The ranges hold the accepted readings of their surfaces. -/
structure Collected (s : CalibrationCollector × List Reading) : Prop where
  white : Holds s.1.white (labelled .white s.2)
  black : Holds s.1.black (labelled .black s.2)

theorem labelled_snoc (surface : Surface) (l : List Reading) (x : Reading) :
    labelled surface (l ++ [x]) =
      labelled surface l ++ if x.label = surface then [x.raw.toNat] else [] := by
  by_cases hx : x.label = surface
  · simp [labelled, hx]
  · simp [labelled, hx]

/-- One reading keeps the ranges in step. -/
theorem Collected.step {s : CalibrationCollector × List Reading} (h : Collected s) (x : Reading) :
    Collected (step s x) ∧ (Calibration.step s x).1 = calibrationAdd s.1 x.label x.raw.toNat := by
  unfold Calibration.step Calibration.add calibrationAdd
  by_cases hraw : x.raw.toNat > 4095
  · simp [hraw, h]
  · rw [if_neg hraw, if_neg hraw]
    cases hlabel : x.label with
    | unknown => simp [h]
    | white =>
      by_cases hcount : s.1.white.count < 65535
      · obtain ⟨hadd, hholds⟩ := h.white.add (not_lt.1 hraw) hcount
        simp only [hadd, if_true]
        refine ⟨⟨?_, ?_⟩, trivial⟩
        · simpa [labelled_snoc, hlabel] using hholds
        · simpa [labelled_snoc, hlabel] using h.black
      · simp [rangeAdd, addToRange, not_lt.1 hcount, h]
    | black =>
      by_cases hcount : s.1.black.count < 65535
      · obtain ⟨hadd, hholds⟩ := h.black.add (not_lt.1 hraw) hcount
        simp only [hadd, if_true]
        refine ⟨⟨?_, ?_⟩, trivial⟩
        · simpa [labelled_snoc, hlabel] using h.white
        · simpa [labelled_snoc, hlabel] using hholds
      · simp [rangeAdd, addToRange, not_lt.1 hcount, h]

theorem collect_snoc (calls : List Reading) (x : Reading) :
    collect (calls ++ [x]) = step (collect calls) x := by
  simp [collect]

theorem collect_holds (calls : List Reading) : Collected (collect calls) := by
  induction calls using List.reverseRecOn with
  | nil => exact ⟨holds_empty, holds_empty⟩
  | append_singleton calls x ih => exact collect_snoc calls x ▸ (ih.step x).1

theorem init_fst (c : IrCalibration) (r : Reflectance) : (init c r).1 = c.valid := by
  unfold init
  split <;> simp_all

theorem Holds.average {r : CalibrationRange} {l : List ℕ} (h : Holds r l) (hpos : 0 < r.count) :
    r.minimum ≤ r.sum / r.count ∧ r.sum / r.count ≤ r.maximum := by
  rw [h.sum, h.count] at *
  constructor
  · rw [Nat.le_div_iff_mul_le hpos, mul_comm]
    simpa using List.card_nsmul_le_sum l r.minimum (fun x hx => (h.encloses x hx).1)
  · apply Nat.div_le_of_le_mul
    simpa using List.sum_le_card_nsmul l r.maximum (fun x hx => (h.encloses x hx).2)

theorem finish_accepted {c : CalibrationCollector} {active : IrCalibration}
    (h : (finish c active).1 = true) :
    10 ≤ c.white.count ∧ 10 ≤ c.black.count ∧
      (c.white.maximum < c.black.minimum ∨ c.black.maximum < c.white.minimum) ∧
      (finish c active).2 = { active with
        whiteRaw := c.white.sum / c.white.count % 2 ^ 16
        blackRaw := c.black.sum / c.black.count % 2 ^ 16 } ∧
      (finish c active).2.valid = true := by
  unfold finish at h ⊢
  simp only [init_fst] at h ⊢
  split_ifs at h ⊢ with hfew hapart hvalid
  obtain ⟨hwhite, hblack⟩ := not_or.1 hfew
  exact ⟨not_lt.1 hwhite, not_lt.1 hblack, hapart, rfl, by simpa using hvalid⟩

theorem finish_refused {c : CalibrationCollector} {active : IrCalibration}
    (h : (finish c active).1 = false) : (finish c active).2 = active := by
  unfold finish at h ⊢
  simp only [init_fst] at h ⊢
  split_ifs at h ⊢ <;> rfl

/-! ## Darkness -/

/-- The darkness of a count between 0 and 1000, before it is a natural number. -/
def scaled (c : IrCalibration) (raw : ℕ) : ℤ :=
  (((raw : ℤ) - c.whiteRaw) * 1000).tdiv ((c.blackRaw : ℤ) - c.whiteRaw)

theorem update_fst (c : IrCalibration) (surface : Surface) {raw : ℕ} (hraw : raw ≤ 4095) :
    ((mk c surface true).update raw).1 =
      some (max 0 (min 1000 (scaled c raw))).toNat := by
  unfold update
  rw [if_neg (by simp [hraw])]
  simp only [scaled]
  congr 1
  split_ifs <;> omega

theorem scaled_mono {c : IrCalibration} {w b : ℕ}
    (h : c.whiteRaw < c.blackRaw ∧ w ≤ b ∨ c.blackRaw < c.whiteRaw ∧ b ≤ w) :
    scaled c w ≤ scaled c b := by
  rcases h with ⟨hc, h⟩ | ⟨hc, h⟩
  · exact Int.tdiv_le_tdiv (by omega) (by omega)
  · have hneg : ∀ x : ℕ, scaled c x =
        (((c.whiteRaw : ℤ) - x) * 1000).tdiv ((c.whiteRaw : ℤ) - c.blackRaw) := by
      intro x
      rw [scaled, ← neg_sub (c.whiteRaw : ℤ) c.blackRaw, Int.tdiv_neg, ← Int.neg_tdiv]
      congr 1
      ring
    rw [hneg, hneg]
    exact Int.tdiv_le_tdiv (by omega) (by omega)

theorem darkness_mono {c : IrCalibration} {w b : ℕ} (hw : w ≤ 4095) (hb : b ≤ 4095)
    (h : c.whiteRaw < c.blackRaw ∧ w ≤ b ∨ c.blackRaw < c.whiteRaw ∧ b ≤ w)
    (s t : Surface) :
    ∃ x y, ((mk c s true).update w).1 = some x ∧
      ((mk c t true).update b).1 = some y ∧ x ≤ y := by
  refine ⟨_, _, update_fst c s hw, update_fst c t hb, ?_⟩
  have hscaled := scaled_mono h
  apply Int.toNat_le_toNat
  omega

/-- **An accepted calibration separates the surfaces.**  The sums are exact; the references are
within the collected ranges and differ, and no white reading is darker than a black one.  A refusal
changes nothing. -/
theorem calibration_separates (calls : List Reading) (active : IrCalibration) :
    let c := (collect calls).1
    let accepted := (collect calls).2
    let new := (finish c active).2
    c.white.sum = (labelled .white accepted).sum ∧ c.black.sum = (labelled .black accepted).sum ∧
    ((finish c active).1 = false → new = active) ∧
    ((finish c active).1 = true →
      (c.white.minimum ≤ new.whiteRaw ∧ new.whiteRaw ≤ c.white.maximum) ∧
      (c.black.minimum ≤ new.blackRaw ∧ new.blackRaw ≤ c.black.maximum) ∧
      new.whiteRaw ≠ new.blackRaw ∧
      ∀ w ∈ labelled .white accepted, ∀ b ∈ labelled .black accepted, ∀ s t : Surface,
        ∃ x y, ((Reflectance.mk new s true).update w).1 = some x ∧
          ((Reflectance.mk new t true).update b).1 = some y ∧ x ≤ y) := by
  intro c accepted new
  have hwhites : Holds c.white (labelled .white accepted) := (collect_holds calls).white
  have hblacks : Holds c.black (labelled .black accepted) := (collect_holds calls).black
  refine ⟨hwhites.sum, hblacks.sum, finish_refused, ?_⟩
  intro haccepted
  obtain ⟨hwhite, hblack, hapart, hnew, hvalid⟩ := finish_accepted haccepted
  have hw := hwhites.average (by omega)
  have hb := hblacks.average (by omega)
  have hwmax := hwhites.maximum
  have hbmax := hblacks.maximum
  have hwhiteRaw : new.whiteRaw = c.white.sum / c.white.count := by
    simp only [new, hnew]
    exact Nat.mod_eq_of_lt (by omega)
  have hblackRaw : new.blackRaw = c.black.sum / c.black.count := by
    simp only [new, hnew]
    exact Nat.mod_eq_of_lt (by omega)
  rw [← hwhiteRaw] at hw
  rw [← hblackRaw] at hb
  refine ⟨hw, hb, by omega, ?_⟩
  intro x hx y hy s t
  have hx' := hwhites.encloses x hx
  have hy' := hblacks.encloses y hy
  apply darkness_mono (hwhites.le x hx) (hblacks.le y hy)
  omega

/-- Ten readings of a white and of a darker surface, with black reading lower, are accepted. -/
theorem calibration_separates_bench :
    let calls := List.replicate 10 ⟨.white, 3000⟩ ++ List.replicate 10 ⟨.black, 500⟩
    (finish (collect calls).1 ⟨500, 3000, 300, 700⟩).1 = true ∧
      (finish (collect calls).1 ⟨500, 3000, 300, 700⟩).2.whiteRaw ≠
        (finish (collect calls).1 ⟨500, 3000, 300, 700⟩).2.blackRaw := by
  intro calls
  have haccepted : (finish (collect calls).1 ⟨500, 3000, 300, 700⟩).1 = true := by
    decide +kernel
  exact ⟨haccepted,
    ((calibration_separates calls ⟨500, 3000, 300, 700⟩).2.2.2 haccepted).2.2.1⟩

end RoboticCar.Integration.Calibration
