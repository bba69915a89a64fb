import RoboticCar.Barcode.Extract

/-!
# Reading against the direction of travel

A car that crosses a barcode the other way measures the stripes in the opposite order.  A strict
character read backwards has the mirrored pattern (`character_reverse`), and at most one direction
passes all checks (`not_both_orientations`), from which `decodeRuns_reverse` follows.
-/

namespace RoboticCar.Barcode

open Navigation

def fits (narrow wide split run : ℕ) : Bool :=
  let reference := if split < run then wide else narrow
  reference * widthMinPercent ≤ run * 100 && run * 100 ≤ reference * widthMaxPercent

/-- The pattern of some widths, after the bits `pattern`. -/
def bits (split : ℕ) (pattern : ℕ) (runs : List ℕ) : ℕ :=
  runs.foldl (fun pattern run => pattern * 2 + if split < run then 1 else 0) pattern

theorem classify_strict (narrow wide split i pattern : ℕ) (extended : Bool) (runs : List ℕ) :
    classify narrow wide split false i extended pattern runs =
      if runs.all (fits narrow wide split) then some (bits split pattern runs) else none := by
  induction runs generalizing i pattern with
  | nil => rfl
  | cons run runs ih =>
    have hcons : bits split pattern (run :: runs) =
        bits split (pattern * 2 + if split < run then 1 else 0) runs := rfl
    rw [classify, List.all_cons, hcons]
    simp only [Bool.not_false, true_or, if_true]
    by_cases hmin : run * 100 < (if split < run then wide else narrow) * widthMinPercent
    · have hfits : fits narrow wide split run = false := by
        rw [fits, decide_eq_false (Nat.not_le_of_lt hmin), Bool.false_and]
      rw [if_pos hmin, hfits]
      rfl
    by_cases hmax : (if split < run then wide else narrow) * widthMaxPercent < run * 100
    · have hfits : fits narrow wide split run = false := by
        rw [fits, decide_eq_false (Nat.not_le_of_lt hmax), Bool.and_false]
      rw [if_neg hmin, if_pos hmax, hfits]
      rfl
    · have hfits : fits narrow wide split run := by
        rw [fits, decide_eq_true (Nat.le_of_not_lt hmin), decide_eq_true (Nat.le_of_not_lt hmax)]
        rfl
      rw [if_neg hmin, if_neg hmax, hfits, ih]
      rfl

theorem bits_reverse_eq_star (split : ℕ) {runs : List ℕ} (h : runs.length = 9) :
    bits split 0 runs.reverse = star ↔ bits split 0 runs = starReversed := by
  match runs, h with
  | [a, b, c, d, e, f, g, i, j], _ =>
    have hbit (x : ℕ) : (if split < x then 1 else 0) ≤ 1 := by split <;> decide
    have ha := hbit a
    have hb := hbit b
    have hc := hbit c
    have hd := hbit d
    have he := hbit e
    have hf := hbit f
    have hg := hbit g
    have hi := hbit i
    have hj := hbit j
    simp only [bits, star, starReversed, List.reverse_cons, List.reverse_nil, List.nil_append,
      List.cons_append, List.foldl_cons, List.foldl_nil]
    omega

theorem wideOf_reverse (runs : List ℕ) : wideOf runs.reverse = wideOf runs := by
  simp only [wideOf, sorted_reverse]

theorem splitOf_reverse (runs : List ℕ) : splitOf runs.reverse = splitOf runs := by
  simp only [splitOf, sorted_reverse]

/-- The checks of a character, apart from its pattern. -/
theorem character_eq (runs : List ℕ) (gap : ℕ) (c : BarcodeConfig) :
    character runs gap c =
      if (runs.all (widthOk c) ∧ meansOk c gap runs) ∧
          runs.all (fits (narrowOf runs) (wideOf runs) (splitOf runs)) then
        some (bits (splitOf runs) 0 runs, narrowOf runs)
      else none := by
  unfold character characterWidths
  rw [classify_strict]
  by_cases hok : runs.all (widthOk c) = true ∧ meansOk c gap runs = true
  · simp only [if_pos hok, and_iff_right hok]
    split <;> rfl
  · rw [if_neg hok, if_neg fun h => hok h.1]

/-- **A star read backwards** is the mirrored star. -/
theorem character_reverse {runs : List ℕ} (h : runs.length = 9) (gap : ℕ) (c : BarcodeConfig)
    (narrow : ℕ) :
    character runs.reverse gap c = some (star, narrow) ↔
      character runs gap c = some (starReversed, narrow) := by
  have hmeans : meansOk c gap runs.reverse = meansOk c gap runs := by
    simp only [meansOk, narrowOf_reverse, wideOf_reverse]
  rw [character_eq, character_eq, narrowOf_reverse, wideOf_reverse, splitOf_reverse, hmeans]
  simp only [List.all_reverse, Option.ite_none_right_eq_some, Option.some.injEq, Prod.mk.injEq,
    bits_reverse_eq_star _ h]

/-! ## The two directions -/

variable {runs : List ℕ} {leading trailing gap : ℕ} {c : BarcodeConfig}

theorem length_char (h : runs.length = runCount) {i : ℕ} (hi : i ≤ 2) :
    (char i runs).length = 9 := by
  simp only [char, List.length_take, List.length_drop, h, runCount]
  omega

theorem stars_of_decodeOriented {reversed : Bool} {result : Fin 26 × Bool}
    (h : decodeOriented reversed runs leading trailing gap c = some result) :
    (∃ narrow, character (char 0 (oriented reversed runs)) gap c = some (star, narrow)) ∧
      (∃ narrow, character (char 2 (oriented reversed runs)) gap c = some (star, narrow)) ∧
      result.2 = reversed := by
  unfold decodeOriented at h
  simp only [Option.bind_eq_bind, Option.bind_eq_some_iff, Option.guard_eq_some'] at h
  obtain ⟨⟨p₀, n₀⟩, h₀, -, -, ⟨p₂, n₂⟩, h₂, -, ⟨rfl, rfl⟩, -, -, -, -, -, -, letter, -, hr⟩ := h
  exact ⟨⟨n₀, h₀⟩, ⟨n₂, h₂⟩, by rw [← Option.some.inj hr]⟩

/-- **At most one direction passes**: the first star is not the mirrored one. -/
theorem not_both_orientations (hlen : runs.length = runCount) :
    ¬((decodeOriented false runs leading trailing gap c).isSome = true ∧
      (decodeOriented true runs leading trailing gap c).isSome = true) := by
  rintro ⟨hforward, hbackward⟩
  obtain ⟨r₁, h₁⟩ := Option.isSome_iff_exists.1 hforward
  obtain ⟨r₂, h₂⟩ := Option.isSome_iff_exists.1 hbackward
  obtain ⟨⟨n₁, hfirst⟩, -, -⟩ := stars_of_decodeOriented h₁
  obtain ⟨-, ⟨n₂, hlast⟩, -⟩ := stars_of_decodeOriented h₂
  simp only [oriented, Bool.false_eq_true, if_false, if_true] at hfirst hlast
  rw [char_two_reverse hlen, character_reverse (length_char hlen (by decide)), hfirst] at hlast
  have heq : star = starReversed := congrArg Prod.fst (Option.some.inj hlast)
  exact absurd heq (by decide)

/-- One direction is the other, reversed. -/
theorem decodeOriented_reverse (reversed : Bool) :
    decodeOriented reversed runs.reverse trailing leading gap c =
      (decodeOriented (!reversed) runs leading trailing gap c).map fun r => (r.1, !r.2) := by
  have horiented : oriented reversed runs.reverse = oriented (!reversed) runs := by
    cases reversed <;> simp [oriented]
  unfold decodeOriented
  rw [horiented]
  cases reversed <;> simp [Option.map_bind]

/-- **Reading backwards**: the same letter, with the direction turned round. -/
theorem decodeRuns_reverse :
    decodeRuns runs.reverse trailing leading gap c =
      (decodeRuns runs leading trailing gap c).map fun r => (r.1, !r.2) := by
  unfold decodeRuns
  simp only [List.length_reverse, List.all_reverse, List.sum_reverse]
  by_cases hok : runs.length = runCount ∧ configValid c ∧ gap ≤ c.maxGapUs.toNat ∧
      runs.all (widthOk c) ∧ runs.sum ≤ c.maxFrameUs.toNat
  · rw [if_pos hok, if_pos hok, decodeOriented_reverse, decodeOriented_reverse, Option.map_or]
    have hone : ¬((decodeOriented false runs leading trailing gap c).isSome = true ∧
        (decodeOriented true runs leading trailing gap c).isSome = true) :=
      not_both_orientations hok.1
    simp only [Bool.not_false, Bool.not_true]
    generalize decodeOriented false runs leading trailing gap c = forward at hone ⊢
    generalize decodeOriented true runs leading trailing gap c = backward at hone ⊢
    rcases forward with _ | r
    · simp
    · rcases backward with _ | r'
      · rfl
      · exact absurd ⟨rfl, rfl⟩ hone
  · rw [if_neg hok, if_neg hok]
    rfl

/-- **Direction symmetry of the decoder**: at most one direction passes every check, and the
reversed widths, with the margins exchanged, give the same letter in the other direction. -/
theorem direction_symmetry (runs : List ℕ) (hlen : runs.length = runCount)
    (leading trailing gap : ℕ) (c : BarcodeConfig) :
    ¬((decodeOriented false runs leading trailing gap c).isSome = true ∧
        (decodeOriented true runs leading trailing gap c).isSome = true) ∧
      ∀ letter reversed,
        decodeRuns runs.reverse trailing leading gap c = some (letter, !reversed) ↔
          decodeRuns runs leading trailing gap c = some (letter, reversed) := by
  refine ⟨not_both_orientations hlen, fun letter reversed => ?_⟩
  rw [decodeRuns_reverse, Option.map_eq_some_iff]
  constructor
  · rintro ⟨⟨letter', reversed'⟩, hdecode, hpair⟩
    obtain ⟨rfl, hflag⟩ := Prod.mk.inj hpair
    exact Bool.not_inj hflag ▸ hdecode
  · exact fun hdecode => ⟨(letter, reversed), hdecode, rfl⟩

/-- The widths of a printed `A` at a steady speed. -/
def printedA : List ℕ :=
  let stripes (pattern : ℕ) : List ℕ :=
    (List.range 9).map fun i => if pattern.testBit (8 - i) then 100000 else 40000
  stripes star ++ [40000] ++ stripes (letters.getD 0 0) ++ [40000] ++ stripes star

/-- An `A` that is crossed the other way. -/
theorem direction_symmetry_bench :
    decodeRuns printedA.reverse 15000000 400000 10000 defaults = some (0, true) :=
  ((direction_symmetry printedA rfl 400000 15000000 10000 defaults).2 0 false).2
    (by decide +kernel)

end RoboticCar.Barcode
