import RoboticCar.Obstacle.Avoidance

/-!
# From readings to a profile

`obstacle_profile.c` and `obstacle_scan.c`: the schedule of a scan, and the profile of the obstacle
or the clearance of a side that is made of its samples.  Either is within the ranges of its packet
(`profileBuild_sound`, `peekMerge_sound`).
-/

namespace RoboticCar.Obstacle

/-- `s5_sample_pack`: the three bytes of a sample as one number. -/
def samplePack (angle mm : ℕ) (valid : Bool) : Option ℕ :=
  if angle < 30 ∨ angle > 150 ∨ (angle - 30) % 5 ≠ 0 ∨ (valid ∧ (mm < 30 ∨ mm > 4000)) then none
  else some ((if valid then mm else 0) ||| ((angle - 30) / 5) <<< 12 ||| valid.toNat <<< 17)

structure Sample where
  angle : ℕ
  mm : ℕ
  valid : Bool

def sampleUnpack (w : ℕ) : Option Sample :=
  if w >>> 18 ≠ 0 ∨ (w >>> 12) % 32 > 24 then none
  else
    let s : Sample := ⟨30 + 5 * ((w >>> 12) % 32), w % 4096, (w >>> 17) % 2 ≠ 0⟩
    if if s.valid then 30 ≤ s.mm ∧ s.mm ≤ 4000 else s.mm = 0 then some s else none

theorem sampleUnpack_range {w : ℕ} {s : Sample} (h : sampleUnpack w = some s)
    (hv : s.valid) : 30 ≤ s.mm ∧ s.mm ≤ 4000 := by
  simp only [sampleUnpack, Option.ite_none_left_eq_some, Option.ite_none_right_eq_some,
    Option.some.injEq] at h
  obtain ⟨-, hrange, rfl⟩ := h
  rwa [if_pos hv] at hrange

/-! ## The profile of a scan -/

def Profile.zero : Profile := ⟨0, 0, 0, 0, 0, 0, 0, false⟩

/-- The table `sx`: sines of -60 to 60 degrees in steps of 5, times 1000. -/
def sx : List Int :=
  [-866, -819, -766, -707, -643, -574, -500, -423, -342, -259, -174, -87, 0, 87, 174, 259, 342, 423,
    500, 574, 643, 707, 766, 819, 866]

/-- The table `cy`: the cosines. -/
def cy : List Int :=
  [500, 574, 643, 707, 766, 819, 866, 906, 940, 966, 985, 996, 1000, 996, 985, 966, 940, 906, 866,
    819, 766, 707, 643, 574, 500]

/-- The local variables of the loop of `s5_profile_build`. -/
structure Build where
  p : Profile
  found : Bool
  left : Bool
  right : Bool
  centre : Bool
  far : ℕ

def Build.start : Build :=
  ⟨⟨4000, 0, 4000, 4000, -4000, 4000, 0, false⟩, false, false, false, false, 0⟩

/-- The side clearances and the centre flag: the first half of the loop body. -/
def Build.clear (b : Build) (s : Sample) : Build :=
  let b := if s.angle ≥ 135 then
      { b with left := true, p := { b.p with leftClearMm := min s.mm b.p.leftClearMm } }
    else b
  let b := if s.angle ≤ 45 then
      { b with right := true, p := { b.p with rightClearMm := min s.mm b.p.rightClearMm } }
    else b
  if s.angle = 90 then { b with centre := true } else b

/-- The table index of the part of the beam nearest to the centre. -/
def beamIndex (index : ℕ) : ℕ :=
  if index > 12 then if index - 3 > 12 then index - 3 else 12
  else if index + 3 < 12 then index + 3 else 12

/-- How far to the left the return of a sample is, with the beam's width corrected for. -/
def beamX (s : Sample) : Int := (s.mm * sx.getD (beamIndex ((s.angle - 30) / 5)) 0).tdiv 1000

def beamY (s : Sample) : Int := (s.mm * cy.getD (beamIndex ((s.angle - 30) / 5)) 0).tdiv 1000

/-- What an `int16_t` keeps of a value. -/
def int16 (x : Int) : Int := x.bmod (2 ^ 16)

/-- The return of the sample is part of the obstacle. -/
def Sample.near (s : Sample) (cfg : Config) : Prop :=
  s.mm < cfg.profileMm ∧ s.angle ≥ 45 ∧ s.angle ≤ 135

instance (s : Sample) (cfg : Config) : Decidable (s.near cfg) := inferInstanceAs (Decidable (_ ∧ _))

/-- The shape of the obstacle: the second half of the loop body. -/
def Build.shape (b : Build) (cfg : Config) (s : Sample) : Build :=
  if s.near cfg then
    let x := beamX s
    let y := beamY s
    { b with
      found := true
      far := max s.mm b.far
      p := { b.p with
        closestMm := min s.mm b.p.closestMm
        leftEdgeMm := if x > b.p.leftEdgeMm then int16 x else b.p.leftEdgeMm
        rightEdgeMm := if x < b.p.rightEdgeMm then int16 x else b.p.rightEdgeMm
        forwardMm := if y > b.p.forwardMm then (y % 2 ^ 16).toNat else b.p.forwardMm } }
  else b

/-- The loop of `s5_profile_build`, which gives up at a sample that is no reading. -/
def Build.run (cfg : Config) : Build → List ℕ → Option Build
  | b, [] => some b
  | b, w :: samples =>
    match sampleUnpack w with
    | some s => if s.valid then Build.run cfg ((b.clear s).shape cfg s) samples else none
    | none => none

/-- `s5_profile_build`: `false` leaves a cleared profile behind. -/
def profileBuild (samples : List ℕ) (cfg : Config) : Bool × Profile :=
  if samples.length < 5 ∨ samples.length > 16 then (false, .zero)
  else
    match Build.run cfg .start samples with
    | none => (false, .zero)
    | some b =>
      if !b.found ∨ !b.left ∨ !b.right ∨ !b.centre then (false, .zero)
      else
        let uncertainty : ℕ := (b.far * 259 + 999) / 1000
        let left := int16 (b.p.leftEdgeMm + uncertainty)
        let right := int16 (b.p.rightEdgeMm - uncertainty)
        (true, { b.p with
          leftEdgeMm := left
          rightEdgeMm := right
          widthMm := ((left - right) % 2 ^ 16).toNat
          valid := true })

/-- `s5_peek_merge`: the profile with the clearance of one side replaced. -/
def peekMerge (p : Profile) (sample : ℕ) : Option Profile :=
  match sampleUnpack sample with
  | none => none
  | some s =>
    if !s.valid ∨ (s.angle > 60 ∧ s.angle < 120) then none
    else
      let p := if p.valid then p else
        { Profile.zero with
          closestMm := s.mm, leftClearMm := 4000, rightClearMm := 4000, valid := true }
      some (if s.angle ≥ 120 then { p with leftClearMm := s.mm }
        else { p with rightClearMm := s.mm })

/-! ## What comes out -/

/-- The ranges of the packet. -/
structure Profile.Sound (p : Profile) : Prop where
  closest : p.closestMm ≤ 4000
  width : p.widthMm ≤ 4095
  leftClear : p.leftClearMm ≤ 4000
  rightClear : p.rightClearMm ≤ 4000
  forward : p.forwardMm ≤ 4000
  leftEdge : -4000 ≤ p.leftEdgeMm ∧ p.leftEdgeMm ≤ 4000
  rightEdge : -4000 ≤ p.rightEdgeMm ∧ p.rightEdgeMm ≤ 4000
  near : p.valid = true → 30 ≤ p.closestMm ∧ p.rightEdgeMm ≤ p.leftEdgeMm

theorem zero_sound : Profile.zero.Sound := by
  constructor <;> decide

theorem peekMerge_sound {p q : Profile} {sample : ℕ} (hp : p.Sound)
    (h : peekMerge p sample = some q) : q.Sound := by
  unfold peekMerge at h
  split at h
  · cases h
  · rename_i s hs
    rw [Option.ite_none_left_eq_some, not_or] at h
    obtain ⟨⟨hv, -⟩, h⟩ := h
    obtain ⟨hmin, hmax⟩ := sampleUnpack_range hs (by simpa using hv)
    have hbase : (if p.valid then p else { Profile.zero with
        closestMm := s.mm, leftClearMm := 4000, rightClearMm := 4000, valid := true }).Sound := by
      split_ifs
      · exact hp
      · exact { zero_sound with
          closest := hmax, leftClear := le_rfl, rightClear := le_rfl
          near := fun _ => ⟨hmin, le_rfl⟩ }
    generalize (if p.valid then p else _) = base at h hbase
    obtain rfl := Option.some.inj h
    split_ifs
    · exact { hbase with leftClear := hmax }
    · exact { hbase with rightClear := hmax }

/-- What the loop of `s5_profile_build` keeps, for returns that count below `n`. -/
structure Build.Bounded (n : ℕ) (b : Build) : Prop where
  leftClear : b.p.leftClearMm ≤ 4000
  rightClear : b.p.rightClearMm ≤ 4000
  closest : b.p.closestMm ≤ 4000
  forward : b.p.forwardMm ≤ n
  far : b.far ≤ n
  seen : b.found = true → 30 ≤ b.p.closestMm ∧ -n ≤ b.p.rightEdgeMm ∧
    b.p.rightEdgeMm ≤ b.p.leftEdgeMm ∧ b.p.leftEdgeMm ≤ n
  unseen : b.found = false → b.p.closestMm = 4000 ∧ b.p.leftEdgeMm = -4000 ∧
    b.p.rightEdgeMm = 4000

theorem Build.bounded_start (n : ℕ) : Build.start.Bounded n where
  leftClear := le_rfl
  rightClear := le_rfl
  closest := le_rfl
  forward := Nat.zero_le n
  far := Nat.zero_le n
  seen := nofun
  unseen _ := ⟨rfl, rfl, rfl⟩

theorem Build.Bounded.clear {n : ℕ} {b : Build} (h : b.Bounded n) (s : Sample) :
    (b.clear s).Bounded n := by
  unfold Build.clear
  split_ifs <;> exact { h with
    leftClear := by first | exact h.leftClear | exact (min_le_right _ _).trans h.leftClear
    rightClear := by first | exact h.rightClear | exact (min_le_right _ _).trans h.rightClear }

theorem natAbs_tdiv_le {m : ℕ} {t : Int} (ht : t.natAbs ≤ 1000) :
    (((m : Int) * t).tdiv 1000).natAbs ≤ m := by
  rw [Int.natAbs_tdiv, Int.natAbs_mul, Int.natAbs_natCast]
  refine Nat.div_le_of_le_mul ?_
  rw [mul_comm]
  exact Nat.mul_le_mul_right m ht

theorem natAbs_getD_le {l : List Int} {n : ℕ} (h : ∀ t ∈ l, t.natAbs ≤ n) (c : ℕ) :
    (l.getD c 0).natAbs ≤ n := by
  rw [List.getD_eq_getElem?_getD]
  cases hc : l[c]? with
  | none => exact Nat.zero_le n
  | some t => exact h t (List.mem_of_getElem? hc)

theorem natAbs_beamX_le (s : Sample) : (beamX s).natAbs ≤ s.mm := by
  have hsx : ∀ t ∈ sx, t.natAbs ≤ 1000 := by decide
  exact natAbs_tdiv_le (natAbs_getD_le hsx _)

theorem natAbs_beamY_le (s : Sample) : (beamY s).natAbs ≤ s.mm := by
  have hcy : ∀ t ∈ cy, t.natAbs ≤ 1000 := by decide
  exact natAbs_tdiv_le (natAbs_getD_le hcy _)

theorem int16_eq {x : Int} (h : x.natAbs < 2 ^ 15) : int16 x = x := by
  exact Int.bmod_eq_of_le (by omega) (by omega)

theorem Build.shape_eq (b : Build) (cfg : Config) {s : Sample} (hs : s.mm ≤ 4000) :
    b.shape cfg s = if s.near cfg then
      { b with
        found := true
        far := max s.mm b.far
        p := { b.p with
          closestMm := min s.mm b.p.closestMm
          leftEdgeMm := max (beamX s) b.p.leftEdgeMm
          rightEdgeMm := min (beamX s) b.p.rightEdgeMm
          forwardMm := max (beamY s).toNat b.p.forwardMm } }
    else b := by
  have hx := natAbs_beamX_le s
  have hy := natAbs_beamY_le s
  have hleft : (if beamX s > b.p.leftEdgeMm then int16 (beamX s) else b.p.leftEdgeMm) =
      max (beamX s) b.p.leftEdgeMm := by
    rw [int16_eq (by omega)]
    split_ifs <;> omega
  have hright : (if beamX s < b.p.rightEdgeMm then int16 (beamX s) else b.p.rightEdgeMm) =
      min (beamX s) b.p.rightEdgeMm := by
    rw [int16_eq (by omega)]
    split_ifs <;> omega
  have hforward : (if beamY s > b.p.forwardMm then (beamY s % 2 ^ 16).toNat else b.p.forwardMm) =
      max (beamY s).toNat b.p.forwardMm := by
    split_ifs <;> omega
  simp only [Build.shape, hleft, hright, hforward]

theorem Build.Bounded.shape {n : ℕ} {b : Build} (h : b.Bounded n) {cfg : Config}
    (hcfg : min cfg.profileMm 4000 ≤ n) {s : Sample} (hs : 30 ≤ s.mm ∧ s.mm ≤ 4000) :
    (b.shape cfg s).Bounded n := by
  rw [Build.shape_eq b cfg hs.2]
  split_ifs with hnear
  swap
  · exact h
  have hx := natAbs_beamX_le s
  have hy := natAbs_beamY_le s
  have hseen := h.seen
  have hunseen := h.unseen
  have hmm : s.mm ≤ n := (le_min hnear.1.le hs.2).trans hcfg
  refine ⟨h.leftClear, h.rightClear, (min_le_right _ _).trans h.closest, ?_,
    max_le hmm h.far, fun _ => ?_, nofun⟩
  · exact max_le (by omega) h.forward
  · dsimp only
    cases hfound : b.found
    · obtain ⟨hclosest, hleft, hright⟩ := hunseen hfound
      omega
    · obtain ⟨hclosest, hright, hle, hleft⟩ := hseen hfound
      omega

theorem Build.Bounded.run {n : ℕ} {cfg : Config} (hcfg : min cfg.profileMm 4000 ≤ n)
    {samples : List ℕ} {b b' : Build} (h : b.Bounded n)
    (hrun : Build.run cfg b samples = some b') : b'.Bounded n := by
  induction samples generalizing b with
  | nil => exact Option.some.inj hrun ▸ h
  | cons w samples ih =>
    rw [Build.run] at hrun
    split at hrun
    · rename_i s hs
      split_ifs at hrun with hv
      exact ih ((h.clear s).shape hcfg (sampleUnpack_range hs hv)) hrun
    · cases hrun

/-- **A profile fits its packet**, for a configuration that counts only returns below 1.6 m. -/
theorem profileBuild_sound (samples : List ℕ) {cfg : Config} (hcfg : cfg.profileMm ≤ 1600) :
    (profileBuild samples cfg).2.Sound := by
  unfold profileBuild
  split_ifs
  · exact zero_sound
  split
  · exact zero_sound
  · rename_i b hrun
    have hb := (Build.bounded_start 1600).run ((min_le_left _ _).trans hcfg) hrun
    split_ifs with hfound
    · exact zero_sound
    simp only [not_or, Bool.not_eq_true, Bool.not_eq_false'] at hfound
    obtain ⟨hclosest, hright, hle, hleft⟩ := hb.seen hfound.1
    have hforward := hb.forward
    have hu : (b.far * 259 + 999) / 1000 ≤ 415 := by
      have := hb.far
      omega
    generalize (b.far * 259 + 999) / 1000 = u at hu ⊢
    dsimp only
    rw [int16_eq (by omega), int16_eq (by omega)]
    -- the width is not negative, so its conversion to 16 bits changes nothing
    have hwidth : (b.p.leftEdgeMm + u - (b.p.rightEdgeMm - u)) % 2 ^ 16 =
        b.p.leftEdgeMm + u - (b.p.rightEdgeMm - u) :=
      Int.emod_eq_of_lt (by omega) (by omega)
    rw [hwidth]
    exact ⟨hb.closest, by dsimp only; omega, hb.leftClear, hb.rightClear, by dsimp only; omega,
      by dsimp only; omega, by dsimp only; omega, fun _ => ⟨hclosest, by dsimp only; omega⟩⟩

end RoboticCar.Obstacle
