import Mathlib.Data.List.Induction
import RoboticCar.Obstacle.Scanner

/-!
# The scan and its profile

A scan takes five coarse readings and then fine ones around the nearest of them.  `scan_profile`
says what a scan that did not fail holds, when a profile can be made of it, and that the profile
encloses the returns.  The angles follow a schedule (`slot`, `Scheduled`); the loop of the profile
is a fold whose body commutes with itself, and `Told` says what it has gathered.
-/

namespace RoboticCar.Obstacle

open Build

variable {w : ℕ}

theorem sampleUnpack_pack {angle mm : ℕ} (h : samplePack angle mm true = some w) :
    sampleUnpack w = some ⟨angle, mm, true⟩ := by
  simp only [samplePack, Option.ite_none_left_eq_some, Option.some.injEq, if_true, true_and,
    not_or] at h
  obtain ⟨⟨hlow, hhigh, hfive, hmin, hmax⟩, rfl⟩ := h
  -- the three fields do not overlap
  have hfields : mm ||| ((angle - 30) / 5) <<< 12 = ((angle - 30) / 5) <<< 12 + mm := by
    rw [Nat.or_comm, Nat.shiftLeft_add_eq_or_of_lt (by omega)]
  have hword : mm ||| ((angle - 30) / 5) <<< 12 ||| true.toNat <<< 17 =
      2 ^ 17 + ((angle - 30) / 5 * 2 ^ 12 + mm) := by
    have hlt : ((angle - 30) / 5) <<< 12 + mm < 2 ^ 17 := by
      rw [Nat.shiftLeft_eq]
      omega
    rw [hfields, Nat.or_comm, ← Nat.shiftLeft_add_eq_or_of_lt hlt]
    simp only [Nat.shiftLeft_eq, Bool.toNat_true, one_mul]
  rw [hword]
  generalize hw : 2 ^ 17 + ((angle - 30) / 5 * 2 ^ 12 + mm) = w
  have htop : w / 2 ^ 18 = 0 := by omega
  have hindex : w / 2 ^ 12 % 32 = (angle - 30) / 5 := by omega
  have hvalid : w / 2 ^ 17 % 2 = 1 := by omega
  have hmm : w % 4096 = mm := by omega
  have hangle : 30 + 5 * ((angle - 30) / 5) = angle := by omega
  have hle : (angle - 30) / 5 ≤ 24 := by omega
  simp only [sampleUnpack, Nat.shiftRight_eq_div_pow, htop, hindex, hvalid, hmm, hangle]
  rw [if_neg (by omega)]
  simp only [ne_eq, one_ne_zero, not_false_eq_true, decide_true, if_true]
  rw [if_pos (by omega)]

def reading (w : ℕ) : Option Sample := (sampleUnpack w).filter Sample.valid

variable {s : Sample}

theorem reading_eq_some : reading w = some s ↔ sampleUnpack w = some s ∧ s.valid := by
  simp [reading]

theorem reading_range (h : reading w = some s) : 30 ≤ s.mm ∧ s.mm ≤ 4000 :=
  sampleUnpack_range (reading_eq_some.1 h).1 (reading_eq_some.1 h).2

/-! ## The loop as a fold -/

def Build.body (cfg : Config) (b : Build) (s : Sample) : Build := (b.clear s).shape cfg s

theorem Build.run_cons (cfg : Config) (b : Build) (w : ℕ) (ws : List ℕ) :
    run cfg b (w :: ws) = (reading w).bind fun s => run cfg (b.body cfg s) ws := by
  rw [run, reading]
  cases sampleUnpack w with
  | none => rfl
  | some s => cases hv : s.valid <;> simp [Option.filter, hv, body]

variable {cfg : Config} {ws : List ℕ}

theorem Build.run_eq_some {b : Build} (h : ∀ w ∈ ws, (reading w).isSome) :
    run cfg b ws = some ((ws.filterMap reading).foldl (body cfg) b) := by
  induction ws generalizing b with
  | nil => rfl
  | cons w ws ih =>
    obtain ⟨hw, hws⟩ := List.forall_mem_cons.1 h
    obtain ⟨s, hs⟩ := Option.isSome_iff_exists.1 hw
    rw [run_cons, hs, List.filterMap_cons_some hs, List.foldl_cons]
    exact ih hws

theorem Build.run_eq_none {b : Build} (h : ¬∀ w ∈ ws, (reading w).isSome) :
    run cfg b ws = none := by
  induction ws generalizing b with
  | nil => simp at h
  | cons w ws ih =>
    rw [run_cons]
    cases hw : reading w with
    | none => rfl
    | some =>
      apply ih
      intro hws
      exact h (List.forall_mem_cons.2 ⟨by simp [hw], hws⟩)

theorem Build.clear_eq (b : Build) (s : Sample) :
    b.clear s = { b with
      left := b.left || decide (s.angle ≥ 135)
      right := b.right || decide (s.angle ≤ 45)
      centre := b.centre || decide (s.angle = 90)
      p := { b.p with
        leftClearMm := if s.angle ≥ 135 then min s.mm b.p.leftClearMm else b.p.leftClearMm
        rightClearMm := if s.angle ≤ 45 then min s.mm b.p.rightClearMm
          else b.p.rightClearMm } } := by
  obtain ⟨p, found, left, right, centre, far⟩ := b
  rw [clear]
  by_cases h₁ : s.angle ≥ 135
  · have h₂ : ¬s.angle ≤ 45 := by omega
    have h₃ : s.angle ≠ 90 := by omega
    simp only [h₁, h₂, h₃, if_true, if_false, decide_true, decide_false, Bool.or_true,
      Bool.or_false]
  · by_cases h₂ : s.angle ≤ 45
    · have h₃ : s.angle ≠ 90 := by omega
      simp only [h₁, h₂, h₃, if_true, if_false, decide_true, decide_false, Bool.or_true,
        Bool.or_false]
    · by_cases h₃ : s.angle = 90
      · simp only [h₃, Nat.reduceLeDiff, ge_iff_le, if_true, if_false, decide_true, decide_false,
          Bool.or_true, Bool.or_false]
      · simp only [h₁, h₂, h₃, if_false, decide_false, Bool.or_false]

theorem ite_min_comm (p q : Prop) [Decidable p] [Decidable q] (x y z : ℕ) :
    (if q then min y (if p then min x z else z) else if p then min x z else z) =
      if p then min x (if q then min y z else z) else if q then min y z else z := by
  split_ifs <;> omega

theorem Build.clear_clear (b : Build) (s t : Sample) :
    (b.clear s).clear t = (b.clear t).clear s := by
  simp only [clear_eq, Bool.or_right_comm _ (decide (_ ≥ _)) (decide (t.angle ≥ 135)),
    Bool.or_right_comm _ (decide (_ ≤ _)) (decide (t.angle ≤ 45)),
    Bool.or_right_comm _ (decide (_ = _)) (decide (t.angle = 90)),
    ite_min_comm (s.angle ≥ 135) (t.angle ≥ 135), ite_min_comm (s.angle ≤ 45) (t.angle ≤ 45)]

theorem Build.shape_shape (b : Build) {t : Sample} (hs : s.mm ≤ 4000) (ht : t.mm ≤ 4000) :
    (b.shape cfg s).shape cfg t = (b.shape cfg t).shape cfg s := by
  simp only [shape_eq _ _ hs, shape_eq _ _ ht]
  split_ifs <;> simp [min_left_comm, max_left_comm]

theorem Build.clear_shape (cfg : Config) (b : Build) (s t : Sample) :
    (b.clear s).shape cfg t = (b.shape cfg t).clear s := by
  simp only [clear_eq, shape]
  split_ifs <;> rfl

theorem Build.body_comm (b : Build) {t : Sample} (hs : s.mm ≤ 4000) (ht : t.mm ≤ 4000) :
    (b.body cfg s).body cfg t = (b.body cfg t).body cfg s := by
  simp only [body]
  rw [← clear_shape, clear_clear, shape_shape _ hs ht, clear_shape cfg _ s]

/-- The order of the samples does not matter. -/
theorem Build.run_perm {b : Build} {ws' : List ℕ} (h : ws.Perm ws') :
    run cfg b ws = run cfg b ws' := by
  have hmem : (∀ w ∈ ws', (reading w).isSome) ↔ ∀ w ∈ ws, (reading w).isSome := by
    simp only [h.mem_iff]
  by_cases hws : ∀ w ∈ ws, (reading w).isSome
  · rw [run_eq_some hws, run_eq_some (hmem.2 hws)]
    congr 1
    refine (h.filterMap reading).foldl_eq' (fun s hs t ht b => ?_) b
    obtain ⟨w, -, hw⟩ := List.mem_filterMap.1 hs
    obtain ⟨v, -, hv⟩ := List.mem_filterMap.1 ht
    exact body_comm b (reading_range hw).2 (reading_range hv).2
  · rw [run_eq_none hws, run_eq_none (mt hmem.1 hws)]

theorem profileBuild_perm {ws' : List ℕ} (cfg : Config) (h : ws'.Perm ws) :
    profileBuild ws' cfg = profileBuild ws cfg := by
  simp only [profileBuild, h.length_eq, run_perm h]

/-- What the loop knows of the readings it has taken. -/
structure Told (cfg : Config) (ss : List Sample) (b : Build) : Prop where
  found : b.found = true ↔ ∃ s ∈ ss, s.near cfg
  left : b.left = true ↔ ∃ s ∈ ss, s.angle ≥ 135
  right : b.right = true ↔ ∃ s ∈ ss, s.angle ≤ 45
  centre : b.centre = true ↔ ∃ s ∈ ss, s.angle = 90
  encloses : ∀ s ∈ ss, s.near cfg → b.p.rightEdgeMm ≤ beamX s ∧ beamX s ≤ b.p.leftEdgeMm ∧
    beamY s ≤ b.p.forwardMm

theorem told_start (cfg : Config) : Told cfg [] .start := by
  constructor <;> simp [start]

theorem exists_mem_concat {α : Type*} {p : α → Prop} {l : List α} {a : α} :
    (∃ x ∈ l ++ [a], p x) ↔ (∃ x ∈ l, p x) ∨ p a := by
  simp [or_and_right, exists_or]

theorem Build.clear_spec (b : Build) (s : Sample) :
    ((b.clear s).left = true ↔ b.left ∨ s.angle ≥ 135) ∧
    ((b.clear s).right = true ↔ b.right ∨ s.angle ≤ 45) ∧
    ((b.clear s).centre = true ↔ b.centre ∨ s.angle = 90) ∧
    (b.clear s).found = b.found ∧ (b.clear s).p.leftEdgeMm = b.p.leftEdgeMm ∧
    (b.clear s).p.rightEdgeMm = b.p.rightEdgeMm ∧ (b.clear s).p.forwardMm = b.p.forwardMm := by
  simp [clear_eq]

theorem Build.shape_spec (cfg : Config) (b : Build) (hs : s.mm ≤ 4000) :
    (b.shape cfg s).left = b.left ∧ (b.shape cfg s).right = b.right ∧
    (b.shape cfg s).centre = b.centre ∧
    ((b.shape cfg s).found = true ↔ b.found ∨ s.near cfg) ∧
    (b.shape cfg s).p.rightEdgeMm ≤ b.p.rightEdgeMm ∧
    b.p.leftEdgeMm ≤ (b.shape cfg s).p.leftEdgeMm ∧
    b.p.forwardMm ≤ (b.shape cfg s).p.forwardMm ∧
    (s.near cfg → (b.shape cfg s).p.rightEdgeMm ≤ beamX s ∧
      beamX s ≤ (b.shape cfg s).p.leftEdgeMm ∧ beamY s ≤ (b.shape cfg s).p.forwardMm) := by
  rw [shape_eq b cfg hs]
  split_ifs with hnear
  · refine ⟨rfl, rfl, rfl, by simp [hnear], min_le_right _ _, le_max_right _ _, le_max_right _ _,
      fun _ => ⟨min_le_left _ _, le_max_left _ _, ?_⟩⟩
    dsimp only
    omega
  · simp [hnear]

theorem Told.snoc {ss : List Sample} {b : Build} (h : Told cfg ss b) (hs : s.mm ≤ 4000) :
    Told cfg (ss ++ [s]) (b.body cfg s) := by
  obtain ⟨hleft, hright, hcentre, hfound, hl, hr, hf⟩ := b.clear_spec s
  obtain ⟨hleft', hright', hcentre', hfound', hr', hl', hf', hpoint⟩ :=
    (b.clear s).shape_spec cfg hs
  refine ⟨?_, ?_, ?_, ?_, fun t ht hnear => ?_⟩
  · rw [exists_mem_concat, ← h.found, body, hfound', hfound]
  · rw [exists_mem_concat, ← h.left, body, hleft', hleft]
  · rw [exists_mem_concat, ← h.right, body, hright', hright]
  · rw [exists_mem_concat, ← h.centre, body, hcentre', hcentre]
  · rcases List.mem_append.1 ht with ht | ht
    · obtain ⟨h₁, h₂, h₃⟩ := h.encloses t ht hnear
      rw [hr] at hr'
      rw [hl] at hl'
      rw [hf] at hf'
      exact ⟨hr'.trans h₁, h₂.trans hl', h₃.trans (by exact_mod_cast hf')⟩
    · obtain rfl := List.mem_singleton.1 ht
      exact hpoint hnear

/-- The samples' fold tells their extremes. -/
theorem told_foldl {ss : List Sample} (h : ∀ s ∈ ss, s.mm ≤ 4000) :
    Told cfg ss (ss.foldl (body cfg) .start) := by
  induction ss using List.reverseRecOn with
  | nil => exact told_start cfg
  | append_singleton ss s ih =>
    rw [List.foldl_append]
    exact (ih fun t ht => h t (List.mem_append_left _ ht)).snoc (h s (by simp))

theorem told_run (cfg : Config) (h : ∀ w ∈ ws, (reading w).isSome) :
    ∃ b, run cfg .start ws = some b ∧ Told cfg (ws.filterMap reading) b ∧
      b.Bounded 4000 := by
  have hrun : run cfg .start ws = some _ := run_eq_some h
  refine ⟨_, hrun, told_foldl fun s hs => ?_, ?_⟩
  · obtain ⟨w, -, hw⟩ := List.mem_filterMap.1 hs
    exact (reading_range hw).2
  · exact (bounded_start 4000).run (min_le_right _ _) hrun

def Reads (ws : List ℕ) (s : Sample) : Prop := ∃ w ∈ ws, reading w = some s

/-- The readings a profile cannot do without: one on either side and one straight ahead. -/
structure Complete (ws : List ℕ) : Prop where
  readings : ∀ w ∈ ws, (reading w).isSome
  length : 5 ≤ ws.length ∧ ws.length ≤ 16
  left : ∃ s, Reads ws s ∧ s.angle ≥ 135
  right : ∃ s, Reads ws s ∧ s.angle ≤ 45
  centre : ∃ s, Reads ws s ∧ s.angle = 90

theorem reads_iff : Reads ws s ↔ s ∈ ws.filterMap reading := by
  simp [Reads]

theorem Complete.profileBuild_eq (cfg : Config) (h : Complete ws) :
    ∃ b u, Told cfg (ws.filterMap reading) b ∧ b.Bounded 4000 ∧ u ≤ 1036 ∧
      profileBuild ws cfg = if b.found then
        (true, { b.p with
          leftEdgeMm := int16 (b.p.leftEdgeMm + (u : ℕ))
          rightEdgeMm := int16 (b.p.rightEdgeMm - (u : ℕ))
          widthMm := ((int16 (b.p.leftEdgeMm + (u : ℕ)) - int16 (b.p.rightEdgeMm - (u : ℕ))) %
            2 ^ 16).toNat
          valid := true })
      else (false, .zero) := by
  obtain ⟨b, hrun, htold, hbound⟩ := told_run cfg h.readings
  have hleft : b.left := htold.left.2 (h.left.imp fun s hs => ⟨reads_iff.1 hs.1, hs.2⟩)
  have hright : b.right := htold.right.2 (h.right.imp fun s hs => ⟨reads_iff.1 hs.1, hs.2⟩)
  have hcentre : b.centre :=
    htold.centre.2 (h.centre.imp fun s hs => ⟨reads_iff.1 hs.1, hs.2⟩)
  have hlength := h.length
  have hfar := hbound.far
  refine ⟨b, (b.far * 259 + 999) / 1000, htold, hbound, by omega, ?_⟩
  simp only [profileBuild, hrun, hleft, hright, hcentre]
  rw [if_neg (by omega)]
  cases b.found <;> rfl

/-- **A complete list of readings has a profile exactly if one of them is of the obstacle**, and
the profile encloses these. -/
theorem profileBuild_spec (cfg : Config) (h : Complete ws) :
    ((profileBuild ws cfg).1 = true ↔ ∃ s, Reads ws s ∧ s.near cfg) ∧
    ((profileBuild ws cfg).1 = true →
      (∀ s, Reads ws s → s.near cfg → (profileBuild ws cfg).2.rightEdgeMm ≤ beamX s ∧
        beamX s ≤ (profileBuild ws cfg).2.leftEdgeMm ∧
        beamY s ≤ (profileBuild ws cfg).2.forwardMm) ∧
      ((profileBuild ws cfg).2.widthMm : Int) =
        (profileBuild ws cfg).2.leftEdgeMm - (profileBuild ws cfg).2.rightEdgeMm) := by
  obtain ⟨b, u, htold, hbound, hu, heq⟩ := h.profileBuild_eq cfg
  have hfound : b.found = true ↔ ∃ s, Reads ws s ∧ s.near cfg := by
    simp only [htold.found, reads_iff]
  cases hf : b.found with
  | false =>
    rw [hf] at heq hfound
    rw [heq]
    exact ⟨hfound, nofun⟩
  | true =>
    rw [hf] at heq hfound
    rw [heq]
    obtain ⟨-, hright, hle, hleft⟩ := hbound.seen hf
    refine ⟨hfound, fun _ => ?_⟩
    simp only [if_true]
    rw [int16_eq (by omega), int16_eq (by omega)]
    refine ⟨fun s hs hnear => ?_, by omega⟩
    obtain ⟨h₁, h₂, h₃⟩ := htold.encloses s (reads_iff.1 hs) hnear
    exact ⟨by omega, by omega, h₃⟩

/-! ## The schedule of a scan -/

def fineFrom (nearest : ℕ) : ℕ := if nearest > 45 then nearest - 15 else 30

def fineTo (nearest : ℕ) : ℕ := if nearest < 135 then nearest + 15 else 150

/-- The angle of the reading with the number `n`. -/
def slot (nearest n : ℕ) : ℕ := if n < 5 then 30 + 30 * n else fineFrom nearest + 5 * (n - 5)

def total (nearest : ℕ) : ℕ := 6 + (fineTo nearest - fineFrom nearest) / 5

def Coarse (angle : ℕ) : Prop := ∃ k < 5, angle = 30 + 30 * k

/-- Where a full scan is. -/
structure Scheduled (s : Scan) : Prop where
  single : s.single = false
  nearest : Coarse s.nearest
  angles : ∀ i w, s.samples[i]? = some w → ∃ mm, sampleUnpack w = some ⟨slot s.nearest i, mm, true⟩
  next : s.done = false → s.samples.length < total s.nearest ∧
    s.angle = slot s.nearest s.samples.length ∧ (s.fine = true ↔ 5 ≤ s.samples.length) ∧
    (s.fine = true → s.fineEnd = fineTo s.nearest)
  finished : s.done = true → s.failed = false → s.samples.length = total s.nearest

theorem scheduled_begin (now : UInt32) : Scheduled (scanBegin now) where
  single := rfl
  nearest := ⟨2, by omega, rfl⟩
  angles := by simp [scanBegin, Scan.zero]
  next _ := ⟨show 0 < total 90 by decide, rfl, by simp [scanBegin, Scan.zero], nofun⟩
  finished := nofun

theorem Scheduled.fail {s : Scan} (h : Scheduled s) : Scheduled s.fail where
  single := h.single
  nearest := h.nearest
  angles := h.angles
  next := nofun
  finished _ := nofun

theorem Scheduled.attempts {s : Scan} (h : Scheduled s) (n : ℕ) :
    Scheduled { s with attempts := n } where
  single := h.single
  nearest := h.nearest
  angles := h.angles
  next := h.next
  finished := h.finished

variable {nearest : ℕ}

theorem total_range (h : Coarse nearest) : 9 ≤ total nearest ∧ total nearest ≤ 12 := by
  obtain ⟨k, hk, rfl⟩ := h
  unfold total fineTo fineFrom
  split_ifs <;> omega

theorem fine_dvd (h : Coarse nearest) :
    fineFrom nearest ≤ fineTo nearest ∧ (fineTo nearest - fineFrom nearest) % 5 = 0 := by
  obtain ⟨k, hk, rfl⟩ := h
  unfold fineTo fineFrom
  split_ifs <;> omega

theorem slot_coarse {n : ℕ} (h : n < 5) (a b : ℕ) : slot a n = slot b n := by
  simp [slot, h]

theorem slot_range {n : ℕ} (h : Coarse nearest) (hn : n < total nearest) :
    30 ≤ slot nearest n ∧ slot nearest n ≤ 150 ∧ slot nearest n % 5 = 0 := by
  obtain ⟨k, hk, rfl⟩ := h
  unfold total fineTo fineFrom at hn
  unfold slot fineFrom
  split_ifs at hn ⊢ <;> omega

section Taken

variable {s : Scan} {w mm : ℕ}

theorem Scheduled.angles_taken (h : Scheduled s) (hdone : s.done = false)
    (hw : sampleUnpack w = some ⟨s.angle, mm, true⟩) {nearest : ℕ}
    (hslots : ∀ i ≤ s.samples.length, slot nearest i = slot s.nearest i) (i v : ℕ)
    (hv : (s.samples ++ [w])[i]? = some v) :
    ∃ mm, sampleUnpack v = some ⟨slot nearest i, mm, true⟩ := by
  rw [List.getElem?_append] at hv
  split_ifs at hv with hi
  · rw [hslots i hi.le]
    exact h.angles i v hv
  · cases hsub : i - s.samples.length with
    | zero =>
      rw [hsub] at hv
      obtain rfl := Option.some.inj hv
      obtain rfl : i = s.samples.length := by omega
      rw [hslots _ le_rfl, ← (h.next hdone).2.1]
      exact ⟨mm, hw⟩
    | succ => simp [hsub] at hv

theorem Scheduled.goesOn (h : Scheduled s) (hdone : s.done = false)
    (hw : sampleUnpack w = some ⟨s.angle, mm, true⟩) {s' : Scan}
    (hsingle : s'.single = s.single) (hsamples : s'.samples = s.samples ++ [w])
    (hdone' : s'.done = false) (hnearest : Coarse s'.nearest)
    (hslots : ∀ i ≤ s.samples.length, slot s'.nearest i = slot s.nearest i)
    (htotal : s.samples.length + 1 < total s'.nearest)
    (hangle : s'.angle = slot s'.nearest (s.samples.length + 1))
    (hfine : s'.fine ↔ 5 ≤ s.samples.length + 1)
    (hfineEnd : s'.fine → s'.fineEnd = fineTo s'.nearest) : Scheduled s' := by
  have hlength : s'.samples.length = s.samples.length + 1 := by simp [hsamples]
  refine ⟨hsingle.trans h.single, hnearest, ?_, fun _ => ?_, by simp [hdone']⟩
  · rw [hsamples]
    exact h.angles_taken hdone hw hslots
  · rw [hlength]
    exact ⟨htotal, hangle, hfine, hfineEnd⟩

theorem advance_eq_coarse (hfine : s.fine = false) (mm : ℕ) :
    ∃ nearest nearestMm, (nearest = s.nearest ∨ nearest = s.angle) ∧
      s.advance mm = if s.angle < 150 then
        { s with nearest := nearest, nearestMm := nearestMm, angle := s.angle + 30 }
      else
        { s with
          nearest := nearest, nearestMm := nearestMm, fine := true
          angle := fineFrom nearest, fineEnd := fineTo nearest } := by
  by_cases hmm : mm < s.nearestMm
  · refine ⟨s.angle, mm, .inr rfl, ?_⟩
    simp [Scan.advance, hfine, hmm, fineFrom, fineTo]
  · refine ⟨s.nearest, s.nearestMm, .inl rfl, ?_⟩
    simp [Scan.advance, hfine, hmm, fineFrom, fineTo]

theorem Scheduled.advance_coarse (h : Scheduled s) (hdone : s.done = false)
    (hfine : s.fine = false) (hw : sampleUnpack w = some ⟨s.angle, mm, true⟩) :
    Scheduled ({ s with attempts := 0, samples := s.samples ++ [w] }.advance mm) := by
  obtain ⟨-, hangle, hiff, -⟩ := h.next hdone
  have hn : s.samples.length < 5 := by
    by_contra hn
    simp [hiff.2 (by omega)] at hfine
  rw [slot, if_pos hn] at hangle
  obtain ⟨nearest, nearestMm, hnearest, hadvance⟩ := advance_eq_coarse
    (s := { s with attempts := 0, samples := s.samples ++ [w] }) hfine mm
  have hcoarse : Coarse nearest := by
    rcases hnearest with rfl | rfl
    · exact h.nearest
    · exact ⟨s.samples.length, hn, hangle⟩
  have htotal := total_range hcoarse
  have hslots (i : ℕ) (hi : i ≤ s.samples.length) : slot nearest i = slot s.nearest i :=
    slot_coarse (by omega) nearest s.nearest
  rw [hadvance]
  dsimp only
  split_ifs with hlast
  · refine h.goesOn hdone hw rfl rfl hdone hcoarse hslots (by dsimp only; omega) ?_ ?_ ?_
    · rw [slot, if_pos (by omega)]
      dsimp only
      omega
    · simp only [hfine, Bool.false_eq_true, false_iff]
      omega
    · simp [hfine]
  · have hfour : s.samples.length = 4 := by omega
    refine h.goesOn hdone hw rfl rfl hdone hcoarse hslots (by dsimp only; omega) ?_ ?_ fun _ => rfl
    · simp [slot, hfour]
    · simp [hfour]

theorem Scheduled.advance_fine (h : Scheduled s) (hdone : s.done = false)
    (hfine : s.fine) (hw : sampleUnpack w = some ⟨s.angle, mm, true⟩) :
    Scheduled ({ s with attempts := 0, samples := s.samples ++ [w] }.advance mm) := by
  obtain ⟨htotal, hangle, hiff, hend⟩ := h.next hdone
  have hn : 5 ≤ s.samples.length := hiff.1 hfine
  have hend : s.fineEnd = fineTo s.nearest := hend hfine
  rw [slot, if_neg (by omega)] at hangle
  have hadvance : ({ s with attempts := 0, samples := s.samples ++ [w] } : Scan).advance mm =
      if s.angle < s.fineEnd then
        { s with attempts := 0, samples := s.samples ++ [w], angle := s.angle + 5 }
      else { s with attempts := 0, samples := s.samples ++ [w], done := true } := by
    simp [Scan.advance, hfine]
  have hdvd := fine_dvd h.nearest
  rw [hadvance]
  unfold total at htotal
  split_ifs with hlast
  · refine h.goesOn hdone hw rfl rfl hdone h.nearest (fun _ _ => rfl) ?_ ?_ ?_ fun _ => hend
    · unfold total
      dsimp only
      omega
    · rw [slot, if_neg (by omega)]
      dsimp only
      omega
    · simp only [hfine, true_iff]
      omega
  · refine ⟨h.single, h.nearest, h.angles_taken hdone hw fun _ _ => rfl, nofun, fun _ _ => ?_⟩
    simp only [List.length_append, List.length_singleton, total]
    omega

theorem Scheduled.accept (h : Scheduled s) (now : UInt32) (valid : Bool) (mm : ℕ) :
    Scheduled (scanAccept s now valid mm) := by
  simp only [scanAccept]
  split_ifs with hdone htimeout hinvalid hattempts hfull hsingle
  · exact h
  · exact h.fail
  · exact h.attempts _
  · exact (h.attempts _).fail
  · exact (h.attempts 0).fail
  · simp [h.single] at hsingle
  · have hdone : s.done = false := by simpa using hdone
    cases hw : samplePack s.angle mm true with
    | none => exact (h.attempts 0).fail
    | some =>
      have hw := sampleUnpack_pack hw
      cases hfine : s.fine with
      | false =>
        rw [← hfine]
        exact h.advance_coarse hdone hfine hw
      | true =>
        rw [← hfine]
        exact h.advance_fine hdone hfine hw

end Taken

/-! ## A full scan -/

/-- A completed measurement: when it ended, whether it is a reading, and the distance. -/
structure Measurement where
  now : UInt32
  valid : Bool
  mm : ℕ

def scanned (now : UInt32) (ms : List Measurement) : Scan :=
  ms.foldl (fun s m => scanAccept s m.now m.valid m.mm) (scanBegin now)

theorem scheduled_scanned (now : UInt32) (ms : List Measurement) : Scheduled (scanned now ms) := by
  induction ms using List.reverseRecOn with
  | nil => exact scheduled_begin now
  | append_singleton ms m ih =>
    rw [scanned, List.foldl_append]
    exact ih.accept m.now m.valid m.mm

section Finished

variable {s : Scan}

theorem Scheduled.reads (h : Scheduled s) {w : ℕ} (hw : w ∈ s.samples)
    (hlength : s.samples.length = total s.nearest) :
    ∃ t, reading w = some t ∧ 30 ≤ t.angle ∧ t.angle ≤ 150 ∧ t.angle % 5 = 0 := by
  obtain ⟨i, hi⟩ := List.mem_iff_getElem?.1 hw
  obtain ⟨mm, ht⟩ := h.angles i w hi
  have hlt : i < total s.nearest := hlength ▸ (List.getElem?_eq_some_iff.1 hi).1
  exact ⟨_, reading_eq_some.2 ⟨ht, rfl⟩, slot_range h.nearest hlt⟩

theorem Scheduled.reads_coarse (h : Scheduled s) (hlength : s.samples.length = total s.nearest)
    {angle : ℕ} (hangle : Coarse angle) : ∃ t, Reads s.samples t ∧ t.angle = angle := by
  obtain ⟨k, hk, rfl⟩ := hangle
  have hlt : k < s.samples.length := by
    have := total_range h.nearest
    omega
  obtain ⟨mm, ht⟩ := h.angles k _ (List.getElem?_eq_getElem hlt)
  refine ⟨_, ⟨_, List.getElem_mem hlt, reading_eq_some.2 ⟨ht, rfl⟩⟩, ?_⟩
  simp [slot, hk]

theorem Scheduled.complete (h : Scheduled s) (hlength : s.samples.length = total s.nearest) :
    Complete s.samples := by
  have htotal := total_range h.nearest
  refine ⟨fun w hw => ?_, by omega, ?_, ?_, ?_⟩
  · obtain ⟨t, ht, -⟩ := h.reads hw hlength
    simp [ht]
  · obtain ⟨t, ht, hangle⟩ := h.reads_coarse hlength ⟨4, by omega, rfl⟩
    exact ⟨t, ht, by omega⟩
  · obtain ⟨t, ht, hangle⟩ := h.reads_coarse hlength ⟨0, by omega, rfl⟩
    exact ⟨t, ht, by omega⟩
  · obtain ⟨t, ht, hangle⟩ := h.reads_coarse hlength ⟨2, by omega, rfl⟩
    exact ⟨t, ht, by omega⟩

end Finished

/-- **The scan and the profile fit together.**  A scan without failure holds 9 to 12 readings, with
the five coarse angles.  A profile can be made of it exactly if a reading between 45 and 135 degrees
is nearer than `profile_mm`, and its edges enclose every such reading. -/
theorem scan_profile (now : UInt32) (ms : List Measurement) (cfg : Config)
    (hdone : (scanned now ms).done = true) (hok : (scanned now ms).failed = false) :
    let ws := (scanned now ms).samples
    9 ≤ ws.length ∧ ws.length ≤ 12 ∧
    (∀ w ∈ ws, ∃ t, reading w = some t ∧ 30 ≤ t.angle ∧ t.angle ≤ 150 ∧ t.angle % 5 = 0) ∧
    (∀ angle ∈ [30, 60, 90, 120, 150], ∃ t, Reads ws t ∧ t.angle = angle) ∧
    ((profileBuild ws cfg).1 = true ↔
      ∃ t, Reads ws t ∧ t.mm < cfg.profileMm ∧ t.angle ≥ 45 ∧ t.angle ≤ 135) ∧
    (∀ ws', ws'.Perm ws → profileBuild ws' cfg = profileBuild ws cfg) ∧
    ((profileBuild ws cfg).1 = true →
      let p := (profileBuild ws cfg).2
      (∀ t, Reads ws t → t.near cfg →
        p.rightEdgeMm ≤ beamX t ∧ beamX t ≤ p.leftEdgeMm ∧ beamY t ≤ p.forwardMm) ∧
      (p.widthMm : Int) = p.leftEdgeMm - p.rightEdgeMm) := by
  have h := scheduled_scanned now ms
  have hlength := h.finished hdone hok
  have htotal := total_range h.nearest
  obtain ⟨hbuilds, hencloses⟩ := profileBuild_spec cfg (h.complete hlength)
  refine ⟨by omega, by omega, fun w hw => h.reads hw hlength, fun angle hangle => ?_, hbuilds,
    fun ws' hperm => profileBuild_perm cfg hperm, hencloses⟩
  apply h.reads_coarse hlength
  simp only [List.mem_cons, List.not_mem_nil, or_false] at hangle
  rcases hangle with rfl | rfl | rfl | rfl | rfl
  exacts [⟨0, by omega, rfl⟩, ⟨1, by omega, rfl⟩, ⟨2, by omega, rfl⟩, ⟨3, by omega, rfl⟩,
    ⟨4, by omega, rfl⟩]

def benchMeasurements : List Measurement :=
  ([1200, 310, 200, 205, 1500, 290, 240, 210, 200, 201, 202, 204].map fun mm => ⟨1000, true, mm⟩) ++
    [⟨1000, false, 0⟩]

/-- The bench's scan holds 12 readings, and its profile encloses the box. -/
theorem scan_profile_bench :
    (profileBuild (scanned 0 benchMeasurements).samples .defaults).1 = true ∧
    (scanned 0 benchMeasurements).samples.length ≤ 12 ∧
    ((profileBuild (scanned 0 benchMeasurements).samples .defaults).2.widthMm : Int) =
      (profileBuild (scanned 0 benchMeasurements).samples .defaults).2.leftEdgeMm -
        (profileBuild (scanned 0 benchMeasurements).samples .defaults).2.rightEdgeMm := by
  have hbuilds : (profileBuild (scanned 0 benchMeasurements).samples .defaults).1 = true := by
    decide +kernel
  obtain ⟨-, hlength, -, -, -, -, hprofile⟩ := scan_profile 0 benchMeasurements .defaults
    (by decide +kernel) (by decide +kernel)
  exact ⟨hbuilds, hlength, (hprofile hbuilds).2⟩

end RoboticCar.Obstacle
