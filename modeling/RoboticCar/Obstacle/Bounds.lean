import RoboticCar.Obstacle.Detour

/-!
# The avoidance is bounded

A swap of sides puts the leg back and leg 3 repeats a step, so the number of legs is no bound.
`made` counts the moves that the state stands for and `passedMm` the distance past the obstacle;
`Paced` says that a run has made exactly these, and `avoidance_bounded` reads the bounds off.
-/

namespace RoboticCar.Obstacle

open Lib CFloat

/-- The bit-fields of `s5_config_t`. -/
def Config.Fits (c : Config) : Prop :=
  (∀ n ∈ [c.detectMm, c.emergencyMm, c.profileMm, c.halfWidthMm, c.marginMm, c.maxDepthMm,
    c.recoveryGateMm, c.maxOffsetMm, c.sensorAxleMm], n < 2 ^ 12) ∧ c.speedMms < 2 ^ 9

instance (c : Config) : Decidable c.Fits := inferInstanceAs (Decidable (_ ∧ _))

def sideMm (p : Profile) (c : Config) : Route → ℕ
  | .left => p.leftEdgeMm.toNat + (c.halfWidthMm + c.marginMm)
  | _ => (-p.rightEdgeMm).toNat + (c.halfWidthMm + c.marginMm)

def Route.other (route : Route) : Route := if route = .left then .right else .left

/-- The plan holds the distances themselves, and that of the other side if this side is open. -/
structure Exact (p : Profile) (c : Config) (q : Plan) : Prop where
  offset : q.offsetMm = sideMm p c q.route
  forward : q.forwardMm = p.forwardMm
  alt : q.altOk = true → q.altOffsetMm = sideMm p c q.route.other

/-- The distances of a plan that are used. -/
structure Plan.Fits (c : Config) (q : Plan) : Prop where
  offset : q.offsetMm ≤ c.maxOffsetMm
  forward : q.forwardMm ≤ 3000
  alt : q.altOk = true → q.altOffsetMm ≤ c.maxOffsetMm

theorem plan_eq_some {p : Profile} {c : Config} {q : Plan} (h : plan p c = some q)
    (hc : c.maxOffsetMm < 2 ^ 12) : Exact p c q ∧ q.Fits c := by
  simp only [plan, Option.ite_none_left_eq_some, not_or] at h
  obtain ⟨-, ⟨hopen, -, hforward⟩, h⟩ := h
  split_ifs at h with hleft <;> obtain rfl := Option.some.inj h
  · have hleft : p.leftEdgeMm.toNat + (c.halfWidthMm + c.marginMm) ≤ c.maxOffsetMm := by
      simpa using hleft
    refine ⟨⟨Nat.mod_eq_of_lt (by omega), Nat.mod_eq_of_lt (by omega), fun halt => ?_⟩,
      ⟨(Nat.mod_le _ _).trans hleft, (Nat.mod_le _ _).trans (Nat.le_of_not_lt hforward),
        fun halt => (Nat.mod_le _ _).trans (of_decide_eq_true halt)⟩⟩
    exact Nat.mod_eq_of_lt ((of_decide_eq_true halt).trans_lt hc)
  · have hright : (-p.rightEdgeMm).toNat + (c.halfWidthMm + c.marginMm) ≤ c.maxOffsetMm := by
      by_contra hright
      exact hopen ⟨by simpa using hleft, by simpa using hright⟩
    refine ⟨⟨Nat.mod_eq_of_lt (by omega), Nat.mod_eq_of_lt (by omega), fun halt => ?_⟩,
      ⟨(Nat.mod_le _ _).trans hright, (Nat.mod_le _ _).trans (Nat.le_of_not_lt hforward),
        fun halt => ?_⟩⟩ <;> exact absurd halt hleft

theorem Plan.Fits.swap {c : Config} {q : Plan} (h : q.Fits c) (halt : q.altOk) :
    q.swap.Fits c :=
  ⟨h.alt halt, h.forward, fun _ => h.offset⟩

namespace Avoidance

variable {D : Type}

/-! ## What a run adds up to -/

/-- The moves asked for, the distance of the forward leg and the swaps of side. -/
structure Tally where
  moves : ℕ
  forwardMm : Int
  swaps : ℕ

def Tally.zero : Tally := ⟨0, 0, 0⟩

/-- The tally after a step from `a` with the result `r`. -/
def Tally.record (t : Tally) (a : Avoidance D) (r : Action × Avoidance D) : Tally where
  moves := t.moves + if r.1.kind = .turn ∨ r.1.kind = .drive then 1 else 0
  forwardMm := t.forwardMm + if a.leg = 3 ∧ r.1.kind = .drive then r.1.value else 0
  swaps := t.swaps + if a.state = .moving ∧ r.2.plan.route ≠ a.plan.route then 1 else 0

def tally [CFloat D] (r : Avoidance D × Tally) (i : Input D) : Avoidance D × Tally :=
  ((r.1.step i).2, r.2.record r.1 (r.1.step i))

/-- The moves made on the present leg, the steps beside the obstacle apart. -/
def legMoves (a : Avoidance D) : ℕ :=
  if a.leg < 3 then a.issued.toNat
  else if a.leg = 3 then
    match a.pass with
    | .approach => a.issued.toNat
    | .peek | .peeking | .step => 1
    | .extra => 1 + a.issued.toNat
  else 1 + a.issued.toNat

def made (a : Avoidance D) : ℕ :=
  a.leg + a.swapped.toNat + a.searchedMm / peekStepMm + a.legMoves

def passedMm (a : Avoidance D) : ℕ :=
  if a.leg < 3 then 0
  else if a.leg = 3 then
    match a.pass with
    | .approach => if a.issued then a.plan.forwardMm else 0
    | .peek | .peeking | .step => a.plan.forwardMm + a.searchedMm
    | .extra => a.plan.forwardMm + a.searchedMm + if a.issued then a.passExtraMm else 0
  else a.plan.forwardMm + a.searchedMm + a.passExtraMm

/-- The machine has a plan and follows it. -/
structure Underway (a : Avoidance D) (t : Tally) : Prop where
  plan : a.plan.Fits a.config
  leg : a.leg + a.issued.toNat ≤ 10
  early : a.leg < 3 → a.pass = .approach
  unsearched : a.pass = .approach → a.searchedMm = 0
  peeking : a.pass = .peeking → a.leg = 3 ∧ a.issued = false
  depth : a.searchedMm ≤ a.config.maxDepthMm
  dvd : peekStepMm ∣ a.searchedMm
  stepping : a.leg = 3 → a.pass = .step → a.issued = false →
    a.searchedMm + peekStepMm ≤ a.config.maxDepthMm
  moves : t.moves = a.made
  swaps : t.swaps = a.swapped.toNat
  forward : t.forwardMm = a.passedMm

structure Bounded (a : Avoidance D) (t : Tally) : Prop where
  moves : t.moves ≤ 12 + a.config.maxDepthMm / peekStepMm
  depth : a.searchedMm ≤ a.config.maxDepthMm
  forward : t.forwardMm ≤ a.plan.forwardMm + a.config.maxDepthMm + a.passExtraMm
  swaps : t.swaps ≤ 1

def Paced (a : Avoidance D) (t : Tally) : Prop :=
  match a.state with
  | .waitStop | .scanning =>
    a.leg = 0 ∧ a.issued = false ∧ a.pass = .approach ∧ a.searchedMm = 0 ∧ a.swapped = false ∧
      t = .zero
  | .moving => a.leg ≤ 9 ∧ a.Underway t
  | .finish => a.Underway t
  | _ => a.Bounded t

theorem legMoves_le (a : Avoidance D) : a.legMoves ≤ 1 + a.issued.toNat := by
  unfold legMoves
  cases a.pass <;> dsimp only <;> split_ifs <;> omega

theorem passedMm_le (a : Avoidance D) :
    a.passedMm ≤ a.plan.forwardMm + a.searchedMm + a.passExtraMm := by
  unfold passedMm
  cases a.pass <;> dsimp only <;> split_ifs <;> omega

variable {a : Avoidance D} {t : Tally}

theorem Underway.bounded (h : a.Underway t) : a.Bounded t := by
  have hleg := h.leg
  have hdepth := h.depth
  have hlegMoves := a.legMoves_le
  have hpassed := a.passedMm_le
  have hsteps : a.searchedMm / peekStepMm ≤ a.config.maxDepthMm / peekStepMm :=
    Nat.div_le_div_right hdepth
  have hswapped : a.swapped.toNat ≤ 1 := Bool.toNat_le _
  refine ⟨?_, hdepth, ?_, ?_⟩
  · rw [h.moves, made]
    omega
  · rw [h.forward]
    omega
  · rw [h.swaps]
    exact hswapped

theorem Paced.bounded (h : a.Paced t) : a.Bounded t := by
  have hbegun (h : a.searchedMm = 0 ∧ t = .zero) : a.Bounded t := by
    obtain ⟨h0, rfl⟩ := h
    exact ⟨Nat.zero_le _, by omega, by simp only [Tally.zero]; omega, Nat.zero_le 1⟩
  unfold Paced at h
  cases hstate : a.state <;> simp only [hstate] at h
  case waitStop | scanning => exact hbegun ⟨h.2.2.2.1, h.2.2.2.2.2⟩
  case moving => exact h.2.bounded
  case finish => exact h.bounded
  all_goals exact h

/-! ## A step keeps the pace -/

theorem Tally.record_quiet {r : Action × Avoidance D} (hkind : r.1.kind ≠ .turn ∧ r.1.kind ≠ .drive)
    (hplan : r.2.plan = a.plan ∨ a.state ≠ .moving) : t.record a r = t := by
  have hroute : ¬(a.state = .moving ∧ r.2.plan.route ≠ a.plan.route) := by
    rintro ⟨hstate, hroute⟩
    rcases hplan with hplan | hplan
    · exact hroute (by rw [hplan])
    · exact hplan hstate
  simp [Tally.record, hkind, hroute]

theorem Tally.record_move {q : Avoidance D} {kind : ActionKind} {value : Int} {speed : ℕ}
    (hkind : kind = .turn ∨ kind = .drive) (hplan : q.plan = a.plan) :
    t.record a (action kind value speed, q) =
      { t with
        moves := t.moves + 1
        forwardMm :=
          t.forwardMm + if a.leg = 3 ∧ kind = .drive then value.bmod (2 ^ 16) else 0 } := by
  have hroute : ¬(a.state = .moving ∧ q.plan.route ≠ a.plan.route) := by simp [hplan]
  have hmoves : (if (action kind value speed).kind = .turn ∨ (action kind value speed).kind = .drive
      then 1 else 0) = 1 := if_pos hkind
  rw [Tally.record, hmoves, if_neg hroute]
  rfl

section Step

variable {a : Avoidance D} {t : Tally}

theorem Underway.peeked (h : a.Underway t) (hleg : a.leg = 3) (hpass : a.pass = .peeking)
    {pass : Pass} (hp : pass = .step ∧ a.searchedMm + peekStepMm ≤ a.config.maxDepthMm ∨
      pass = .extra) (nowUs : UInt32) :
    Underway { a with phaseUs := nowUs, pass := pass } t := by
  have hissued : a.issued = false := (h.peeking hpass).2
  have hmoves := h.moves
  have hforward := h.forward
  rcases hp with ⟨rfl, hdepth⟩ | rfl
  · refine { h with
      early := by simp [hleg], unsearched := nofun, peeking := nofun
      stepping := fun _ _ _ => hdepth, moves := ?_, forward := ?_ }
    · simpa [made, legMoves, hleg, hpass] using hmoves
    · simpa [passedMm, hleg, hpass] using hforward
  · refine { h with
      early := by simp [hleg], unsearched := nofun, peeking := nofun, stepping := nofun
      moves := ?_, forward := ?_ }
    · simpa [made, legMoves, hleg, hpass, hissued] using hmoves
    · simpa [passedMm, hleg, hpass, hissued] using hforward

theorem Underway.pauses (h : a.Underway t) (hissued : a.issued) (hleg : a.leg = 3)
    (hpass : a.pass ≠ .extra) (r : Recovery) (nowUs : UInt32) :
    Underway { a with recovery := r, issued := false, phaseUs := nowUs, pass := .peek } t := by
  have hmoves := h.moves
  have hforward := h.forward
  have hunsearched := h.unsearched
  refine { h with
    leg := by simp [hleg], early := by simp [hleg], unsearched := nofun, peeking := nofun
    stepping := nofun, moves := ?_, forward := ?_ }
  · cases hp : a.pass <;> simp_all [made, legMoves]
  · cases hp : a.pass <;> simp_all [passedMm]

theorem Underway.advances (h : a.Underway t) (hissued : a.issued)
    (hpass : a.leg = 3 → a.pass = .extra) (hlast : a.leg ≤ 9) (r : Recovery) (nowUs : UInt32) :
    Underway { a with recovery := r, issued := false, phaseUs := nowUs, leg := a.leg + 1 } t := by
  have hmoves := h.moves
  have hforward := h.forward
  have hstepping : a.leg + 1 = 3 → a.pass ≠ .step := by
    intro hleg hstep
    simp [h.early (by omega)] at hstep
  refine { h with
    leg := by dsimp only [Bool.toNat_false]; omega
    early := fun hlt => h.early (Nat.lt_of_succ_lt hlt)
    peeking := fun hp => absurd (h.peeking hp).2 (by simp [hissued])
    stepping := fun hleg hstep => absurd hstep (hstepping hleg)
    moves := ?_, forward := ?_ }
  · rw [hmoves]
    rcases Nat.lt_trichotomy a.leg 3 with hlt | heq | hgt
    · have happroach := h.early hlt
      simp only [made, legMoves, happroach, hissued, Bool.toNat_true, Bool.toNat_false]
      split_ifs <;> omega
    · simp only [made, legMoves, hpass heq, heq, hissued, Bool.toNat_true, Bool.toNat_false]
      simp
      omega
    · simp only [made, legMoves, hissued, Bool.toNat_true, Bool.toNat_false]
      split_ifs <;> omega
  · rw [hforward]
    rcases Nat.lt_trichotomy a.leg 3 with hlt | heq | hgt
    · have happroach := h.early hlt
      rcases (by omega : a.leg + 1 < 3 ∨ a.leg = 2) with hlt' | htwo
      · simp [passedMm, hlt, hlt']
      · simp [passedMm, htwo, happroach]
    · simp [passedMm, hpass heq, heq, hissued, passExtraMm]
    · simp only [passedMm, passExtraMm]
      split_ifs <;> omega

theorem Config.Fits.bounds {c : Config} (h : c.Fits) : c.halfWidthMm < 2 ^ 12 ∧
    c.marginMm < 2 ^ 12 ∧ c.maxDepthMm < 2 ^ 12 ∧ c.maxOffsetMm < 2 ^ 12 :=
  ⟨h.1 _ (by simp), h.1 _ (by simp), h.1 _ (by simp), h.1 _ (by simp)⟩

theorem bmod_legMm (hfits : a.config.Fits) (hplan : a.plan.Fits a.config) :
    (a.legMm : Int).bmod (2 ^ 16) = a.legMm := by
  obtain ⟨hwidth, hmargin, -, hoffset⟩ := Config.Fits.bounds hfits
  have hplanned := hplan.offset
  have hforward := hplan.forward
  have hlt : a.legMm < 2 ^ 15 := by
    unfold legMm passExtraMm peekStepMm sonarAxleMm
    split_ifs <;> omega
  exact Int.bmod_eq_of_le (by omega) (by omega)

theorem Underway.swap (h : a.Underway t) (hstate : a.state = .moving)
    (hissued : a.issued = false) (hleg : a.leg = 1) (hswapped : a.swapped = false)
    (halt : a.plan.altOk) (degrees : Int) (speed : ℕ) :
    Underway { a with swapped := true, plan := a.plan.swap, leg := 0, issued := true }
      (t.record a (action .turn degrees speed,
        { a with swapped := true, plan := a.plan.swap, leg := 0, issued := true })) := by
  have hroute : a.plan.swap.route ≠ a.plan.route := by
    cases hr : a.plan.route <;> simp [Plan.swap, hr]
  have hpass := h.early (by omega)
  refine { h with
    plan := h.plan.swap halt, leg := by simp, early := fun _ => hpass
    peeking := by simp [hpass], stepping := by simp, moves := ?_, swaps := ?_, forward := ?_ }
  · simp [Tally.record, action, h.moves, made, legMoves, hleg, hissued, hswapped]
  · simp [Tally.record, hstate, hroute, h.swaps, hswapped]
  · simp [Tally.record, action, h.forward, passedMm, hleg]

theorem Underway.turns (h : a.Underway t) (hissued : a.issued = false) (hlast : a.leg ≤ 9)
    (hleg : a.leg ≠ 3) (degrees : Int) (speed : ℕ) :
    Underway { a with issued := true }
      (t.record a (action .turn degrees speed, { a with issued := true })) := by
  have hrecord : t.record a (action .turn degrees speed, { a with issued := true }) = _ :=
    Tally.record_move (.inl rfl) rfl
  rw [hrecord]
  refine { h with
    leg := by simpa using Nat.succ_le_succ hlast, peeking := fun hp => absurd (h.peeking hp).1 hleg
    stepping := fun h => absurd h hleg, moves := ?_, forward := ?_ }
  · simp only [h.moves, made, legMoves, hissued, if_neg hleg, Bool.toNat_true, Bool.toNat_false]
    split_ifs <;> omega
  · simp [h.forward, passedMm, hleg, passExtraMm]

theorem Underway.drives_aside (h : a.Underway t) (hissued : a.issued = false)
    (hleg : a.leg = 1 ∨ a.leg = 5) (mm : Int) (speed : ℕ) (m : D) :
    Underway { a with issued := true, legStartM := m }
      (t.record a (action .drive mm speed, { a with issued := true, legStartM := m })) := by
  have hne : a.leg ≠ 3 := by omega
  have hrecord : t.record a
      (action .drive mm speed, { a with issued := true, legStartM := m }) = _ :=
    Tally.record_move (.inr rfl) rfl
  rw [hrecord]
  refine { h with
    leg := by dsimp only [Bool.toNat_true]; omega, peeking := fun hp => absurd (h.peeking hp).1 hne
    stepping := fun h => absurd h hne, moves := ?_, forward := ?_ }
  · simp only [h.moves, made, legMoves, hissued, if_neg hne, Bool.toNat_true, Bool.toNat_false]
    split_ifs <;> omega
  · simp [h.forward, passedMm, hne, passExtraMm]

theorem Underway.drives_past (h : a.Underway t) (hfits : a.config.Fits)
    (hissued : a.issued = false) (hleg : a.leg = 3) (hpass : a.pass ≠ .peek ∧ a.pass ≠ .peeking)
    (speed : ℕ) (m : D) {q : Avoidance D}
    (hq : q = { a with
      issued := true, legStartM := m
      searchedMm := if a.leg = 3 ∧ a.pass = .step then (a.searchedMm + a.legMm) % 2 ^ 16
        else a.searchedMm }) :
    Underway q (t.record a (action .drive a.legMm speed, q)) := by
  have hrecord : t.record a (action .drive a.legMm speed, q) = _ :=
    Tally.record_move (.inr rfl) (by rw [hq])
  rw [hrecord, bmod_legMm hfits h.plan, if_pos ⟨hleg, rfl⟩]
  have hmoves := h.moves
  have hforward := h.forward
  have hdepth := (Config.Fits.bounds hfits).2.2.1
  cases hp : a.pass with
  | peek => exact absurd hp hpass.1
  | peeking => exact absurd hp hpass.2
  | approach =>
    have hsearched := h.unsearched hp
    simp only [hp, reduceCtorEq, and_false, if_false] at hq
    subst hq
    refine { h with
      leg := by simp [hleg], early := by simp [hleg], peeking := by simp
      stepping := by simp, moves := ?_, forward := ?_, unsearched := fun _ => hsearched }
    · simp [hmoves, made, legMoves, hleg, hp, hissued]
    · simp [hforward, passedMm, hleg, hp, hissued, legMm]
  | step =>
    have hmm : a.legMm = peekStepMm := by simp [legMm, hleg, hp]
    have hnext := h.stepping hleg hp hissued
    have hstore : (a.searchedMm + peekStepMm) % 2 ^ 16 = a.searchedMm + peekStepMm :=
      Nat.mod_eq_of_lt (by omega)
    rw [if_pos ⟨hleg, hp⟩, hmm, hstore] at hq
    subst hq
    refine { h with
      leg := by simp [hleg], early := by simp [hleg], peeking := by simp [hp]
      unsearched := by simp [hp], depth := hnext, dvd := (Nat.dvd_add_self_right).2 h.dvd
      stepping := by simp, moves := ?_, forward := ?_ }
    · have hdiv : (a.searchedMm + peekStepMm) / peekStepMm = a.searchedMm / peekStepMm + 1 :=
        Nat.add_div_right _ (by decide)
      simp only [hmoves, made, legMoves, hleg, hp, hdiv]
      simp
      omega
    · simp [hforward, passedMm, hleg, hp, hmm, add_assoc]
  | extra =>
    have hmm : a.legMm = a.passExtraMm := by simp [legMm, hleg, hp]
    simp only [hp, reduceCtorEq, and_false, if_false] at hq
    subst hq
    refine { h with
      leg := by simp [hleg], early := by simp [hleg], peeking := by simp
      unsearched := by simp, stepping := by simp, moves := ?_, forward := ?_ }
    · simp [hmoves, made, legMoves, hleg, hp, hissued, add_assoc]
    · simp [hforward, passedMm, hleg, hp, hissued, hmm, passExtraMm]

end Step

theorem Paced.of_quiet {r : Action × Avoidance D} (hkind : r.1.kind ≠ .turn ∧ r.1.kind ≠ .drive)
    (hplan : r.2.plan = a.plan ∨ a.state ≠ .moving) (h : r.2.Paced t) :
    r.2.Paced (t.record a r) := by
  rw [Tally.record_quiet hkind hplan]
  exact h

theorem paced_moving (hstate : a.state = .moving) (hleg : a.leg ≤ 9) (h : a.Underway t) :
    a.Paced t := by
  simp only [Paced, hstate]
  exact ⟨hleg, h⟩

theorem Paced.fails {q : Avoidance D} (h : a.Paced t) (hq : q.state = .fault)
    (hsame : q.config = a.config ∧ q.searchedMm = a.searchedMm)
    (hplan : q.plan = a.plan ∨ a.state = .scanning) : q.Paced t := by
  have hbounded := h.bounded
  have hforward : t.forwardMm ≤ q.plan.forwardMm + q.config.maxDepthMm + q.passExtraMm := by
    rcases hplan with hplan | hplan
    · have hextra : q.passExtraMm = a.passExtraMm := by simp only [passExtraMm, hplan, hsame.1]
      rw [hplan, hsame.1, hextra]
      exact hbounded.forward
    · simp only [Paced, hplan] at h
      obtain ⟨-, -, -, -, -, rfl⟩ := h
      simp only [Tally.zero]
      omega
  simp only [Paced, hq]
  refine ⟨?_, ?_, hforward, hbounded.swaps⟩
  · rw [hsame.1]
    exact hbounded.moves
  · rw [hsame.1, hsame.2]
    exact hbounded.depth

theorem underway_of_plan {p : Plan} (hplan : p.Fits a.config)
    (h : a.leg = 0 ∧ a.issued = false ∧ a.pass = .approach ∧ a.searchedMm = 0 ∧
      a.swapped = false ∧ t = .zero)
    (nowUs : UInt32) : Underway { a with plan := p, state := .moving, phaseUs := nowUs } t := by
  obtain ⟨hleg, hissued, hpass, hsearched, hswapped, rfl⟩ := h
  constructor <;> simp [*, Tally.zero, made, legMoves, passedMm]

/-- **A step keeps the pace.** -/
theorem Paced.step [CFloat D] (h : a.Paced t) (hfits : a.config.Fits) (i : Input D) :
    (a.step i).2.config = a.config ∧ (a.step i).2.Paced (t.record a (a.step i)) := by
  have hpaced := h
  have hstepped := step_stepped a i
  generalize a.step i = r at hstepped ⊢
  have hidle : Action.idle.kind ≠ .turn ∧ Action.idle.kind ≠ .drive := ⟨nofun, nofun⟩
  have hstop : (action .stop 0 0).kind ≠ .turn ∧ (action .stop 0 0).kind ≠ .drive :=
    ⟨nofun, nofun⟩
  unfold Paced at h
  cases hstepped with
  | rests | waits => exact ⟨rfl, .of_quiet hidle (.inl rfl) hpaced⟩
  | fails _ q hq hsame hplan =>
    refine ⟨hsame.1, .of_quiet hstop (hplan.imp id fun h => by simp [h]) ?_⟩
    exact hpaced.fails hq hsame hplan
  | scans hstate =>
    rw [hstate] at h
    exact ⟨rfl, .of_quiet ⟨nofun, nofun⟩ (.inl rfl) h⟩
  | plans hstate p hp =>
    rw [hstate] at h
    refine ⟨rfl, .of_quiet hidle (.inr (by simp [hstate])) ⟨by simp [h.1], ?_⟩⟩
    exact underway_of_plan (plan_eq_some hp (Config.Fits.bounds hfits).2.2.2).2 h _
  | peeked hstate hleg hpass pass hp =>
    rw [hstate] at h
    refine ⟨rfl, .of_quiet hidle (.inl rfl) (paced_moving hstate h.1 ?_)⟩
    exact h.2.peeked hleg hpass hp _
  | drives hd =>
    rw [hd.state] at h
    refine ⟨rfl, .of_quiet hidle (.inl rfl) (paced_moving hd.state h.1 ?_)⟩
    exact { h.2 with }
  | pauses hd r hleg hpass =>
    rw [hd.state] at h
    refine ⟨rfl, .of_quiet hidle (.inl rfl) (paced_moving hd.state h.1 ?_)⟩
    exact h.2.pauses hd.issued hleg hpass r _
  | advances hd r hpass =>
    rw [hd.state] at h
    have hlt : a.leg + 1 ≤ 9 := by omega
    refine ⟨rfl, .of_quiet hidle (.inl rfl) (paced_moving hd.state hlt ?_)⟩
    exact h.2.advances hd.issued hpass h.1 r _
  | finishes hd r =>
    rw [hd.state] at h
    refine ⟨rfl, .of_quiet hstop (.inl rfl) ?_⟩
    have hnext := h.2.advances hd.issued (by omega) h.1 r i.nowUs
    exact { hnext with }
  | peeks hl hleg hpass =>
    rw [hl.state] at h
    refine ⟨rfl, .of_quiet ⟨nofun, nofun⟩ (.inl rfl) (paced_moving hl.state h.1 ?_)⟩
    refine { h.2 with
      early := by simp [hleg], unsearched := nofun, peeking := fun _ => ⟨hleg, hl.issued⟩
      stepping := nofun, moves := ?_, forward := ?_ }
    · simpa [made, legMoves, hleg, hpass] using h.2.moves
    · simpa [passedMm, hleg, hpass] using h.2.forward
  | swaps hl hleg hswapped halt =>
    rw [hl.state] at h
    refine ⟨rfl, paced_moving hl.state (Nat.zero_le 9) ?_⟩
    exact h.2.swap hl.state hl.issued hleg hswapped halt _ _
  | launches hl hleg hpass =>
    rw [hl.state] at h
    refine ⟨rfl, paced_moving hl.state h.1 ?_⟩
    by_cases hthree : a.leg = 3
    · exact h.2.drives_past hfits hl.issued hthree ⟨hpass hthree, hl.passing hthree⟩ _ _ rfl
    · simp only [hthree, false_and, if_false]
      exact h.2.drives_aside hl.issued (by omega) _ _ _
  | turns hl hleg =>
    rw [hl.state] at h
    exact ⟨rfl, paced_moving hl.state h.1 (h.2.turns hl.issued h.1 hleg.2.1 _ _)⟩
  | resumes hstate =>
    rw [hstate] at h
    refine ⟨rfl, .of_quiet ⟨nofun, nofun⟩ (.inl rfl) ?_⟩
    exact { h.bounded with }

variable [CFloat D]

/-- Nothing that a step stores or returns is cut off: drives, the depth searched, and a plan. -/
structure Untruncated (a : Avoidance D) (i : Input D) : Prop where
  drives : (a.step i).1.kind = .drive → (a.step i).1.value = a.legMm
  searches : (a.step i).2.searchedMm = a.searchedMm +
    if (a.step i).1.kind = .drive ∧ a.leg = 3 ∧ a.pass = .step then peekStepMm else 0
  plans : a.state = .scanning → (a.step i).2.state = .moving →
    Exact i.observation.profile a.config (a.step i).2.plan
  swaps : a.state = .moving → (a.step i).2.plan ≠ a.plan →
    a.plan.altOk = true ∧ (a.step i).2.plan = a.plan.swap

theorem Paced.untruncated (h : a.Paced t) (hfits : a.config.Fits) (i : Input D) :
    Untruncated a i := by
  have hstepped := step_stepped a i
  refine ⟨fun hkind => ?_, ?_, fun hstate hstate' => ?_, fun hstate hplan => ?_⟩
  · generalize a.step i = r at hstepped hkind ⊢
    cases hstepped with
    | launches hl =>
      simp only [Paced, hl.state] at h
      simp only [action]
      exact bmod_legMm hfits h.2.plan
    | _ => simp [Action.idle, action] at hkind
  · generalize a.step i = r at hstepped ⊢
    cases hstepped with
    | launches hl =>
      simp only [Paced, hl.state] at h
      simp only [action, true_and]
      split_ifs with hstep
      · have hdepth := (Config.Fits.bounds hfits).2.2.1
        have hnext := h.2.stepping hstep.1 hstep.2 hl.issued
        have hmm : a.legMm = peekStepMm := by simp [legMm, hstep.1, hstep.2]
        rw [hmm, Nat.mod_eq_of_lt (by omega)]
      · rfl
    | fails _ q _ hsame => simp [hsame.2, action]
    | _ => simp [Action.idle, action]
  · generalize a.step i = r at hstepped hstate' ⊢
    cases hstepped with
    | plans _ p hp => exact (plan_eq_some hp (Config.Fits.bounds hfits).2.2.2).1
    | fails _ q hq => simp [hq] at hstate'
    | drives hd | pauses hd | advances hd | finishes hd =>
      simp [hd.state] at hstate
    | peeks hl | swaps hl | launches hl | turns hl => simp [hl.state] at hstate
    | peeked h | scans h | resumes h => simp [h] at hstate
    | rests | waits => simp [hstate] at hstate'
  · generalize a.step i = r at hstepped hplan ⊢
    cases hstepped with
    | swaps _ _ _ halt => exact ⟨halt, rfl⟩
    | fails _ q _ _ hsame =>
      rcases hsame with hsame | hsame
      · exact absurd hsame hplan
      · simp [hstate] at hsame
    | plans h => simp [hstate] at h
    | _ => exact absurd rfl hplan

theorem tally_foldl (a : Avoidance D) (hfits : a.config.Fits) (nowUs : UInt32)
    (inputs : List (Input D)) :
    (inputs.foldl tally (a.begin nowUs, .zero)).1.config = a.config ∧
      (inputs.foldl tally (a.begin nowUs, .zero)).1.Paced
        (inputs.foldl tally (a.begin nowUs, .zero)).2 := by
  have hbegin : (a.begin nowUs).Paced .zero := ⟨rfl, rfl, rfl, rfl, rfl, rfl⟩
  refine Run.invariant (I := fun r : Avoidance D × Tally => r.1.config = a.config ∧ r.1.Paced r.2)
    ?_ ⟨rfl, hbegin⟩ inputs
  rintro r i ⟨hconfig, hpaced⟩
  obtain ⟨hconfig', hpaced'⟩ := hpaced.step (hconfig ▸ hfits) i
  exact ⟨hconfig'.trans hconfig, hpaced'⟩

/-- **The avoidance is bounded**: at most twelve moves and one for each step of `S5_PEEK_STEP_MM` in
`max_depth_mm` are asked for, the distance past the obstacle is bounded, the side is swapped at most
once, and nothing is cut off. -/
theorem avoidance_bounded (a : Avoidance D) (hfits : a.config.Fits) (nowUs : UInt32)
    (inputs : List (Input D)) :
    let r := inputs.foldl tally (a.begin nowUs, .zero)
    r.2.moves ≤ 12 + a.config.maxDepthMm / peekStepMm ∧
    r.1.searchedMm ≤ a.config.maxDepthMm ∧
    r.2.forwardMm ≤ r.1.plan.forwardMm + a.config.maxDepthMm + r.1.passExtraMm ∧
    r.2.swaps ≤ 1 ∧
    ∀ i, Untruncated r.1 i := by
  obtain ⟨hconfig, hpaced⟩ := tally_foldl a hfits nowUs inputs
  obtain ⟨hmoves, hdepth, hforward, hswaps⟩ := hpaced.bounded
  rw [hconfig] at hmoves hdepth hforward
  exact ⟨hmoves, hdepth, hforward, hswaps, fun i => hpaced.untruncated (hconfig ▸ hfits) i⟩

/-- The bench's detour swaps sides and searches to both sides for the line: twelve moves. -/
theorem avoidance_bounded_bench :
    let r := ((List.range 28).map benchInput).foldl tally
      (begin (init Config.defaults : Avoidance ℚ) 0, .zero)
    r.2.moves = 12 ∧ r.2.moves ≤ 12 + 500 / peekStepMm ∧ r.2.swaps ≤ 1 := by
  obtain ⟨hmoves, -, -, hswaps, -⟩ := avoidance_bounded (init Config.defaults : Avoidance ℚ)
    (by decide) 0 ((List.range 28).map benchInput)
  exact ⟨by decide +kernel, hmoves, hswaps⟩

end Avoidance

end RoboticCar.Obstacle
