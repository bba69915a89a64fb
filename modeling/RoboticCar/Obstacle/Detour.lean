import RoboticCar.Lib.Clock
import RoboticCar.Lib.Run
import RoboticCar.Obstacle.Avoidance

/-!
# The detour around an obstacle

`s5_avoidance_step` takes the car around an obstacle in ten legs.  `Stepped` says once what a step
can do.  `guarded` derives from it when the car is moved, with the outstanding move taken from the
returned actions, and `detour_closes` that the turns of a complete detour cancel out and that the
car comes back as far as it went out: its `Trip` is the `course` of the current leg (`Tracks`).
-/

namespace RoboticCar.Obstacle

open Lib CFloat

/-! ## What a step can do -/

def Plan.swap (p : Plan) : Plan :=
  { p with
    altOffsetMm := p.offsetMm
    offsetMm := p.altOffsetMm
    route := if p.route = .left then .right else .left }

namespace Avoidance

variable {D : Type}

/-- The forward reading is fresh and not too close. -/
structure Ahead (a : Avoidance D) (i : Input D) : Prop where
  ready : rangeReady i.observation i.nowUs = true
  away : a.config.emergencyMm < i.observation.rangeMm

/-- A stopped car with no move under way and a reading that is newer than the phase. -/
structure Launches (a : Avoidance D) (i : Input D) : Prop extends Ahead a i where
  state : a.state = .moving
  issued : a.issued = false
  stopped : i.stopped = true
  passing : a.leg = 3 → a.pass ≠ .peeking
  elapsed : i.nowUs - a.phaseUs ≤ 20000000
  newer : 0 < (i.observation.rangeUs - a.phaseUs).toInt32

/-- A move is under way, with the reading that it needs. -/
structure Drives (a : Avoidance D) (i : Input D) : Prop extends Ahead a i where
  state : a.state = .moving
  issued : a.issued = true

def needMm (a : Avoidance D) : ℕ :=
  if a.leg = 1 ∧ a.plan.offsetMm + a.config.marginMm > a.config.detectMm then
    a.plan.offsetMm + a.config.marginMm
  else a.config.detectMm

def legMm (a : Avoidance D) : ℕ :=
  if a.leg = 3 then
    if a.pass = .approach then a.plan.forwardMm
    else if a.pass = .step then peekStepMm
    else a.passExtraMm
  else a.plan.offsetMm

def turnDeg (a : Avoidance D) : Int :=
  let sign : Int := if a.plan.route = .left then 1 else -1
  if a.leg = 0 ∨ a.leg = 6 then sign * 90
  else if a.leg = 2 ∨ a.leg = 4 then -sign * 90
  else if a.leg = 8 then -40
  else 20

def Over (a : Avoidance D) : Prop := a.state = .idle ∨ a.state = .complete ∨ a.state = .fault

inductive Stepped (a : Avoidance D) (i : Input D) : Action × Avoidance D → Prop
  | rests (h : a.Over) : Stepped a i (.idle, a)
  | fails (h : ¬a.Over) (q : Avoidance D) (hq : q.state = .fault)
      (hsame : q.config = a.config ∧ q.searchedMm = a.searchedMm)
      (hplan : q.plan = a.plan ∨ a.state = .scanning) : Stepped a i (action .stop 0 0, q)
  | waits (h : ¬a.Over) (hissued : a.state = .moving → a.issued = false ∨ a.pass = .peeking) :
      Stepped a i (.idle, a)
  | scans (h : a.state = .waitStop) (hs : i.stopped = true) :
      Stepped a i (action .scan 0 0, { a with state := .scanning, phaseUs := i.nowUs })
  | plans (h : a.state = .scanning) (p : Plan)
      (hp : Obstacle.plan i.observation.profile a.config = some p) :
      Stepped a i (.idle, { a with plan := p, state := .moving, phaseUs := i.nowUs })
  | peeked (h : a.state = .moving) (hleg : a.leg = 3) (hpass : a.pass = .peeking) (pass : Pass)
      (hp : pass = .step ∧ a.searchedMm + peekStepMm ≤ a.config.maxDepthMm ∨ pass = .extra) :
      Stepped a i (.idle, { a with phaseUs := i.nowUs, pass := pass })
  | drives (h : Drives a i) (r : Recovery) (hdone : i.motionDone = false) :
      Stepped a i (.idle, { a with recovery := r })
  | pauses (h : Drives a i) (r : Recovery) (hleg : a.leg = 3) (hpass : a.pass ≠ .extra)
      (hdone : i.motionDone = true) :
      Stepped a i (.idle,
        { a with recovery := r, issued := false, phaseUs := i.nowUs, pass := .peek })
  | advances (h : Drives a i) (r : Recovery) (hleg : a.leg = 3 → a.pass = .extra)
      (hlast : a.leg ≠ 9) (hdone : i.motionDone = true) :
      Stepped a i (.idle,
        { a with recovery := r, issued := false, phaseUs := i.nowUs, leg := a.leg + 1 })
  | finishes (h : Drives a i) (r : Recovery) (hr : r.confirmed = true)
      (hleg : a.leg = 6 ∨ a.leg = 9) (hdone : i.motionDone = true) :
      Stepped a i (action .stop 0 0,
        { a with
          recovery := r, issued := false, phaseUs := i.nowUs, leg := a.leg + 1, state := .finish })
  | peeks (h : Launches a i) (hleg : a.leg = 3) (hpass : a.pass = .peek) :
      Stepped a i (action .peek (if a.plan.route = .left then 90 - peekDeg else 90 + peekDeg) 0,
        { a with pass := .peeking, phaseUs := i.nowUs })
  | swaps (h : Launches a i) (hleg : a.leg = 1) (hswapped : a.swapped = false)
      (halt : a.plan.altOk = true) :
      Stepped a i (action .turn (if a.plan.swap.route = .left then 180 else -180) a.config.speedMms,
        { a with swapped := true, plan := a.plan.swap, leg := 0, issued := true })
  | launches (h : Launches a i) (hleg : a.leg = 1 ∨ a.leg = 3 ∨ a.leg = 5)
      (hpass : a.leg = 3 → a.pass ≠ .peek) (hneed : a.needMm < i.observation.rangeMm) :
      Stepped a i (action .drive a.legMm a.config.speedMms,
        { a with
          issued := true
          legStartM := i.centreM
          searchedMm :=
            if a.leg = 3 ∧ a.pass = .step then (a.searchedMm + a.legMm) % 2 ^ 16
            else a.searchedMm })
  | turns (h : Launches a i) (hleg : a.leg ≠ 1 ∧ a.leg ≠ 3 ∧ a.leg ≠ 5) :
      Stepped a i (action .turn a.turnDeg a.config.speedMms, { a with issued := true })
  | resumes (h : a.state = .finish) (hstopped : i.stopped = true) (hline : i.lineReady = true)
      (hjunction : i.junction = false) (hconfirmed : a.recovery.confirmed = true) :
      Stepped a i (action .resume 0 0, { a with state := .complete })

variable {a : Avoidance D} {i : Input D}

theorem fail_stepped {q : Avoidance D} (h : ¬a.Over) (reason : Fault)
    (hsame : q.config = a.config ∧ q.searchedMm = a.searchedMm := by exact ⟨rfl, rfl⟩)
    (hplan : q.plan = a.plan ∨ a.state = .scanning := by exact .inl rfl) :
    Stepped a i (q.fail reason) :=
  .fails h _ rfl hsame hplan

theorem peekResult_stepped (h : a.state = .moving) (hleg : a.leg = 3) (hpass : a.pass = .peeking)
    (elapsed : UInt32) : Stepped a i (a.peekResult i elapsed) := by
  have hover : ¬a.Over := by simp [Over, h]
  simp only [peekResult]
  generalize (if a.plan.route = .left then _ else _ : ℕ) = side
  split_ifs with _ _ _ _ hdepth
  · exact fail_stepped hover _
  · exact .waits hover fun _ => .inr hpass
  · exact fail_stepped hover _
  · exact fail_stepped hover _
  · exact .peeked h hleg hpass _ (.inl ⟨rfl, Nat.le_of_not_lt hdepth⟩)
  · exact .peeked h hleg hpass _ (.inr rfl)

theorem awaitMove_stepped (h : Drives a i) (r : Recovery) :
    Stepped a i (awaitMove { a with recovery := r } i) := by
  have hover : ¬a.Over := by simp [Over, h.state]
  simp only [awaitMove]
  split_ifs with hmotion hpause hseven hten hconfirmed
  · exact .drives h r (by simpa using hmotion)
  all_goals have hdone : i.motionDone = true := by simpa using hmotion
  · exact .pauses h r hpause.1 hpause.2 hdone
  · exact .finishes h r hseven.2 (.inl (by omega)) hdone
  · exact fail_stepped hover _
  · exact .finishes h r (by simpa using hconfirmed) (.inr (by omega)) hdone
  · refine .advances h r (fun hleg => ?_) (by omega) hdone
    by_contra hpass
    exact hpause ⟨hleg, hpass⟩

theorem launchStraight_stepped (h : Launches a i) (hleg : a.leg = 1 ∨ a.leg = 3 ∨ a.leg = 5)
    (hpass : a.leg = 3 → a.pass ≠ .peek) (elapsed : UInt32) :
    Stepped a i (a.launchStraight i elapsed) := by
  have hover : ¬a.Over := by simp [Over, h.state]
  unfold launchStraight
  rw [if_neg (by simpa [h.ready] using h.newer)]
  change Stepped a i (if i.observation.rangeMm ≤ a.needMm then _ else
    (action .drive a.legMm a.config.speedMms, _))
  by_cases hblocked : i.observation.rangeMm ≤ a.needMm
  · rw [if_pos hblocked]
    by_cases hswap : a.leg = 1 ∧ !a.swapped ∧ a.plan.altOk
    · rw [if_pos hswap]
      exact .swaps h hswap.1 (by simpa using hswap.2.1) hswap.2.2
    · rw [if_neg hswap]
      exact fail_stepped hover _
  · rw [if_neg hblocked]
    exact .launches h hleg hpass (Nat.lt_of_not_le hblocked)

theorem launch_stepped (hstate : a.state = .moving) (hissued : a.issued = false)
    (hpassing : a.leg = 3 → a.pass ≠ .peeking) (hphase : i.nowUs - a.phaseUs ≤ 20000000)
    (elapsed : UInt32) : Stepped a i (a.launch i elapsed) := by
  have hover : ¬a.Over := by simp [Over, hstate]
  have hwaits : Stepped a i (.idle, a) := .waits hover fun _ => .inl hissued
  unfold launch
  by_cases hstopped : i.stopped
  swap
  · rw [if_pos (by simpa using hstopped)]
    exact hwaits
  rw [if_neg (by simpa using hstopped)]
  by_cases hrange : !rangeReady i.observation i.nowUs ∨
      (i.observation.rangeUs - a.phaseUs).toInt32 ≤ 0
  · rw [if_pos hrange]
    split_ifs
    · exact fail_stepped hover _
    · exact hwaits
  rw [if_neg hrange]
  by_cases hclose : i.observation.rangeMm ≤ a.config.emergencyMm
  · rw [if_pos hclose]
    exact fail_stepped hover _
  rw [if_neg hclose]
  rw [not_or, Bool.not_eq_true', Bool.not_eq_false, Int32.not_le] at hrange
  have hlaunch : Launches a i :=
    ⟨⟨hrange.1, Nat.lt_of_not_le hclose⟩, hstate, hissued, hstopped, hpassing, hphase,
      hrange.2⟩
  by_cases hpeek : a.leg = 3 ∧ a.pass = .peek
  · rw [if_pos hpeek]
    exact .peeks hlaunch hpeek.1 hpeek.2
  rw [if_neg hpeek]
  by_cases hstraight : a.leg = 1 ∨ a.leg = 3 ∨ a.leg = 5
  · rw [if_pos hstraight]
    exact launchStraight_stepped hlaunch hstraight (fun hleg hpass => hpeek ⟨hleg, hpass⟩) elapsed
  rw [if_neg hstraight]
  rw [not_or, not_or] at hstraight
  convert Stepped.turns hlaunch hstraight using 1
  unfold turnDeg
  dsimp only
  split_ifs <;> rfl

variable [CFloat D]

theorem observeLine_eq (a : Avoidance D) (i : Input D) :
    ∃ r, a.observeLine i = { a with recovery := r } := by
  unfold observeLine
  split_ifs
  exacts [⟨_, rfl⟩, ⟨_, rfl⟩, ⟨a.recovery, rfl⟩]

theorem observeLine_of_not_issued (i : Input D) (h : a.issued = false) : a.observeLine i = a := by
  simp [observeLine, h]

/-- The moving phase takes an allowed step. -/
theorem moving_stepped (h : a.state = .moving) :
    Stepped a i (a.moving i (i.nowUs - a.phaseUs)) := by
  have hover : ¬a.Over := by simp [Over, h]
  unfold moving
  split_ifs with hlate hpeeking hclose
  · exact fail_stepped hover _
  · exact peekResult_stepped h hpeeking.1 hpeeking.2 _
  · exact fail_stepped hover _
  cases hissued : a.issued
  · rw [observeLine_of_not_issued i hissued, if_neg (by simp [hissued])]
    exact launch_stepped h hissued (fun hleg hpass => hpeeking ⟨hleg, hpass⟩)
      (UInt32.not_lt.1 hlate) _
  · have hdrives : Drives a i := by
      simp only [hissued, true_and, not_or, Bool.not_eq_true', Bool.not_eq_false, not_le] at hclose
      exact ⟨⟨hclose.1, hclose.2⟩, h, hissued⟩
    obtain ⟨r, hr⟩ := observeLine_eq a i
    rw [hr, if_pos hissued]
    exact awaitMove_stepped hdrives r

/-- **What a step can do.** -/
theorem step_stepped (a : Avoidance D) (i : Input D) : Stepped a i (a.step i) := by
  unfold step
  by_cases hover : a.state = .idle ∨ a.state = .complete ∨ a.state = .fault
  · rw [if_pos hover]
    exact .rests hover
  rw [if_neg hover]
  by_cases hhealthy : (!i.healthy)
  · rw [if_pos hhealthy]
    exact fail_stepped hover _
  rw [if_neg hhealthy]
  by_cases hlate : i.nowUs - a.startedUs > 60000000
  · rw [if_pos hlate]
    exact fail_stepped hover _
  rw [if_neg hlate]
  dsimp only
  split
  case h_1 hstate =>
    split_ifs with _ hstopped
    · exact fail_stepped hover _
    · exact .scans hstate hstopped
    · exact .waits hover fun h => by simp [hstate] at h
  case h_2 hstate =>
    split_ifs
    · exact fail_stepped hover _
    · exact fail_stepped hover _
    · split
      · exact fail_stepped hover _ ⟨rfl, rfl⟩ (.inr hstate)
      · exact .plans hstate _ ‹_›
    · exact .waits hover fun h => by simp [hstate] at h
  case h_3 hstate => exact moving_stepped hstate
  case h_4 hstate =>
    split_ifs with _ hready
    · exact fail_stepped hover _
    · obtain ⟨hstopped, hline, hjunction, hconfirmed⟩ := hready
      exact .resumes hstate hstopped hline (by simpa using hjunction) hconfirmed
    · exact .waits hover fun h => by simp [hstate] at h
  case h_5 _ _ hmoving _ => exact .waits hover fun h => absurd h hmoving

/-! ## When the car is moved -/

/-- The calls of the interface. -/
inductive Op (D : Type)
  | begin (nowUs : UInt32)
  | abort
  | step (i : Input D)

def after (a : Avoidance D) : Op D → Avoidance D
  | .begin nowUs => a.begin nowUs
  | .abort => a.abort
  | .step i => (a.step i).2

def Poised (a : Avoidance D) : Prop :=
  match a.state with
  | .waitStop | .scanning => a.leg = 0 ∧ a.issued = false ∧ a.pass = .approach
  | .moving => a.pass = .peeking → a.leg = 3 ∧ a.issued = false
  | _ => True

theorem step_poised (i : Input D) (h : a.Poised) : (a.step i).2.Poised := by
  generalize hr : a.step i = r
  have hstepped := hr ▸ step_stepped a i
  unfold Poised at h ⊢
  cases hstepped with
  | rests | waits | drives => exact h
  | fails _ q hq => simp [hq]
  | scans hstate => simpa [hstate] using h
  | plans hstate =>
    rw [hstate] at h
    simp [h.2.2]
  | peeked hstate hleg _ pass hp => rcases hp with ⟨rfl, -⟩ | rfl <;> simp [hstate]
  | pauses hdrives => simp [hdrives.state]
  | advances hdrives =>
    rw [hdrives.state] at h ⊢
    intro hpass
    exact absurd (h hpass).2 (by simp [hdrives.issued])
  | finishes | resumes => trivial
  | peeks hlaunch hleg => simp [hlaunch.state, hleg, hlaunch.issued]
  | swaps hlaunch hleg =>
    rw [hlaunch.state] at h ⊢
    exact fun hpass => absurd (h hpass).1 (by simp [hleg])
  | launches hlaunch =>
    rw [hlaunch.state] at h ⊢
    exact fun hpass => absurd hpass (hlaunch.passing (h hpass).1)
  | turns hlaunch hleg =>
    rw [hlaunch.state] at h ⊢
    exact fun hpass => absurd (h hpass).1 hleg.2.1

/-- The detour, and whether a move is outstanding: a returned turn or drive begins one, and the
report of the motion or a new call of the drive ends it. -/
def track (s : Avoidance D × Bool) (op : Op D) : Avoidance D × Bool :=
  (s.1.after op,
    match op with
    | .step i =>
      match (s.1.step i).1.kind with
      | .turn | .drive => true
      | _ => s.2 && !i.motionDone
    | _ => false)

/-- A move is outstanding as the flag says while the car moves, and otherwise only after a fault. -/
structure Tracked (s : Avoidance D × Bool) : Prop where
  poised : s.1.Poised
  outstanding :
    match s.1.state with
    | .moving => s.1.issued = s.2
    | .fault => True
    | _ => s.2 = false

/-- One step keeps the flag at the moves that are outstanding. -/
theorem Tracked.step {s : Avoidance D × Bool} (h : Tracked s) (i : Input D) :
    Tracked (track s (.step i)) := by
  obtain ⟨a, out⟩ := s
  refine ⟨step_poised i h.poised, ?_⟩
  have hpoised := h.poised
  have hout := h.outstanding
  simp only [track, after]
  generalize hr : a.step i = r
  have hstepped := hr ▸ step_stepped a i
  simp only [Poised] at hpoised hout
  cases hstepped with
  | fails _ q hq => simp [hq]
  | rests hover =>
    rcases hover with hs | hs | hs <;> simp [hs, Action.idle, action] at hout ⊢
    all_goals simp [hout]
  | waits hover hissued =>
    have hfree : out = false := by
      cases hs : a.state with
      | moving =>
        rw [hs] at hpoised hout
        rcases hissued hs with hissued | hpass
        · exact hout.symm.trans hissued
        · exact hout.symm.trans (hpoised hpass).2
      | fault => exact absurd (.inr (.inr hs)) hover
      | _ => simpa [hs] using hout
    subst hfree
    simpa [Action.idle, action] using hout
  | scans hs | plans hs | resumes hs => simp_all [Action.idle, action]
  | peeked hs hleg hpass => simp_all [Action.idle, action]
  | drives hd _ hdone => simp_all [hd.state, Action.idle, action]
  | pauses hd _ _ _ hdone | advances hd _ _ _ hdone | finishes hd _ _ _ hdone =>
    simp [hd.state, hdone, Action.idle, action]
  | peeks hl => simp_all [hl.state, ← hl.issued, action]
  | swaps hl | launches hl | turns hl => simp [hl.state, action]

theorem tracked (c : Config) (ops : List (Op D)) :
    Tracked (ops.foldl track ((init c, false) : Avoidance D × Bool)) := by
  have hinit : Tracked ((init c, false) : Avoidance D × Bool) := ⟨trivial, rfl⟩
  refine Run.invariant (I := Tracked (D := D)) (fun s op h => ?_) hinit ops
  cases op with
  | begin => exact ⟨⟨rfl, rfl, rfl⟩, rfl⟩
  | abort => exact ⟨trivial, rfl⟩
  | step i => exact h.step i

def Moves (kind : ActionKind) : Prop := kind = .turn ∨ kind = .drive ∨ kind = .peek

/-- The reading that lets an action move the car: fresh, newer than the phase and far enough. -/
structure Clearance (a : Avoidance D) (i : Input D) : Prop where
  stopped : i.stopped = true
  ready : rangeReady i.observation i.nowUs = true
  newer : i.nowUs - i.observation.rangeUs < i.nowUs - a.phaseUs
  away : a.config.emergencyMm < i.observation.rangeMm

/-- The guards of a step, with a move `outstanding` or not. -/
structure Guarded (a : Avoidance D) (outstanding : Bool) (i : Input D) : Prop where
  moves : Moves (a.step i).1.kind → outstanding = false ∧ Clearance a i
  drives : (a.step i).1.kind = .drive → a.config.detectMm < i.observation.rangeMm ∧
    (a.leg = 1 → a.plan.offsetMm + a.config.marginMm < i.observation.rangeMm)
  brakes : outstanding = true → a.state ≠ .fault →
    (rangeReady i.observation i.nowUs = false ∨ i.observation.rangeMm ≤ a.config.emergencyMm) →
      (a.step i).1 = action .stop 0 0 ∧ (a.step i).2.state = .fault
  rests : a.state = .fault ∨ a.state = .complete → ∀ ops : List (Op D),
    (∀ nowUs, .begin nowUs ∉ ops) → ((ops.foldl after a).step i).1 = .idle
  resumes : (a.step i).1.kind = .resume → i.stopped = true ∧ i.lineReady = true ∧
    i.junction = false ∧ a.recovery.confirmed = true

variable {r : Action × Avoidance D}

section

omit [CFloat D]

theorem Launches.clearance (h : Launches a i) : Clearance a i := by
  refine ⟨h.stopped, h.ready, Clock.age_lt_age ?_ h.newer, h.away⟩
  have hfresh : i.nowUs - i.observation.rangeUs ≤ rangeFreshUs := by
    have := h.ready
    simp only [rangeReady, Bool.and_eq_true, decide_eq_true_eq] at this
    exact this.2
  exact lt_of_le_of_lt (UInt32.le_iff_toNat_le.1 hfresh) (by decide)

theorem Stepped.launches_of_moves (h : Stepped a i r) (hmoves : Moves r.1.kind) :
    Launches a i := by
  cases h with
  | peeks h | swaps h | launches h | turns h => exact h
  | _ => simp [Moves, Action.idle, action] at hmoves

theorem Stepped.clear (h : Stepped a i r) (hdrive : r.1.kind = .drive) :
    a.needMm < i.observation.rangeMm := by
  cases h with
  | launches _ _ _ hneed => exact hneed
  | _ => simp [Action.idle, action] at hdrive

theorem detectMm_le_needMm (a : Avoidance D) : a.config.detectMm ≤ a.needMm := by
  unfold needMm
  split_ifs with h
  · exact h.2.le
  · exact le_rfl

theorem offset_margin_le_needMm (h : a.leg = 1) :
    a.plan.offsetMm + a.config.marginMm ≤ a.needMm := by
  unfold needMm
  split_ifs with hneed
  · exact le_rfl
  · exact Nat.le_of_not_lt fun hlt => hneed ⟨h, hlt⟩

theorem Stepped.fault_of_blind (h : Stepped a i r) (hpoised : a.Poised) (hstate : a.state = .moving)
    (hissued : a.issued) (hblind : ¬Ahead a i) :
    r.1 = action .stop 0 0 ∧ r.2.state = .fault := by
  have hpass : a.pass ≠ .peeking := by
    intro hpass
    simp only [Poised, hstate] at hpoised
    exact absurd (hpoised hpass).2 (by simp [hissued])
  cases h with
  | fails _ q hq => exact ⟨rfl, hq⟩
  | rests hover => simp [Over, hstate] at hover
  | waits _ h => simp [hissued, hpass] at h; exact absurd hstate h
  | scans h | plans h | resumes h => simp [hstate] at h
  | peeked _ _ h => exact absurd h hpass
  | drives h | pauses h | advances h | finishes h =>
    exact absurd h.toAhead hblind
  | peeks h | swaps h | launches h | turns h =>
    exact absurd h.issued (by simp [hissued])

end

theorem over_after (h : a.Over) {op : Op D} (hop : ∀ nowUs, op ≠ .begin nowUs) :
    (a.after op).Over := by
  cases op with
  | begin nowUs => exact absurd rfl (hop nowUs)
  | abort => exact .inl rfl
  | step i =>
    have hrests : a.step i = (.idle, a) := if_pos h
    simpa only [after, hrests] using h

/-- A finished detour stays over until begun again. -/
theorem over_foldl (h : a.Over) {ops : List (Op D)} (hops : ∀ nowUs, .begin nowUs ∉ ops) :
    (ops.foldl after a).Over :=
  List.foldlRecOn ops after h fun _ h _ hmem =>
    over_after h fun nowUs hop => hops nowUs (hop ▸ hmem)

/-- **The car is moved only under guard**: stopped, with no move outstanding and a fresh forward
reading newer than the phase; a drive needs its path clear, an outstanding move that loses its
reading is braked, a finished detour stays silent, and the car is handed back only on the line. -/
theorem guarded (c : Config) (ops : List (Op D)) (i : Input D) :
    Guarded (ops.foldl track (init c, false)).1 (ops.foldl track (init c, false)).2 i := by
  have htracked := tracked (D := D) c ops
  generalize ops.foldl track (init c, false) = s at htracked
  obtain ⟨a, outstanding⟩ := s
  obtain ⟨hpoised, hout⟩ := htracked
  dsimp only at hpoised hout ⊢
  have hstepped := step_stepped a i
  refine ⟨fun hmoves => ?_, fun hdrive => ?_, fun hmove hfault hblind => ?_,
    fun hover ops hops => ?_, fun hresume => ?_⟩
  · have hlaunch := hstepped.launches_of_moves hmoves
    rw [hlaunch.state] at hout
    exact ⟨hout.symm.trans hlaunch.issued, hlaunch.clearance⟩
  · have hclear := hstepped.clear hdrive
    exact ⟨a.detectMm_le_needMm.trans_lt hclear,
      fun hleg => (offset_margin_le_needMm hleg).trans_lt hclear⟩
  · subst hmove
    have hstate : a.state = .moving := by cases hs : a.state <;> simp_all
    rw [hstate] at hout
    refine hstepped.fault_of_blind hpoised hstate hout fun hahead => ?_
    rcases hblind with hstale | hclose
    · exact absurd hahead.ready (by simp [hstale])
    · exact absurd hahead.away hclose.not_gt
  · have hover' : a.Over := hover.elim (fun h => .inr (.inr h)) fun h => .inr (.inl h)
    have hrests : (ops.foldl after a).step i = (.idle, _) := if_pos (over_foldl hover' hops)
    rw [hrests]
  · generalize a.step i = r at hstepped hresume
    cases hstepped with
    | resumes _ hstopped hline hjunction hconfirmed =>
      exact ⟨hstopped, hline, hjunction, hconfirmed⟩
    | _ => simp [Action.idle, action] at hresume

/-! ## The detour closes -/

/-- What the actions add up to: the degrees turned, and the drives off the line with their headings.
-/
structure Trip where
  heading : Int
  sideways : List (Int × Int)

def Trip.record (t : Trip) (act : Action) : Trip :=
  match act.kind with
  | .turn => { t with heading := t.heading + act.value }
  | .drive =>
    if t.heading = 0 then t else { t with sideways := t.sideways ++ [(t.heading, act.value)] }
  | _ => t

def ride (r : Avoidance D × Trip) (i : Input D) : Avoidance D × Trip :=
  ((r.1.step i).2, r.2.record (r.1.step i).1)

def side (p : Plan) : Int := if p.route = .left then 1 else -1

def offset (p : Plan) : Int := (p.offsetMm : Int).bmod (2 ^ 16)

/-- The heading that a leg to the side `s` determines. -/
def facing (s : Int) (leg : ℕ) (issued : Bool) : Int :=
  match leg with
  | 0 => if issued then s * 90 else 0
  | 1 => s * 90
  | 2 => if issued then 0 else s * 90
  | 4 => if issued then -s * 90 else 0
  | 5 => -s * 90
  | 6 => if issued then 0 else -s * 90
  | 7 => if issued then 20 else 0
  | 8 => if issued then -20 else 20
  | 9 => if issued then 0 else -20
  | _ => 0

def strayed (s o : Int) (leg : ℕ) (issued : Bool) : List (Int × Int) :=
  if leg = 0 ∨ leg = 1 ∧ issued = false then []
  else if leg ≤ 4 ∨ leg = 5 ∧ issued = false then [(s * 90, o)]
  else [(s * 90, o), (-s * 90, o)]

def course (p : Plan) (leg : ℕ) (issued : Bool) : Trip :=
  ⟨facing (side p) leg issued, strayed (side p) (offset p) leg issued⟩

def Tracks (r : Avoidance D × Trip) : Prop :=
  match r.1.state with
  | .waitStop | .scanning => r.1.leg = 0 ∧ r.1.issued = false ∧ r.2 = ⟨0, []⟩
  | .moving => r.1.leg ≤ 9 ∧ r.2 = course r.1.plan r.1.leg r.1.issued
  | .finish => r.2 = course r.1.plan 9 true
  | _ => True

theorem record_idle (t : Trip) : t.record .idle = t := rfl

theorem record_turn (t : Trip) {degrees : Int} (speed : ℕ)
    (h : -180 ≤ degrees ∧ degrees ≤ 180) :
    t.record (action .turn degrees speed) = { t with heading := t.heading + degrees } := by
  have hvalue : degrees.bmod (2 ^ 16) = degrees := Int.bmod_eq_of_le (by omega) (by omega)
  simp only [Trip.record, action, hvalue]

theorem record_drive {t : Trip} (p : Plan) (speed : ℕ) (h : t.heading ≠ 0) :
    t.record (action .drive p.offsetMm speed) =
      { t with sideways := t.sideways ++ [(t.heading, offset p)] } := by
  unfold Trip.record action offset
  rw [if_neg h]

theorem side_eq (p : Plan) : side p = 1 ∨ side p = -1 := by
  unfold side
  split_ifs
  exacts [.inl rfl, .inr rfl]

theorem side_swap (p : Plan) : side p.swap = -side p := by
  cases h : p.route <;> simp [side, Plan.swap, h]

theorem course_advance (p : Plan) {leg : ℕ} (h : leg < 9) :
    course p (leg + 1) false = course p leg true := by
  have hcases : leg = 0 ∨ leg = 1 ∨ leg = 2 ∨ leg = 3 ∨ leg = 4 ∨ leg = 5 ∨ leg = 6 ∨ leg = 7 ∨
      leg = 8 := by omega
  rcases hcases with rfl | rfl | rfl | rfl | rfl | rfl | rfl | rfl | rfl <;> rfl

omit [CFloat D] in
theorem course_turn (hle : a.leg ≤ 9) (hleg : a.leg ≠ 1 ∧ a.leg ≠ 3 ∧ a.leg ≠ 5) :
    (course a.plan a.leg false).record (action .turn a.turnDeg a.config.speedMms) =
      course a.plan a.leg true := by
  have hturn : a.turnDeg = if a.leg = 0 ∨ a.leg = 6 then side a.plan * 90
      else if a.leg = 2 ∨ a.leg = 4 then -side a.plan * 90
      else if a.leg = 8 then -40 else 20 := rfl
  have hside := side_eq a.plan
  rw [record_turn _ _ (by rw [hturn]; split_ifs <;> omega), hturn]
  have hcases : a.leg = 0 ∨ a.leg = 2 ∨ a.leg = 4 ∨ a.leg = 6 ∨ a.leg = 7 ∨ a.leg = 8 ∨
      a.leg = 9 := by omega
  rcases hcases with h | h | h | h | h | h | h <;> simp [course, facing, strayed, h]

theorem course_swap (p : Plan) (speed : ℕ) :
    (course p 1 false).record (action .turn (if p.swap.route = .left then 180 else -180) speed) =
      course p.swap 0 true := by
  have hhalf : (if p.swap.route = .left then 180 else -180 : Int) = side p.swap * 180 := by
    unfold side
    split_ifs <;> rfl
  have hside := side_eq p
  rw [hhalf, side_swap, record_turn _ _ (by omega)]
  simp only [course, facing, strayed, side_swap]
  simp
  omega

theorem course_drive (p : Plan) (speed : ℕ) {leg mm : ℕ} (hleg : leg = 1 ∨ leg = 3 ∨ leg = 5)
    (hmm : leg ≠ 3 → mm = p.offsetMm) :
    (course p leg false).record (action .drive mm speed) = course p leg true := by
  have hside := side_eq p
  rcases hleg with rfl | rfl | rfl
  · rw [hmm (by decide), record_drive _ _ (show side p * 90 ≠ 0 by omega)]
    rfl
  · rfl
  · rw [hmm (by decide), record_drive _ _ (show -side p * 90 ≠ 0 by omega)]
    rfl

/-- **The trip stays what the leg determines.** -/
theorem ride_tracks {r : Avoidance D × Trip} (i : Input D) (h : Tracks r) :
    Tracks (ride r i) := by
  obtain ⟨a, t⟩ := r
  unfold ride
  have hstepped := step_stepped a i
  generalize a.step i = q at hstepped ⊢
  unfold Tracks at h ⊢
  dsimp only at h ⊢
  cases hstepped with
  | rests | waits => exact h
  | fails _ q hq => simp [hq]
  | scans hstate =>
    rw [hstate] at h
    exact h
  | plans hstate =>
    rw [hstate] at h
    obtain ⟨hleg, hissued, rfl⟩ := h
    exact ⟨by simp [hleg], by simp [course, facing, strayed, hleg, hissued, record_idle]⟩
  | peeked hstate =>
    rw [hstate] at h ⊢
    exact h
  | drives hd =>
    rw [hd.state] at h ⊢
    exact h
  | pauses hd _ hleg =>
    rw [hd.state, hd.issued, hleg] at h
    rw [hd.state, hleg]
    exact h
  | advances hd _ _ hlast =>
    rw [hd.state, hd.issued] at h
    rw [hd.state]
    have hlt : a.leg < 9 := Nat.lt_of_le_of_ne h.1 hlast
    exact ⟨hlt, h.2.trans (course_advance a.plan hlt).symm⟩
  | finishes hd _ _ hleg =>
    rw [hd.state, hd.issued] at h
    rcases hleg with hleg | hleg <;> exact hleg ▸ h.2
  | peeks hl =>
    rw [hl.state] at h ⊢
    exact h
  | swaps hl hleg =>
    rw [hl.state, hl.issued, hleg] at h
    rw [hl.state, h.2]
    exact ⟨Nat.zero_le 9, course_swap _ _⟩
  | launches hl hleg =>
    rw [hl.state, hl.issued] at h
    rw [hl.state, h.2]
    exact ⟨h.1, course_drive _ _ hleg fun hne => if_neg hne⟩
  | turns hl hleg =>
    rw [hl.state, hl.issued] at h
    rw [hl.state, h.2]
    exact ⟨h.1, course_turn h.1 hleg⟩
  | resumes => trivial

/-- **The detour closes**: the turns of a complete detour add up to zero, and the only drives that
were not along the line are one to a side and one of the same length back. -/
theorem detour_closes (a : Avoidance D) (nowUs : UInt32) (inputs : List (Input D)) (i : Input D)
    (h : ((inputs.foldl ride (a.begin nowUs, ⟨0, []⟩)).1.step i).1.kind = .resume) :
    ((inputs ++ [i]).foldl ride (a.begin nowUs, ⟨0, []⟩)).2.heading = 0 ∧
      ∃ s mm : Int, (s = 1 ∨ s = -1) ∧
        ((inputs ++ [i]).foldl ride (a.begin nowUs, ⟨0, []⟩)).2.sideways =
          [(s * 90, mm), (-s * 90, mm)] := by
  have hbegin : Tracks (a.begin nowUs, ⟨0, []⟩) := ⟨rfl, rfl, rfl⟩
  have htracks := Run.invariant (fun _ i h => ride_tracks i h) hbegin inputs
  rw [List.foldl_append]
  generalize inputs.foldl ride (a.begin nowUs, ⟨0, []⟩) = r at h htracks ⊢
  obtain ⟨b, t⟩ := r
  have hstepped := step_stepped b i
  have hride : [i].foldl ride (b, t) = ((b.step i).2, t.record (b.step i).1) := rfl
  rw [hride]
  generalize b.step i = q at h hstepped ⊢
  cases hstepped with
  | resumes hstate _ _ _ _ =>
    simp only [Tracks, hstate] at htracks
    rw [htracks]
    exact ⟨rfl, side b.plan, offset b.plan, side_eq b.plan, rfl⟩
  | _ => simp [Action.idle, action] at h

/-- A detour in steps of 20 ms past an obstacle whose left side turns out to be blocked. -/
def benchInput (k : ℕ) : Input ℚ :=
  let nowUs := UInt32.ofNat (20000 * (k + 1))
  { nowUs := nowUs
    centreM := 0
    stopped := true
    motionDone := true
    healthy := true
    tape := true
    junction := false
    lineReady := true
    observation :=
      { rangeUs := nowUs
        scanUs := nowUs
        rangeMm := if k = 4 then 150 else 2000
        scanId := 0
        profile := ⟨150, 100, 2000, 2000, 50, -50, 150, true⟩
        rangeValid := true
        noEcho := false
        scanDone := true } }

/-- The bench turns left, around to the right and back; the line is found by the search. -/
theorem detour_closes_bench :
    (((List.range 28).map benchInput).foldl ride
        (begin (init Config.defaults : Avoidance ℚ) 0, ⟨0, []⟩)).1.swapped = true ∧
      (((List.range 28).map benchInput ++ [benchInput 28]).foldl ride
        (begin (init Config.defaults : Avoidance ℚ) 0, ⟨0, []⟩)).2.heading = 0 :=
  ⟨by decide +kernel, (detour_closes _ _ _ _ (by decide +kernel)).1⟩

end Avoidance

end RoboticCar.Obstacle
