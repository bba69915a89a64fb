import RoboticCar.Motion.System

/-!
# The navigation lease

The Vehicle Controller renews a lease of 30 ms, and `motion_process` raises a fault when it has run
out.  `motion_process` reads the clock before it takes the lock: a heartbeat in between is newer
than the time it is compared with, the difference wraps, and a fresh lease counts as expired
(`fresh_lease_expires`).  Without such heartbeats it expires only when it is old:
`lease_expires_late`.
-/

namespace RoboticCar.Motion

open Lib CFloat

variable {F D : Type}

/-- The subsystem with the true times of the last renewal and of the motion task's last clock
reading. -/
structure Watch (F D : Type) where
  sys : System F D
  beatAt : ℕ
  readAt : ℕ

def LeaseKept (m m' : Front F D) : Prop :=
  m'.navigationLease = true →
    m.navigationLease = true ∧ m'.navigationRefreshUs = m.navigationRefreshUs

namespace Watch

/-- The block is a control block with the lease in force, at the clock reading `now`. -/
def ChecksLease (w : Watch F D) (a : Act F) (now : UInt32) : Prop :=
  ∃ x elapsed, a = .step x ∧ w.sys.pc = .checked now elapsed ∧ ¬elapsed < periodUs / 2 ∧
    w.sys.front.navigationLease = true

def RaisesTimeout (w : Watch F D) (a : Act F) : Prop :=
  ∃ now, w.ChecksLease a now ∧
    motionLeaseExpired w.sys.front.navigationLease now w.sys.front.navigationRefreshUs = true

/-- A timeout is raised only more than the lease time after the last renewal. -/
def TimeoutIsLate (w : Watch F D) (a : Act F) : Prop :=
  w.RaisesTimeout a → navigationLeaseUs.toNat < w.sys.clock - w.beatAt

/-- The condition: a lease check compares the last renewal with a clock reading that is not
earlier than it. -/
def BeatBeforeReading (w : Watch F D) (a : Act F) : Prop :=
  ∀ now, w.ChecksLease a now → w.beatAt ≤ w.readAt

/-- The times are past, and a lease in force was renewed at the last heartbeat. -/
structure Timed (w : Watch F D) : Prop where
  beat_le : w.beatAt ≤ w.sys.clock
  read_le : w.readAt ≤ w.sys.clock
  refreshed : w.sys.front.navigationLease = true →
    w.sys.front.navigationRefreshUs = Clock.reading w.beatAt
  entered : ∀ now elapsed, w.sys.pc = .entered now elapsed → now = Clock.reading w.readAt
  checked : ∀ now elapsed, w.sys.pc = .checked now elapsed → now = Clock.reading w.readAt

/-- A block that keeps the times, the clock and the lease keeps the invariant, if the motion task's
clock reading stays. -/
theorem Timed.of_leaseKept {w : Watch F D} (h : w.Timed) {m : Front F D} {pc : TaskPc}
    (hm : LeaseKept w.sys.front m)
    (hpc : pc = w.sys.pc ∨ pc = .waiting ∨ pc = .calibrating ∨
      ∃ now elapsed, w.sys.pc = .entered now elapsed ∧ pc = .checked now elapsed) :
    Timed ⟨⟨m, w.sys.clock, pc⟩, w.beatAt, w.readAt⟩ := by
  obtain ⟨hb, hr, hl, he, hc⟩ := h
  refine ⟨hb, hr, fun h => ?_, fun now elapsed h => ?_, fun now elapsed h => ?_⟩
  · obtain ⟨h1, h2⟩ := hm h
    exact h2.trans (hl h1)
  · obtain rfl | rfl | rfl | ⟨_, _, _, rfl⟩ := hpc
    · exact he now elapsed h
    all_goals cases h
  · obtain rfl | rfl | rfl | ⟨n, e, hn, rfl⟩ := hpc
    · exact hc now elapsed h
    · cases h
    · cases h
    · cases h
      exact he now elapsed hn

/-- A lease check that compares the last renewal with a later clock reading finds it expired only
if it is. -/
theorem Timed.timeoutIsLate {w : Watch F D} {a : Act F} (h : w.Timed)
    (hc : w.BeatBeforeReading a) : w.TimeoutIsLate a := by
  rintro ⟨now, hcheck, hexp⟩
  have hle := hc now hcheck
  obtain ⟨x, elapsed, -, hpc, -, hlease⟩ := hcheck
  have hnow := h.checked now elapsed hpc
  have href := h.refreshed hlease
  have hgt : navigationLeaseUs < now - w.sys.front.navigationRefreshUs := by
    simpa [motionLeaseExpired, hlease] using hexp
  rw [hnow, href, UInt32.lt_iff_toNat_lt] at hgt
  have hdiff := Clock.toNat_sub_le hle
  have hread := h.read_le
  omega

end Watch

theorem leaseKept_setCtl (m : Front F D) (c : Ctrl F) : LeaseKept m (m.setCtl c) :=
  fun h => ⟨by simpa using h, by simp⟩

theorem leaseKept_stop (m : Front F D) : LeaseKept m m.stop := by
  unfold Front.stop
  dsimp only
  split
  · exact leaseKept_setCtl m _
  · exact leaseKept_setCtl m _

theorem leaseKept_reportAck (r : MotionReport) (m : Front F D) : LeaseKept m (m.reportAck r) := by
  unfold Front.reportAck
  split
  · exact leaseKept_setCtl { m with reportQueued := m.reportQueued - 1 } _
  · exact fun h => ⟨h, rfl⟩

variable [CFloat F]

theorem leaseKept_request (q : Request F) (now : UInt32) (m : Front F D) :
    LeaseKept m (m.request q now).2 := by
  generalize hp : m.request q now = p
  have h := hp ▸ m.request_handed q now
  cases h with
  | refused => exact fun h => ⟨h, rfl⟩
  | velocity | move => exact leaseKept_setCtl m _

theorem leaseKept_leaseCheck (now : UInt32) (m : Front F D) : LeaseKept m (m.leaseCheck now) := by
  unfold Front.leaseCheck
  split
  · exact fun h => absurd h (by simp)
  · exact fun h => ⟨h, rfl⟩

theorem leaseKept_control [CFloat D] [CDouble F D] (x : Sensors F) (now elapsed : UInt32)
    (m : Front F D) :
    LeaseKept m (m.control x now elapsed) := by
  intro h
  have h1 := leaseKept_setCtl _ _ h
  exact leaseKept_leaseCheck now { m with sensors := x, lastStepUs := now } h1.1 |>.imp id
    (h1.2.trans ·)

theorem control_navigationLease [CFloat D] [CDouble F D] (x : Sensors F) (now elapsed : UInt32)
    (m : Front F D) : (m.control x now elapsed).navigationLease = (m.navigationLease &&
      !motionLeaseExpired m.navigationLease now m.navigationRefreshUs) := by
  simp only [Front.control, Front.setCtl_navigationLease, Front.leaseCheck]
  split_ifs with hexp <;> simp [hexp]

/-! ## When the lease expires -/

namespace Watch

variable [CFloat D]

/-- The subsystem as it starts to be watched, right after `motion_init`. -/
def start (m : Front F D) (x : Sensors F) (encoderOk : Bool) (t : ℕ) : Watch F D :=
  ⟨System.init m x encoderOk t, t, t⟩

theorem timed_start (m : Front F D) (x : Sensors F) (encoderOk : Bool) (t : ℕ) :
    (start m x encoderOk t).Timed :=
  ⟨le_rfl, le_rfl, nofun, nofun, nofun⟩

variable [CDouble F D]

def act (w : Watch F D) (a : Act F) : Watch F D where
  sys := w.sys.act a
  beatAt := match a with
    | .heartbeat true => w.sys.clock
    | _ => w.beatAt
  readAt := match a, w.sys.pc with
    | .enter, .waiting => w.sys.clock
    | _, _ => w.readAt

theorem Timed.act (w : Watch F D) (a : Act F) (h : w.Timed) : (w.act a).Timed := by
  have kept : ∀ m, LeaseKept w.sys.front m →
      Timed ⟨⟨m, w.sys.clock, w.sys.pc⟩, w.beatAt, w.readAt⟩ := fun m hm =>
    h.of_leaseKept hm (.inl rfl)
  cases a with
  | tick =>
    obtain ⟨hb, hr, hl, he, hc⟩ := h
    exact ⟨Nat.le_add_right_of_le hb, Nat.le_add_right_of_le hr, hl, he, hc⟩
  | enter =>
    obtain ⟨hb, hr, hl, he, hc⟩ := h
    cases hpc : w.sys.pc with
    | waiting =>
      simp only [Watch.act, System.act, hpc]
      refine ⟨hb, le_rfl, hl, fun now elapsed h => ?_, by simp⟩
      cases h
      rfl
    | entered | checked | calibrating =>
      simpa only [Watch.act, System.act, hpc] using ⟨hb, hr, hl, he, hc⟩
  | check =>
    show Timed ⟨w.sys.act .check, w.beatAt, w.readAt⟩
    obtain he | ⟨now, elapsed, hpc, ⟨-, he⟩ | ⟨-, he⟩⟩ := w.sys.act_check_cases <;> rw [he]
    · exact h
    · exact h.of_leaseKept (fun h => ⟨h, rfl⟩) (.inr (.inr (.inl rfl)))
    · exact h.of_leaseKept (fun h => ⟨h, rfl⟩) (.inr (.inr (.inr ⟨now, elapsed, hpc, rfl⟩)))
  | spin x duty =>
    show Timed ⟨w.sys.act (.spin x duty), w.beatAt, w.readAt⟩
    obtain he | ⟨-, he⟩ := w.sys.act_spin_cases x duty <;> rw [he]
    · exact h
    · exact h.of_leaseKept (fun h => ⟨h, rfl⟩) (.inr (.inr (.inl rfl)))
  | finish x =>
    show Timed ⟨w.sys.act (.finish x), w.beatAt, w.readAt⟩
    obtain he | ⟨-, he⟩ := w.sys.act_finish_cases x <;> rw [he]
    · exact h
    · exact h.of_leaseKept (fun h => ⟨h, rfl⟩) (.inr (.inl rfl))
  | step x =>
    show Timed ⟨w.sys.act (.step x), w.beatAt, w.readAt⟩
    obtain he | ⟨now, elapsed, -, ⟨-, he⟩ | ⟨-, he⟩⟩ := w.sys.act_step_cases x <;> rw [he]
    · exact h
    · exact h.of_leaseKept (leaseKept_setCtl _ _) (.inr (.inl rfl))
    · exact h.of_leaseKept (leaseKept_control x now elapsed _) (.inr (.inl rfl))
  | request q => exact kept _ (leaseKept_request q _ _)
  | stop => exact kept _ (leaseKept_stop _)
  | cancel | reset | poll => exact kept _ (leaseKept_setCtl _ _)
  | heartbeat enabled =>
    obtain ⟨hb, hr, hl, he, hc⟩ := h
    cases enabled with
    | true => exact ⟨le_rfl, hr, fun _ => rfl, he, hc⟩
    | false => exact ⟨hb, hr, (by rintro ⟨⟩), he, hc⟩
  | requestCalibration =>
    refine kept _ ?_
    unfold Front.requestCalibration
    split_ifs <;> exact fun h => ⟨h, rfl⟩
  | take =>
    refine kept _ ?_
    unfold Front.reportTake
    split <;> exact fun h => ⟨h, rfl⟩
  | ack r => exact kept _ (leaseKept_reportAck r _)

/-- The step that raises the timeout is the one that ends the lease. -/
theorem raisesTimeout_iff (w : Watch F D) (a : Act F) :
    w.RaisesTimeout a ↔ ∃ x, a = .step x ∧ w.sys.front.navigationLease = true ∧
      (w.act a).sys.front.navigationLease = false := by
  constructor
  · rintro ⟨now, ⟨x, elapsed, rfl, hpc, hlong, hlease⟩, hexp⟩
    refine ⟨x, rfl, hlease, ?_⟩
    simp [act, System.act, hpc, hlong, control_navigationLease, hexp]
  · rintro ⟨x, rfl, hlease, hoff⟩
    change (w.sys.act (.step x)).front.navigationLease = false at hoff
    obtain he | ⟨now, elapsed, hpc, ⟨-, he⟩ | ⟨hlong, he⟩⟩ := w.sys.act_step_cases x <;>
      rw [he] at hoff
    · cases hlease.symm.trans hoff
    · rw [Front.makeSafe, Front.setCtl_navigationLease, hlease] at hoff
      cases hoff
    · rw [control_navigationLease, hlease, Bool.true_and, Bool.not_eq_false'] at hoff
      exact ⟨now, ⟨x, elapsed, rfl, hpc, hlong, hlease⟩, hlease ▸ hoff⟩

/-- **The lease expires late**: if no lease check compares a heartbeat with a clock reading made
before it, a timeout is raised only more than the lease time after the last heartbeat. -/
theorem lease_expires_late (m : Front F D) (x : Sensors F) (encoderOk : Bool) (t : ℕ)
    (acts : List (Act F))
    (hacts : Run.Meets Watch.act BeatBeforeReading (start m x encoderOk t) acts) :
    Run.Meets Watch.act TimeoutIsLate (start m x encoderOk t) acts :=
  Run.meets_of_meets (fun w a h _ => h.act w a) (fun _ _ h hc => h.timeoutIsLate hc)
    (timed_start m x encoderOk t) hacts

def still : Sensors ℚ := ⟨⟨0, 0⟩, ⟨0, 0⟩, ⟨0, 0⟩, ⟨0, 0⟩, 1 / 10000⟩

/-- A lease that is renewed once and checked 40 ms later expires, and it is old. -/
theorem lease_expires_after_silence :
    let w : Watch ℚ ℚ := start (Front.boot still) still true 0
    let acts : List (Act ℚ) := [.heartbeat true, .tick 40000, .enter, .check, .step still]
    Run.Meets Watch.act TimeoutIsLate w acts ∧
      (acts.dropLast.foldl Watch.act w).RaisesTimeout (.step still) := by
  intro w acts
  have hacts : Run.Meets Watch.act BeatBeforeReading w acts := by
    refine ⟨?_, ?_, ?_, ?_, ?_, trivial⟩
    all_goals exact fun _ _ => by decide +kernel
  exact ⟨lease_expires_late _ _ _ _ _ hacts,
    (raisesTimeout_iff _ _).2 ⟨still, rfl, by decide +kernel, by decide +kernel⟩⟩

/-- A heartbeat between the clock reading and the lease check of one `motion_process` raises the
timeout with no time at all since the heartbeat. -/
theorem fresh_lease_expires :
    let acts : List (Act ℚ) :=
      [.heartbeat true, .tick 10000, .enter, .tick 5, .heartbeat true, .check]
    let w : Watch ℚ ℚ := acts.foldl Watch.act (start (Front.boot still) still true 0)
    w.sys.clock = 10005 ∧ w.beatAt = 10005 ∧ w.RaisesTimeout (.step still) ∧
      ¬w.TimeoutIsLate (.step still) ∧
      (w.act (.step still)).sys.front.ctl.state = .fault := by
  intro acts w
  have hclock : w.sys.clock = 10005 := by decide +kernel
  have hbeat : w.beatAt = 10005 := by decide +kernel
  have hraise : w.RaisesTimeout (.step still) :=
    (raisesTimeout_iff _ _).2 ⟨still, rfl, by decide +kernel, by decide +kernel⟩
  refine ⟨hclock, hbeat, hraise, fun h => ?_, by decide +kernel⟩
  have hlt := h hraise
  rw [hclock, hbeat] at hlt
  exact absurd hlt (by decide)

end Watch

end RoboticCar.Motion
