import RoboticCar.Lib.Clock
import RoboticCar.Motion.Frontend

/-!
# The motion subsystem at work

The motion task runs `motion_process` over and over, and other tasks call the front end at any time.
The mutex makes each block atomic, so a run is a sequence of blocks that respects the motion task's
own program order.  `System` adds the true time and the point that the motion task has reached;
`System.act` is one block.
-/

namespace RoboticCar.Motion

open Lib CFloat

/-- Where the motion task is inside `motion_process`. -/
inductive TaskPc
  /-- outside, waiting for its next period -/
  | waiting
  /-- the clock is read, no lock taken yet -/
  | entered (now elapsed : UInt32)
  /-- a calibration was taken up and runs -/
  | calibrating
  /-- no calibration was requested; the control block comes next -/
  | checked (now elapsed : UInt32)
  deriving DecidableEq

/-- The subsystem, the true time in microseconds and the motion task's place. -/
structure System (F D : Type) where
  front : Front F D
  clock : ℕ
  pc : TaskPc

/-- One atomic block, of the motion task or of another task, or the passing of time. -/
inductive Act (F : Type)
  | tick (us : ℕ)
  -- the motion task
  | enter
  | check
  | spin (w : Wheel) (duty : F)
  | finish (s : Sensors F)
  | step (s : Sensors F)
  -- other tasks
  | request (q : Request F)
  | stop
  | cancel (commandId : UInt8)
  | reset
  | poll
  | heartbeat (enabled : Bool)
  | requestCalibration
  | take
  | ack (r : MotionReport)

namespace System

variable {F D : Type} [CFloat F] [CFloat D] [CDouble F D]

def now (s : System F D) : UInt32 := Clock.reading s.clock

/-- One block.  A block of the motion task that is not next in its program changes nothing. -/
def act (s : System F D) : Act F → System F D
  | .tick us => { s with clock := s.clock + us }
  | .enter =>
    match s.pc with
    | .waiting => { s with pc := .entered s.now (s.now - s.front.lastStepUs) }
    | _ => s
  | .check =>
    match s.pc with
    | .entered now elapsed =>
      let p := s.front.calibrationTake
      { s with front := p.2, pc := if p.1 then .calibrating else .checked now elapsed }
    | _ => s
  | .spin w duty =>
    match s.pc with
    | .calibrating => { s with front := s.front.calibrationDrive w duty }
    | _ => s
  | .finish x =>
    match s.pc with
    | .calibrating => { s with front := s.front.calibrationEnd x s.now, pc := .waiting }
    | _ => s
  | .step x =>
    match s.pc with
    | .checked now elapsed =>
      { s with
        front := if elapsed < periodUs / 2 then s.front.makeSafe else s.front.control x now elapsed
        pc := .waiting }
    | _ => s
  | .request q => { s with front := (s.front.request q s.now).2 }
  | .stop => { s with front := s.front.stop }
  | .cancel id => { s with front := (s.front.cancel id).2 }
  | .reset => { s with front := s.front.reset.2 }
  | .poll => { s with front := s.front.poll.2 }
  | .heartbeat enabled => { s with front := s.front.navigationHeartbeat enabled s.now }
  | .requestCalibration => { s with front := s.front.requestCalibration.2 }
  | .take => { s with front := s.front.reportTake.2 }
  | .ack r => { s with front := s.front.reportAck r }

/-- The front end right after a requested calibration was taken up. -/
def taken (m : Front F D) : Front F D :=
  { m with
    calRequest := false
    calRunning := true
    valid := false
    ctl := motionControllerSetBusy true m.ctl }

theorem act_check_cases (s : System F D) :
    s.act .check = s ∨ ∃ now elapsed, s.pc = .entered now elapsed ∧
      ((s.front.calRequest ∧
          s.act .check = ⟨taken s.front, s.clock, .calibrating⟩) ∨
        (s.front.calRequest = false ∧
          s.act .check = ⟨s.front, s.clock, .checked now elapsed⟩)) := by
  cases hpc : s.pc with
  | entered now elapsed =>
    refine .inr ⟨now, elapsed, rfl, ?_⟩
    cases hr : s.front.calRequest with
    | true => exact .inl ⟨rfl, by simp [act, hpc, Front.calibrationTake, hr, taken]⟩
    | false => exact .inr ⟨rfl, by simp [act, hpc, Front.calibrationTake, hr]⟩
  | _ => exact .inl (by simp only [act, hpc])

theorem act_spin_cases (s : System F D) (w : Wheel) (duty : F) :
    s.act (.spin w duty) = s ∨ (s.pc = .calibrating ∧
      s.act (.spin w duty) = ⟨s.front.calibrationDrive w duty, s.clock, .calibrating⟩) := by
  cases hpc : s.pc with
  | calibrating => exact .inr ⟨rfl, by simp [act, hpc]⟩
  | _ => exact .inl (by simp only [act, hpc])

theorem act_finish_cases (s : System F D) (x : Sensors F) :
    s.act (.finish x) = s ∨ (s.pc = .calibrating ∧
      s.act (.finish x) = ⟨s.front.calibrationEnd x s.now, s.clock, .waiting⟩) := by
  cases hpc : s.pc with
  | calibrating => exact .inr ⟨rfl, by simp [act, hpc]⟩
  | _ => exact .inl (by simp only [act, hpc])

theorem act_step_cases (s : System F D) (x : Sensors F) :
    s.act (.step x) = s ∨ ∃ now elapsed, s.pc = .checked now elapsed ∧
      ((elapsed < periodUs / 2 ∧ s.act (.step x) = ⟨s.front.makeSafe, s.clock, .waiting⟩) ∨
        (¬elapsed < periodUs / 2 ∧
          s.act (.step x) = ⟨s.front.control x now elapsed, s.clock, .waiting⟩)) := by
  cases hpc : s.pc with
  | checked now elapsed =>
    refine .inr ⟨now, elapsed, rfl, ?_⟩
    by_cases he : elapsed < periodUs / 2
    · exact .inl ⟨he, by simp [act, hpc, he]⟩
    · exact .inr ⟨he, by simp [act, hpc, he]⟩
  | _ => exact .inl (by simp only [act, hpc])

/-- The subsystem once `motion_init` has run at true time `t`. -/
def init (m : Front F D) (x : Sensors F) (encoderOk : Bool) (t : ℕ) : System F D :=
  ⟨m.init x encoderOk (Clock.reading t), t, .waiting⟩

end System

end RoboticCar.Motion
