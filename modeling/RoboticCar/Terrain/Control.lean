import RoboticCar.Drive.Machine
import RoboticCar.Terrain.Imu

/-!
# The controller's watch over the terrain

In every cycle the controller polls subsystem 4 and, during a run, faults the drive on an impact or
a fault, on lost events, on a snapshot of another run and without a healthy sample in time.  The
parts of a poll are critical sections of their own.

`impact_faults_drive`: an impact is not lost.  It leaves an event in the ring or the lost flag
(`Traced`), and a poll that begins with a trace is ahead of the ring (`Ahead`).
-/

namespace RoboticCar.Terrain

open Lib CFloat Motion Driving Navigation Prog

variable {F D : Type} {B : BarcodeReaders}

/-- `TERRAIN_MAX_AGE_US`. -/
def maxAgeUs : UInt32 := 150000

/-- `TERRAIN_RESET_WAIT_US`. -/
def resetWaitUs : UInt32 := 500000

/-- `TERRAIN_EVENT_BUDGET`. -/
def eventBudget : ℕ := 8

/-- `terrain_control_t` and `impact_seen`, without what only the reports use. -/
structure Control (F : Type) where
  sample : TerrainResult F
  now : UInt32
  resetUs : UInt32
  run : UInt16
  expectedRun : UInt16
  humps : UInt16
  held : Bool
  waiting : Bool
  latched : Bool
  runOwned : Bool
  impactSeen : Bool

def TerrainResult.hits (r : TerrainResult F) : Bool := r.impact || decide (r.state = .impact)

namespace Control

/-- `terrain_control_init`. -/
def init [CFloat F] : Control F :=
  ⟨.zero, 0, 0, 0, 0, 0, false, false, false, false, false⟩

def healthy (c : Control F) (now : UInt32) : Bool :=
  c.held && decide (now - c.sample.timestampUs ≤ maxAgeUs) && c.sample.flags.calibrated &&
    !c.sample.flags.fault && !c.sample.impact && decide (c.sample.state ≠ .impact)

/-- `terrain_control_ready`. -/
def ready (c : Control F) (now : UInt32) : Bool := !c.latched && !c.waiting && c.healthy now

/-- `terrain_control_clear_fault`. -/
def clearFault (c : Control F) : Control F := { c with latched := false }

/-- `terrain_control_begin` once the run has the token `token`. -/
def begin (c : Control F) (now : UInt32) (token : UInt16) : Control F :=
  { c with
    expectedRun := token, resetUs := now, waiting := true, held := false, runOwned := true }

/-- What a poll does with the snapshot it read, and whether it is of a wrong run. -/
def take (c : Control F) (running : Bool) (sample : TerrainResult F) (run humps : UInt16) :
    Control F × Bool :=
  if running && c.runOwned && decide (run ≠ c.expectedRun) then (c, true)
  else
    ({ c with
      sample := sample, run := run, humps := humps, held := true
      impactSeen := c.impactSeen || sample.hits
      waiting := c.waiting && !decide (run = c.expectedRun) }, false)

/-- How a poll ends: a run whose reset is not through is held, and what is wrong faults the drive.
-/
def finish [CFloat D] (s5 : Bool) (c : Control F) (d : Drive F D B) (running eventFault : Bool) :
    DriveM F (Control F × Drive F D B) :=
  if !running then pure (c, d)
  else if c.waiting && decide (c.now - c.resetUs ≤ resetWaitUs) && !eventFault then
    pure (c, { d with externalHold := true })
  else if eventFault || c.waiting || !c.healthy c.now then do
    let d ← d.terrainFault s5
    pure ({ c with latched := true, waiting := false }, d)
  else pure (c, d)

end Control

/-! ## The car between two steps -/

/-- Where a poll is: before it reads the snapshot, after some event calls, or after the last. -/
inductive PollPc
  | reading
  | draining (calls : ℕ)
  | drained
  deriving DecidableEq

def PollPc.left : PollPc → ℕ
  | .reading => eventBudget
  | .draining calls => eventBudget - calls
  | .drained => 0

/-- A poll under way: an event call missed the lock; an impact had been published when it began. -/
structure Poll where
  running : Bool
  eventFault : Bool
  pc : PollPc
  blocked : Bool
  due : Bool
  deriving DecidableEq

/-- Subsystem 4, the controller's side and the drive, and whether the run has published an impact.
-/
structure Car (M : MonitorOps F D) (B : BarcodeReaders) where
  imu : Imu M
  control : Control F
  drive : Drive F D B
  poll : Option Poll
  impact : Bool

/-- What happens next.  A poll is one task's, so the other calls of the owner find it idle. -/
inductive CarAct (F D : Type)
  | imu (a : ImuAct F D)
  | drive (a : Made F D)
  | start
  | clearFault
  | pollBegin (now : UInt32)
  | pollRead
  | pollEvent
  | pollBlocked
  | pollEnd

namespace Car

variable [CFloat F] {M : MonitorOps F D}

def boot (d : Drive F D B) : Car M B := ⟨.boot, .init, d, none, false⟩

/-- A run is requested: what was published before does not count for it. -/
def newRun (c : Car M B) : Car M B :=
  { c with impact := false, poll := c.poll.map fun p => { p with due := false } }

def imuAct [CMath F] (c : Car M B) (a : ImuAct F D) : Car M B :=
  let c' := { c with imu := c.imu.act a }
  match a with
  | .publish =>
    if c.imu.pc = .processed ∧ c.imu.shared.reset = false ∧ (M.result c.imu.monitor).impact then
      { c' with impact := true }
    else c'
  | .requestReset _ => if c.imu.shared.reset then c' else c'.newRun
  | _ => c'

/-- The beginning of `terrain_control_poll`. -/
def pollBegin (c : Car M B) (now : UInt32) : Car M B :=
  let running := c.drive.running
  { c with
    control := { c.control with now := now, waiting := c.control.waiting && running }
    drive := { c.drive with externalHold := false }
    poll := some ⟨running, false, .reading, false, c.impact⟩ }

/-- The poll `p` has read the snapshot, or could not. -/
def pollRead (c : Car M B) (p : Poll) (r : Option (TerrainResult F × UInt16 × UInt16)) : Car M B :=
  match r with
  | none => { c with poll := some { p with pc := .draining 0 } }
  | some (sample, run, humps) =>
    let (control, wrong) := c.control.take p.running sample run humps
    { c with
      control := control
      poll := some { p with pc := .draining 0, eventFault := p.eventFault || wrong } }

/-- The poll `p` takes its next event. -/
def pollEvent (c : Car M B) (p : Poll) (calls : ℕ) : Car M B :=
  match c.imu.shared.event with
  | (none, _) => { c with poll := some { p with pc := .drained } }
  | (some (event, lost), shared) =>
    { c with
      imu := { c.imu with shared := shared }
      control := { c.control with impactSeen := c.control.impactSeen || event.hits }
      poll := some { p with
        pc := .draining (calls + 1)
        eventFault := p.eventFault || (lost || event.hits || event.flags.fault) } }

variable [CFloat D] [CDouble F D] [CMath F]

/-- One step of the car.  A start requests a run of subsystem 4, and is taken back if that fails. -/
inductive Step (s5 : Bool) (c : Car M B) : CarAct F D → Car M B → Prop
  | imu {a : ImuAct F D} (h : a ≠ .event) : Step s5 c (.imu a) (c.imuAct a)
  | drive {a : Made F D} {d : Drive F D B} (hidle : c.poll = none)
      (hop : ∀ now, a.op = .start now → a.ok = false) (h : Driving.Step s5 c.drive a d) :
      Step s5 c (.drive a) { c with drive := d }
  | started {now : UInt32} {calls : List (Event F)} {d : Drive F D B} (hidle : c.poll = none)
      (h : Driving.Step s5 c.drive ⟨.start now, calls, true⟩ d)
      (hready : c.control.ready now = true) (hfree : c.imu.shared.reset = false) :
      Step s5 c .start { c.imuAct (.requestReset false) with
        drive := d, control := c.control.begin now (c.imu.shared.run + 1) }
  | undone {now : UInt32} {calls calls' : List (Event F)} {ok : Bool} {d d' : Drive F D B}
      (hidle : c.poll = none) (h : Driving.Step s5 c.drive ⟨.start now, calls, true⟩ d)
      (h' : Driving.Step s5 d ⟨.stop, calls', ok⟩ d') : Step s5 c .start { c with drive := d' }
  | clearFault (hidle : c.poll = none) :
      Step s5 c .clearFault { c with control := c.control.clearFault }
  | pollBegin {now : UInt32} (hidle : c.poll = none) : Step s5 c (.pollBegin now) (c.pollBegin now)
  | pollRead {p : Poll} {r : Option (TerrainResult F × UInt16 × UInt16)} (hp : c.poll = some p)
      (hpc : p.pc = .reading) (hr : r = none ∨ ∃ now, r = c.imu.shared.read now) :
      Step s5 c .pollRead (c.pollRead p r)
  | pollEvent {p : Poll} {calls : ℕ} (hp : c.poll = some p) (hpc : p.pc = .draining calls)
      (hcalls : calls < eventBudget) : Step s5 c .pollEvent (c.pollEvent p calls)
  | pollBlocked {p : Poll} {calls : ℕ} (hp : c.poll = some p) (hpc : p.pc = .draining calls) :
      Step s5 c .pollBlocked { c with poll := some { p with pc := .drained, blocked := true } }
  | pollEnd {p : Poll} {t : List (Event F)} {control : Control F} {d : Drive F D B}
      (hp : c.poll = some p) (hpc : p.pc.left = 0)
      (h : (c.control.finish s5 c.drive p.running p.eventFault).Yields t (control, d)) :
      Step s5 c .pollEnd { c with control := control, drive := d, poll := none }

end Car

/-! ## What an impact leaves behind -/

namespace Shared

variable [CFloat F]

/-- The next `k` events show an impact, or that events were lost. -/
def Trace (s : Shared F) (k : ℕ) : Prop :=
  s.lost = true ∧ 0 < k ∨
    ∃ i packet, i < k ∧ s.events[i]? = some packet ∧
      (terrainUnpack packet : TerrainResult F).hits = true

theorem not_trace_zero (s : Shared F) : ¬s.Trace 0 := by
  rintro (⟨-, h⟩ | ⟨i, -, h, -⟩)
  · exact absurd h (lt_irrefl 0)
  · exact absurd h (Nat.not_lt_zero i)

variable {s : Shared F}

theorem Trace.mono {k l : ℕ} (h : s.Trace k) (hkl : k ≤ l) : s.Trace l := by
  rcases h with ⟨hlost, hk⟩ | ⟨i, packet, hi, hat⟩
  · exact .inl ⟨hlost, by omega⟩
  · exact .inr ⟨i, packet, by omega, hat⟩

/-- A ring that lost events is not empty. -/
structure Ring (s : Shared F) : Prop where
  fits : s.events.length ≤ eventQueueLen
  lost : s.lost = true → s.events ≠ []

omit [CFloat F] in
theorem Ring.pushEvent (h : s.Ring) (packet : TerrainPacket) : (s.pushEvent packet).Ring := by
  have hfits := h.fits
  rw [Shared.pushEvent]
  split_ifs with hfull
  · exact ⟨by simp [hfull, eventQueueLen], fun _ => by simp⟩
  · exact ⟨by simp; omega, fun _ => by simp⟩

theorem Trace.pushEvent {k : ℕ} (h : s.Trace k) (packet : TerrainPacket) :
    (s.pushEvent packet).Trace k := by
  rw [Shared.pushEvent]
  rcases h with ⟨hlost, hk⟩ | ⟨i, event, hi, hat, hhits⟩
  · split_ifs
    · exact .inl ⟨rfl, hk⟩
    · exact .inl ⟨hlost, hk⟩
  · have hlt : i < s.events.length := (List.getElem?_eq_some_iff.1 hat).1
    split_ifs with hfull
    · exact .inl ⟨rfl, by omega⟩
    · exact .inr ⟨i, event, hi, by rwa [List.getElem?_append_left hlt], hhits⟩

theorem trace_pushEvent (h : s.Ring) {packet : TerrainPacket}
    (hhits : (terrainUnpack packet : TerrainResult F).hits = true) :
    (s.pushEvent packet).Trace eventQueueLen := by
  have hfits := h.fits
  rw [Shared.pushEvent]
  split_ifs with hfull
  · exact .inl ⟨rfl, by decide⟩
  · exact .inr ⟨s.events.length, packet, by omega, by simp, hhits⟩

theorem Trace.event {k : ℕ} (h : s.Trace k) (hr : s.Ring) :
    ∃ event lost s', s.event = (some (event, lost), s') ∧
      ((lost || event.hits) ∨ s'.Trace (k - 1)) := by
  cases hq : s.events with
  | nil =>
    rcases h with ⟨hlost, -⟩ | ⟨i, packet, -, hat, -⟩
    · exact absurd hq (hr.lost hlost)
    · rw [hq] at hat
      exact absurd hat (by simp)
  | cons packet =>
    refine ⟨_, _, _, by rw [Shared.event, hq], ?_⟩
    rcases h with ⟨hlost, -⟩ | ⟨i, event, hi, hat, hhits⟩
    · exact .inl (by rw [hlost]; rfl)
    · rw [hq] at hat
      cases i with
      | zero =>
        obtain rfl : packet = event := by simpa using hat
        exact .inl (by rw [hhits, Bool.or_true])
      | succ i => exact .inr (.inr ⟨i, event, by omega, by simpa using hat, hhits⟩)

omit [CFloat F] in
theorem Ring.of_queue {s' : Shared F} (h : s.Ring) (he : s'.events = s.events)
    (hl : s'.lost = s.lost) : s'.Ring :=
  ⟨he ▸ h.fits, he ▸ hl ▸ h.lost⟩

theorem Trace.of_queue {s' : Shared F} {k : ℕ} (h : s.Trace k) (he : s'.events = s.events)
    (hl : s'.lost = s.lost) : s'.Trace k := by
  rw [Trace, he, hl]
  exact h

theorem Ring.event (h : s.Ring) : s.event.2.Ring := by
  have hfits := h.fits
  cases hq : s.events with
  | nil =>
    rw [Shared.event, hq]
    exact h
  | cons =>
    rw [hq, List.length_cons] at hfits
    rw [Shared.event, hq]
    exact ⟨Nat.le_of_succ_le hfits, (by simp)⟩

section Publish

variable [CMath F]

theorem publish_queue (s : Shared F) (r : TerrainResult F) :
    (s.publish r).reset = s.reset ∧
      (∃ s', (s' = s ∨ s' = s.pushEvent (terrainPack r)) ∧ (s.publish r).events = s'.events ∧
        (s.publish r).lost = s'.lost) := by
  cases hr : s.reset with
  | true =>
    rw [publish_of_reset hr]
    exact ⟨hr, s, .inl rfl, rfl, rfl⟩
  | false =>
    have hp := publish_published hr r
    refine ⟨hp.reset, ?_⟩
    have hq := hp.queue
    split_ifs at hq
    · exact ⟨_, .inr rfl, congrArg Prod.fst hq, congrArg Prod.snd hq⟩
    · exact ⟨_, .inl rfl, congrArg Prod.fst hq, congrArg Prod.snd hq⟩

theorem Ring.publish {s : Shared F} (h : s.Ring) (r : TerrainResult F) : (s.publish r).Ring := by
  obtain ⟨-, s', rfl | rfl, he, hl⟩ := s.publish_queue r
  · exact h.of_queue he hl
  · exact (h.pushEvent _).of_queue he hl

theorem Trace.publish {s : Shared F} {k : ℕ} (h : s.Trace k) (r : TerrainResult F) :
    (s.publish r).Trace k := by
  obtain ⟨-, s', rfl | rfl, he, hl⟩ := s.publish_queue r
  · exact h.of_queue he hl
  · exact (h.pushEvent _).of_queue he hl

/-- A published impact leaves a trace. -/
theorem trace_publish {s : Shared F} (h : s.Ring) (hr : s.reset = false) {r : TerrainResult F}
    (hi : r.impact) : (s.publish r).Trace eventQueueLen := by
  have hevent : s.isEvent r := by simp [isEvent, hi]
  have hhits : (terrainUnpack (terrainPack r) : TerrainResult F).hits = true := by
    rw [TerrainResult.hits, (terrainUnpack_terrainPack r).impact, hi, Bool.true_or]
  have hq := (publish_published hr r).queue
  rw [if_pos hevent] at hq
  exact (trace_pushEvent h hhits).of_queue (congrArg Prod.fst hq) (congrArg Prod.snd hq)

end Publish

end Shared

/-! ## The invariant -/

namespace Car

variable [CFloat F] {M : MonitorOps F D}

/-- An impact that was published still shows: a poll has seen it, or the ring has its trace. -/
def Traced (c : Car M B) : Prop :=
  (∃ p, c.poll = some p ∧ p.eventFault = true) ∨ c.imu.shared.Trace eventQueueLen

/-- A poll has seen the trace of an impact, or will meet it within the calls it has left. -/
def Ahead (c : Car M B) (p : Poll) : Prop :=
  p.eventFault = true ∨ c.imu.shared.Trace p.pc.left

/-- What every step keeps. -/
structure Good (s5 : Bool) (c : Car M B) : Prop where
  drive : Inv s5 c.drive
  ring : c.imu.shared.Ring
  polling : ∀ p, c.poll = some p → p.running = c.drive.running
  resetting : c.imu.shared.reset = true → c.impact = false ∧ ∀ p, c.poll = some p → p.due = false
  traced : c.drive.running = true → c.impact = true → c.Traced
  ahead : ∀ p, c.poll = some p → p.running = true → p.due = true → p.blocked = false → c.Ahead p

variable {s5 : Bool} {c : Car M B}

theorem Good.of_queue (h : c.Good s5) (imu : Imu M)
    (he : imu.shared.events = c.imu.shared.events) (hl : imu.shared.lost = c.imu.shared.lost)
    (hr : imu.shared.reset = c.imu.shared.reset) : ({ c with imu := imu } : Car M B).Good s5 :=
  ⟨h.drive, h.ring.of_queue he hl, h.polling, hr ▸ h.resetting,
    fun hd hi => (h.traced hd hi).imp id (·.of_queue he hl),
    fun p hp hrun hd hb => (h.ahead p hp hrun hd hb).imp id (·.of_queue he hl)⟩

section Imu

variable [CMath F]

theorem Good.handle (h : c.Good s5) : (c.imuAct .handle).Good s5 := by
  have hmag (s : Imu M) : s.takeMagnetic.shared.events = s.shared.events ∧
      s.takeMagnetic.shared.lost = s.shared.lost ∧
      s.takeMagnetic.shared.reset = s.shared.reset := by
    rw [Imu.takeMagnetic]
    split_ifs <;> exact ⟨rfl, rfl, rfl⟩
  obtain ⟨he, hl, hr⟩ := hmag c.imu.performReset
  simp only [imuAct, Imu.act]
  split_ifs with hpc
  · by_cases hreset : c.imu.shared.reset
    · obtain ⟨hno, hdue⟩ := h.resetting hreset
      have hdone : ({ c with imu := { c.imu.performReset with pc := .handled } } : Car M B).Good
          s5 := by
        simp only [Imu.performReset, if_pos hreset]
        refine ⟨h.drive, ⟨Nat.zero_le _, (by simp)⟩, h.polling, (by simp), ?_, ?_⟩
        · exact fun _ hi => absurd (hno.symm.trans hi) (by simp)
        · exact fun p hp _ hd _ => absurd ((hdue p hp).symm.trans hd) (by simp)
      exact hdone.of_queue _ he hl hr
    · have hsame : c.imu.performReset = c.imu := by rw [Imu.performReset, if_neg hreset]
      rw [hsame] at he hl hr ⊢
      exact h.of_queue _ he hl hr
  · exact h

theorem Good.publish (h : c.Good s5) : (c.imuAct .publish).Good s5 := by
  by_cases hpc : c.imu.pc = .processed
  · have hreset := (c.imu.shared.publish_queue (M.result c.imu.monitor)).1
    have hkept : ({ c with imu := c.imu.act .publish } : Car M B).Good s5 := by
      simp only [Imu.act, if_pos hpc]
      exact ⟨h.drive, h.ring.publish _, h.polling, hreset ▸ h.resetting,
        fun hd hi => (h.traced hd hi).imp id (·.publish _),
        fun p hp hrun hd hb => (h.ahead p hp hrun hd hb).imp id (·.publish _)⟩
    simp only [imuAct]
    split_ifs with himpact
    · obtain ⟨-, hoff, hi⟩ := himpact
      have htrace : (c.imu.act .publish).shared.Trace eventQueueLen := by
        simp only [Imu.act, if_pos hpc]
        exact Shared.trace_publish h.ring hoff hi
      refine ⟨hkept.drive, hkept.ring, hkept.polling, fun hr => ?_, fun _ _ => .inr htrace,
        hkept.ahead⟩
      simp only [Imu.act, if_pos hpc, hreset, hoff] at hr
      exact absurd hr (by simp)
    · exact hkept
  · simp only [imuAct, Imu.act, if_neg hpc, if_neg (fun hc => hpc (And.left hc))]
    exact h

theorem Good.requestReset (h : c.Good s5) (recalibrate : Bool) :
    (c.imuAct (.requestReset recalibrate)).Good s5 := by
  by_cases hreset : c.imu.shared.reset
  · simp only [imuAct, Imu.act, Shared.requestReset, if_pos hreset]
    exact h
  · simp only [imuAct, Imu.act, Shared.requestReset, if_neg hreset, newRun]
    refine ⟨h.drive, ⟨Nat.zero_le _, (by simp)⟩, ?_, fun _ => ⟨rfl, ?_⟩, (by simp), ?_⟩
    · intro p hp
      obtain ⟨q, hq, rfl⟩ := Option.map_eq_some_iff.1 hp
      exact h.polling q hq
    · intro p hp
      obtain ⟨q, hq, rfl⟩ := Option.map_eq_some_iff.1 hp
      rfl
    · intro p hp _ hd
      obtain ⟨q, hq, rfl⟩ := Option.map_eq_some_iff.1 hp
      exact absurd hd (by simp)

theorem Good.imuAct (h : c.Good s5) : ∀ a : ImuAct F D, a ≠ .event → (c.imuAct a).Good s5
  | .handle, _ => h.handle
  | .process sample odometry, _ => by
    simp only [Car.imuAct, Imu.act]
    split_ifs
    · exact h.of_queue _ rfl rfl rfl
    · exact h
  | .publish, _ => h.publish
  | .pass, _ => h.of_queue _ rfl rfl rfl
  | .requestReset recalibrate, _ => h.requestReset recalibrate
  | .event, hne => absurd rfl hne
  | .setMagneticCalibration offset scale, _ => by
    simp only [Car.imuAct, Imu.act, Shared.setMagneticCalibration]
    split_ifs <;> exact h.of_queue _ rfl rfl rfl

end Imu

section Polls

theorem Good.idle_trace (h : c.Good s5) (hidle : c.poll = none) (hrun : c.drive.running)
    (hi : c.impact) : c.imu.shared.Trace eventQueueLen := by
  rcases h.traced hrun hi with ⟨p, hp, -⟩ | htrace
  · cases hidle.symm.trans hp
  · exact htrace

theorem Good.pollBegin (h : c.Good s5) (hidle : c.poll = none) (now : UInt32) :
    (c.pollBegin now).Good s5 := by
  have hd := h.drive
  refine ⟨{ hd with }, h.ring, ?_, fun hr => ⟨(h.resetting hr).1, ?_⟩, ?_, ?_⟩
  · rintro p ⟨⟩
    rfl
  · rintro p ⟨⟩
    exact (h.resetting hr).1
  · exact fun hrun hi => .inr (h.idle_trace hidle hrun hi)
  · rintro p ⟨⟩ hrun hdue -
    exact .inr (h.idle_trace hidle hrun hdue)

/-- A step of a poll keeps the invariant if it forgets nothing of what it has seen and passes
over nothing that shows. -/
theorem Good.of_poll (h : c.Good s5) {p q : Poll} (hp : c.poll = some p) (imu : Imu M)
    (hring : imu.shared.Ring) (hreset : imu.shared.reset = c.imu.shared.reset)
    (hrun : q.running = p.running) (hdue : q.due = p.due)
    (hblocked : q.blocked = false → p.blocked = false)
    (hseen : p.eventFault → q.eventFault)
    (hshows : c.imu.shared.Trace eventQueueLen →
      q.eventFault ∨ imu.shared.Trace eventQueueLen)
    (hmeets : q.blocked = false → c.imu.shared.Trace p.pc.left →
      q.eventFault ∨ imu.shared.Trace q.pc.left)
    (control : Control F) :
    ({ c with imu := imu, control := control, poll := some q } : Car M B).Good s5 := by
  refine ⟨h.drive, hring, ?_, fun hr => ?_, fun hd hi => ?_, ?_⟩
  · rintro _ ⟨⟩
    exact hrun.trans (h.polling p hp)
  · obtain ⟨hno, hold⟩ := h.resetting (hreset ▸ hr)
    refine ⟨hno, ?_⟩
    rintro _ ⟨⟩
    exact hdue.trans (hold p hp)
  · rcases h.traced hd hi with ⟨p', hp', hfault⟩ | htrace
    · obtain rfl : p = p' := Option.some.inj (hp.symm.trans hp')
      exact .inl ⟨q, rfl, hseen hfault⟩
    · exact (hshows htrace).imp (fun hf => ⟨q, rfl, hf⟩) id
  · rintro _ ⟨⟩ hr hd hb
    rcases h.ahead p hp (hrun ▸ hr) (hdue ▸ hd) (hblocked hb) with hfault | htrace
    · exact .inl (hseen hfault)
    · exact hmeets hb htrace

theorem Good.pollRead (h : c.Good s5) {p : Poll} (hp : c.poll = some p) (hpc : p.pc = .reading)
    (r : Option (TerrainResult F × UInt16 × UInt16)) : (c.pollRead p r).Good s5 := by
  have hmeets (ht : c.imu.shared.Trace p.pc.left) : c.imu.shared.Trace eventBudget := by
    rwa [hpc] at ht
  cases r with
  | none =>
    exact h.of_poll (q := { p with pc := .draining 0 }) hp c.imu h.ring rfl rfl rfl id id .inr
      (fun _ ht => .inr (hmeets ht)) c.control
  | some r =>
    obtain ⟨sample, run, humps⟩ := r
    refine h.of_poll (q := { p with pc := .draining 0, eventFault := p.eventFault || _ }) hp c.imu
      h.ring rfl rfl rfl id (fun hf => ?_) .inr (fun _ ht => .inr (hmeets ht)) _
    exact Bool.or_eq_true_iff.2 (.inl hf)

theorem Good.pollEvent (h : c.Good s5) {p : Poll} (hp : c.poll = some p) {calls : ℕ}
    (hpc : p.pc = .draining calls) : (c.pollEvent p calls).Good s5 := by
  have hring := h.ring.event
  cases hq : c.imu.shared.events with
  | nil =>
    have hevent : c.imu.shared.event = (none, c.imu.shared) := by rw [Shared.event, hq]
    simp only [Car.pollEvent, hevent]
    refine h.of_poll (q := { p with pc := .drained }) hp c.imu h.ring rfl rfl rfl id id .inr
      (fun _ ht => ?_) c.control
    obtain ⟨event, lost, s', he, -⟩ := ht.event h.ring
    cases hevent.symm.trans he
  | cons packet =>
    have htake {k : ℕ} (ht : c.imu.shared.Trace k) :
        (c.imu.shared.lost || (terrainUnpack packet : TerrainResult F).hits) = true ∨
          c.imu.shared.event.2.Trace (k - 1) := by
      obtain ⟨event, lost, s', he, hcase⟩ := ht.event h.ring
      rw [he]
      rw [Shared.event, hq] at he
      cases he
      exact hcase
    have hfault {b : Bool}
        (hb : (c.imu.shared.lost || (terrainUnpack packet : TerrainResult F).hits) = true) :
        (b || (c.imu.shared.lost || (terrainUnpack packet : TerrainResult F).hits ||
          (terrainUnpack packet : TerrainResult F).flags.fault)) = true := by
      rw [hb, Bool.true_or, Bool.or_true]
    simp only [Shared.event, hq] at htake hring
    simp only [Car.pollEvent, Shared.event, hq]
    refine h.of_poll
      (q := { p with pc := .draining (calls + 1), eventFault := p.eventFault || _ }) hp
      { c.imu with shared := _ } hring rfl rfl rfl id (fun hf => Bool.or_eq_true_iff.2 (.inl hf))
      (fun ht => ?_) (fun _ ht => ?_) _
    · exact (htake ht).imp hfault fun ht' => ht'.mono (Nat.sub_le _ _)
    · rw [hpc] at ht
      exact (htake ht).imp hfault id

theorem Good.pollBlocked (h : c.Good s5) {p : Poll} (hp : c.poll = some p) :
    ({ c with poll := some { p with pc := .drained, blocked := true } } : Car M B).Good s5 :=
  h.of_poll (q := { p with pc := .drained, blocked := true }) hp c.imu h.ring rfl rfl rfl
    nofun id .inr nofun c.control

end Polls

section Drive

variable [CFloat D]

variable {d : Drive F D B}

omit [CFloat F] in
theorem finish_ensures {control : Control F} (h : Inv s5 d) {running eventFault : Bool}
    (hrun : running = d.running) :
    (control.finish s5 d running eventFault).Ensures fun _ r =>
      Inv s5 r.2 ∧ (r.2.running → running ∧ eventFault = false) ∧
        (running → eventFault → r.1.latched ∧ r.2.state = .fault) := by
  rw [Control.finish]
  cases running with
  | false =>
    rw [if_pos (show (!false) = true from rfl)]
    refine ensures_pure.2 ⟨h, fun hr => ?_, nofun⟩
    exact absurd (hrun.trans hr) nofun
  | true =>
    rw [if_neg (by decide)]
    by_cases hhold : (control.waiting && decide (control.now - control.resetUs ≤ resetWaitUs) &&
        !eventFault) = true
    · rw [if_pos hhold]
      have hquiet : eventFault = false := by simpa using (Bool.and_eq_true_iff.1 hhold).2
      refine ensures_pure.2 ⟨{ h with }, fun _ => ⟨rfl, hquiet⟩, fun _ hf => ?_⟩
      cases hquiet.symm.trans hf
    · rw [if_neg hhold]
      by_cases hbad : (eventFault || control.waiting || !control.healthy control.now)
      · rw [if_pos hbad, ensures_bind]
        refine (Drive.terrainFault_ensures h.detourOff).mono fun t d' hd => ensures_pure.2 ?_
        rcases hd with ⟨hoff, -⟩ | ⟨-, hh⟩
        · cases hoff.symm.trans h.configured
        · have hstate : d'.state = .fault := congrArg Core.state hh.core
          refine ⟨.of_halted hh rfl (fun _ => rfl) h.configured h.navConfigured, fun hr => ?_,
            fun _ _ => ⟨rfl, hstate⟩⟩
          rw [Drive.running, hstate] at hr
          exact absurd hr (by decide)
      · rw [if_neg hbad]
        have hquiet : eventFault = false := by
          cases eventFault with
          | false => rfl
          | true => exact absurd rfl hbad
        refine ensures_pure.2 ⟨h, fun _ => ⟨rfl, hquiet⟩, fun _ hf => ?_⟩
        cases hquiet.symm.trans hf

omit [CFloat D] in
theorem Good.of_drive (h : c.Good s5) (hd : Inv s5 d) (hidle : c.poll = none)
    (hrun : d.running → c.drive.running) :
    ({ c with drive := d } : Car M B).Good s5 := by
  refine ⟨hd, h.ring, fun p hp => absurd (hidle.symm.trans hp) nofun, h.resetting, ?_, h.ahead⟩
  exact fun hr hi => .inr (h.idle_trace hidle (hrun hr) hi)

variable [CDouble F D] [CMath F]

/-- Every act keeps the car good. -/
theorem Good.step (h : c.Good s5) {a : CarAct F D} {c' : Car M B} (hstep : Step s5 c a c') :
    c'.Good s5 := by
  cases hstep with
  | imu hne => exact h.imuAct _ hne
  | drive hidle hop hd =>
    exact h.of_drive (h.drive.step hd) hidle (hd.was_running h.drive hop)
  | @started now calls d hidle hd _ hfree =>
    have hno : ¬c.imu.shared.reset = true := by simp [hfree]
    simp only [Car.imuAct, Imu.act, Shared.requestReset, if_neg hno, newRun, hidle, Option.map_none]
    exact ⟨h.drive.step hd, ⟨Nat.zero_le _, (by simp)⟩, (by simp), fun _ => ⟨rfl, (by simp)⟩,
      (by simp), (by simp)⟩
  | undone hidle hd hd' =>
    have hoff := hd'.not_running_of_stop (h.drive.step hd) rfl
    refine h.of_drive ((h.drive.step hd).step hd') hidle fun hr => ?_
    cases hoff.symm.trans hr
  | clearFault => exact { h with }
  | pollBegin hidle => exact h.pollBegin hidle _
  | pollRead hp hpc => exact h.pollRead hp hpc _
  | pollEvent hp hpc => exact h.pollEvent hp hpc
  | pollBlocked hp => exact h.pollBlocked hp
  | @pollEnd p t control d hp hpc hy =>
    obtain ⟨hinv, hquiet, -⟩ := finish_ensures h.drive (h.polling p hp) _ _ hy
    refine ⟨hinv, h.ring, (by simp), fun hr => ⟨(h.resetting hr).1, (by simp)⟩, fun hrun hi => ?_,
      (by simp)⟩
    obtain ⟨hwas, hnone⟩ := hquiet hrun
    rcases h.traced ((h.polling p hp).symm.trans hwas) hi with ⟨q, hq, hfault⟩ | htrace
    · obtain rfl : p = q := Option.some.inj (hp.symm.trans hq)
      cases hnone.symm.trans hfault
    · exact .inr htrace

omit [CDouble F D] [CMath F] in
theorem good_boot {config : NavConfig F D} (h : Drive.init config = some d) :
    (boot d : Car M B).Good s5 :=
  ⟨Inv.init h s5, ⟨Nat.zero_le _, nofun⟩, nofun, nofun, fun _ hi => absurd hi nofun, nofun⟩

/-- **No impact is lost.**  A poll of a running drive that got the lock for all its event calls,
after an impact of the run was published, latches the terrain fault and leaves the drive in `FAULT`.
-/
theorem impact_faults_drive {config : NavConfig F D} {d : Drive F D B}
    (hinit : Drive.init config = some d) {acts : List (CarAct F D)} {c c' : Car M B} {p : Poll}
    (hpath : Run.Path (Step s5) (boot d) acts c) (hp : c.poll = some p)
    (hrun : p.running = true) (hdue : p.due = true) (hdrained : p.blocked = false)
    (hend : Step s5 c .pollEnd c') : c'.control.latched = true ∧ c'.drive.state = .fault := by
  have hgood : c.Good s5 :=
    hpath.invariant (fun _ _ _ h hstep => h.step hstep) (good_boot hinit)
  cases hend with
  | @pollEnd q t control e hq hpc hy =>
    obtain rfl : p = q := Option.some.inj (hp.symm.trans hq)
    have hseen : p.eventFault := by
      rcases hgood.ahead p hp hrun hdue hdrained with hfault | htrace
      · exact hfault
      · rw [hpc] at htrace
        exact absurd htrace (Shared.not_trace_zero _)
    obtain ⟨-, -, hfaults⟩ := finish_ensures hgood.drive (hgood.polling p hp) _ _ hy
    exact hfaults hrun hseen

theorem path_drive {l : List (Made F D)} (hidle : c.poll = none) (hl : Runs s5 c.drive l d)
    (hop : ∀ a ∈ l, ∀ now, a.op = .start now → a.ok = false) :
    Run.Path (Step s5) c (l.map .drive) { c with drive := d } := by
  induction hl with
  | nil => exact .nil
  | snoc _ ha ih =>
    rw [List.map_append]
    refine .snoc (ih fun a h => hop a (List.mem_append_left _ h)) (.drive hidle ?_ ha)
    exact hop _ (List.mem_append_right _ (List.mem_singleton_self _))

theorem path_imu (s5 : Bool) (c : Car M B) {acts : List (ImuAct F D)} (h : ∀ a ∈ acts, a ≠ .event) :
    Run.Path (Step s5) c (acts.map .imu) (acts.foldl Car.imuAct c) := by
  induction acts using List.reverseRecOn with
  | nil => exact .nil
  | append_singleton acts a ih =>
    rw [List.map_append, List.foldl_append]
    refine .snoc (ih fun b hb => h b (List.mem_append_left _ hb)) (.imu ?_)
    exact h a (List.mem_append_right _ (List.mem_singleton_self a))

end Drive

/-! ## A bench -/

section Bench

def pollNext (c : Car M B) (now : UInt32) : Car M B :=
  match c.poll with
  | none => c.pollBegin now
  | some p =>
    match p.pc with
    | .reading => c.pollRead p (c.imu.shared.read now)
    | .draining calls => if calls < eventBudget then c.pollEvent p calls else c
    | .drained => c

theorem path_pollNext [CFloat D] [CDouble F D] [CMath F] (s5 : Bool) (c : Car M B) (now : UInt32) :
    ∃ acts, Run.Path (Step s5) c acts (c.pollNext now) := by
  rw [pollNext]
  cases hp : c.poll with
  | none => exact ⟨[_], .snoc .nil (.pollBegin hp)⟩
  | some p =>
    dsimp only
    cases hpc : p.pc with
    | reading => exact ⟨[_], .snoc .nil (.pollRead hp hpc (.inr ⟨now, rfl⟩))⟩
    | draining =>
      dsimp only
      split_ifs with hcalls
      · exact ⟨[_], .snoc .nil (.pollEvent hp hpc hcalls)⟩
      · exact ⟨[], .nil⟩
    | drained => exact ⟨[], .nil⟩

theorem path_poll [CFloat D] [CDouble F D] [CMath F] (s5 : Bool) (c : Car M B) (now : UInt32)
    (n : ℕ) :
    ∃ acts, Run.Path (Step s5) c acts ((fun c => pollNext c now)^[n] c) := by
  induction n with
  | zero => exact ⟨[], .nil⟩
  | succ n ih =>
    obtain ⟨acts, hacts⟩ := ih
    obtain ⟨next, hnext⟩ := path_pollNext s5 ((fun c => pollNext c now)^[n] c) now
    rw [Function.iterate_succ_apply']
    exact ⟨_, hacts.append hnext⟩

attribute [local instance] benchMath

/-- The monitor of the source, over the rationals. -/
abbrev benchMonitor : MonitorOps ℚ ℚ := terrainMonitor

def benchSample (z : ℚ) (now : UInt32) : ImuAct ℚ ℚ :=
  .process ⟨⟨0, 0, z⟩, .zero, now, true, false, false⟩ ⟨0, 0, false, true⟩

/-- The hundred level samples of the calibration, none of which is published. -/
def benchWarmUp : List (ImuAct ℚ ℚ) :=
  (List.range imuCalSamples).flatMap fun k =>
    [.handle, benchSample 1 (UInt32.ofNat (k + 1)), .pass]

def benchPass (z : ℚ) : List (ImuAct ℚ ℚ) := [.handle, benchSample z 10000, .publish]

/-- The bench with its sensor calibrated and one sample published. -/
@[irreducible]
def benchCalibrated : Car benchMonitor benchReaders :=
  (benchWarmUp ++ benchPass 1).foldl Car.imuAct (boot benchDrive)

/-- The bench ready for a start: a poll is under way, at its end. -/
def benchReadyCar : Car benchMonitor benchReaders :=
  (fun c => pollNext c 10000)^[4]
    { benchCalibrated with drive := (obliged false benchCalibrated.drive benchReady).2 }

def benchPoll (running : Bool) : Poll := ⟨running, running, .drained, false, running⟩

def benchStarted : Car benchMonitor benchReaders :=
  { ({ benchReadyCar with poll := none } : Car benchMonitor benchReaders).imuAct
      (.requestReset false) with
    drive := (obligedCall false benchReadyCar.drive (.start 10000) []).2
    control := benchReadyCar.control.begin 10000 (benchReadyCar.imu.shared.run + 1) }

/-- The bench with an impact of two `g` in its run, at the end of the next poll. -/
def benchHit : Car benchMonitor benchReaders :=
  (fun c => pollNext c 10000)^[4] ((benchPass 2).foldl Car.imuAct benchStarted)

theorem obliged_op {d : Drive ℚ ℚ benchReaders} (ops : List (Op ℚ ℚ × List MotionReport)) :
    (obliged false d ops).1.map Made.op = ops.map Prod.fst := by
  induction ops using List.reverseRecOn with
  | nil => rfl
  | append_singleton ops op ih =>
    rw [List.map_append, ← ih, obliged, List.foldl_append, List.foldl_cons, List.foldl_nil,
      List.map_append]
    rfl

theorem benchPass_ne_event : ∀ a ∈ benchWarmUp ++ benchPass 1, a ≠ .event := by
  intro a ha
  simp only [benchWarmUp, benchPass, benchSample, List.mem_append, List.mem_flatMap,
    List.mem_cons, List.not_mem_nil, or_false] at ha
  rcases ha with ⟨-, -, rfl | rfl | rfl⟩ | rfl | rfl | rfl <;> simp

theorem path_benchCalibrated : Run.Path (Step false) (boot benchDrive)
    ((benchWarmUp ++ benchPass 1).map .imu) benchCalibrated := by
  unfold benchCalibrated
  exact path_imu false _ benchPass_ne_event

theorem path_benchReadyCar :
    ∃ acts, Run.Path (Step false) (boot benchDrive) acts benchReadyCar := by
  have himu := path_benchCalibrated
  have hready : ∀ a ∈ (obliged false benchCalibrated.drive benchReady).1, ∀ now,
      a.op = .start now → a.ok = false := by
    intro a ha now hnow
    have hop : a.op ∈ benchReady.map Prod.fst :=
      obliged_op (d := benchCalibrated.drive) benchReady ▸ List.mem_map_of_mem ha
    rw [hnow] at hop
    simp [benchReady, benchCycle] at hop
  have hdrive := path_drive (by decide +kernel)
    (runs_obliged false benchCalibrated.drive benchReady) hready
  obtain ⟨poll, hpoll⟩ := path_poll false
    { benchCalibrated with drive := (obliged false benchCalibrated.drive benchReady).2 } 10000 4
  exact ⟨_, (himu.append hdrive).append hpoll⟩

theorem path_benchHit : ∃ acts, Run.Path (Step false) (boot benchDrive) acts benchHit := by
  obtain ⟨acts, hready⟩ := path_benchReadyCar
  have hend : Step false benchReadyCar .pollEnd { benchReadyCar with poll := none } :=
    .pollEnd (p := benchPoll false) (by decide +kernel) rfl (.nil _)
  have hok : (obligedCall false benchReadyCar.drive (.start 10000) []).1.ok = true := by
    decide +kernel
  have hstart : Driving.Step false benchReadyCar.drive
      ⟨.start 10000, (obligedCall false benchReadyCar.drive (.start 10000) []).1.calls,
        (obligedCall false benchReadyCar.drive (.start 10000) []).1.ok⟩
      (obligedCall false benchReadyCar.drive (.start 10000) []).2 :=
    step_obligedCall false benchReadyCar.drive (.start 10000) []
  rw [hok] at hstart
  have hstarted : Step false { benchReadyCar with poll := none } .start benchStarted :=
    .started rfl hstart (by decide +kernel) (by decide +kernel)
  have hpass : ∀ a ∈ benchPass 2, a ≠ .event := by simp [benchPass, benchSample]
  obtain ⟨poll, hpoll⟩ := path_poll false ((benchPass 2).foldl Car.imuAct benchStarted) 10000 4
  exact ⟨_, (((hready.snoc hend).snoc hstarted).append (path_imu false _ hpass)).append hpoll⟩

/-- On the bench an impact is published in the run, and the next poll faults the drive. -/
theorem impact_faults_drive_bench :
    ∃ (acts : List (CarAct ℚ ℚ)) (c' : Car benchMonitor benchReaders),
      Run.Path (Step false) (boot benchDrive) acts benchHit ∧
        benchHit.poll = some (benchPoll true) ∧ Step false benchHit .pollEnd c' ∧
        c'.control.latched = true ∧ c'.drive.state = .fault := by
  obtain ⟨acts, hpath⟩ := path_benchHit
  have hpoll : benchHit.poll = some (benchPoll true) := by decide +kernel
  have hend : Step false benchHit .pollEnd _ :=
    .pollEnd hpoll rfl (yields_run obliging
      (benchHit.control.finish false benchHit.drive true true) [])
  exact ⟨acts, _, hpath, hpoll, hend,
    impact_faults_drive init_benchConfig hpath hpoll rfl rfl rfl hend⟩

end Bench

end Car

end RoboticCar.Terrain
