import RoboticCar.Lib.Run
import RoboticCar.Terrain.InRange

/-!
# The task of the inertial sensor and what it shares

In every pass the task handles a requested reset, reads the sensor, lets the monitor process the
sample and publishes the result; other tasks request resets and take snapshots and events, through
one mutex.  `snapshot_of_run`: a reader gets what was measured by a monitor that had been reset for
the latest run and has only processed samples and taken calibrations since.  It holds for every
monitor; the one of the source is `terrainMonitor`.

The snapshot survives a reset, and a result becomes an event by differing from it: `changes_queued`
says when every change of a run does, and `first_fault_unqueued` is a run whose first fault does
not.
-/

namespace RoboticCar.Terrain

open Lib CFloat

variable {F D : Type}

/-- What the task uses of a monitor. -/
structure MonitorOps (F D : Type) where
  State : Type
  init : State
  process : State → ImuSample F → TerrainOdometry D → State
  resetRun : State → State
  resetCalibration : State → State
  setMagneticCalibration : State → Axes F → Axes F → State
  result : State → TerrainResult F

def terrainMonitor [CFloat F] [CFloat D] [CMath F] [CDouble F D] : MonitorOps F D where
  State := TerrainMonitor F D
  init := .init
  process := TerrainMonitor.process
  resetRun := TerrainMonitor.resetRun
  resetCalibration := TerrainMonitor.resetCalibration
  setMagneticCalibration := TerrainMonitor.setMagneticCalibration
  result := TerrainMonitor.result

/-- What the reset of a run makes of a monitor. -/
def MonitorOps.restart (M : MonitorOps F D) (recalibrate : Bool) (m : M.State) : M.State :=
  if recalibrate then M.resetCalibration (M.resetRun m) else M.resetRun m

/-- A monitor comes from another by samples and magnetic calibrations only. -/
inductive MonitorOps.Since (M : MonitorOps F D) (m₀ : M.State) : M.State → Prop
  | refl : M.Since m₀ m₀
  | process {m : M.State} (h : M.Since m₀ m) (sample : ImuSample F)
      (odometry : TerrainOdometry D) : M.Since m₀ (M.process m sample odometry)
  | magnetic {m : M.State} (h : M.Since m₀ m) (offset scale : Axes F) :
      M.Since m₀ (M.setMagneticCalibration m offset scale)

theorem MonitorOps.Since.trans {M : MonitorOps F D} {m₀ m m' : M.State} (h : M.Since m₀ m)
    (h' : M.Since m m') : M.Since m₀ m' := by
  induction h' with
  | refl => exact h
  | process _ sample odometry ih => exact .process ih sample odometry
  | magnetic _ offset scale ih => exact .magnetic ih offset scale

/-- Every operation of the monitor keeps the property. -/
structure MonitorOps.Keeps (M : MonitorOps F D) (P : M.State → Prop) : Prop where
  process (m : M.State) (sample : ImuSample F) (odometry : TerrainOdometry D) :
    P m → P (M.process m sample odometry)
  resetRun (m : M.State) : P m → P (M.resetRun m)
  resetCalibration (m : M.State) : P m → P (M.resetCalibration m)
  setMagneticCalibration (m : M.State) (offset scale : Axes F) :
    P m → P (M.setMagneticCalibration m offset scale)

/-- The monitor of the source keeps what it calls valid in range. -/
theorem terrainMonitor_keeps [CFloat F] [CFloat D] [CMath F] [CDouble F D] [Ranged F] :
    (terrainMonitor : MonitorOps F D).Keeps TerrainMonitor.InRange where
  process _ sample odometry h := h.process sample odometry
  resetRun _ _ := TerrainMonitor.inRange_resetRun
  resetCalibration _ h := ⟨h.result, h.hump⟩
  setMagneticCalibration _ offset scale h := h.setMagneticCalibration offset scale

def TerrainResult.countsHump (r : TerrainResult F) : Bool :=
  r.humpCompleted && r.flags.peakValid

/-! ## The shared data -/

/-- `S4_QUEUE_LEN`. -/
def eventQueueLen : ℕ := 8

/-- What the mutex guards: the snapshot, the ring of events, oldest first, and the reset handshake.
-/
structure Shared (F : Type) where
  snapshot : TerrainPacket
  events : List TerrainPacket
  run : UInt16
  publishedRun : UInt16
  humps : UInt16
  published : Bool
  lost : Bool
  reset : Bool
  recalibrate : Bool
  magPending : Bool
  offset : Axes F
  scale : Axes F

namespace Shared

variable [CFloat F]

def boot : Shared F :=
  ⟨0, [], 0, 0, 0, false, false, false, false, false, .zero, .zero⟩

/-- Put an event into the ring, over the oldest one if it is full. -/
def pushEvent (s : Shared F) (packet : TerrainPacket) : Shared F :=
  if s.events.length = eventQueueLen then
    { s with events := s.events.tail ++ [packet], lost := true }
  else { s with events := s.events ++ [packet] }

/-- A result that becomes an event: it differs from the last snapshot, completes a hump or is an
impact. -/
def isEvent (s : Shared F) (r : TerrainResult F) : Bool :=
  let previous : TerrainResult F := terrainUnpack s.snapshot
  decide (r.state ≠ previous.state) || decide (r.flags ≠ previous.flags) || r.humpCompleted ||
    r.impact

def publish [CMath F] (s : Shared F) (r : TerrainResult F) : Shared F :=
  if s.reset then s
  else
    let packet := terrainPack r
    let s := if s.isEvent r then s.pushEvent packet else s
    let s := if r.countsHump && decide (s.humps < 65535) then { s with humps := s.humps + 1 } else s
    { s with snapshot := packet, publishedRun := s.run, published := true }

/-- What a publication does to the shared data. -/
structure Published [CMath F] (s : Shared F) (r : TerrainResult F) (s' : Shared F) : Prop where
  run : s'.run = s.run
  reset : s'.reset = false
  snapshot : s'.snapshot = terrainPack r
  publishedRun : s'.publishedRun = s.run
  published : s'.published = true
  humps : s'.humps = if r.countsHump ∧ s.humps < 65535 then s.humps + 1 else s.humps
  queue : (s'.events, s'.lost) =
    if s.isEvent r then ((s.pushEvent (terrainPack r)).events, (s.pushEvent (terrainPack r)).lost)
    else (s.events, s.lost)

omit [CFloat F] in
theorem pushEvent_frame (s : Shared F) (packet : TerrainPacket) :
    (s.pushEvent packet).run = s.run ∧ (s.pushEvent packet).reset = s.reset ∧
      (s.pushEvent packet).humps = s.humps := by
  rw [pushEvent]
  split_ifs <;> exact ⟨rfl, rfl, rfl⟩

theorem publish_of_reset [CMath F] {s : Shared F} (h : s.reset) (r : TerrainResult F) :
    s.publish r = s := by
  rw [publish, if_pos h]

theorem publish_published [CMath F] {s : Shared F} (h : s.reset = false) (r : TerrainResult F) :
    s.Published r (s.publish r) := by
  obtain ⟨hrun, hreset, hhumps⟩ := s.pushEvent_frame (terrainPack r)
  have hno : ¬s.reset = true := by simp [h]
  rw [publish, if_neg hno]
  by_cases hevent : s.isEvent r
  · simp only [if_pos hevent]
    constructor <;> split_ifs <;> simp_all
  · simp only [if_neg hevent]
    constructor <;> split_ifs <;> simp_all

/-- `request_reset`; the token of the run is the new `run`. -/
def requestReset (s : Shared F) (recalibrate : Bool) : Bool × Shared F :=
  if s.reset then (false, s)
  else (true, { s with
    run := s.run + 1
    reset := true
    recalibrate := recalibrate
    published := false
    events := []
    lost := false })

/-- `subsystem4_event`: an event, and whether older ones were lost. -/
def event (s : Shared F) : Option (TerrainResult F × Bool) × Shared F :=
  match s.events with
  | [] => (none, s)
  | packet :: rest =>
    (some (terrainUnpack packet, s.lost), { s with events := rest, lost := false })

/-- `subsystem4_set_magnetic_calibration`. -/
def setMagneticCalibration (s : Shared F) (offset scale : Axes F) : Bool × Shared F :=
  if TerrainMonitor.magneticValid offset scale then
    (true, { s with offset := offset, scale := scale, magPending := true })
  else (false, s)

def staleUs : UInt32 := 150000

def markStale (now : UInt32) (out : TerrainResult F) : TerrainResult F :=
  if now - out.timestampUs > staleUs then
    { out with
      flags := { Flags.none with
        peakValid := out.flags.peakValid, calibrated := out.flags.calibrated, fault := true }
      state := .unknown
      impact := false
      humpCompleted := false }
  else out

/-- `subsystem4_read` at the time `now`: the sample, the token of its run and the humps. -/
def read (s : Shared F) (now : UInt32) : Option (TerrainResult F × UInt16 × UInt16) :=
  if !s.published || s.reset || decide (s.publishedRun ≠ s.run) then none
  else some (markStale now (terrainUnpack s.snapshot), s.publishedRun, s.humps)

/-- A change that no reader of the snapshot notices. -/
structure SameView (s s' : Shared F) : Prop where
  run : s'.run = s.run
  reset : s'.reset = s.reset
  recalibrate : s'.recalibrate = s.recalibrate
  snapshot : s'.snapshot = s.snapshot
  publishedRun : s'.publishedRun = s.publishedRun
  published : s'.published = s.published
  humps : s'.humps = s.humps

theorem event_sameView (s : Shared F) : s.SameView s.event.2 := by
  rw [event]
  split <;> exact ⟨rfl, rfl, rfl, rfl, rfl, rfl, rfl⟩

theorem setMagneticCalibration_sameView (s : Shared F) (offset scale : Axes F) :
    s.SameView (s.setMagneticCalibration offset scale).2 := by
  rw [setMagneticCalibration]
  split_ifs <;> exact ⟨rfl, rfl, rfl, rfl, rfl, rfl, rfl⟩

end Shared

/-! ## The task -/

/-- Where the task is in its loop. -/
inductive Pc
  /-- Before the critical section with which a pass begins. -/
  | top
  /-- After it. -/
  | handled
  /-- With a result that is to be published. -/
  | processed
  deriving DecidableEq

/-- The task with its monitor, and the shared data. -/
structure Imu (M : MonitorOps F D) where
  shared : Shared F
  monitor : M.State
  pc : Pc

/-- What happens next.  A `pass` goes on without what the task was about to do. -/
inductive ImuAct (F D : Type)
  | handle
  | process (sample : ImuSample F) (odometry : TerrainOdometry D)
  | publish
  | pass
  | requestReset (recalibrate : Bool)
  | event
  | setMagneticCalibration (offset scale : Axes F)

namespace Imu

variable [CFloat F] {M : MonitorOps F D}

def boot : Imu M := ⟨.boot, M.init, .top⟩

def performReset (s : Imu M) : Imu M :=
  if s.shared.reset then
    let monitor := M.resetRun s.monitor
    { s with
      monitor := if s.shared.recalibrate then M.resetCalibration monitor else monitor
      shared := { s.shared with
        reset := false, recalibrate := false, events := [], lost := false, humps := 0 } }
  else s

/-- The magnetic calibration at the beginning of a pass, if one is pending. -/
def takeMagnetic (s : Imu M) : Imu M :=
  if s.shared.magPending then
    { s with
      monitor := M.setMagneticCalibration s.monitor s.shared.offset s.shared.scale
      shared := { s.shared with magPending := false } }
  else s

omit [CFloat F] in
theorem takeMagnetic_sameView (s : Imu M) : s.shared.SameView s.takeMagnetic.shared := by
  rw [takeMagnetic]
  split_ifs <;> exact ⟨rfl, rfl, rfl, rfl, rfl, rfl, rfl⟩

omit [CFloat F] in
theorem takeMagnetic_since (s : Imu M) : M.Since s.monitor s.takeMagnetic.monitor := by
  rw [takeMagnetic]
  split_ifs
  · exact .magnetic .refl _ _
  · exact .refl

def act [CMath F] (s : Imu M) : ImuAct F D → Imu M
  | .handle => if s.pc = .top then { s.performReset.takeMagnetic with pc := .handled } else s
  | .process sample odometry =>
    if s.pc = .handled then
      { s with monitor := M.process s.monitor sample odometry, pc := .processed }
    else s
  | .publish =>
    if s.pc = .processed then
      { s with shared := s.shared.publish (M.result s.monitor), pc := .top }
    else s
  | .pass => { s with pc := if s.pc = .top then .handled else .top }
  | .requestReset recalibrate => { s with shared := (s.shared.requestReset recalibrate).2 }
  | .event => { s with shared := s.shared.event.2 }
  | .setMagneticCalibration offset scale =>
    { s with shared := (s.shared.setMagneticCalibration offset scale).2 }

theorem keeps_act [CMath F] {P : M.State → Prop} (hP : M.Keeps P) {s : Imu M} (h : P s.monitor)
    (a : ImuAct F D) : P (s.act a).monitor := by
  cases a with
  | handle =>
    have hreset : P s.performReset.monitor := by
      unfold performReset
      split_ifs with _ hcal
      · exact hP.resetCalibration _ (hP.resetRun _ h)
      · exact hP.resetRun _ h
      · exact h
    rw [act]
    split_ifs
    · unfold takeMagnetic
      split_ifs
      · exact hP.setMagneticCalibration _ _ _ hreset
      · exact hreset
    · exact h
  | process sample odometry =>
    rw [act]
    split_ifs
    · exact hP.process _ sample odometry h
    · exact h
  | publish =>
    rw [act]
    split_ifs <;> exact h
  | pass | requestReset | event | setMagneticCalibration => exact h

end Imu

/-! ## The history of the runs -/

/-- A processed sample: the resets performed before it, the monitor it found and what was measured.
-/
structure Processed (M : MonitorOps F D) where
  resets : ℕ
  monitor : M.State
  sample : ImuSample F
  odometry : TerrainOdometry D

def Processed.result {M : MonitorOps F D} (p : Processed M) : TerrainResult F :=
  M.result (M.process p.monitor p.sample p.odometry)

/-- The subsystem with its history: the resets requested and performed, whether the last request
asked for a new calibration, the monitor that the last reset found, the sample processed last, and
those published since that reset. -/
structure ImuLog (M : MonitorOps F D) where
  imu : Imu M
  requested : ℕ
  performed : ℕ
  recalibrate : Bool
  found : Option M.State
  last : Option (Processed M)
  since : List (Processed M)

namespace ImuLog

variable [CFloat F] {M : MonitorOps F D}

def boot : ImuLog M := ⟨.boot, 0, 0, false, none, none, []⟩

def act [CMath F] (w : ImuLog M) (a : ImuAct F D) : ImuLog M :=
  let imu := w.imu.act a
  match a with
  | .handle =>
    if w.imu.pc = .top ∧ w.imu.shared.reset then
      { w with
        imu := imu, performed := w.performed + 1, found := some w.imu.monitor, since := [] }
    else { w with imu := imu }
  | .process sample odometry =>
    if w.imu.pc = .handled then
      { w with imu := imu, last := some ⟨w.performed, w.imu.monitor, sample, odometry⟩ }
    else { w with imu := imu }
  | .publish =>
    if w.imu.pc = .processed ∧ w.imu.shared.reset = false then
      { w with imu := imu, since := w.since ++ w.last.toList }
    else { w with imu := imu }
  | .requestReset recalibrate =>
    if w.imu.shared.reset then { w with imu := imu }
    else { w with imu := imu, requested := w.requested + 1, recalibrate := recalibrate }
  | _ => { w with imu := imu }

/-- The monitor comes from the last performed reset, as it was requested, or from power-up, by
samples and magnetic calibrations since. -/
def OfRun (w : ImuLog M) (m : M.State) : Prop :=
  M.Since (w.found.elim M.init (M.restart w.recalibrate)) m

/-- A reader gets the sample published last, apart from the marking of a stale one, processed after
the reset of the latest run by a monitor that comes from this reset, with that run's token and
humps. -/
def SnapshotOfRun [CMath F] (w : ImuLog M) : Prop :=
  ∀ now out token humps, w.imu.shared.read now = some (out, token, humps) →
    w.performed = w.requested ∧ token = UInt16.ofNat w.requested ∧
      (w.requested ≠ 0 → w.found.isSome = true) ∧
      (∃ p : Processed M, w.since.getLast? = some p ∧ p.resets = w.requested ∧ w.OfRun p.monitor ∧
        out = Shared.markStale now (terrainUnpack (terrainPack p.result))) ∧
      humps.toNat = min (w.since.countP fun p => p.result.countsHump) 65535

/-- What holds between the subsystem and its history. -/
structure Synced [CMath F] (w : ImuLog M) : Prop where
  run : w.imu.shared.run = UInt16.ofNat w.requested
  requested : w.requested = w.performed + w.imu.shared.reset.toNat
  hidden : w.imu.shared.reset = true → w.imu.shared.published = false
  asked : w.imu.shared.reset = true → w.imu.shared.recalibrate = w.recalibrate
  found : w.performed ≠ 0 → w.found.isSome = true
  monitor : w.imu.shared.reset = false → w.OfRun w.imu.monitor
  last : w.imu.pc = .processed → ∃ p : Processed M, w.last = some p ∧ p.resets = w.performed ∧
    (w.imu.shared.reset = false → w.OfRun p.monitor) ∧ M.result w.imu.monitor = p.result
  since : ∀ p ∈ w.since, p.resets = w.performed ∧ (w.imu.shared.reset = false → w.OfRun p.monitor)
  shown : w.imu.shared.published = true → w.imu.shared.publishedRun = w.imu.shared.run ∧
    ∃ p : Processed M, w.since.getLast? = some p ∧ w.imu.shared.snapshot = terrainPack p.result
  humps : w.imu.shared.humps.toNat = min (w.since.countP fun p => p.result.countsHump) 65535

variable [CMath F]

theorem synced_boot : (boot : ImuLog M).Synced where
  run := rfl
  requested := rfl
  hidden := nofun
  asked := nofun
  found h := absurd rfl h
  monitor _ := .refl
  last := nofun
  since := nofun
  shown := nofun
  humps := rfl

variable {w : ImuLog M}

theorem act_handle_of_ne (hpc : w.imu.pc ≠ .top) : w.act .handle = w := by
  simp only [act, Imu.act, if_neg hpc, if_neg (fun hc => hpc (And.left hc))]

theorem act_handle_of_quiet (hpc : w.imu.pc = .top) (hreset : ¬w.imu.shared.reset) :
    w.act .handle = { w with imu := { w.imu.takeMagnetic with pc := .handled } } := by
  have hsame : w.imu.performReset = w.imu := by rw [Imu.performReset, if_neg hreset]
  simp only [act, Imu.act, if_pos hpc, if_neg (fun hc => hreset (And.right hc)), hsame]

theorem act_publish_of_ne (hpc : w.imu.pc ≠ .processed) : w.act .publish = w := by
  simp only [act, Imu.act, if_neg hpc, if_neg (fun hc => hpc (And.left hc))]

theorem act_publish_of_reset (hpc : w.imu.pc = .processed) (hreset : w.imu.shared.reset) :
    w.act .publish = { w with imu := { w.imu with pc := .top } } := by
  have hnot : ¬(w.imu.pc = .processed ∧ w.imu.shared.reset = false) := by simp [hreset]
  simp only [act, Imu.act, if_pos hpc, if_neg hnot, Shared.publish_of_reset hreset]

theorem Synced.of_sameView (h : w.Synced) {imu : Imu M} (hv : w.imu.shared.SameView imu.shared)
    (hm : M.Since w.imu.monitor imu.monitor)
    (hpc : imu.pc = .processed → w.imu.pc = .processed ∧ imu.monitor = w.imu.monitor) :
    ({ w with imu := imu } : ImuLog M).Synced := by
  refine ⟨hv.run.trans h.run, ?_, ?_, ?_, h.found, ?_, ?_, ?_, ?_, ?_⟩
  · exact hv.reset ▸ h.requested
  · exact hv.reset ▸ hv.published ▸ h.hidden
  · exact hv.reset ▸ hv.recalibrate ▸ h.asked
  · intro hoff
    exact (h.monitor (hv.reset ▸ hoff)).trans hm
  · intro hp
    obtain ⟨hw, hm⟩ := hpc hp
    dsimp only
    rw [hv.reset, hm]
    exact h.last hw
  · dsimp only
    rw [hv.reset]
    exact h.since
  · exact hv.published ▸ hv.publishedRun ▸ hv.run ▸ hv.snapshot ▸ h.shown
  · exact hv.humps ▸ h.humps

theorem Synced.handle (h : w.Synced) : (w.act .handle).Synced := by
  by_cases hpc : w.imu.pc = .top
  · have hmag := w.imu.performReset.takeMagnetic_sameView
    by_cases hreset : w.imu.shared.reset
    · simp only [act, Imu.act, if_pos hpc, if_pos (And.intro hpc hreset)]
      -- the history right after the reset, before the magnetic calibration is taken
      have hperformed : ({ w with
          imu := { w.imu.performReset with pc := .handled }
          performed := w.performed + 1
          found := some w.imu.monitor
          since := [] } : ImuLog M).Synced := by
        have hhidden := h.hidden hreset
        have hrequested := h.requested
        rw [hreset] at hrequested
        simp only [Imu.performReset, if_pos hreset, h.asked hreset]
        exact ⟨h.run, hrequested, nofun, nofun, fun _ => rfl, fun _ => .refl, nofun, nofun,
          fun hp => absurd (hhidden.symm.trans hp) nofun, rfl⟩
      exact hperformed.of_sameView hmag w.imu.performReset.takeMagnetic_since nofun
    · rw [act_handle_of_quiet hpc hreset]
      exact h.of_sameView w.imu.takeMagnetic_sameView w.imu.takeMagnetic_since nofun
  · rw [act_handle_of_ne hpc]
    exact h

theorem Synced.process (h : w.Synced) (sample : ImuSample F) (odometry : TerrainOdometry D) :
    (w.act (.process sample odometry)).Synced := by
  by_cases hpc : w.imu.pc = .handled
  · simp only [act, Imu.act, if_pos hpc]
    exact ⟨h.run, h.requested, h.hidden, h.asked, h.found,
      fun hoff => .process (h.monitor hoff) sample odometry,
      fun _ => ⟨_, rfl, rfl, h.monitor, rfl⟩, h.since, h.shown, h.humps⟩
  · simp only [act, Imu.act, if_neg hpc]
    exact h

theorem Synced.requestReset (h : w.Synced) (recalibrate : Bool) :
    (w.act (.requestReset recalibrate)).Synced := by
  by_cases hreset : w.imu.shared.reset
  · simp only [act, Imu.act, Shared.requestReset, if_pos hreset]
    exact h
  · have hoff : w.imu.shared.reset = false := by simpa using hreset
    have hrequested := h.requested
    rw [hoff] at hrequested
    simp only [act, Imu.act, Shared.requestReset, if_neg hreset]
    refine ⟨?_, ?_, fun _ => rfl, fun _ => rfl, h.found, nofun, fun hp => ?_, fun p hp => ?_,
      nofun, h.humps⟩
    · rw [h.run, UInt16.ofNat_add]
      rfl
    · simpa using hrequested
    · obtain ⟨p, hlast, hresets, -, hresult⟩ := h.last hp
      exact ⟨p, hlast, hresets, nofun, hresult⟩
    · exact ⟨(h.since p hp).1, nofun⟩

theorem humps_succ {humps : UInt16} {n : ℕ} {counts : Bool} (h : humps.toNat = min n 65535) :
    (if counts ∧ humps < 65535 then humps + 1 else humps).toNat =
      min (n + if counts = true then 1 else 0) 65535 := by
  cases counts with
  | false => simpa using h
  | true =>
    have hlt : humps < 65535 ↔ humps.toNat < 65535 := UInt16.lt_iff_toNat_lt
    by_cases hroom : humps.toNat < 65535
    · rw [if_pos ⟨rfl, hlt.2 hroom⟩, if_pos rfl, UInt16.toNat_add, h]
      simp only [UInt16.reduceToNat]
      omega
    · rw [if_neg (fun hc => hroom (hlt.1 hc.2)), if_pos rfl, h]
      omega

theorem Synced.publish (h : w.Synced) : (w.act .publish).Synced := by
  by_cases hpc : w.imu.pc = .processed
  · by_cases hreset : w.imu.shared.reset
    · rw [act_publish_of_reset hpc hreset]
      exact { h with last := nofun }
    · have hoff : w.imu.shared.reset = false := by simpa using hreset
      obtain ⟨p, hlast, hresets, hrun, hresult⟩ := h.last hpc
      have hp := Shared.publish_published hoff (M.result w.imu.monitor)
      simp only [act, Imu.act, if_pos hpc, if_pos (And.intro hpc hoff), hlast, Option.toList]
      refine ⟨hp.run.trans h.run, ?_, ?_, ?_, h.found, fun _ => h.monitor hoff, nofun, ?_, ?_, ?_⟩
      · simpa only [hp.reset, hoff] using h.requested
      · simp only [hp.reset, Bool.false_eq_true, false_implies]
      · simp only [hp.reset, Bool.false_eq_true, false_implies]
      · intro q hq
        rcases List.mem_append.1 hq with hq | hq
        · exact ⟨(h.since q hq).1, fun _ => (h.since q hq).2 hoff⟩
        · rw [List.mem_singleton.1 hq]
          exact ⟨hresets, fun _ => hrun hoff⟩
      · intro _
        refine ⟨hp.publishedRun.trans hp.run.symm, p, by simp, ?_⟩
        rw [hp.snapshot, hresult]
      · have hhumps := h.humps
        rw [List.countP_append, List.countP_singleton, hp.humps, hresult]
        exact humps_succ hhumps
  · rw [act_publish_of_ne hpc]
    exact h

/-- Every act keeps the log in step. -/
theorem Synced.act (h : w.Synced) : ∀ a : ImuAct F D, (w.act a).Synced
  | .handle => h.handle
  | .process sample odometry => h.process sample odometry
  | .publish => h.publish
  | .pass => h.of_sameView ⟨rfl, rfl, rfl, rfl, rfl, rfl, rfl⟩ .refl fun hp => by
      simp only [Imu.act] at hp
      split_ifs at hp
  | .requestReset recalibrate => h.requestReset recalibrate
  | .event => h.of_sameView w.imu.shared.event_sameView .refl fun hp => ⟨hp, rfl⟩
  | .setMagneticCalibration offset scale =>
    h.of_sameView (w.imu.shared.setMagneticCalibration_sameView offset scale) .refl
      fun hp => ⟨hp, rfl⟩

theorem Synced.snapshotOfRun (h : w.Synced) : w.SnapshotOfRun := by
  intro now out token humps hread
  simp only [Shared.read, Option.ite_none_left_eq_some, Option.some.injEq, Prod.mk.injEq,
    Bool.not_eq_true, Bool.or_eq_false_iff, Bool.not_eq_false', decide_eq_false_iff_not,
    not_not] at hread
  obtain ⟨⟨⟨hpublished, hreset⟩, -⟩, rfl, rfl, rfl⟩ := hread
  obtain ⟨hrun, p, hp, hsnapshot⟩ := h.shown hpublished
  have hperformed : w.performed = w.requested := by
    rw [h.requested, hreset]
    rfl
  obtain ⟨hresets, hof⟩ := h.since p (List.mem_of_getLast? hp)
  refine ⟨hperformed, hrun.trans h.run, hperformed ▸ h.found, ⟨p, hp, ?_, hof hreset, ?_⟩, h.humps⟩
  · exact hresets.trans hperformed
  · rw [hsnapshot]

/-- **No result leaks across runs.**  A read returns the last published sample, processed by a
monitor that comes from the reset of the latest requested run, with the token of that run and its
humps. -/
theorem snapshot_of_run (acts : List (ImuAct F D)) :
    (acts.foldl ImuLog.act (boot : ImuLog M)).SnapshotOfRun :=
  (Run.invariant (I := Synced (M := M)) (fun _ a h => h.act a) synced_boot acts).snapshotOfRun

end ImuLog

/-! ## The events of a run -/

/-- A result that the queue owes its readers even at the beginning of a run. -/
def TerrainResult.alarms (r : TerrainResult F) : Bool := r.flags.fault || decide (r.state = .impact)

namespace ImuLog

variable [CFloat F] [CMath F] {M : MonitorOps F D}

/-- A result is queued if it differs from the last one of the run, or is the first one and alarms.
-/
def Queues (w : ImuLog M) : Prop :=
  let r := M.result w.imu.monitor
  w.imu.pc = .processed → w.imu.shared.reset = false →
    (∀ p, w.since.getLast? = some p → r.state ≠ p.result.state ∨ r.flags ≠ p.result.flags) →
    (w.since = [] → r.alarms = true) →
    (w.act .publish).imu.shared.events = (w.imu.shared.pushEvent (terrainPack r)).events

/-- A run is requested over a snapshot that does not alarm, and packets keep the published flags. -/
def Clean (w : ImuLog M) : ImuAct F D → Prop
  | .requestReset _ => w.imu.shared.reset = false →
    (terrainUnpack w.imu.shared.snapshot : TerrainResult F).alarms = false
  | .publish => w.imu.pc = .processed →
    (M.result w.imu.monitor).sentFlags = (M.result w.imu.monitor).flags
  | _ => True

/-- The snapshot holds the last result of the run or, before the first one, nothing that alarms. -/
structure Told (w : ImuLog M) : Prop where
  synced : w.Synced
  last : w.imu.shared.reset = false → ∀ p, w.since.getLast? = some p →
    w.imu.shared.snapshot = terrainPack p.result ∧ p.result.sentFlags = p.result.flags
  first : w.imu.shared.reset = true ∨ w.since = [] →
    (terrainUnpack w.imu.shared.snapshot : TerrainResult F).alarms = false

theorem told_boot : (boot : ImuLog M).Told where
  synced := synced_boot
  last := nofun
  first := fun _ => by
    have hzero : BitField.unpack packetWidths 0 = [0, 0, 0, 0, 0, 0, 0, 0, 0, 0, 0] := by decide
    simp only [boot, Imu.boot, Shared.boot, TerrainResult.alarms, terrainUnpack, hzero]
    rfl

variable {w : ImuLog M}

theorem Told.of_same {w' : ImuLog M} (h : w.Told) (hs : w'.Synced) (hsince : w'.since = w.since)
    (hreset : w'.imu.shared.reset = w.imu.shared.reset)
    (hsnap : w'.imu.shared.snapshot = w.imu.shared.snapshot) : w'.Told := by
  refine ⟨hs, ?_, ?_⟩
  · rw [hsince, hreset, hsnap]
    exact h.last
  · rw [hsince, hreset, hsnap]
    exact h.first

theorem Told.handle (h : w.Told) : (w.act .handle).Told := by
  have hs := h.synced.handle
  by_cases hpc : w.imu.pc = .top
  · have hmag := w.imu.performReset.takeMagnetic_sameView
    by_cases hreset : w.imu.shared.reset
    · have hsnap : (w.act .handle).imu.shared.snapshot = w.imu.shared.snapshot := by
        simp only [act, Imu.act, if_pos hpc, if_pos (And.intro hpc hreset)]
        rw [hmag.snapshot, Imu.performReset, if_pos hreset]
      have hnil : (w.act .handle).since = [] := by
        simp only [act, if_pos (And.intro hpc hreset)]
      refine ⟨hs, fun _ p hp => ?_, fun _ => ?_⟩
      · rw [hnil] at hp
        cases hp
      · rw [hsnap]
        exact h.first (.inl hreset)
    · have hmag := w.imu.takeMagnetic_sameView
      rw [act_handle_of_quiet hpc hreset] at hs ⊢
      exact h.of_same hs rfl hmag.reset hmag.snapshot
  · rw [act_handle_of_ne hpc]
    exact h

theorem Told.requestReset (h : w.Told) {recalibrate : Bool}
    (hclean : w.Clean (.requestReset recalibrate)) : (w.act (.requestReset recalibrate)).Told := by
  have hs := h.synced.requestReset recalibrate
  by_cases hreset : w.imu.shared.reset
  · have hact : w.act (.requestReset recalibrate) = w := by
      simp only [act, Imu.act, Shared.requestReset, if_pos hreset]
    rw [hact]
    exact h
  · have hnew : (w.act (.requestReset recalibrate)).imu.shared.reset = true ∧
        (w.act (.requestReset recalibrate)).imu.shared.snapshot = w.imu.shared.snapshot := by
      simp [act, Imu.act, Shared.requestReset, hreset]
    refine ⟨hs, fun hoff => absurd (hnew.1.symm.trans hoff) nofun, fun _ => ?_⟩
    rw [hnew.2]
    exact hclean (by simpa using hreset)

theorem Told.publish (h : w.Told) (hclean : w.Clean .publish) : (w.act .publish).Told := by
  have hs := h.synced.publish
  by_cases hpc : w.imu.pc = .processed
  · by_cases hreset : w.imu.shared.reset
    · rw [act_publish_of_reset hpc hreset] at hs ⊢
      exact h.of_same hs rfl rfl rfl
    · have hoff : w.imu.shared.reset = false := by simpa using hreset
      obtain ⟨p, hlast, -, -, hresult⟩ := h.synced.last hpc
      have hp := Shared.publish_published hoff (M.result w.imu.monitor)
      have hsince : (w.act .publish).since = w.since ++ [p] := by
        simp only [act, if_pos (And.intro hpc hoff), hlast, Option.toList]
      have hshared : (w.act .publish).imu.shared =
          w.imu.shared.publish (M.result w.imu.monitor) := by
        simp only [act, Imu.act, if_pos hpc, if_pos (And.intro hpc hoff)]
      refine ⟨hs, fun _ q hq => ?_, fun hc => ?_⟩
      · rw [hsince, List.getLast?_concat, Option.some.injEq] at hq
        subst hq
        rw [hshared, hp.snapshot, ← hresult]
        exact ⟨rfl, hclean hpc⟩
      · rw [hshared, hp.reset, hsince] at hc
        simp at hc
  · rw [act_publish_of_ne hpc]
    exact h

/-- Every clean act keeps `Told`. -/
theorem Told.act (h : w.Told) : ∀ a : ImuAct F D, w.Clean a → (w.act a).Told
  | .handle, _ => h.handle
  | .process sample odometry, _ => by
    have hs := h.synced.process sample odometry
    by_cases hpc : w.imu.pc = .handled
    · simp only [ImuLog.act, Imu.act, if_pos hpc] at hs ⊢
      exact h.of_same hs rfl rfl rfl
    · simp only [ImuLog.act, Imu.act, if_neg hpc]
      exact h
  | .publish, hclean => h.publish hclean
  | .pass, _ => h.of_same (h.synced.act .pass) rfl rfl rfl
  | .requestReset _, hclean => h.requestReset hclean
  | .event, _ =>
    have hv := w.imu.shared.event_sameView
    h.of_same (h.synced.act .event) rfl hv.reset hv.snapshot
  | .setMagneticCalibration offset scale, _ =>
    have hv := w.imu.shared.setMagneticCalibration_sameView offset scale
    h.of_same (h.synced.act (.setMagneticCalibration offset scale)) rfl hv.reset hv.snapshot

theorem Told.queues (h : w.Told) : w.Queues := by
  intro hpc hoff hdiffers hfirst
  have hp := Shared.publish_published hoff (M.result w.imu.monitor)
  have hevent : w.imu.shared.isEvent (M.result w.imu.monitor) := by
    simp only [Shared.isEvent, Bool.or_eq_true, decide_eq_true_eq]
    refine .inl (.inl ?_)
    cases hlast : w.since.getLast? with
    | none =>
      have hnil := List.getLast?_eq_none_iff.1 hlast
      have hquiet := h.first (.inr hnil)
      have halarm := hfirst hnil
      simp only [TerrainResult.alarms, Bool.or_eq_false_iff, decide_eq_false_iff_not,
        Bool.or_eq_true, decide_eq_true_eq] at hquiet halarm
      rcases halarm with hfault | himpact
      · right
        intro heq
        rw [heq, hquiet.1] at hfault
        cases hfault
      · left
        intro heq
        exact hquiet.2 (heq.symm.trans himpact)
    | some p =>
      obtain ⟨hsnap, hflags⟩ := h.last hoff p hlast
      have harrives := terrainUnpack_terrainPack p.result
      rw [hsnap, harrives.state, harrives.flags, hflags]
      exact hdiffers p hlast
  have hshared : (w.act .publish).imu.shared = w.imu.shared.publish (M.result w.imu.monitor) := by
    simp only [ImuLog.act, Imu.act, if_pos hpc, if_pos (And.intro hpc hoff)]
  have hqueue := hp.queue
  rw [if_pos hevent, Prod.mk.injEq] at hqueue
  rw [hshared]
  exact hqueue.1

/-- **Every change of a run becomes an event**, and so does a first result with a fault or an
impact, if no run is requested over a stored snapshot with either, and every published result has
the flags that its packet keeps. -/
theorem changes_queued {acts : List (ImuAct F D)}
    (h : Run.Meets ImuLog.act Clean (boot : ImuLog M) acts) :
    Run.Always ImuLog.act Queues (boot : ImuLog M) acts :=
  Run.always_of_meets (I := Told) (fun _ a ht hc => ht.act a hc) (fun _ ht => ht.queues) told_boot h

instance Clean.decidable (w : ImuLog M) : DecidablePred w.Clean
  | .requestReset _ => inferInstanceAs (Decidable (_ → _))
  | .publish => inferInstanceAs (Decidable (_ → _))
  | .handle | .process _ _ | .pass | .event | .setMagneticCalibration _ _ =>
    inferInstanceAs (Decidable True)

theorem act_imu (w : ImuLog M) (a : ImuAct F D) : (w.act a).imu = w.imu.act a := by
  cases a <;> simp only [act] <;> split_ifs <;> rfl

/-- For the monitor of the source only the requests matter. -/
theorem meets_clean [CFloat D] [CDouble F D] [Ranged F] {acts : List (ImuAct F D)}
    (h : Run.Meets ImuLog.act (fun w a => ∀ recalibrate, a = .requestReset recalibrate → w.Clean a)
      (boot : ImuLog terrainMonitor) acts) :
    Run.Meets ImuLog.act Clean (boot : ImuLog (terrainMonitor : MonitorOps F D)) acts := by
  refine Run.meets_of_meets (I := fun w => TerrainMonitor.InRange w.imu.monitor)
    (fun w a hw _ => ?_) (fun w a hw hreq => ?_) TerrainMonitor.inRange_init h
  · rw [act_imu]
    exact Imu.keeps_act terrainMonitor_keeps hw a
  · cases a with
    | requestReset recalibrate => exact hreq recalibrate rfl
    | publish => exact fun _ => hw.result.sentFlags_eq
    | _ => trivial

end ImuLog

/-- Roundings of the bench, whose samples need no other function of `math.h`. -/
local instance benchMath : CMath ℚ where
  sqrtf x := x
  sinf x := x
  atan2f y _ := y
  lroundf x := if x < 0 then -⌊-x + 1 / 2⌋ else ⌊x + 1 / 2⌋

theorem isFinite_rat (x : ℚ) : isFinite x = true := by
  change (decide (x = x) && decide (x - x = 0)) = true
  simp

theorem absF_rat (x : ℚ) : absF x = |x| := by
  change (if decide (x < 0) = true then -x else x) = |x|
  split_ifs with hx
  · rw [abs_of_neg (of_decide_eq_true hx)]
  · rw [abs_of_nonneg (by simpa using hx)]

theorem gt_absF_rat {x y : ℚ} (h : |x| ≤ y) : gt (absF x) y = false := by
  rw [absF_rat]
  exact decide_eq_false (not_lt.2 h)

/-- The rational numbers are ordered, and the bench gives the sine for an angle. -/
theorem ranged_bench : Ranged ℚ where
  peak x hlow hhigh := by
    have hlow' : (0.005 : ℚ) ≤ x := of_decide_eq_true hlow
    have hpos : (0 : ℚ) ≤ x := le_trans (by norm_num) hlow'
    have hhigh' : ¬(0.50 : ℚ) < x := of_decide_eq_false hhigh
    refine ⟨isFinite_rat x, decide_eq_false (not_lt.2 hpos), decide_eq_false ?_⟩
    norm_num at hhigh' ⊢
    exact hhigh'
  rate x h := by
    rw [absF_rat] at h
    exact ⟨isFinite_rat x, gt_absF_rat (of_decide_eq_true h)⟩
  tilt a pitch roll h := by
    have hangle (x : ℚ) (hx : x * x ≤ 1.21) : AngleFits (x * deg) := by
      refine ⟨isFinite_rat _, gt_absF_rat ?_⟩
      have hle : |x| ≤ 1.1 := abs_le_of_sq_le_sq (by norm_num; nlinarith) (by norm_num)
      change |x * (57.295779513 : ℚ)| ≤ 90
      rw [abs_mul]
      norm_num at hle ⊢
      linarith
    unfold tiltEstimation at h
    dsimp only at h
    split_ifs at h with hout
    obtain ⟨rfl, rfl⟩ := Prod.mk.inj (Option.some.inj h)
    simp only [Bool.or_eq_true, not_or, Bool.not_eq_true] at hout
    have hsquare : a.x * a.x + a.y * a.y + a.z * a.z ≤ (1.21 : ℚ) :=
      not_lt.1 (of_decide_eq_false hout.1.2)
    have hx := mul_self_nonneg a.x
    have hy := mul_self_nonneg a.y
    have hz := mul_self_nonneg a.z
    exact ⟨hangle a.x (by linarith), hangle (-a.y) (by linarith)⟩

namespace ImuLog

def benchAbsent (now : UInt32) : List (ImuAct ℚ ℚ) :=
  [.handle, .process ⟨.zero, .zero, now, false, false, false⟩ ⟨0, 0, false, false⟩, .publish]

/-- A run with a new calibration is requested, and the sensor is missing: what is read comes from
the monitor that the reset made. -/
theorem snapshot_of_run_bench :
    let w := (.requestReset true :: benchAbsent 1000000).foldl ImuLog.act
      (boot : ImuLog terrainMonitor)
    ∃ out humps m p, w.imu.shared.read 1000000 = some (out, 1, humps) ∧ w.found = some m ∧
      w.since.getLast? = some p ∧
        terrainMonitor.Since (terrainMonitor.restart true m) p.monitor := by
  intro w
  have hread : (w.imu.shared.read 1000000).isSome := by decide +kernel
  obtain ⟨⟨out, token, humps⟩, hread⟩ := Option.isSome_iff_exists.1 hread
  obtain ⟨-, rfl, -, ⟨p, hp, -, hrun, -⟩, -⟩ := snapshot_of_run _ _ _ _ _ hread
  exact ⟨out, humps, _, p, hread, rfl, hp, hrun⟩

/-- A run that begins without a sensor. -/
theorem changes_queued_absent :
    Run.Meets ImuLog.act Clean (boot : ImuLog terrainMonitor)
        (.requestReset false :: benchAbsent 1000000) ∧
      Run.Always ImuLog.act Queues (boot : ImuLog terrainMonitor)
        (.requestReset false :: benchAbsent 1000000) := by
  have h : Run.Meets ImuLog.act Clean (boot : ImuLog terrainMonitor)
      (.requestReset false :: benchAbsent 1000000) := by
    have := ranged_bench
    refine meets_clean ⟨fun _ _ => by decide +kernel, ?_⟩
    simp [benchAbsent, Run.Meets]
  exact ⟨h, changes_queued h⟩

/-- The sensor is missing in two runs: the fault that begins the second equals the snapshot of the
first, and the queue stays empty. -/
theorem first_fault_unqueued :
    ¬Run.Always ImuLog.act Queues (boot : ImuLog terrainMonitor)
      (benchAbsent 1000000 ++ .requestReset false :: benchAbsent 2500000) := by
  rintro ⟨-, -, -, -, -, -, h, -⟩
  have hevents := h (by decide +kernel) (by decide +kernel) (fun p hp => by cases hp)
    fun _ => by decide +kernel
  revert hevents
  decide +kernel

end ImuLog

end RoboticCar.Terrain
