import RoboticCar.Lib.Run
import RoboticCar.Obstacle.Profile

/-!
# The scanner task

`subsystem5.c`: the task that owns the range sensor and its servo.  A round reads the mailbox, takes
up a request or gives the running scan up, pings and publishes, in up to four locked blocks, so
`ScanSystem.act` is one locked block of the task or a caller, or local work between two of them.

`observations_publishable`: no observation that the task publishes is dropped by its packing.
-/

namespace RoboticCar.Obstacle

open Lib

/-- `s5_scan_t`; the samples taken so far are a list. -/
structure Scan where
  samples : List ℕ
  angle : ℕ
  fineEnd : ℕ
  nearest : ℕ
  attempts : ℕ
  fine : Bool
  done : Bool
  failed : Bool
  single : Bool
  nearestMm : ℕ
  startedUs : UInt32

def Scan.zero : Scan := ⟨[], 0, 0, 0, 0, false, false, false, false, 0, 0⟩

def scanBegin (now : UInt32) : Scan :=
  { Scan.zero with angle := 30, nearest := 90, nearestMm := 4000, startedUs := now }

def peekAngleValid (angle : ℕ) : Bool :=
  angle % 5 = 0 && (30 ≤ angle && angle ≤ 60 || 120 ≤ angle && angle ≤ 150)

def scanBeginAt (now : UInt32) (angle : ℕ) : Option Scan :=
  if peekAngleValid angle then some { scanBegin now with angle := angle, single := true } else none

def Scan.fail (s : Scan) : Scan := { s with failed := true, done := true }

def Scan.advance (s : Scan) (mm : ℕ) : Scan :=
  let s := if !s.fine ∧ mm < s.nearestMm then { s with nearestMm := mm, nearest := s.angle } else s
  if !s.fine then
    if s.angle < 150 then { s with angle := s.angle + 30 }
    else
      { s with
        fine := true
        angle := if s.nearest > 45 then s.nearest - 15 else 30
        fineEnd := if s.nearest < 135 then s.nearest + 15 else 150 }
  else if s.angle < s.fineEnd then { s with angle := s.angle + 5 }
  else { s with done := true }

/-- `s5_scan_accept`: one completed measurement. -/
def scanAccept (s : Scan) (now : UInt32) (valid : Bool) (mm : ℕ) : Scan :=
  if s.done then s
  else if now - s.startedUs ≥ scanTimeoutUs then s.fail
  else if !valid ∨ mm < 30 ∨ mm > 4000 then
    let s := { s with attempts := s.attempts + 1 }
    if s.attempts < 3 then s else s.fail
  else
    let s := { s with attempts := 0 }
    if s.samples.length ≥ 16 then s.fail
    else
      match samplePack s.angle mm true with
      | none => s.fail
      | some w =>
        let s := { s with samples := s.samples ++ [w] }
        if s.single then { s with done := true } else s.advance mm

/-- The variables of `ultrasonic_sensor.c`. -/
structure Sonar where
  ready : Bool
  active : Bool
  started : UInt32

/-- What the hardware shows: the word in the receive queue, if there is one, and the echo pin. -/
structure Echo where
  cycles : Option ℕ
  pin : Bool
  deriving DecidableEq

def ultrasonicPulseMm (us : ℕ) : Option ℕ :=
  if us > 24000 then none
  else
    let value := (us * 343 + 1000) / 2000
    if value < 30 ∨ value > 4000 then none else some value

/-- `ultrasonic_echo_mm`: the distance and whether it is a reading. -/
def ultrasonicEchoMm (us : ℕ) : ℕ × Bool :=
  match ultrasonicPulseMm us with
  | some mm => (mm, true)
  | none => if us > 24000 ∨ (us * 343 + 1000) / 2000 > 4000 then (4000, true) else (0, false)

/-- `ultrasonic_sensor_cancel`. -/
def Sonar.cancel (s : Sonar) : Sonar := { s with active := false }

/-- `ultrasonic_sensor_trigger`. -/
def Sonar.trigger (s : Sonar) (now : UInt32) (e : Echo) : Bool × Sonar :=
  if !s.ready ∨ s.active ∨ e.pin then (false, s)
  else (true, { s with active := true, started := now })

/-- `ultrasonic_sensor_poll`: the distance and whether it is a reading, once the ping is over. -/
def Sonar.poll (s : Sonar) (now : UInt32) (e : Echo) : Option (ℕ × Bool) × Sonar :=
  if !s.active then (none, s)
  else
    match e.cycles with
    | some cycles =>
      (some (ultrasonicEchoMm (if cycles > 12000 then 24001 else cycles * 2)), s.cancel)
    | none =>
      if now - s.started ≥ 25000 then (some (if e.pin then 4000 else 0, e.pin), s.cancel)
      else (none, s)

def Reading (r : ℕ × Bool) : Prop := r.2 = true → 30 ≤ r.1 ∧ r.1 ≤ 4000

theorem ultrasonicEchoMm_reading (us : ℕ) : Reading (ultrasonicEchoMm us) := by
  unfold ultrasonicEchoMm
  split
  · rename_i mm h
    simp only [ultrasonicPulseMm, Option.ite_none_left_eq_some, Option.some.injEq] at h
    obtain ⟨-, hrange, rfl⟩ := h
    exact fun _ => by omega
  · split_ifs
    · exact fun _ => by decide
    · exact fun h => Bool.noConfusion h

theorem Sonar.poll_reading {s : Sonar} {now : UInt32} {e : Echo} {r : ℕ × Bool}
    (h : (s.poll now e).1 = some r) : Reading r := by
  unfold Sonar.poll at h
  cases hactive : s.active <;> simp only [hactive, Bool.not_false, Bool.not_true, if_true,
    Bool.false_eq_true, if_false, reduceCtorEq] at h
  cases hcycles : e.cycles with
  | some =>
    rw [hcycles] at h
    exact Option.some.inj h ▸ ultrasonicEchoMm_reading _
  | none =>
    rw [hcycles] at h
    split_ifs at h with _ hpin <;> obtain rfl := Option.some.inj h
    · exact fun _ => by dsimp only; omega
    · exact fun h => absurd h hpin

/-! ## One round of the task -/

structure Scanner where
  obs : Observation
  scan : Scan
  sonar : Sonar
  positioned : UInt32
  lastPing : UInt32
  pingAt : UInt32
  angle : ℕ
  failures : ℕ
  initialized : Bool
  scanning : Bool
  pinging : Bool
  /-- nonzero while a look to the side is running -/
  peekId : UInt16

def Scanner.start : Scanner :=
  ⟨.zero, .zero, ⟨false, false, 0⟩, 0, 0, 0, 90, 0, false, false, false, 0⟩

/-- What a round took out of the mailbox. -/
structure Taken where
  cancel : Bool
  req : UInt16
  reqAngle : ℕ
  deriving DecidableEq

/-- What the attempt to start the hardware found. -/
structure Hardware where
  /-- `motion_get_feedback(&m) && m.valid` -/
  feedback : Bool
  /-- `ultrasonic_sensor_init()` -/
  sensor : Bool
  /-- `scan_servo_init()` -/
  servo : Bool
  deriving DecidableEq

namespace Scanner

def bringUp (t : Scanner) (now : UInt32) (hw : Hardware) : Scanner :=
  if hw.feedback then
    let sonar := if hw.sensor then { t.sonar with ready := true, active := false } else t.sonar
    let t := { t with sonar := sonar }
    if hw.sensor ∧ hw.servo then { t with initialized := true, positioned := now, lastPing := now }
    else t
  else t

/-- A scan is given up, because of a cancellation or because the car moves. -/
def abort (t : Scanner) (now : UInt32) : Scanner :=
  { t with
    sonar := t.sonar.cancel
    pinging := false
    scanning := false
    angle := 90
    positioned := now
    obs := { t.obs with scanDone := false, profile := .zero }
    peekId := 0 }

def beginScan (t : Scanner) (now : UInt32) (s : Scan) : Scanner :=
  { t with
    sonar := t.sonar.cancel
    pinging := false
    scan := s
    scanning := true
    angle := s.angle
    positioned := now }

/-- The request of a round is taken up; `still` is what `stationary` returns. -/
def request (t : Scanner) (now : UInt32) (m : Taken) (still : Bool) : Scanner :=
  if m.req ≠ 0 ∧ m.reqAngle ≠ 0 ∧ !m.cancel then
    match if still then scanBeginAt now m.reqAngle else none with
    | none =>
      { t with obs := { t.obs with
        scanId := m.req, scanDone := true, scanUs := now, profile := .zero } }
    | some s => { t.beginScan now s with peekId := m.req }
  else if m.req ≠ 0 ∧ !m.cancel then
    let t := { t with obs := { t.obs with scanId := m.req, scanDone := false, profile := .zero } }
    if !still then { t with obs := { t.obs with scanDone := true, scanUs := now } }
    else t.beginScan now (scanBegin now)
  else t

def ping (t : Scanner) (now : UInt32) (e : Echo) : Option (ℕ × Bool) × Scanner :=
  if t.pinging then
    let p := t.sonar.poll now e
    (p.1, { t with sonar := p.2, pinging := p.1.isNone })
  else if now - t.positioned ≥ 250000 ∧ now - t.lastPing ≥ 70000 then
    let p := t.sonar.trigger now e
    (if p.1 then none else some (0, false),
      { t with lastPing := now, pingAt := now, sonar := p.2, pinging := p.1 })
  else (none, t)

def count (t : Scanner) (valid : Bool) : Scanner :=
  if valid then { t with failures := 0, obs := { t.obs with noEcho := false } }
  else
    let failures := if t.failures < 3 then t.failures + 1 else t.failures
    { t with failures := failures, obs := { t.obs with noEcho := failures ≥ 3 } }

def finish (t : Scanner) (now : UInt32) : Scanner :=
  let obs := { t.obs with scanDone := true, scanUs := now }
  let t := { t with scanning := false, angle := 90, positioned := now }
  if t.peekId ≠ 0 then
    let merged := if t.scan.failed then none else peekMerge obs.profile (t.scan.samples.headD 0)
    { t with
      peekId := 0
      obs := { obs with scanId := t.peekId, profile := merged.getD .zero } }
  else if t.scan.failed then { t with obs := obs }
  else { t with obs := { obs with profile := (profileBuild t.scan.samples .defaults).2 } }

def measured (t : Scanner) (now : UInt32) (mm : ℕ) (valid : Bool) : Scanner :=
  let t := t.count valid
  if t.scanning then
    let old := t.scan.angle
    let t := { t with scan := scanAccept t.scan now valid mm }
    if t.scan.done then t.finish now
    else if t.scan.angle ≠ old then { t with angle := t.scan.angle, positioned := now }
    else t
  else if t.angle = 90 then
    -- one bad ping keeps the last good reading, three in a row clear it
    if valid then
      { t with obs := { t.obs with rangeUs := t.pingAt, rangeMm := mm, rangeValid := true } }
    else if t.obs.noEcho then { t with obs := { t.obs with rangeMm := 0, rangeValid := false } }
    else t
  else t

def timeOut (t : Scanner) (now : UInt32) : Scanner :=
  if t.scanning ∧ now - t.scan.startedUs ≥ scanTimeoutUs then
    { t with
      sonar := t.sonar.cancel
      pinging := false
      scanning := false
      peekId := 0
      obs := { t.obs with
        scanId := if t.peekId ≠ 0 then t.peekId else t.obs.scanId
        scanDone := true
        scanUs := now
        profile := .zero }
      angle := 90
      positioned := now }
  else t

def hide (t : Scanner) (now : UInt32) : Scanner :=
  if t.scanning ∨ now - t.positioned < 250000 then
    { t with obs := { t.obs with rangeValid := false, rangeMm := 0 } }
  else t

def work (t : Scanner) (now : UInt32) (m : Taken) (still : Bool) (e : Echo) : Scanner :=
  let p := (t.request now m still).ping now e
  let t := match p.1 with
    | none => p.2
    | some (mm, valid) => p.2.measured now mm valid
  (t.timeOut now).hide now

end Scanner

/-! ## The task and its callers -/

/-- What the task shares: the mailbox and the published packet. -/
structure Mailbox where
  requested : UInt16
  requestedAngle : ℕ
  cancel : Bool
  busy : Bool
  published : ℕ

/-- `subsystem5_init`. -/
def Mailbox.start : Mailbox := ⟨0, 0, false, false, (observationPack .zero).getD 0⟩

/-- Where the task is inside its round. -/
inductive Pc
  /-- before the first lock -/
  | top
  /-- the mailbox was read -/
  | taken (now : UInt32) (m : Taken)
  /-- the scan was given up; the lock that clears `busy` comes next -/
  | aborted (now : UInt32) (m : Taken)
  /-- the rest of the round comes next -/
  | judged (now : UInt32) (m : Taken)
  /-- no scan is running; the lock that clears `busy` comes next -/
  | idle
  /-- the lock that publishes comes next -/
  | publishing
  deriving DecidableEq

/-- The task, its place and what it shares. -/
structure ScanSystem where
  task : Scanner
  box : Mailbox
  pc : Pc

/-- One locked block, or the work of the task between two of its blocks. -/
inductive ScanAct
  -- the task
  | take (now : UInt32)
  | judge (hw : Hardware) (still : Bool)
  | release
  | work (still : Bool) (e : Echo)
  | rest
  | publish
  -- other tasks
  | requestScan (id : UInt16)
  | requestPeek (id : UInt16) (angle : ℕ)
  | cancelScan
  deriving DecidableEq

def Mailbox.free (b : Mailbox) : Bool := b.requested = 0 && !b.busy && !b.cancel

/-- The locked block of `subsystem5_request_scan`. -/
def Mailbox.requestScan (b : Mailbox) (id : UInt16) : Bool × Mailbox :=
  if id ≠ 0 ∧ b.free then (true, { b with requested := id, busy := true }) else (false, b)

/-- The locked block of `subsystem5_request_peek`. -/
def Mailbox.requestPeek (b : Mailbox) (id : UInt16) (angle : ℕ) : Bool × Mailbox :=
  if id ≠ 0 ∧ peekAngleValid angle ∧ b.free then
    (true, { b with requested := id, requestedAngle := angle, busy := true })
  else (false, b)

/-- `subsystem5_cancel_scan`. -/
def Mailbox.cancelScan (b : Mailbox) : Mailbox :=
  { b with cancel := true, requested := 0, requestedAngle := 0 }

def Mailbox.publish (b : Mailbox) (obs : Observation) : Mailbox :=
  match observationPack obs with
  | some packet => { b with published := packet }
  | none => b

namespace ScanSystem

def start : ScanSystem := ⟨.start, .start, .top⟩

/-- One step.  A step of the task that is not next in its round changes nothing. -/
def act (s : ScanSystem) : ScanAct → ScanSystem
  | .take now =>
    match s.pc with
    | .top =>
      { s with
        box := { s.box with cancel := false, requested := 0, requestedAngle := 0 }
        pc := .taken now ⟨s.box.cancel, s.box.requested, s.box.requestedAngle⟩ }
    | _ => s
  | .judge hw still =>
    match s.pc with
    | .taken now m =>
      if !s.task.initialized then { s with task := s.task.bringUp now hw, pc := .publishing }
      else if m.cancel ∨ (s.task.scanning ∧ !still) then
        { s with task := s.task.abort now, pc := .aborted now m }
      else { s with pc := .judged now m }
    | _ => s
  | .release =>
    match s.pc with
    | .aborted now m => { s with box := { s.box with busy := false }, pc := .judged now m }
    | _ => s
  | .work still e =>
    match s.pc with
    | .judged now m =>
      let t := s.task.work now m still e
      { s with task := t, pc := if t.scanning then .publishing else .idle }
    | _ => s
  | .rest =>
    match s.pc with
    | .idle => { s with box := { s.box with busy := false }, pc := .publishing }
    | _ => s
  | .publish =>
    match s.pc with
    | .publishing => { s with box := s.box.publish s.task.obs, pc := .top }
    | _ => s
  | .requestScan id => { s with box := (s.box.requestScan id).2 }
  | .requestPeek id angle => { s with box := (s.box.requestPeek id angle).2 }
  | .cancelScan => { s with box := s.box.cancelScan }

end ScanSystem

/-! ## What is published -/

/-- The ranges and the cross-field rules of the packet that hold at any point of a round. -/
structure Observation.Sound (v : Observation) : Prop where
  range : v.rangeMm ≤ 4000
  valid : v.rangeValid = true → 30 ≤ v.rangeMm
  invalid : v.rangeValid = false → v.rangeMm = 0
  profile : v.profile.Sound
  scanned : v.profile.valid = true → v.scanDone = true

theorem Observation.Sound.clear {v : Observation} (h : v.Sound) (id : UInt16) (done : Bool)
    (us : UInt32) :
    Observation.Sound { v with scanId := id, scanDone := done, scanUs := us, profile := .zero } :=
  { h with profile := zero_sound, scanned := nofun }

theorem Observation.Sound.complete {v : Observation} (h : v.Sound) {p : Profile} (hp : p.Sound)
    (id : UInt16) (us : UInt32) :
    Observation.Sound { v with scanId := id, scanDone := true, scanUs := us, profile := p } :=
  { h with profile := hp, scanned := fun _ => rfl }

theorem Observation.packable_of_sound {v : Observation} (h : v.Sound)
    (hsilent : v.noEcho → v.rangeValid = false) : v.packable := by
  obtain ⟨hrange, hvalid, hinvalid, hp, hscanned⟩ := h
  obtain ⟨hclosest, hwidth, hleft, hright, hforward, hleftEdge, hrightEdge, hnear⟩ := hp
  simp only [packable, Bool.and_eq_true, decide_eq_true_eq]
  cases hv : v.rangeValid <;> cases hq : v.profile.valid <;> simp_all

namespace Scanner

/-- What holds between two blocks of the task. -/
structure Fit (t : Scanner) : Prop where
  obs : t.obs.Sound
  silent : t.obs.noEcho = true → t.obs.rangeValid = false
  ahead : t.scanning = false → t.angle = 90

/-- The same inside a round, where the range ahead may still have to be hidden. -/
structure Loose (t : Scanner) (now : UInt32) : Prop where
  obs : t.obs.Sound
  silent : t.obs.noEcho = true → t.obs.rangeValid = true →
    t.scanning = true ∨ now - t.positioned < 250000
  ahead : t.scanning = false → t.angle = 90

variable {t : Scanner}

theorem Fit.loose (h : t.Fit) (now : UInt32) : t.Loose now :=
  ⟨h.obs, fun he hv => absurd hv (by simp [h.silent he]), h.ahead⟩

theorem fit_start : Scanner.start.Fit :=
  ⟨⟨by decide, by decide, by decide, zero_sound, by decide⟩, by decide, fun _ => rfl⟩

theorem Fit.bringUp (h : t.Fit) (now : UInt32) (hw : Hardware) : (t.bringUp now hw).Fit := by
  unfold Scanner.bringUp
  split_ifs <;> exact { h with }

theorem Fit.abort (h : t.Fit) (now : UInt32) : (t.abort now).Fit :=
  ⟨h.obs.clear _ _ _, h.silent, fun _ => rfl⟩

theorem Fit.request (h : t.Fit) (now : UInt32) (m : Taken) (still : Bool) :
    (t.request now m still).Fit := by
  unfold Scanner.request
  by_cases hpeek : m.req ≠ 0 ∧ m.reqAngle ≠ 0 ∧ (!m.cancel)
  · rw [if_pos hpeek]
    split
    · exact ⟨h.obs.clear _ _ _, h.silent, h.ahead⟩
    · exact ⟨h.obs, h.silent, nofun⟩
  rw [if_neg hpeek]
  split_ifs
  · exact ⟨h.obs.clear _ _ _, h.silent, h.ahead⟩
  · exact ⟨h.obs.clear _ _ _, h.silent, nofun⟩
  · exact h

theorem Fit.ping (h : t.Fit) (now : UInt32) (e : Echo) : (t.ping now e).2.Fit := by
  unfold Scanner.ping
  split_ifs <;> exact { h with }

variable {now : UInt32}

theorem ping_reading {e : Echo} {r : ℕ × Bool} (h : (t.ping now e).1 = some r) : Reading r := by
  unfold Scanner.ping at h
  dsimp only at h
  split_ifs at h
  · exact Sonar.poll_reading h
  · obtain rfl := Option.some.inj h
    exact nofun

theorem merged_sound {p : Profile} (h : p.Sound) (failed : Bool) (sample : ℕ) :
    ((if failed then none else peekMerge p sample).getD .zero).Sound := by
  split_ifs
  · exact zero_sound
  · cases hm : peekMerge p sample with
    | none => exact zero_sound
    | some => exact peekMerge_sound h hm

theorem sub_self_lt (now : UInt32) : now - now < 250000 := by
  rw [UInt32.sub_self]
  decide

theorem Loose.finish (h : t.Loose now) : (t.finish now).Loose now := by
  unfold Scanner.finish
  by_cases hpeek : t.peekId ≠ 0
  · rw [if_pos hpeek]
    exact ⟨h.obs.complete (merged_sound h.obs.profile _ _) _ _, fun _ _ => .inr (sub_self_lt now),
      fun _ => rfl⟩
  rw [if_neg hpeek]
  split_ifs
  · exact ⟨h.obs.complete h.obs.profile _ _, fun _ _ => .inr (sub_self_lt now), fun _ => rfl⟩
  · exact ⟨h.obs.complete (profileBuild_sound _ (by decide)) _ _,
      fun _ _ => .inr (sub_self_lt now), fun _ => rfl⟩

theorem count_obs (t : Scanner) (valid : Bool) : ∃ failures noEcho,
    t.count valid = { t with failures := failures, obs := { t.obs with noEcho := noEcho } } ∧
      (valid → noEcho = false) := by
  cases valid with
  | true => exact ⟨0, false, rfl, fun _ => rfl⟩
  | false => exact ⟨_, _, rfl, nofun⟩

theorem Fit.measured (h : t.Fit) (now : UInt32) {mm : ℕ} {valid : Bool} (hr : Reading (mm, valid)) :
    (t.measured now mm valid).Loose now := by
  unfold Scanner.measured
  obtain ⟨failures, noEcho, hcount, hvalid⟩ := t.count_obs valid
  simp only [hcount]
  have hobs : Observation.Sound { t.obs with noEcho := noEcho } := { h.obs with }
  by_cases hscan : t.scanning
  · rw [if_pos hscan]
    have hloose (scan : Scan) (angle : ℕ) (positioned : UInt32) : Loose
        { t with
          failures := failures, obs := { t.obs with noEcho := noEcho }, scan := scan,
          angle := angle, positioned := positioned } now :=
      ⟨hobs, fun _ _ => .inl hscan, fun h => absurd (hscan.symm.trans h) nofun⟩
    split_ifs
    · exact (hloose _ _ _).finish
    · exact hloose _ _ _
    · exact hloose _ _ _
  · have hahead : t.angle = 90 := h.ahead (by simpa using hscan)
    rw [if_neg hscan, if_pos hahead]
    split_ifs with hv he
    · obtain ⟨hmin, hmax⟩ := hr hv
      exact ⟨{ h.obs with range := hmax, valid := fun _ => hmin, invalid := nofun },
        fun he => absurd he (by simp [hvalid hv]), fun _ => hahead⟩
    · exact ⟨{ h.obs with range := Nat.zero_le _, valid := nofun, invalid := fun _ => rfl },
        nofun, fun _ => hahead⟩
    · exact ⟨hobs, fun h => absurd h he, fun _ => hahead⟩

theorem Loose.timeOut (h : t.Loose now) : (t.timeOut now).Loose now := by
  unfold Scanner.timeOut
  split_ifs
  · exact ⟨h.obs.clear _ _ _, fun _ _ => .inr (sub_self_lt now), fun _ => rfl⟩
  · exact ⟨h.obs.clear _ _ _, fun _ _ => .inr (sub_self_lt now), fun _ => rfl⟩
  · exact h

theorem Loose.hide (h : t.Loose now) : (t.hide now).Fit := by
  unfold Scanner.hide
  split_ifs with hhidden
  · exact ⟨{ h.obs with range := Nat.zero_le _, valid := nofun, invalid := fun _ => rfl },
      fun _ => rfl, h.ahead⟩
  · refine ⟨h.obs, fun he => ?_, h.ahead⟩
    by_contra hv
    exact hhidden (h.silent he (by simpa using hv))

theorem Fit.work (h : t.Fit) (now : UInt32) (m : Taken) (still : Bool) (e : Echo) :
    (t.work now m still e).Fit := by
  unfold Scanner.work
  dsimp only
  have hping := (h.request now m still).ping now e
  cases hr : ((t.request now m still).ping now e).1 with
  | none => exact (hping.loose now).timeOut.hide
  | some => exact (hping.measured now (ping_reading hr)).timeOut.hide

end Scanner

namespace ScanSystem

theorem fit_act {s : ScanSystem} (h : s.task.Fit) (a : ScanAct) : (s.act a).task.Fit := by
  cases a with
  | judge hw =>
    simp only [act]
    split
    · split_ifs
      · exact h.bringUp _ hw
      · exact h.abort _
      · exact h
    · exact h
  | work still e =>
    simp only [act]
    split
    · exact h.work _ _ still e
    · exact h
  | take | release | rest | publish =>
    simp only [act]
    split <;> exact h
  | requestScan | requestPeek | cancelScan => exact h

theorem reached_fit (acts : List ScanAct) : (acts.foldl act start).task.Fit := by
  have hstart : start.task.Fit := Scanner.fit_start
  exact Run.invariant (I := fun s : ScanSystem => s.task.Fit) (fun _ a h => fit_act h a) hstart acts

theorem publish_fit {s : ScanSystem} (h : s.task.Fit) :
    ∃ packet, observationPack s.task.obs = some packet ∧
      (s.pc = .publishing → (s.act .publish).box.published = packet) := by
  have hpackable := Observation.packable_of_sound h.obs h.silent
  obtain ⟨packet, hpack⟩ : ∃ packet, observationPack s.task.obs = some packet := by
    rw [observationPack, if_pos hpackable]
    exact ⟨_, rfl⟩
  refine ⟨packet, hpack, fun hpc => ?_⟩
  have hact : s.act .publish = { s with box := s.box.publish s.task.obs, pc := .top } := by
    simp only [act, hpc]
  have hpublish : s.box.publish s.task.obs = { s.box with published := packet } := by
    unfold Mailbox.publish
    rw [hpack]
  rw [hact, hpublish]

/-- **Every observation is publishable**: that of the task packs, so a publication replaces the
packet, and a packet is accepted exactly if it is that of what is read from it. -/
theorem observations_publishable (acts : List ScanAct) :
    (∃ packet, observationPack (acts.foldl act start).task.obs = some packet ∧
      ((acts.foldl act start).pc = .publishing →
        ((acts.foldl act start).act .publish).box.published = packet)) ∧
    ∀ packet v, observationUnpack packet = some v ↔ observationPack v = some packet := by
  refine ⟨publish_fit (reached_fit acts), fun packet v => ⟨fun h => ?_, observationUnpack_pack⟩⟩
  simp only [observationUnpack, Option.ite_none_right_eq_some, Option.some.injEq] at h
  obtain ⟨h, rfl⟩ := h
  exact h

end ScanSystem

end RoboticCar.Obstacle
