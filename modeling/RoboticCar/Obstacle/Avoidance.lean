import RoboticCar.Lib.BitField
import RoboticCar.Lib.CFloat

/-!
# The obstacle avoidance machine

The pure core of the obstacle subsystem: the observation and its packet (`s5_codec.c`), the route
(`avoidance_planner.c`), the evidence for the line (`line_recovery.c`) and the machine that asks for
one move after another (`obstacle_avoidance.c`).  It owns no motor; a movement is proposed only
while the car reports that it has stopped (`step_stopped`).
-/

namespace RoboticCar.Obstacle

open Lib CFloat

/-! ## Configuration and observations -/

/-- `s5_config_t`, in millimetres and millimetres per second. -/
structure Config where
  detectMm : ℕ
  emergencyMm : ℕ
  profileMm : ℕ
  halfWidthMm : ℕ
  marginMm : ℕ
  maxDepthMm : ℕ
  recoveryGateMm : ℕ
  maxOffsetMm : ℕ
  sensorAxleMm : ℕ
  speedMms : ℕ

def Config.defaults : Config := ⟨200, 80, 350, 90, 30, 500, 100, 700, 0, 80⟩

def rangeFreshUs : UInt32 := 250000

def scanTimeoutUs : UInt32 := 10000000

def peekDeg : ℕ := 60

def peekStepMm : ℕ := 50

def sonarAxleMm : ℕ := 100

structure Profile where
  closestMm : ℕ
  widthMm : ℕ
  leftClearMm : ℕ
  rightClearMm : ℕ
  leftEdgeMm : Int
  rightEdgeMm : Int
  forwardMm : ℕ
  valid : Bool
  deriving DecidableEq

structure Observation where
  rangeUs : UInt32
  scanUs : UInt32
  rangeMm : ℕ
  scanId : UInt16
  profile : Profile
  rangeValid : Bool
  noEcho : Bool
  scanDone : Bool
  deriving DecidableEq

def Observation.zero : Observation :=
  ⟨0, 0, 0, 0, ⟨0, 0, 0, 0, 0, 0, 0, false⟩, false, false, false⟩

def rangeReady (o : Observation) (now : UInt32) : Bool :=
  o.rangeValid && !o.noEcho && 30 ≤ o.rangeMm && o.rangeMm ≤ 4000 &&
    decide (now - o.rangeUs ≤ rangeFreshUs)

/-! ## The packet -/

/-- An observation that `s5_observation_pack` accepts. -/
def Observation.packable (v : Observation) : Bool :=
  let q := v.profile
  v.rangeMm ≤ 4000 && !(v.rangeValid && v.rangeMm < 30) && !(!v.rangeValid && v.rangeMm ≠ 0) &&
    !(v.noEcho && v.rangeValid) && q.closestMm ≤ 4000 && q.widthMm ≤ 4095 &&
    q.leftClearMm ≤ 4000 && q.rightClearMm ≤ 4000 && q.forwardMm ≤ 4000 &&
    -4000 ≤ q.leftEdgeMm && q.leftEdgeMm ≤ 4000 && -4000 ≤ q.rightEdgeMm && q.rightEdgeMm ≤ 4000 &&
    !(q.valid && (!v.scanDone || q.closestMm < 30 || q.leftEdgeMm < q.rightEdgeMm))

/-- The fields of the packet in the order of the `put` calls, each with its width. -/
def Observation.fields (v : Observation) : List (ℕ × ℕ) :=
  let q := v.profile
  [(v.rangeUs.toNat, 32), (v.scanUs.toNat, 32), (v.scanId.toNat, 16), (v.rangeMm, 12),
    (v.rangeValid.toNat, 1), (v.noEcho.toNat, 1), (v.scanDone.toNat, 1), (q.valid.toNat, 1),
    (q.closestMm, 12), (q.widthMm, 12), (q.leftClearMm, 12), (q.rightClearMm, 12),
    (q.forwardMm, 12), ((q.leftEdgeMm + 4000).toNat, 13), ((q.rightEdgeMm + 4000).toNat, 13)]

def packetWidths : List ℕ := [32, 32, 16, 12, 1, 1, 1, 1, 12, 12, 12, 12, 12, 13, 13]

/-- `s5_observation_pack`: the 23 bytes as one number, or `none` where it returns `false`. -/
def observationPack (v : Observation) : Option ℕ :=
  if v.packable then some (BitField.pack v.fields) else none

/-- The observation that the fields of a packet spell. -/
def Observation.ofFields : List ℕ → Observation
  | [rangeUs, scanUs, scanId, rangeMm, rangeValid, noEcho, scanDone, valid, closest, width, left,
      right, forward, leftEdge, rightEdge] =>
    ⟨UInt32.ofNat rangeUs, UInt32.ofNat scanUs, rangeMm, UInt16.ofNat scanId,
      ⟨closest, width, left, right, leftEdge - 4000, rightEdge - 4000, forward, valid ≠ 0⟩,
      rangeValid ≠ 0, noEcho ≠ 0, scanDone ≠ 0⟩
  | _ => .zero

/-- `s5_observation_unpack`: only a packet that its own reading packs to is accepted. -/
def observationUnpack (packet : ℕ) : Option Observation :=
  let t := Observation.ofFields (BitField.unpack packetWidths packet)
  if observationPack t = some packet then some t else none

theorem Observation.fields_fit {v : Observation} (h : v.packable) :
    ∀ f ∈ v.fields, f.1 < 2 ^ f.2 := by
  have hbool : ∀ b : Bool, b.toNat < 2 := fun b => by cases b <;> decide
  simp only [packable, Bool.and_eq_true, decide_eq_true_eq] at h
  simp only [fields, List.forall_mem_cons, List.not_mem_nil, false_imp_iff, implies_true, and_true]
  refine ⟨v.rangeUs.toNat_lt, v.scanUs.toNat_lt, v.scanId.toNat_lt, ?_, hbool _, hbool _, hbool _,
    hbool _, ?_, ?_, ?_, ?_, ?_, ?_, ?_⟩ <;> omega

theorem Observation.ofFields_fields {v : Observation} (h : v.packable) :
    Observation.ofFields (v.fields.map Prod.fst) = v := by
  have hbool : ∀ b : Bool, decide (b.toNat ≠ 0) = b := fun b => by cases b <;> rfl
  simp only [packable, Bool.and_eq_true, decide_eq_true_eq] at h
  obtain ⟨rangeUs, scanUs, rangeMm, scanId, q, rangeValid, noEcho, scanDone⟩ := v
  obtain ⟨closest, width, left, right, leftEdge, rightEdge, forward, valid⟩ := q
  have hl : ((leftEdge + 4000).toNat : Int) - 4000 = leftEdge := by simp only at h; omega
  have hr : ((rightEdge + 4000).toNat : Int) - 4000 = rightEdge := by simp only at h; omega
  simp only [fields, List.map_cons, List.map_nil, ofFields, UInt32.ofNat_toNat,
    UInt16.ofNat_toNat, hbool, hl, hr]

theorem observationUnpack_pack {v : Observation} {packet : ℕ}
    (h : observationPack v = some packet) : observationUnpack packet = some v := by
  have hv : v.packable := by
    by_contra hv
    simp [observationPack, hv] at h
  have hp : BitField.pack v.fields = packet := by
    simpa [observationPack, hv] using h
  have ht : Observation.ofFields (BitField.unpack packetWidths packet) = v := by
    rw [← hp, show packetWidths = v.fields.map Prod.snd from rfl,
      BitField.unpack_pack (Observation.fields_fit hv), Observation.ofFields_fields hv]
  simp [observationUnpack, ht, h]

/-! ## The plan -/

inductive Route
  | none
  | left
  | right
  deriving DecidableEq

/-- `s5_plan_t`: three 12-bit distances, a route and whether the other side is open. -/
structure Plan where
  route : Route
  offsetMm : ℕ
  forwardMm : ℕ
  altOffsetMm : ℕ
  altOk : Bool

def Plan.zero : Plan := ⟨.none, 0, 0, 0, false⟩

/-- `s5_plan`, with the left side preferred (`S5_PREFER_ROUTE` is 1). -/
def plan (p : Profile) (c : Config) : Option Plan :=
  if !p.valid ∨ c.halfWidthMm = 0 ∨ c.marginMm = 0 ∨ c.maxDepthMm = 0 then none
  else
    let pad := c.halfWidthMm + c.marginMm
    let left := p.leftEdgeMm.toNat + pad
    let right := (-p.rightEdgeMm).toNat + pad
    let forward := p.forwardMm
    let l : Bool := left ≤ c.maxOffsetMm
    let r : Bool := right ≤ c.maxOffsetMm
    if (!l ∧ !r) ∨ forward = 0 ∨ forward > 3000 then none
    else if l then some ⟨.left, left % 2 ^ 12, forward % 2 ^ 12, right % 2 ^ 12, r⟩
    else some ⟨.right, right % 2 ^ 12, forward % 2 ^ 12, left % 2 ^ 12, l⟩

/-! ## Line recovery -/

structure Recovery where
  sinceUs : UInt32
  touching : Bool
  confirmed : Bool

def Recovery.reset : Recovery := ⟨0, false, false⟩

def Recovery.observe (r : Recovery) (now : UInt32) (healthy tape junction corridor : Bool) :
    Recovery :=
  if !healthy ∨ !tape ∨ junction ∨ !corridor then { r with touching := false }
  else
    let r := if r.touching then r else { r with touching := true, sinceUs := now }
    if now - r.sinceUs ≥ 30000 then { r with confirmed := true } else r

/-! ## The machine -/

inductive State
  | idle
  | waitStop
  | scanning
  | moving
  | finish
  | complete
  | fault
  deriving DecidableEq

inductive Fault
  | ok
  | badRange
  | noPath
  | scanFailed
  | deadline
  | noLine
  | motionError
  | interrupted
  deriving DecidableEq

inductive ActionKind
  | none
  | stop
  | scan
  | drive
  | turn
  | resume
  | peek
  deriving DecidableEq

inductive Pass
  | approach
  | peek
  | peeking
  | step
  | extra
  deriving DecidableEq

structure Action where
  kind : ActionKind
  value : Int
  speedMms : ℕ

structure Input (D : Type) where
  nowUs : UInt32
  centreM : D
  stopped : Bool
  motionDone : Bool
  healthy : Bool
  tape : Bool
  junction : Bool
  lineReady : Bool
  observation : Observation

structure Avoidance (D : Type) where
  config : Config
  plan : Plan
  recovery : Recovery
  state : State
  fault : Fault
  leg : ℕ
  issued : Bool
  pass : Pass
  swapped : Bool
  searchedMm : ℕ
  phaseUs : UInt32
  startedUs : UInt32
  legStartM : D

/-- `action`: the value as an `int16_t`, the speed as a `uint16_t`. -/
def action (kind : ActionKind) (value : Int) (speed : ℕ) : Action :=
  ⟨kind, value.bmod (2 ^ 16), speed % 2 ^ 16⟩

def Action.idle : Action := action .none 0 0

namespace Avoidance

variable {D : Type}

def fail (a : Avoidance D) (reason : Fault) : Action × Avoidance D :=
  (action .stop 0 0, { a with state := .fault, fault := reason })

/-- `s5_avoidance_begin`. -/
def begin (a : Avoidance D) (now : UInt32) : Avoidance D :=
  { a with
    state := .waitStop
    fault := .ok
    phaseUs := now
    startedUs := now
    leg := 0
    issued := false
    plan := .zero
    recovery := .reset
    pass := .approach
    searchedMm := 0
    swapped := false }

/-- `s5_avoidance_abort`. -/
def abort (a : Avoidance D) : Avoidance D :=
  { a with state := .idle, issued := false, recovery := .reset }

def passExtraMm (a : Avoidance D) : ℕ :=
  (a.plan.offsetMm * 577 + 999) / 1000 + sonarAxleMm + a.config.halfWidthMm + a.config.marginMm

def peekResult (a : Avoidance D) (i : Input D) (elapsed : UInt32) : Action × Avoidance D :=
  let p := i.observation.profile
  if elapsed > scanTimeoutUs then a.fail .deadline
  else if !i.observation.scanDone ∨ (i.observation.scanUs - a.phaseUs).toInt32 ≤ 0 then (.idle, a)
  else if !p.valid then a.fail .scanFailed
  else
    let side := if a.plan.route = .left then p.rightClearMm else p.leftClearMm
    let limit := ((a.plan.offsetMm + a.config.marginMm) * 1155 + 999) / 1000
    let a := { a with phaseUs := i.nowUs }
    if side ≤ limit then
      if a.searchedMm + peekStepMm > a.config.maxDepthMm then a.fail .noPath
      else (.idle, { a with pass := .step })
    else (.idle, { a with pass := .extra })

variable [CFloat D]

/-- `s5_avoidance_init`. -/
def init (c : Config) : Avoidance D :=
  ⟨c, .zero, .reset, .idle, .ok, 0, false, .approach, false, 0, 0, 0, zero⟩

/-- The corridor of leg 5: the progress made is within the gate of the planned offset. -/
def inCorridor (a : Avoidance D) (i : Input D) : Bool :=
  let progressed := (i.centreM - a.legStartM) * lit 1000
  let error := progressed + ofInt a.config.sensorAxleMm - ofInt a.plan.offsetMm
  ge error (-(ofInt a.config.recoveryGateMm)) && le error (ofInt a.config.recoveryGateMm)

/-- The observation of the line during the last legs. -/
def observeLine (a : Avoidance D) (i : Input D) : Avoidance D :=
  if a.issued ∧ a.leg = 5 then
    { a with recovery :=
        a.recovery.observe i.nowUs i.healthy i.tape i.junction (a.inCorridor i) }
  else if a.issued ∧ 7 ≤ a.leg then
    { a with recovery := a.recovery.observe i.nowUs i.healthy i.tape i.junction true }
  else a

/-- A move is under way: the next leg when it is done. -/
def awaitMove (a : Avoidance D) (i : Input D) : Action × Avoidance D :=
  if !i.motionDone then (.idle, a)
  else
    let a := { a with issued := false, phaseUs := i.nowUs }
    -- Leg 3 ends only after the final clearance move.
    if a.leg = 3 ∧ a.pass ≠ .extra then (.idle, { a with pass := .peek })
    else
      let a := { a with leg := a.leg + 1 }
      if a.leg = 7 ∧ a.recovery.confirmed then (action .stop 0 0, { a with state := .finish })
      else if a.leg = 10 then
        if !a.recovery.confirmed then a.fail .noLine
        else (action .stop 0 0, { a with state := .finish })
      else (.idle, a)

/-- A straight leg needs a clear path; on leg 1 the other side is tried once.  The reading is
checked twice, as in the source. -/
def launchStraight (a : Avoidance D) (i : Input D) (elapsed : UInt32) : Action × Avoidance D :=
  let mm :=
    if a.leg = 3 then
      if a.pass = .approach then a.plan.forwardMm
      else if a.pass = .step then peekStepMm
      else a.passExtraMm
    else a.plan.offsetMm
  let need :=
    if a.leg = 1 ∧ a.plan.offsetMm + a.config.marginMm > a.config.detectMm then
      a.plan.offsetMm + a.config.marginMm
    else a.config.detectMm
  if !rangeReady i.observation i.nowUs ∨
      (i.observation.rangeUs - a.phaseUs).toInt32 ≤ 0 then
    if elapsed > 1000000 then a.fail .badRange else (.idle, a)
  else if i.observation.rangeMm ≤ need then
    if a.leg = 1 ∧ !a.swapped ∧ a.plan.altOk then
      let route := if a.plan.route = .left then Route.right else .left
      (action .turn (if route = .left then 180 else -180) a.config.speedMms,
        { a with
          swapped := true
          plan := { a.plan with
            altOffsetMm := a.plan.offsetMm, offsetMm := a.plan.altOffsetMm, route := route }
          leg := 0
          issued := true })
    else a.fail .noPath
  else
    (action .drive mm a.config.speedMms,
      { a with
        issued := true
        legStartM := i.centreM
        searchedMm :=
          if a.leg = 3 ∧ a.pass = .step then (a.searchedMm + mm) % 2 ^ 16 else a.searchedMm })

/-- The next move of a stopped car, after a fresh forward reading. -/
def launch (a : Avoidance D) (i : Input D) (elapsed : UInt32) : Action × Avoidance D :=
  if !i.stopped then (.idle, a)
  else if !rangeReady i.observation i.nowUs ∨
      (i.observation.rangeUs - a.phaseUs).toInt32 ≤ 0 then
    if elapsed > 1000000 then a.fail .badRange else (.idle, a)
  else if i.observation.rangeMm ≤ a.config.emergencyMm then a.fail .noPath
  else
    let sign : Int := if a.plan.route = .left then 1 else -1
    if a.leg = 3 ∧ a.pass = .peek then
      (action .peek (if a.plan.route = .left then 90 - peekDeg else 90 + peekDeg) 0,
        { a with pass := .peeking, phaseUs := i.nowUs })
    else if a.leg = 1 ∨ a.leg = 3 ∨ a.leg = 5 then a.launchStraight i elapsed
    else
      let a := { a with issued := true }
      let turn (degrees : Int) := (action .turn degrees a.config.speedMms, a)
      if a.leg = 0 ∨ a.leg = 6 then turn (sign * 90)
      else if a.leg = 2 ∨ a.leg = 4 then turn (-sign * 90)
      else turn (if a.leg = 8 then -40 else 20)

/-- The `S5_MOVING` branch. -/
def moving (a : Avoidance D) (i : Input D) (elapsed : UInt32) : Action × Avoidance D :=
  if elapsed > 20000000 then a.fail .deadline
  else if a.leg = 3 ∧ a.pass = .peeking then a.peekResult i elapsed
  else if a.issued ∧ (!rangeReady i.observation i.nowUs ∨
      i.observation.rangeMm ≤ a.config.emergencyMm) then a.fail .badRange
  else
    let a := a.observeLine i
    if a.issued then a.awaitMove i else a.launch i elapsed

/-- `s5_avoidance_step`. -/
def step (a : Avoidance D) (i : Input D) : Action × Avoidance D :=
  if a.state = .idle ∨ a.state = .complete ∨ a.state = .fault then (.idle, a)
  else if !i.healthy then a.fail .motionError
  else if i.nowUs - a.startedUs > 60000000 then a.fail .deadline
  else
    let elapsed := i.nowUs - a.phaseUs
    match a.state with
    | .waitStop =>
      if elapsed > 1000000 then a.fail .deadline
      else if i.stopped then
        (action .scan 0 0, { a with state := .scanning, phaseUs := i.nowUs })
      else (.idle, a)
    | .scanning =>
      if elapsed > scanTimeoutUs then a.fail .deadline
      else if i.observation.scanDone ∧ 0 < (i.observation.scanUs - a.phaseUs).toInt32 then
        if !i.observation.profile.valid then a.fail .scanFailed
        else
          match Obstacle.plan i.observation.profile a.config with
          | none => fail { a with plan := .zero } .noPath
          | some p => (.idle, { a with plan := p, state := .moving, phaseUs := i.nowUs })
      else (.idle, a)
    | .moving => a.moving i elapsed
    | .finish =>
      if elapsed > 1000000 then a.fail .noLine
      else if i.stopped ∧ i.lineReady ∧ !i.junction ∧ a.recovery.confirmed then
        (action .resume 0 0, { a with state := .complete })
      else (.idle, a)
    | _ => (.idle, a)

/-! ## Only a stopped car is moved -/

/-- The action neither ends the wait for a stop nor starts a movement. -/
def Quiet (kind : ActionKind) : Prop := kind = .none ∨ kind = .stop

omit [CFloat D] in
theorem fail_quiet (a : Avoidance D) (reason : Fault) : Quiet (a.fail reason).1.kind := .inr rfl

theorem idle_quiet : Quiet Action.idle.kind := .inl rfl

omit [CFloat D] in
theorem peekResult_quiet (a : Avoidance D) (i : Input D) (elapsed : UInt32) :
    Quiet (a.peekResult i elapsed).1.kind := by
  simp only [peekResult]
  split_ifs <;> first | exact fail_quiet _ _ | exact idle_quiet

omit [CFloat D] in
theorem awaitMove_quiet (a : Avoidance D) (i : Input D) : Quiet (a.awaitMove i).1.kind := by
  simp only [awaitMove]
  split_ifs <;> first | exact fail_quiet _ _ | exact idle_quiet | exact .inr rfl

omit [CFloat D] in
theorem launch_quiet (a : Avoidance D) (i : Input D) (elapsed : UInt32)
    (h : i.stopped = false) : Quiet (a.launch i elapsed).1.kind := by
  simp only [launch, h]
  exact idle_quiet

theorem moving_quiet (a : Avoidance D) (i : Input D) (elapsed : UInt32)
    (h : i.stopped = false) : Quiet (a.moving i elapsed).1.kind := by
  simp only [moving]
  split_ifs
  · exact fail_quiet _ _
  · exact peekResult_quiet _ _ _
  · exact fail_quiet _ _
  · exact awaitMove_quiet _ _
  · exact launch_quiet _ _ _ h

/-- **Only a stopped car is moved**: a scan, a side reading, a drive, a turn or the end of the
detour is proposed only on an input that reports the car stopped. -/
theorem step_stopped {a : Avoidance D} {i : Input D} (h : ¬Quiet (a.step i).1.kind) :
    i.stopped := by
  by_contra hs
  rw [Bool.not_eq_true] at hs
  refine h ?_
  simp only [step]
  split
  · exact idle_quiet
  split
  · exact fail_quiet _ _
  split
  · exact fail_quiet _ _
  split
  · simp only [hs, Bool.false_eq_true, if_false]
    split_ifs <;> first | exact fail_quiet _ _ | exact idle_quiet
  · split_ifs
    · exact fail_quiet _ _
    · exact fail_quiet _ _
    · split <;> first | exact fail_quiet _ _ | exact idle_quiet
    · exact idle_quiet
  · exact moving_quiet _ _ _ hs
  · simp only [hs, Bool.false_eq_true, false_and, if_false]
    split_ifs <;> first | exact fail_quiet _ _ | exact idle_quiet
  · exact idle_quiet

end Avoidance

end RoboticCar.Obstacle
