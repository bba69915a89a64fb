import RoboticCar.Drive.Machine
import RoboticCar.Integration.ActiveMap
import RoboticCar.Integration.Desk

/-!
# The sampling owner

The task `sample` of `s3_integration.c` is the only one that calls the drive.  In a cycle it takes a
request from the desk, carries out a STOP, lets the terrain monitor speak, gives the drive a frame,
executes another request and publishes its status.

`Robot.Step` is one block of a task: what it does between two operations on a lock.  Submits and map
commands come between any two blocks.  What the terrain monitor answers, and whether the status
fits its packet, is left open.
-/

namespace RoboticCar.Integration

open Lib CFloat Motion Navigation Driving
open Telemetry (BarcodeMap Reply)

variable {F D : Type} {B : BarcodeReaders}

/-- `s3_calibration_add` for one of the two surfaces. -/
def addToRange (r : CalibrationRange) (raw : ℕ) : CalibrationRange :=
  if 65535 ≤ r.count then r
  else ⟨r.count + 1, r.sum + raw, min r.minimum raw, max r.maximum raw⟩

def calibrationAdd (c : CalibrationCollector) (label : Surface) (raw : ℕ) :
    CalibrationCollector :=
  if 4095 < raw then c
  else
    match label with
    | .white => { c with white := addToRange c.white raw }
    | .black => { c with black := addToRange c.black raw }
    | .unknown => c

/-- The owner's variables for a collection of samples. -/
structure Collection where
  collecting : Bool
  sensor : SensorId
  label : Surface
  since : UInt32
  collector : PerSensor CalibrationCollector

def collectionUs : UInt32 := 1000000

/-- A range without samples: its minimum is that of a 12-bit converter. -/
def emptyRange : CalibrationRange := ⟨0, 0, 4095, 0⟩

namespace Collection

def boot : Collection := ⟨false, .barcode, .unknown, 0, .const ⟨⟨0, 0, 0, 0⟩, ⟨0, 0, 0, 0⟩⟩⟩

/-- A frame adds a sample and may end the collection. -/
def sampled (c : Collection) (frame : SensorFrame) : Collection :=
  if !c.collecting then c
  else
    let raw := frame.sensor.get c.sensor
    let collector :=
      if raw.valid && raw.error = 0 then
        c.collector.set c.sensor (calibrationAdd (c.collector.get c.sensor) c.label raw.raw)
      else c.collector
    { c with
      collector := collector
      collecting := decide (frame.timestampUs - c.since < collectionUs) }

/-- A new collection for a sensor. -/
def begin (c : Collection) (sensor : SensorId) (label : Surface) (now : UInt32) : Collection :=
  let old := c.collector.get sensor
  let new :=
    if label = .white then { old with white := emptyRange } else { old with black := emptyRange }
  ⟨true, sensor, label, now, c.collector.set sensor new⟩

end Collection

inductive Starting
  | idle
  /-- it has the map, and may have been the one to freeze it -/
  | claimed (map : BarcodeMap) (newly : Bool)
  /-- the drive has started -/
  | begun (newly : Bool)
  /-- it was refused and has to open the map again -/
  | reopening
  deriving DecidableEq

structure Robot (F D : Type) (B : BarcodeReaders) where
  desk : Desk
  drive : Drive F D B
  collection : Collection
  starting : Starting
  activeMap : ActiveMap

inductive Deed (F D : Type)
  | submit (r : ControlRequest)
  /-- a map command and the reply that is queued for it -/
  | network (payload : List UInt8) (reply : Option Reply)
  /-- a block of the owner with its calls of the drive; a START has blocks that leave the desk
  alone -/
  | owner (block : Option Block) (calls : List (Made F D))

def Deed.block : Deed F D → Option Block
  | .submit r => some (.submit r)
  | .network _ _ => none
  | .owner block _ => block

def Deed.calls : Deed F D → List (Made F D)
  | .owner _ calls => calls
  | _ => []

/-- The desk after a block that may leave it alone. -/
def Desk.after (s : Desk) : Option Block → Desk
  | none => s
  | some b => s.act b

/-- The blocks of the owner that only move the desk. -/
def Block.isQuiet : Block → Bool
  | .take | .pass | .completed | .idle | .finished | .publish true _ => true
  | _ => false

/-- The calls through which the terrain monitor speaks. -/
def polls : Op F D → Bool
  | .hold _ | .terrainFault => true
  | _ => false

def resetOf (d : Drive F D B) : Option Bool :=
  if d.resetResult = .pending then none else some (decide (d.resetResult = .ok))

def sensorOf? : ℕ → Option SensorId
  | 0 => some .barcode
  | 1 => some .left
  | 2 => some .right
  | _ => none

namespace Robot

/-- A START is refused before it touches the map unless this holds. -/
def eligible (s : Robot F D B) (terrainReady : Bool) (now : UInt32) : Bool :=
  terrainReady && !s.collection.collecting &&
    (decide (s.drive.state = .off) || decide (s.drive.state = .halted)) &&
    decide (s.drive.navigation.lifecycle = .inactive) &&
    decide (s.drive.navigation.readiness now = .clear)

/-- The requests that configure are refused while this holds. -/
def occupied (s : Robot F D B) : Bool :=
  decide (s.drive.navigation.lifecycle ≠ .inactive) || s.collection.collecting ||
    decide (s.drive.state = .fault)

variable [CFloat F] [CFloat D] [CDouble F D]

/-- `execute`, without the blocks of a START that takes the map: the calls, the result (none for a
RESET that has begun) and the robot. -/
inductive Executes (s5 : Bool) (s : Robot F D B) (now : UInt32) (r : ControlRequest) :
    List (Made F D) → Option Bool → Robot F D B → Prop
  | resetUnready (hr : r.kind = .reset) : Executes s5 s now r [] (some false) s
  | reset {m : Made F D} {d : Drive F D B} (hr : r.kind = .reset) (hm : m.op = .reset now)
      (hd : Driving.Step s5 s.drive m d) :
      Executes s5 s now r [m] (if m.ok ∧ d.resetResult = .pending then none else some m.ok)
        { s with drive := d }
  | startIneligible {terrainReady : Bool} (hr : r.kind = .start)
      (he : s.eligible terrainReady now = false) : Executes s5 s now r [] (some false) s
  | startUnclaimed {terrainReady : Bool} (hr : r.kind = .start)
      (he : s.eligible terrainReady now = true)
      (hc : configurationClaim s.activeMap = none) : Executes s5 s now r [] (some false) s
  | occupied (hr : r.kind ≠ .stop ∧ r.kind ≠ .reset ∧ r.kind ≠ .start) (ho : s.occupied = true) :
      Executes s5 s now r [] (some false) s
  | mappingRefused (hr : r.kind = .mapping) (ho : s.occupied = false)
      (hm : (applyMapping s.activeMap r.map).1 = false) :
      Executes s5 s now r [] (some false)
        { s with activeMap := (applyMapping s.activeMap r.map).2 }
  | mapping {m : Made F D} {d : Drive F D B} (hr : r.kind = .mapping) (ho : s.occupied = false)
      (hmap : (applyMapping s.activeMap r.map).1 = true)
      (hm : m.op = .setMapping fun i => actionOf (r.map i)) (hd : Driving.Step s5 s.drive m d) :
      Executes s5 s now r [m] (some m.ok)
        { s with drive := d, activeMap := (applyMapping s.activeMap r.map).2 }
  | noSensor (hr : r.kind.namesSensor = true) (ho : s.occupied = false)
      (hs : sensorOf? r.sensor = none) : Executes s5 s now r [] (some false) s
  | applyCalibration {m : Made F D} {d : Drive F D B} {id : SensorId}
      (hr : r.kind = .applyCalibration) (ho : s.occupied = false)
      (hs : sensorOf? r.sensor = some id)
      (hm : m.op = .applyCalibration id (s.collection.collector.get id))
      (hd : Driving.Step s5 s.drive m d) :
      Executes s5 s now r [m] (some m.ok) { s with drive := d }
  | white {id : SensorId} (hr : r.kind = .white) (ho : s.occupied = false)
      (hs : sensorOf? r.sensor = some id) :
      Executes s5 s now r [] (some true) { s with collection := s.collection.begin id .white now }
  | black {id : SensorId} (hr : r.kind = .black) (ho : s.occupied = false)
      (hs : sensorOf? r.sensor = some id) :
      Executes s5 s now r [] (some true) { s with collection := s.collection.begin id .black now }

/-- A refused START gives the map back if it was the one to freeze it, and otherwise has its result
at once. -/
def refusal (newly : Bool) : Option Block := if newly then none else some (.finish false)

/-- The robot after such a refusal. -/
def refused (s : Robot F D B) (d : Drive F D B) (newly : Bool) : Robot F D B :=
  { s with
    drive := d
    desk := s.desk.after (refusal newly)
    starting := if newly then .reopening else .idle }

inductive Step (s5 : Bool) (s : Robot F D B) : Deed F D → Robot F D B → Prop
  | submit (r : ControlRequest) : Step s5 s (.submit r) { s with desk := s.desk.act (.submit r) }
  /-- The reply is lost if the outbox is full. -/
  | network (payload : List UInt8) (sends : Bool) :
      Step s5 s
        (.network payload (if sends then some (commandProcess s.activeMap payload).1 else none))
        { s with activeMap := (commandProcess s.activeMap payload).2 }
  | quiet {b : Block} (hb : b.isQuiet = true) (hready : s.desk.Ready b) :
      Step s5 s (.owner (some b) []) { s with desk := s.desk.act b }
  | stop {m : Made F D} {d : Drive F D B} (hready : s.desk.Ready .stop) (hm : m.op = .stop)
      (hd : Driving.Step s5 s.drive m d) :
      Step s5 s (.owner (some .stop) [m])
        { s with
          desk := s.desk.act .stop, drive := d
          collection := { s.collection with collecting := false } }
  | sample {l : List (Made F D)} {m : Made F D} {d₁ d₂ : Drive F D B} {frame : SensorFrame}
      {feedback : MotionFeedback D} (hs : s.desk.stage = .sampling)
      (hl : ∀ p ∈ l, polls p.op = true) (hd₁ : Driving.Runs s5 s.drive l d₁)
      (hm : m.op = .process (some frame) (some feedback)) (hd₂ : Driving.Step s5 d₁ m d₂) :
      Step s5 s (.owner (some (.sample (resetOf d₂))) (l ++ [m]))
        { s with
          desk := s.desk.act (.sample (resetOf d₂)), drive := d₂
          collection := s.collection.sampled frame }
  | finish {r : ControlRequest} {now : UInt32} {l : List (Made F D)} {ok : Bool}
      {s' : Robot F D B} (hidle : s.starting = .idle) (hs : s.desk.stage = .executing)
      (hr : s.desk.taken = some r) (hx : s.Executes s5 now r l (some ok) s') :
      Step s5 s (.owner (some (.finish ok)) l) { s' with desk := s.desk.act (.finish ok) }
  | wait {r : ControlRequest} {now : UInt32} {l : List (Made F D)} {s' : Robot F D B}
      (hidle : s.starting = .idle) (hs : s.desk.stage = .executing)
      (hr : s.desk.taken = some r) (hx : s.Executes s5 now r l none s') :
      Step s5 s (.owner (some .wait) l) { s' with desk := s.desk.act .wait }
  | claim {r : ControlRequest} {now : UInt32} {terrainReady newly : Bool} {map : BarcodeMap}
      {m' : ActiveMap} (hidle : s.starting = .idle) (hs : s.desk.stage = .executing)
      (hr : s.desk.taken = some r) (hk : r.kind = .start)
      (he : s.eligible terrainReady now = true)
      (hc : configurationClaim s.activeMap = some (map, newly, m')) :
      Step s5 s (.owner none []) { s with activeMap := m', starting := .claimed map newly }
  | unmapped {map : BarcodeMap} {newly : Bool} {m : Made F D} {d : Drive F D B}
      (hc : s.starting = .claimed map newly) (hm : m.op = .setMapping (expand map))
      (hd : Driving.Step s5 s.drive m d) (hok : m.ok = false) :
      Step s5 s (.owner (refusal newly) [m]) (s.refused d newly)
  | started {map : BarcodeMap} {newly : Bool} {now : UInt32} {m₁ m₂ : Made F D}
      {d₁ d₂ : Drive F D B} (hc : s.starting = .claimed map newly)
      (hm₁ : m₁.op = .setMapping (expand map)) (hd₁ : Driving.Step s5 s.drive m₁ d₁)
      (hok₁ : m₁.ok = true) (hm₂ : m₂.op = .start now) (hd₂ : Driving.Step s5 d₁ m₂ d₂)
      (hok₂ : m₂.ok = true) :
      Step s5 s (.owner none [m₁, m₂]) { s with drive := d₂, starting := .begun newly }
  | unstarted {map : BarcodeMap} {newly : Bool} {now : UInt32} {m₁ m₂ : Made F D}
      {d₁ d₂ : Drive F D B} (hc : s.starting = .claimed map newly)
      (hm₁ : m₁.op = .setMapping (expand map)) (hd₁ : Driving.Step s5 s.drive m₁ d₁)
      (hok₁ : m₁.ok = true) (hm₂ : m₂.op = .start now) (hd₂ : Driving.Step s5 d₁ m₂ d₂)
      (hok₂ : m₂.ok = false) :
      Step s5 s (.owner (refusal newly) [m₁, m₂]) (s.refused d₂ newly)
  | begun {newly : Bool} (hc : s.starting = .begun newly) :
      Step s5 s (.owner (some (.finish true)) [])
        { s with desk := s.desk.act (.finish true), starting := .idle }
  | unbegun {newly : Bool} {m : Made F D} {d : Drive F D B} (hc : s.starting = .begun newly)
      (hm : m.op = .stop) (hd : Driving.Step s5 s.drive m d) :
      Step s5 s (.owner (refusal newly) [m]) (s.refused d newly)
  | reopen (hc : s.starting = .reopening) :
      Step s5 s (.owner (some (.finish false)) [])
        { s with
          desk := s.desk.act (.finish false), activeMap := configurationReopen s.activeMap
          starting := .idle }
  | unpacked {shown : Status} {m : Made F D} {d : Drive F D B}
      (hready : s.desk.Ready (.publish false shown)) (hm : m.op = .stop)
      (hd : Driving.Step s5 s.drive m d) :
      Step s5 s (.owner (some (.publish false shown)) [m])
        { s with desk := s.desk.act (.publish false shown), drive := d }

/-- A run: any sequence of blocks. -/
abbrev Runs (s5 : Bool) : Robot F D B → List (Deed F D) → Robot F D B → Prop := Run.Path (Step s5)

/-! ## What a block can do -/

/-- A call that begins a run of the drive. -/
def begins (m : Made F D) : Bool :=
  match m.op with
  | .start _ => m.ok
  | _ => false

/-- A call that gives the drive a frame. -/
def samples (m : Made F D) : Bool :=
  match m.op with
  | .process _ _ => true
  | _ => false

omit [CFloat F] [CFloat D] [CDouble F D] in
theorem begins_eq_false_of_polls {m : Made F D} (h : polls m.op) : begins m = false := by
  unfold begins
  split
  · rename_i hm
    rw [hm] at h
    cases h
  · rfl

theorem was_running {s5 : Bool} {d d' : Drive F D B} {l : List (Made F D)} (h : Inv s5 d)
    (hl : Driving.Runs s5 d l d') (hno : ∀ m ∈ l, begins m = false) (hrun : d'.running) :
    d.running := by
  induction hl with
  | nil => exact hrun
  | @snoc l e e' m hl hm ih =>
    have he : Inv s5 e := hl.invariant (I := Inv s5) (fun _ _ _ => Inv.step) h
    refine ih (fun p hp => hno p (List.mem_append_left _ hp)) (hm.was_running he ?_ hrun)
    intro now hop
    have hb := hno m (List.mem_append_right _ (List.mem_singleton_self m))
    rw [begins, hop] at hb
    exact hb

variable {s s' : Robot F D B}

theorem Executes.spec {s5 : Bool} {now : UInt32} {r : ControlRequest} {l : List (Made F D)}
    {x : Option Bool} (h : s.Executes s5 now r l x s') :
    Driving.Runs s5 s.drive l s'.drive ∧ s'.starting = s.starting ∧
      (∀ m ∈ l, begins m = false ∧ samples m = false) ∧ (x = none → r.kind = .reset) := by
  have hone {m : Made F D} {d : Drive F D B} (hd : Driving.Step s5 s.drive m d) :
      Driving.Runs s5 s.drive [m] d := .snoc .nil hd
  have hquiet {m : Made F D} (hb : begins m = false) (hs : samples m = false) :
      ∀ p ∈ [m], begins p = false ∧ samples p = false := by
    intro p hp
    rw [List.mem_singleton.1 hp]
    exact ⟨hb, hs⟩
  have hnil : ∀ m ∈ ([] : List (Made F D)), begins m = false ∧ samples m = false := by simp
  have hsome {ok : Bool} : some ok = none → r.kind = .reset := by simp
  cases h with
  | resetUnready | startIneligible | startUnclaimed | occupied | mappingRefused | noSensor
  | white | black => exact ⟨.nil, rfl, hnil, hsome⟩
  | reset hr hm hd =>
    exact ⟨hone hd, rfl, hquiet (by rw [begins, hm]) (by rw [samples, hm]), fun _ => hr⟩
  | mapping hr ho hmap hm hd | applyCalibration hr ho hs hm hd =>
    exact ⟨hone hd, rfl, hquiet (by rw [begins, hm]) (by rw [samples, hm]), hsome⟩

/-- A deed's calls are a run of the drive. -/
theorem Step.runs {s5 : Bool} {a : Deed F D} (h : Step s5 s a s') :
    Driving.Runs s5 s.drive a.calls s'.drive := by
  cases h with
  | submit | network | quiet | claim | begun | reopen => exact .nil
  | stop _ _ hd | unmapped _ _ hd | unbegun _ _ hd | unpacked _ _ hd => exact .snoc .nil hd
  | sample _ _ hd₁ _ hd₂ => exact .snoc hd₁ hd₂
  | finish _ _ _ hx | wait _ _ _ hx => exact hx.spec.1
  | started _ _ hd₁ _ _ hd₂ | unstarted _ _ hd₁ _ _ hd₂ => exact .snoc (.snoc .nil hd₁) hd₂

/-- A START under way is the command in hand, and its turn has come. -/
def StartInHand (s : Robot F D B) : Prop :=
  s.starting ≠ .idle → s.desk.stage = .executing ∧ s.desk.Holds .start

omit [CFloat F] [CFloat D] [CDouble F D] in
theorem ready_finish {s : Desk} (h : s.stage = .executing ∧ s.Holds .start) (ok : Bool) :
    s.Ready (.finish ok) := by
  refine ⟨h.1, fun hn => ?_⟩
  have hk := h.2
  rw [Desk.Holds, hn] at hk
  cases hk

omit [CFloat F] [CFloat D] [CDouble F D] in
theorem ready_refusal {s : Desk} (h : s.stage = .executing ∧ s.Holds .start) {newly : Bool}
    {b : Block} (hb : refusal newly = some b) : s.Ready b := by
  cases newly with
  | true => cases hb
  | false =>
    obtain rfl : Block.finish false = b := Option.some.inj hb
    exact ready_finish h false

/-- **The owner keeps to its program**: the desk moves by the block, and the block is the next. -/
theorem Step.desk {s5 : Bool} {a : Deed F D} (h : Step s5 s a s') (hs : s.StartInHand) :
    s'.desk = s.desk.after a.block ∧ ∀ b, a.block = some b → s.desk.Ready b := by
  have hready {b : Block} (hb : s.desk.Ready b) : ∀ c, some b = some c → s.desk.Ready c :=
    fun c hc => Option.some.inj hc ▸ hb
  have hstart {x : Starting} (hx : s.starting = x) (hne : x ≠ .idle) :
      s.desk.stage = .executing ∧ s.desk.Holds .start := hs (hx ▸ hne)
  cases h with
  | submit => exact ⟨rfl, hready trivial⟩
  | network | claim | started => exact ⟨rfl, (by rintro _ ⟨⟩)⟩
  | quiet _ hb | stop hb | unpacked hb => exact ⟨rfl, hready hb⟩
  | sample hst => exact ⟨rfl, hready hst⟩
  | finish _ hst hr => exact ⟨rfl, hready ⟨hst, by simp [hr]⟩⟩
  | wait _ hst hr hx =>
    refine ⟨rfl, hready ⟨hst, ?_⟩⟩
    rw [Desk.Holds, hr, Option.map_some, hx.spec.2.2.2 rfl]
  | unmapped hc | unstarted hc | unbegun hc =>
    exact ⟨rfl, fun b => ready_refusal (hstart hc (by rintro ⟨⟩))⟩
  | begun hc => exact ⟨rfl, hready (ready_finish (hstart hc (by simp)) true)⟩
  | reopen hc => exact ⟨rfl, hready (ready_finish (hstart hc (by simp)) false)⟩

end Robot

end RoboticCar.Integration
