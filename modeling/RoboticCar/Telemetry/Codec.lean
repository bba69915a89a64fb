import RoboticCar.Lib.Bytes

/-!
# The telemetry wire format

`telemetry_codec.c`: a packet is one version byte and a body whose layout the topic selects.
Enumerations are inductive types with their codes on the wire; a code that no enumerator has is
refused, as the range checks of the source do.  Null checks and selectors past the last topic have
no counterpart.
-/

namespace RoboticCar.Telemetry

open Lib.Bytes

/-- What a packet carries. -/
inductive Topic
  | motion | barcode | hump | heading | obstacle | state | faults | snapshot | mapReply | status
  | pose | terrain
  deriving DecidableEq

def wireVersion : UInt8 := 3
def faultBits : ℕ := 6
def faultMask : UInt8 := 0x3f
def faultStall : UInt8 := 0x1
def faultEncoder : UInt8 := 0x2
def faultImu : UInt8 := 0x4
def faultNoEcho : UInt8 := 0x8
def faultWifi : UInt8 := 0x10
def faultIr : UInt8 := 0x20
def poseDistanceBits : ℕ := 12
def tiltBits : ℕ := 11
def speedMaxMms : ℤ := 510
def humpHeightMaxMm : UInt16 := 500
def obstacleMinMm : UInt16 := 30
def obstacleMaxMm : UInt16 := 4000
def obstacleWidthMaxMm : UInt16 := 4095
def tiltLimitX10 : ℤ := 900
def terrainStates : UInt8 := 8

namespace Topic

/-- The selector of a topic; for the sections of a snapshot also their bit in its flags. -/
def code : Topic → ℕ
  | motion => 0
  | barcode => 1
  | hump => 2
  | heading => 3
  | obstacle => 4
  | state => 5
  | faults => 6
  | snapshot => 7
  | mapReply => 8
  | status => 9
  | pose => 10
  | terrain => 11

/-- The bits of a body, the version byte excluded. -/
def bodyBits : Topic → ℕ
  | motion => 18
  | barcode => 8
  | hump => 25
  | heading => 9
  | obstacle => 26
  | state => 3
  | faults => faultBits
  | snapshot => 96 + faultBits
  | mapReply => 2
  | status => 2 + faultBits
  | pose => poseDistanceBits + 9
  | terrain => 1 + 2 * tiltBits + 3 + 1 + 9 + 1 + 9

/-- The bytes of a packet. -/
def payloadSize (t : Topic) : ℕ := 1 + (t.bodyBits + 7) / 8

def name : Topic → String
  | motion => "car/telemetry/motion"
  | barcode => "car/telemetry/barcode"
  | hump => "car/telemetry/hump"
  | heading => "car/telemetry/heading"
  | obstacle => "car/telemetry/obstacle"
  | state => "car/telemetry/state"
  | faults => "car/telemetry/faults"
  | snapshot => "car/reply/snapshot"
  | mapReply => "car/reply/barcode_map"
  | status => "car/status"
  | pose => "car/telemetry/pose"
  | terrain => "car/telemetry/terrain"

/-- The sections of a snapshot, in the order they are sent. -/
def sections : List Topic := [motion, barcode, hump, heading, obstacle, state, faults]

end Topic

/-! ## Values -/

inductive BarcodeAction
  | unknown | forward | left | right | uturn
  deriving DecidableEq

namespace BarcodeAction

def code : BarcodeAction → ℕ
  | unknown => 0
  | forward => 1
  | left => 2
  | right => 3
  | uturn => 4

/-- The action of a code, if it is at most the last one. -/
def ofCode? : ℕ → Option BarcodeAction
  | 0 => some unknown
  | 1 => some forward
  | 2 => some left
  | 3 => some right
  | 4 => some uturn
  | _ => none

end BarcodeAction

inductive ObstacleRoute
  | unknown | left | right
  deriving DecidableEq

namespace ObstacleRoute

def code : ObstacleRoute → ℕ
  | unknown => 0
  | left => 1
  | right => 2

def ofCode? : ℕ → Option ObstacleRoute
  | 0 => some unknown
  | 1 => some left
  | 2 => some right
  | _ => none

end ObstacleRoute

inductive RobotState
  | unknown | stopped | lineFollowing | turningLeft | turningRight | uturn | avoidingObstacle
  | complete | error
  deriving DecidableEq

namespace RobotState

def code : RobotState → ℕ
  | unknown => 0
  | stopped => 1
  | lineFollowing => 2
  | turningLeft => 3
  | turningRight => 4
  | uturn => 5
  | avoidingObstacle => 6
  | complete => 7
  | error => 8

def ofCode? : ℕ → Option RobotState
  | 0 => some unknown
  | 1 => some stopped
  | 2 => some lineFollowing
  | 3 => some turningLeft
  | 4 => some turningRight
  | 5 => some uturn
  | 6 => some avoidingObstacle
  | 7 => some complete
  | 8 => some error
  | _ => none

end RobotState

/-- What the terrain monitor says the car is doing; three bits of a report. -/
inductive TerrainState
  | unknown | stationary | moving | accelerating | turning | climbing | descending | impact
  deriving DecidableEq

namespace TerrainState

def all : List TerrainState :=
  [unknown, stationary, moving, accelerating, turning, climbing, descending, impact]

end TerrainState

/-- One live terrain report.  Unavailable values are zero. -/
structure Terrain where
  tiltValid : UInt8 := 0
  pitchX10 : Int16 := 0
  rollX10 : Int16 := 0
  state : UInt8 := 0
  onHump : UInt8 := 0
  climbMm : UInt16 := 0
  peakValid : UInt8 := 0
  peakMm : UInt16 := 0
  deriving DecidableEq

/-- The decoded view of everything a packet can carry. -/
structure Snapshot where
  motionValid : UInt8 := 0
  leftMms : Int16 := 0
  rightMms : Int16 := 0
  barcodeValid : UInt8 := 0
  barcodeLetter : UInt8 := 0
  barcodeAction : BarcodeAction := .unknown
  humpValid : UInt8 := 0
  humpCount : UInt16 := 0
  humpHeightMm : UInt16 := 0
  headingValid : UInt8 := 0
  headingDeg : Int16 := 0
  obstacleValid : UInt8 := 0
  obstacleDistanceMm : UInt16 := 0
  obstacleWidthMm : UInt16 := 0
  obstacleRoute : ObstacleRoute := .unknown
  robotStateValid : UInt8 := 0
  robotState : RobotState := .unknown
  faultsValid : UInt8 := 0
  faults : UInt8 := 0
  poseValid : UInt8 := 0
  poseDistanceCm : UInt16 := 0
  poseHeadingDeg : Int16 := 0
  terrainValid : UInt8 := 0
  terrain : Terrain := {}
  deriving DecidableEq

/-- `'A'` and `'Z'`. -/
def letterA : UInt8 := 65
def letterZ : UInt8 := 90

/-- The bits of a snapshot's flags: which sections are valid. -/
def Snapshot.validity (v : Snapshot) : ℕ :=
  (v.motionValid != 0).toNat ||| (v.barcodeValid != 0).toNat <<< 1 |||
    (v.humpValid != 0).toNat <<< 2 ||| (v.headingValid != 0).toNat <<< 3 |||
    (v.obstacleValid != 0).toNat <<< 4 ||| (v.robotStateValid != 0).toNat <<< 5 |||
    (v.faultsValid != 0).toNat <<< 6

/-- The 11 bits of a signed angle, in two's complement. -/
def tiltCode (x10 : Int16) : ℕ := (x10.toInt % 2 ^ 11).toNat

/-- The fields of one topic, or a refusal when a value is outside its range. -/
def writeFields (topic : Topic) (v : Snapshot) (w : Writer) : Option Writer :=
  match topic with
  | .motion =>
    let left := v.leftMms.toInt
    let right := v.rightMms.toInt
    if left < -speedMaxMms ∨ speedMaxMms < left ∨ right < -speedMaxMms ∨ speedMaxMms < right then
      none
    else
      -- Nearest 2 mm/s, half-way cases away from zero; magnitude, then sign.
      some ((((w.put ((left.natAbs + 1) / 2) 8).put (decide (left < 0)).toNat 1).put
        ((right.natAbs + 1) / 2) 8).put (decide (right < 0)).toNat 1)
  | .barcode =>
    if v.barcodeLetter < letterA ∨ letterZ < v.barcodeLetter then none
    else some ((w.put (v.barcodeLetter - letterA).toNat 5).put v.barcodeAction.code 3)
  | .hump =>
    if humpHeightMaxMm < v.humpHeightMm then none
    else some ((w.put v.humpCount.toNat 16).put v.humpHeightMm.toNat 9)
  | .heading =>
    if v.headingDeg.toInt < 0 ∨ 359 < v.headingDeg.toInt then none
    else some (w.put v.headingDeg.toInt.toNat 9)
  | .obstacle =>
    if v.obstacleDistanceMm < obstacleMinMm ∨ obstacleMaxMm < v.obstacleDistanceMm ∨
        obstacleWidthMaxMm < v.obstacleWidthMm then none
    else some (((w.put v.obstacleDistanceMm.toNat 12).put v.obstacleWidthMm.toNat 12).put
      v.obstacleRoute.code 2)
  | .state =>
    if v.robotState.code < RobotState.stopped.code then none
    else some (w.put (v.robotState.code - RobotState.stopped.code) 3)
  | .faults =>
    if v.faults &&& ~~~faultMask ≠ 0 then none
    else some (w.put v.faults.toNat faultBits)
  | .pose =>
    if 2 ^ poseDistanceBits ≤ v.poseDistanceCm.toNat ∨ v.poseHeadingDeg.toInt < 0 ∨
        359 < v.poseHeadingDeg.toInt then none
    else some ((w.put v.poseDistanceCm.toNat poseDistanceBits).put v.poseHeadingDeg.toInt.toNat 9)
  | .terrain =>
    let t := v.terrain
    if terrainStates ≤ t.state ∨ humpHeightMaxMm < t.climbMm ∨ humpHeightMaxMm < t.peakMm then
      none
    else if t.tiltValid ≠ 0 ∧ (t.pitchX10.toInt < -tiltLimitX10 ∨ tiltLimitX10 < t.pitchX10.toInt ∨
        t.rollX10.toInt < -tiltLimitX10 ∨ tiltLimitX10 < t.rollX10.toInt) then none
    else if t.tiltValid = 0 ∧ (t.pitchX10 ≠ 0 ∨ t.rollX10 ≠ 0) then none
    else if (t.onHump = 0 ∧ t.climbMm ≠ 0) ∨ (t.peakValid = 0 ∧ t.peakMm ≠ 0) then none
    else
      some ((((((((w.put (t.tiltValid != 0).toNat 1).put (tiltCode t.pitchX10) tiltBits).put
        (tiltCode t.rollX10) tiltBits).put t.state.toNat 3).put (t.onHump != 0).toNat 1).put
        t.climbMm.toNat 9).put (t.peakValid != 0).toNat 1).put t.peakMm.toNat 9)
  | _ => none

/-- One section of a snapshot: its fields, or zeros when its flag is clear. -/
def writeSection (v : Snapshot) (flags : ℕ) (w : Writer) (t : Topic) : Option Writer :=
  if flags.testBit t.code then writeFields t v w else some (w.put 0 t.bodyBits)

/-- The body of a packet of any topic but the map reply. -/
def writeBody (topic : Topic) (v : Snapshot) (w : Writer) : Option Writer :=
  match topic with
  | .snapshot => Topic.sections.foldlM (writeSection v v.validity) (w.put v.validity 7)
  | .status =>
    if v.faultsValid ≠ 0 ∧ v.faults &&& ~~~faultMask ≠ 0 then none
    else
      some (((w.put 1 1).put (v.faultsValid != 0).toNat 1).put
        (if v.faultsValid ≠ 0 then v.faults.toNat else 0) faultBits)
  | topic => writeFields topic v w

/-- The packet of a value in a buffer of `capacity` bytes, or a refusal. -/
def encode (topic : Topic) (v : Snapshot) (capacity : ℕ) : Option (List UInt8) :=
  if capacity < topic.payloadSize ∨ topic = .mapReply then none
  else
    (writeBody topic v ⟨List.replicate (topic.payloadSize - 1) 0, 0⟩).map
      fun w => wireVersion :: w.bytes

/-! ## Reading -/

/-- A speed from its magnitude in 2 mm/s and its sign. -/
def speedOf (mag negative : ℕ) : Int16 :=
  Int16.ofInt ((mag * 2 : ℕ) * if negative ≠ 0 then -1 else 1)

/-- An angle from its 11 bits. -/
def tiltOf (code : ℕ) : Int16 :=
  Int16.ofInt (if code &&& 0x400 ≠ 0 then (code : ℤ) - 0x800 else code)

/-- The fields of one topic, read into `v`. -/
def readFields (topic : Topic) (r : Reader) (v : Snapshot) : Option (Snapshot × Reader) :=
  match topic with
  | .motion =>
    let (mag, r) := r.get 8
    let (negative, r) := r.get 1
    if mag = 0 ∧ negative ≠ 0 then none else -- no negative zero
    let v := { v with leftMms := speedOf mag negative }
    let (mag, r) := r.get 8
    let (negative, r) := r.get 1
    if mag = 0 ∧ negative ≠ 0 then none else
    some ({ v with rightMms := speedOf mag negative, motionValid := 1 }, r)
  | .barcode =>
    let (letter, r) := r.get 5
    let (action, r) := r.get 3
    let letter := letterA + UInt8.ofNat letter
    if letter ≤ letterZ then
      (BarcodeAction.ofCode? action).map fun action =>
        ({ v with barcodeLetter := letter, barcodeAction := action, barcodeValid := 1 }, r)
    else none
  | .hump =>
    let (count, r) := r.get 16
    let (height, r) := r.get 9
    let height := UInt16.ofNat height
    if height ≤ humpHeightMaxMm then
      some ({ v with humpCount := UInt16.ofNat count, humpHeightMm := height, humpValid := 1 }, r)
    else none
  | .heading =>
    let (heading, r) := r.get 9
    let heading := Int16.ofNat heading
    if heading.toInt ≤ 359 then some ({ v with headingDeg := heading, headingValid := 1 }, r)
    else none
  | .obstacle =>
    let (distance, r) := r.get 12
    let (width, r) := r.get 12
    let (route, r) := r.get 2
    let distance := UInt16.ofNat distance
    if obstacleMinMm ≤ distance ∧ distance ≤ obstacleMaxMm then
      (ObstacleRoute.ofCode? route).map fun route =>
        ({ v with obstacleDistanceMm := distance, obstacleWidthMm := UInt16.ofNat width,
                  obstacleRoute := route, obstacleValid := 1 }, r)
    else none
  | .state =>
    let (state, r) := r.get 3
    (RobotState.ofCode? (state + RobotState.stopped.code)).map fun state =>
      ({ v with robotState := state, robotStateValid := 1 }, r)
  | .faults =>
    let (faults, r) := r.get faultBits
    some ({ v with faults := UInt8.ofNat faults, faultsValid := 1 }, r)
  | .pose =>
    let (distance, r) := r.get poseDistanceBits
    let (heading, r) := r.get 9
    let heading := Int16.ofNat heading
    if heading.toInt ≤ 359 then
      some ({ v with poseDistanceCm := UInt16.ofNat distance, poseHeadingDeg := heading,
                     poseValid := 1 }, r)
    else none
  | .terrain =>
    let (tiltValid, r) := r.get 1
    let (pitch, r) := r.get tiltBits
    let (roll, r) := r.get tiltBits
    let (state, r) := r.get 3
    let (onHump, r) := r.get 1
    let (climb, r) := r.get 9
    let (peakValid, r) := r.get 1
    let (peak, r) := r.get 9
    let t : Terrain :=
      { tiltValid := UInt8.ofNat tiltValid, pitchX10 := tiltOf pitch, rollX10 := tiltOf roll
        state := UInt8.ofNat state, onHump := UInt8.ofNat onHump, climbMm := UInt16.ofNat climb
        peakValid := UInt8.ofNat peakValid, peakMm := UInt16.ofNat peak }
    if humpHeightMaxMm < t.climbMm ∨ humpHeightMaxMm < t.peakMm ∨ (t.onHump = 0 ∧ t.climbMm ≠ 0) ∨
        (t.peakValid = 0 ∧ t.peakMm ≠ 0) then none
    else if t.tiltValid = 0 ∧ ¬ (t.pitchX10 = 0 ∧ t.rollX10 = 0) then none
    else if t.tiltValid ≠ 0 ∧ ¬ (-tiltLimitX10 ≤ t.pitchX10.toInt ∧
        t.pitchX10.toInt ≤ tiltLimitX10 ∧ -tiltLimitX10 ≤ t.rollX10.toInt ∧
        t.rollX10.toInt ≤ tiltLimitX10) then none
    else some ({ v with terrain := t, terrainValid := 1 }, r)
  | _ => none

/-- `n` bits read one at a time, all of which must be zero. -/
def readZeros : ℕ → Reader → Option Reader
  | 0, r => some r
  | n + 1, r =>
    let (bit, r) := r.get 1
    if bit ≠ 0 then none else readZeros n r

/-- One section of a snapshot; the bits of an invalid one must be zero. -/
def readSection (flags : ℕ) (s : Snapshot × Reader) (t : Topic) : Option (Snapshot × Reader) :=
  if flags.testBit t.code then readFields t s.2 s.1
  else (readZeros t.bodyBits s.2).map fun r => (s.1, r)

/-- The body of a packet of any topic but the map reply. -/
def readBody (topic : Topic) (r : Reader) : Option Snapshot :=
  match topic with
  | .snapshot =>
    let (flags, r) := r.get 7
    (Topic.sections.foldlM (readSection flags) ({}, r)).map Prod.fst
  | .status =>
    let (alive, r) := r.get 1
    if alive ≠ 1 then none else
    let (valid, r) := r.get 1
    let (faults, _) := r.get faultBits
    let v : Snapshot := { faultsValid := UInt8.ofNat valid, faults := UInt8.ofNat faults }
    if v.faultsValid = 0 ∧ v.faults ≠ 0 then none else some v
  | topic => (readFields topic r {}).map Prod.fst

/-- The value of an acceptable packet. -/
def parse (topic : Topic) (packet : List UInt8) : Option Snapshot :=
  let remainder := topic.bodyBits % 8
  if topic = .mapReply ∨ packet.length ≠ topic.payloadSize ∨ packet.getD 0 0 ≠ wireVersion then none
  else if remainder ≠ 0 ∧ (packet.getD (packet.length - 1) 0).toNat >>> remainder ≠ 0 then none
  else readBody topic ⟨packet.tail, 0⟩

/-- Decodes a packet into `out`, which keeps its value when the packet is refused. -/
def decode (topic : Topic) (packet : List UInt8) (out : Snapshot) : Bool × Snapshot :=
  match parse topic packet with
  | some v => (true, v)
  | none => (false, out)

/-- The result codes of a map command. -/
inductive Reply
  | ok | invalid | busy | internal
  deriving DecidableEq

def Reply.code : Reply → ℕ
  | ok => 0
  | invalid => 1
  | busy => 2
  | internal => 3

/-- The check a packet passes before it is sent. -/
def payloadValid (topic : Topic) (packet : List UInt8) : Bool :=
  if topic = .mapReply then
    packet.length = 2 ∧ packet.getD 0 0 = wireVersion ∧
      (packet.getD 1 0).toNat ≤ Reply.internal.code
  else (decode topic packet {}).1

structure BarcodeMap where
  forward : UInt8
  left : UInt8
  right : UInt8
  uturn : UInt8
  deriving DecidableEq

def BarcodeMap.letters (m : BarcodeMap) : List UInt8 := [m.forward, m.left, m.right, m.uturn]

/-- The four letters are letters and differ. -/
def BarcodeMap.Valid (m : BarcodeMap) : Prop :=
  (∀ c ∈ m.letters, letterA ≤ c ∧ c ≤ letterZ) ∧ m.letters.Nodup

instance (m : BarcodeMap) : Decidable m.Valid := inferInstanceAs (Decidable (_ ∧ _))

def mapBytes : ℕ := 4

def mapPack (m : BarcodeMap) : Option (List UInt8) :=
  if m.Valid then
    let w := m.letters.foldl (fun w c => w.put (c - letterA).toNat 5)
      (⟨List.replicate 3 0, 0⟩ : Writer)
    some (wireVersion :: w.bytes)
  else none

def mapUnpack (packet : List UInt8) : Option BarcodeMap :=
  if packet.length ≠ mapBytes ∨ packet.getD 0 0 ≠ wireVersion ∨ packet.getD 3 0 &&& 0xf0 ≠ 0 then
    none
  else
    let (forward, r) := (⟨packet.tail, 0⟩ : Reader).get 5
    let (left, r) := r.get 5
    let (right, r) := r.get 5
    let (uturn, _) := r.get 5
    let m : BarcodeMap :=
      ⟨letterA + UInt8.ofNat forward, letterA + UInt8.ofNat left, letterA + UInt8.ofNat right,
        letterA + UInt8.ofNat uturn⟩
    if (mapPack m).isSome then some m else none

end RoboticCar.Telemetry
