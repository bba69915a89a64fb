import RoboticCar.Telemetry.RoundTrip

/-!
# The laptop's decoder

`buddy1_mqtt_codec.py` turns the body of a packet into one big integer and takes it apart with
shifts and masks, without sharing a line with the firmware.  `laptop_agrees`: the two decoders are
the same function, and what the laptop reads is the view (`view`) of what the firmware decodes.
-/

namespace RoboticCar.Telemetry.Laptop

open Lib.Bytes Lib.BitField

/-! ## The program -/

def version : UInt8 := 3
def names : List String := ["motion", "barcode", "hump", "heading", "obstacle", "state", "faults"]
def widths : List ℕ := [18, 8, 25, 9, 26, 3, 6]
def snapshotBits : ℕ := 7 + widths.sum
def states : List String :=
  ["stopped", "line_following", "turning_left", "turning_right", "uturn", "avoiding_obstacle",
    "complete", "error"]
def actions : List String := ["unknown", "forward", "left", "right", "uturn"]
def routes : List String := ["unknown", "left", "right"]
def faultNames : List String :=
  ["motor_stall", "encoder_fault", "imu_fault", "no_echo", "wifi_loss", "ir_sensor_fault"]
def results : List String := ["ok", "invalid", "busy", "internal"]
def terrainNames : List String :=
  ["unknown", "stationary", "moving", "accelerating", "turning", "climbing", "descending", "impact"]
def poseDistanceBits : ℕ := 12
def tiltBits : ℕ := 11
def tiltLimitX10 : ℤ := 900
def terrainBits : ℕ := 1 + 2 * tiltBits + 3 + 10 + 10

/-- A section, as a dictionary. -/
inductive Section
  | motion (leftMms rightMms : ℤ)
  | barcode (letter : Char) (action : String)
  | hump (count heightMm : ℕ)
  | heading (headingDeg : ℕ)
  | obstacle (distanceMm widthMm : ℕ) (route : String)
  | state (state : String)
  | faults (mask : ℕ) (active : List String)
  deriving DecidableEq

/-- A terrain report, as a dictionary.  The angles are the quotients that the laptop rounds. -/
structure TerrainReading where
  tiltValid : Bool
  pitchDeg : Option ℚ
  rollDeg : Option ℚ
  state : String
  onHump : Bool
  climbMm : Option ℕ
  peakValid : Bool
  peakMm : Option ℕ
  deriving DecidableEq

/-- What `decode` returns for the several topics. -/
inductive Reading
  | snapshotCommand
  | map (forward left right uturn : Char)
  | mapReply (ok : Bool) (result : String)
  | snapshot (sections : List (String × Option Section))
  | status (faults : Option Section)
  | pose (distanceCmMod headingDeg : ℕ)
  | terrain (t : TerrainReading)
  | single (s : Section)
  deriving DecidableEq

/-- `_check`: the number of a packet's body. -/
def check (payload : List UInt8) (bits : ℕ) : Except String ℕ :=
  if payload.length ≠ 1 + (bits + 7) / 8 then .error "wrong payload length"
  else if payload.getD 0 0 ≠ version then .error "unsupported protocol version"
  else
    let value := number payload.tail
    if value >>> bits ≠ 0 then .error "nonzero padding bits" else .ok value

def wheel (value i : ℕ) : Except String ℤ :=
  let raw := (value >>> (9 * i)) &&& 0x1ff
  let mag := raw &&& 255
  let reverse := raw &&& 256 ≠ 0
  if mag = 0 ∧ reverse then .error "negative zero speed"
  else .ok (mag * if reverse then -2 else 2)

/-- `_section`. -/
def readSection (name : String) (value : ℕ) : Except String Section :=
  if name = "motion" then do
    let left ← wheel value 0
    let right ← wheel value 1
    .ok (.motion left right)
  else if name = "barcode" then
    let letter := value &&& 31
    let action := value >>> 5
    if 25 < letter ∨ actions.length ≤ action then .error "reserved barcode/action"
    else .ok (.barcode (Char.ofNat (65 + letter)) (actions.getD action ""))
  else if name = "hump" then
    if 500 < value >>> 16 then .error "hump height outside 0..500 mm"
    else .ok (.hump (value &&& 65535) (value >>> 16))
  else if name = "heading" then
    if 359 < value then .error "invalid heading" else .ok (.heading value)
  else if name = "obstacle" then
    let route := value >>> 24
    let distance := value &&& 4095
    if 2 < route ∨ ¬ (30 ≤ distance ∧ distance ≤ 4000) then .error "reserved route"
    else .ok (.obstacle distance ((value >>> 12) &&& 4095) (routes.getD route ""))
  else if name = "state" then .ok (.state (states.getD value ""))
  else if name = "faults" then
    .ok (.faults value ((faultNames.zipIdx.filter fun x => value &&& 1 <<< x.2 ≠ 0).map Prod.fst))
  else .error "unknown telemetry section"

/-- `value.to_bytes(n, "little")`. -/
def toBytes (n value : ℕ) : List UInt8 :=
  (List.range n).map fun i => UInt8.ofNat (value / 256 ^ i % 256)

/-- `len(c) == 1 and "A" <= c <= "Z"`. -/
def isLetter (c : String) : Bool :=
  match c.toList with
  | [ch] => 'A' ≤ ch ∧ ch ≤ 'Z'
  | _ => false

/-- `ord(c)`. -/
def ord (c : String) : ℕ := (c.toList.headD 'A').toNat

def encodeMap (forward left right uturn : String) : Except String (List UInt8) :=
  let letters := [forward, left, right, uturn]
  if letters.dedup.length ≠ 4 ∨ letters.any fun c => ¬ isLetter c then
    .error "mapping requires four different uppercase A-Z letters"
  else
    let bits := (letters.zipIdx.map fun x => (ord x.1 - 65) <<< (5 * x.2)).sum
    .ok (version :: toBytes 3 bits)

/-- `topic.rsplit("/", 1)[-1]`. -/
def lastPart (topic : String) : String :=
  String.ofList (topic.toList.reverse.takeWhile (· ≠ '/')).reverse

/-- The sections of a snapshot from bit `offset` on. -/
def readSections (value flags : ℕ) :
    List ((String × ℕ) × ℕ) → ℕ → Except String (List (String × Option Section))
  | [], _ => .ok []
  | ((name, width), i) :: rest, offset =>
    let raw := (value >>> offset) &&& (1 <<< width - 1)
    if flags &&& 1 <<< i = 0 ∧ raw ≠ 0 then .error "nonzero data in invalid snapshot section"
    else do
      let s ← if flags &&& 1 <<< i ≠ 0 then (readSection name raw).map some else .ok none
      let others ← readSections value flags rest (offset + width)
      .ok ((name, s) :: others)

def angle (value shift : ℕ) : ℤ :=
  let raw := (value >>> shift) &&& (1 <<< tiltBits - 1)
  if raw >>> (tiltBits - 1) ≠ 0 then (raw : ℤ) - (1 <<< tiltBits : ℕ) else raw

def readTerrain (value : ℕ) : Except String TerrainReading :=
  let valid := value &&& 1 ≠ 0
  let pitch := angle value 1
  let roll := angle value (1 + tiltBits)
  let state := (value >>> 23) &&& 7
  let onHump := (value >>> 26) &&& 1 ≠ 0
  let climb := (value >>> 27) &&& 511
  let peakValid := (value >>> 36) &&& 1 ≠ 0
  let peak := (value >>> 37) &&& 511
  if ¬ valid ∧ (pitch ≠ 0 ∨ roll ≠ 0) then .error "unavailable tilt with nonzero angles"
  else if tiltLimitX10 < |pitch| ∨ tiltLimitX10 < |roll| then
    .error "tilt outside -90.0..+90.0 degrees"
  else if 500 < climb ∨ 500 < peak ∨ (¬ onHump ∧ climb ≠ 0) ∨ (¬ peakValid ∧ peak ≠ 0) then
    .error "invalid hump height field"
  else
    .ok
      { tiltValid := valid
        pitchDeg := if valid then some (pitch / 10) else none
        rollDeg := if valid then some (roll / 10) else none
        state := terrainNames.getD state ""
        onHump := onHump
        climbMm := if onHump then some climb else none
        peakValid := peakValid
        peakMm := if peakValid then some peak else none }

/-- `decode`, by the name of the topic. -/
def decode (topic : String) (payload : List UInt8) : Except String Reading :=
  if topic = "car/cmd/snapshot" then
    if payload ≠ [version] then .error "snapshot request must contain only version 3"
    else .ok .snapshotCommand
  else if topic = "car/cmd/barcode_map" then do
    let value ← check payload 20
    let letter (i : ℕ) : Char := Char.ofNat (65 + ((value >>> (5 * i)) &&& 31))
    let packet ← encodeMap (String.singleton (letter 0)) (String.singleton (letter 1))
      (String.singleton (letter 2)) (String.singleton (letter 3))
    if packet ≠ payload then .error "noncanonical mapping"
    else .ok (.map (letter 0) (letter 1) (letter 2) (letter 3))
  else if topic = "car/reply/barcode_map" then do
    let value ← check payload 2
    .ok (.mapReply (value = 0) (results.getD value ""))
  else if topic = "car/reply/snapshot" then do
    let value ← check payload snapshotBits
    let sections ← readSections value (value &&& 127) (names.zip widths).zipIdx 7
    .ok (.snapshot sections)
  else if topic = "car/status" ∨ lastPart topic = "heartbeat" then do
    let value ← check payload 8
    if value &&& 1 = 0 ∨ (value &&& 2 = 0 ∧ value >>> 2 ≠ 0) then .error "invalid heartbeat status"
    else do
      let faults ←
        if value &&& 2 ≠ 0 then (readSection "faults" (value >>> 2)).map some else .ok none
      .ok (.status faults)
  else if topic = "car/telemetry/pose" then do
    let value ← check payload (poseDistanceBits + 9)
    let heading := value >>> poseDistanceBits
    if 359 < heading then .error "invalid heading"
    else .ok (.pose (value &&& (1 <<< poseDistanceBits - 1)) heading)
  else if topic = "car/telemetry/terrain" then do
    let value ← check payload terrainBits
    let t ← readTerrain value
    .ok (.terrain t)
  else if topic.startsWith "car/telemetry/" ∧ lastPart topic ∈ names then do
    let value ← check payload (widths.getD (names.idxOf (lastPart topic)) 0)
    let s ← readSection (lastPart topic) value
    .ok (.single s)
  else .error "unknown topic; use car/status when decoding a custom heartbeat topic"

def actionName : BarcodeAction → String
  | .unknown => "unknown"
  | .forward => "forward"
  | .left => "left"
  | .right => "right"
  | .uturn => "uturn"

def routeName : ObstacleRoute → String
  | .unknown => "unknown"
  | .left => "left"
  | .right => "right"

def stateName : RobotState → String
  | .unknown => ""
  | .stopped => "stopped"
  | .lineFollowing => "line_following"
  | .turningLeft => "turning_left"
  | .turningRight => "turning_right"
  | .uturn => "uturn"
  | .avoidingObstacle => "avoiding_obstacle"
  | .complete => "complete"
  | .error => "error"

def terrainName : TerrainState → String
  | .unknown => "unknown"
  | .stationary => "stationary"
  | .moving => "moving"
  | .accelerating => "accelerating"
  | .turning => "turning"
  | .climbing => "climbing"
  | .descending => "descending"
  | .impact => "impact"

def replyName : Reply → String
  | .ok => "ok"
  | .invalid => "invalid"
  | .busy => "busy"
  | .internal => "internal"

def activeFaults (mask : UInt8) : List String :=
  ([(faultStall, "motor_stall"), (faultEncoder, "encoder_fault"), (faultImu, "imu_fault"),
    (faultNoEcho, "no_echo"), (faultWifi, "wifi_loss"), (faultIr, "ir_sensor_fault")].filter
      fun x => mask &&& x.1 ≠ 0).map Prod.snd

def sectionView (t : Topic) (v : Snapshot) : Section :=
  match t with
  | .motion => .motion v.leftMms.toInt v.rightMms.toInt
  | .barcode => .barcode (Char.ofNat v.barcodeLetter.toNat) (actionName v.barcodeAction)
  | .hump => .hump v.humpCount.toNat v.humpHeightMm.toNat
  | .heading => .heading v.headingDeg.toInt.toNat
  | .obstacle =>
    .obstacle v.obstacleDistanceMm.toNat v.obstacleWidthMm.toNat (routeName v.obstacleRoute)
  | .state => .state (stateName v.robotState)
  | _ => .faults v.faults.toNat (activeFaults v.faults)

def terrainView (t : Terrain) : TerrainReading where
  tiltValid := t.tiltValid ≠ 0
  pitchDeg := if t.tiltValid ≠ 0 then some (t.pitchX10.toInt / 10) else none
  rollDeg := if t.tiltValid ≠ 0 then some (t.rollX10.toInt / 10) else none
  state := ((TerrainState.all[t.state.toNat]?).map terrainName).getD ""
  onHump := t.onHump ≠ 0
  climbMm := if t.onHump ≠ 0 then some t.climbMm.toNat else none
  peakValid := t.peakValid ≠ 0
  peakMm := if t.peakValid ≠ 0 then some t.peakMm.toNat else none

def sectionName : Topic → String
  | .motion => "motion"
  | .barcode => "barcode"
  | .hump => "hump"
  | .heading => "heading"
  | .obstacle => "obstacle"
  | .state => "state"
  | _ => "faults"

/-- What the laptop is to read in a packet the firmware decodes as `v`. -/
def view (t : Topic) (v : Snapshot) : Reading :=
  match t with
  | .snapshot =>
    .snapshot (Topic.sections.map fun s =>
      (sectionName s, if validFlag s v ≠ 0 then some (sectionView s v) else none))
  | .status => .status (if v.faultsValid ≠ 0 then some (sectionView .faults v) else none)
  | .pose => .pose v.poseDistanceCm.toNat v.poseHeadingDeg.toInt.toNat
  | .terrain => .terrain (terrainView v.terrain)
  | t => .single (sectionView t v)

/-! ## One section -/

theorem and_low (n k : ℕ) : n &&& (1 <<< k - 1) = n % 2 ^ k := by
  rw [Nat.one_shiftLeft, Nat.and_two_pow_sub_one_eq_mod]

theorem and_bit (n k : ℕ) : n &&& 1 <<< k = 0 ↔ n / 2 ^ k % 2 = 0 := by
  rw [Nat.one_shiftLeft, Nat.and_two_pow, Nat.testBit_eq_decide_div_mod_eq]
  rcases Nat.mod_two_eq_zero_or_one (n / 2 ^ k) with h | h <;> simp [h]

theorem check_eq (payload : List UInt8) (bits n : ℕ) :
    check payload bits = .ok n ↔ IsPacket bits payload n := by
  simp only [check, ite_eq_iff, reduceCtorEq, and_false, false_or, Except.ok.injEq,
    Nat.shiftRight_eq_div_pow, ne_eq, Nat.div_eq_zero_iff_lt (Nat.two_pow_pos bits), not_not]
  constructor
  · rintro ⟨hlen, hversion, hlt, rfl⟩
    obtain ⟨b, body, rfl⟩ : ∃ b body, payload = b :: body :=
      List.exists_cons_of_length_pos (by omega)
    obtain rfl : b = wireVersion := hversion
    exact ⟨hlt, body, rfl, by rw [List.length_cons] at hlen; omega, rfl⟩
  · rintro ⟨hlt, body, rfl, hlen, rfl⟩
    exact ⟨by rw [List.length_cons, hlen, add_comm], rfl, hlt, rfl⟩

theorem toOption_bind {α β : Type} (x : Except String α) (f : α → Except String β) :
    (x >>= f).toOption = x.toOption.bind fun a => (f a).toOption := by
  cases x <;> rfl

theorem toOption_map {α β : Type} (x : Except String α) (f : α → β) :
    (x.map f).toOption = x.toOption.map f := by
  cases x <;> rfl

theorem toOption_ite {α : Type} (p : Prop) [Decidable p] (x y : Except String α) :
    (if p then x else y).toOption = if p then x.toOption else y.toOption := by
  split_ifs <;> rfl

theorem toOption_eq_some {α : Type} {x : Except String α} {a : α} :
    x.toOption = some a ↔ x = .ok a := by
  cases x <;> simp [Except.toOption]

theorem wheel_eq (n i : ℕ) :
    (wheel n i).toOption = if n / 2 ^ (9 * i) % 256 = 0 ∧ n / 2 ^ (9 * i) / 256 % 2 ≠ 0 then none
      else some (speedOf (n / 2 ^ (9 * i) % 256) (n / 2 ^ (9 * i) / 256 % 2)).toInt := by
  have h511 : ∀ x : ℕ, x &&& 0x1ff = x % 512 := fun x => Nat.and_two_pow_sub_one_eq_mod x 9
  have h255 : ∀ x : ℕ, x &&& 255 = x % 256 := fun x => Nat.and_two_pow_sub_one_eq_mod x 8
  have h256 : ∀ x : ℕ, x &&& 256 = 0 ↔ x / 256 % 2 = 0 := fun x => and_bit x 8
  simp only [wheel, Nat.shiftRight_eq_div_pow, h511, h255, ne_eq, h256, toOption_ite]
  generalize n / 2 ^ (9 * i) = m
  rw [show m % 512 % 256 = m % 256 by omega, show m % 512 / 256 % 2 = m / 256 % 2 by omega,
    toInt_speedOf (by omega)]
  refine if_congr .rfl rfl (congrArg some ?_)
  split_ifs <;> push_cast <;> ring

variable {n : ℕ}

theorem faultNames_eq (hn : n < 64) :
    (faultNames.zipIdx.filter fun x => n &&& 1 <<< x.2 ≠ 0).map Prod.fst =
      activeFaults (UInt8.ofNat n) := by
  have h : ∀ k : Fin 64, (faultNames.zipIdx.filter fun x => k.val &&& 1 <<< x.2 ≠ 0).map Prod.fst =
      activeFaults (UInt8.ofNat k.val) := by decide +kernel
  exact h ⟨n, hn⟩

theorem actionName_eq {a : BarcodeAction} : actions.getD a.code "" = actionName a := by
  cases a <;> rfl

theorem BarcodeAction_ofCode?_eq_none (h : 5 ≤ n) : BarcodeAction.ofCode? n = none := by
  obtain ⟨k, rfl⟩ := Nat.exists_eq_add_of_le' h
  rfl

theorem ObstacleRoute_ofCode?_eq_none (h : 3 ≤ n) : ObstacleRoute.ofCode? n = none := by
  obtain ⟨k, rfl⟩ := Nat.exists_eq_add_of_le' h
  rfl

theorem BarcodeAction_exists_of_lt (h : n < 5) : ∃ a, BarcodeAction.ofCode? n = some a := by
  interval_cases n <;> exact ⟨_, rfl⟩

theorem ObstacleRoute_exists_of_lt (h : n < 3) : ∃ a, ObstacleRoute.ofCode? n = some a := by
  interval_cases n <;> exact ⟨_, rfl⟩

theorem routeName_eq {a : ObstacleRoute} : routes.getD a.code "" = routeName a := by
  cases a <;> rfl

variable {t : Topic}

/-- **One section read both ways.** -/
theorem readSection_eq (ht : t ∈ Topic.sections) (hn : n < 2 ^ t.bodyBits) :
    (readSection (sectionName t) n).toOption =
      (contents t n).map fun f => sectionView t (f {}) := by
  rcases Topic.mem_sections ht with rfl | rfl | rfl | rfl | rfl | rfl | rfl
  all_goals simp only [Topic.bodyBits, faultBits, Nat.reducePow] at hn
  all_goals simp only [sectionName, readSection, String.reduceEq, if_true, if_false, contents,
    toOption_ite, Nat.shiftRight_eq_div_pow, Nat.reducePow]
  · simp only [toOption_bind, wheel_eq, mul_zero, pow_zero, Nat.div_one, mul_one, Nat.reducePow,
      Nat.div_div_eq_div_mul, Nat.reduceMul]
    by_cases hl : n % 256 = 0 ∧ n / 256 % 2 ≠ 0
    · rw [if_pos hl, if_pos (Or.inl hl)]
      rfl
    · by_cases hr : n / 512 % 256 = 0 ∧ n / 131072 % 2 ≠ 0
      · rw [if_neg hl, if_pos hr, if_pos (Or.inr hr)]
        rfl
      · rw [if_neg hl, if_neg hr, if_neg (by tauto)]
        rfl
  · have h31 : n &&& 31 = n % 32 := Nat.and_two_pow_sub_one_eq_mod n 5
    rw [h31, show n / 32 % 8 = n / 32 by omega, show actions.length = 5 from rfl]
    by_cases hl : n % 32 ≤ 25
    · rw [if_pos hl]
      by_cases ha : 5 ≤ n / 32
      · rw [if_pos (Or.inr ha), BarcodeAction_ofCode?_eq_none ha]
        rfl
      · obtain ⟨a, h⟩ := BarcodeAction_exists_of_lt (not_le.1 ha)
        rw [if_neg (by omega), h]
        simp (disch := omega) only [Except.toOption, Option.map_some, sectionView,
          toNat_letterA_add, ← BarcodeAction.code_of_ofCode? h, actionName_eq]
    · rw [if_pos (Or.inl (by omega)), if_neg hl]
      rfl
  · have h : n &&& 65535 = n % 65536 := Nat.and_two_pow_sub_one_eq_mod n 16
    rw [h, show n / 65536 % 512 = n / 65536 by omega]
    by_cases hh : n / 65536 ≤ 500
    · rw [if_pos hh, if_neg (by omega)]
      simp (disch := omega) only [Option.map_some, sectionView, Except.toOption, toNat_ofNat16]
    · rw [if_neg hh, if_pos (by omega)]
      rfl
  · rw [Nat.mod_eq_of_lt hn]
    by_cases hh : n ≤ 359
    · rw [if_pos hh, if_neg (by omega)]
      simp only [Option.map_some, sectionView, Except.toOption, Int16.toInt_ofNat_of_lt
        (show n < 2 ^ 15 by omega), Int.toNat_natCast]
    · rw [if_neg hh, if_pos (by omega)]
      rfl
  · have h : n &&& 4095 = n % 4096 := Nat.and_two_pow_sub_one_eq_mod n 12
    have h' : n / 4096 &&& 4095 = n / 4096 % 4096 := Nat.and_two_pow_sub_one_eq_mod _ 12
    rw [h, h', show n / 16777216 % 4 = n / 16777216 by omega]
    by_cases hd : 30 ≤ n % 4096 ∧ n % 4096 ≤ 4000
    · rw [if_pos hd]
      by_cases hr : 3 ≤ n / 16777216
      · rw [if_pos (Or.inl (by omega)), ObstacleRoute_ofCode?_eq_none hr]
        rfl
      · obtain ⟨a, ha⟩ := ObstacleRoute_exists_of_lt (not_le.1 hr)
        rw [if_neg (by omega), ha]
        simp (disch := omega) only [Except.toOption, Option.map_some, sectionView,
          ← ObstacleRoute.code_of_ofCode? ha, routeName_eq, toNat_ofNat16]
    · rw [if_neg hd, if_pos (Or.inr hd)]
      rfl
  · interval_cases n <;> rfl
  · rw [Nat.mod_eq_of_lt hn]
    simp (disch := omega) only [Option.map_some, sectionView, Except.toOption, faultNames_eq,
      toNat_ofNat8]

theorem mod_div_mod {a b m : ℕ} (h : a * b ∣ m) : n % m / a % b = n / a % b := by
  obtain ⟨c, rfl⟩ := h
  rw [mul_assoc, Nat.mod_mul_right_div_self, Nat.mod_mul_right_mod]

theorem contents_mod (ht : t ∈ Topic.sections) (n : ℕ) :
    contents t (n % 2 ^ t.bodyBits) = contents t n := by
  rcases Topic.mem_sections ht with rfl | rfl | rfl | rfl | rfl | rfl | rfl
  all_goals simp (disch := decide) only [contents, Topic.bodyBits, faultBits, Nat.reducePow,
    Nat.mod_mod_of_dvd, mod_div_mod]

theorem sectionView_only (t : Topic) (ht : t ∈ Topic.sections) (v : Snapshot) :
    sectionView t (only t v) = sectionView t v := by
  rcases Topic.mem_sections ht with rfl | rfl | rfl | rfl | rfl | rfl | rfl <;> rfl

theorem sectionView_congr (ht : t ∈ Topic.sections) {v d : Snapshot} (h : SameSection t v d) :
    sectionView t v = sectionView t d := by
  rw [← sectionView_only t ht, h, sectionView_only t ht]

def sectionEntry (v : Snapshot) (t : Topic) : String × Option Section :=
  (sectionName t, if validFlag t v ≠ 0 then some (sectionView t v) else none)

def tableEntry (t : Topic) : (String × ℕ) × ℕ := ((sectionName t, t.bodyBits), t.code)

theorem tableEntries : (names.zip widths).zipIdx = Topic.sections.map tableEntry := rfl

theorem readSections_eq (value flags : ℕ) {ts : List Topic} (hts : ts ⊆ Topic.sections)
    (hnodup : ts.Nodup) (offset : ℕ) {d : Snapshot} (hd : ∀ t ∈ ts, validFlag t d = 0) :
    (readSections value flags (ts.map tableEntry) offset).toOption =
      (sectionsContents flags ts (value / 2 ^ offset) d).map fun v => ts.map (sectionEntry v) := by
  induction ts generalizing offset d with
  | nil => rfl
  | cons t ts ih =>
    obtain ⟨ht, hts'⟩ := List.cons_subset.1 hts
    obtain ⟨hnot, hnodup'⟩ := List.nodup_cons.1 hnodup
    obtain ⟨hdt, hdts⟩ := List.forall_mem_cons.1 hd
    have hflag : flags &&& 1 <<< t.code ≠ 0 ↔ flags.testBit t.code = true := by
      rw [Ne, and_bit, Nat.testBit_eq_decide_div_mod_eq, decide_eq_true_iff]
      omega
    have hdiv : value / 2 ^ offset / 2 ^ t.bodyBits = value / 2 ^ (offset + t.bodyBits) := by
      rw [Nat.div_div_eq_div_mul, pow_add]
    rw [List.map_cons, tableEntry, readSections, sectionsContents]
    simp only [Nat.shiftRight_eq_div_pow, and_low, hdiv]
    generalize hn : value / 2 ^ offset = n at *
    by_cases hf : flags.testBit t.code
    · have hraw := readSection_eq ht (Nat.mod_lt n (Nat.two_pow_pos t.bodyBits))
      rw [contents_mod ht] at hraw
      rw [if_neg (fun h => hflag.2 hf h.1), if_pos (hflag.2 hf), if_pos hf, toOption_bind,
        toOption_map, hraw]
      cases hc : contents t n with
      | none => rfl
      | some f =>
        obtain ⟨hown, hkeep, hset⟩ := only_of_contents hc d {}
        have hrest : ∀ t' ∈ ts, validFlag t' (f d) = 0 := fun t' h' =>
          (hkeep t' fun heq => hnot (heq ▸ h')).flag.trans (hdts t' h')
        simp only [Option.map_some, Option.bind_some, toOption_bind]
        rw [ih hts' hnodup' (offset + t.bodyBits) hrest]
        cases hs : sectionsContents flags ts (value / 2 ^ (offset + t.bodyBits)) (f d) with
        | none => rfl
        | some v =>
          have hsame := (sectionFields_of_contents hts' hnodup' hrest hs).2.2 t hnot
          have hvalid : validFlag t v ≠ 0 := by
            rw [hsame.flag, hset ht]
            decide
          have hview : sectionView t v = sectionView t (f {}) :=
            (sectionView_congr ht hsame).trans (sectionView_congr ht hown)
          simp only [Option.map_some, Option.bind_some, Except.toOption, List.map_cons,
            sectionEntry, if_pos hvalid, hview]
    · have hclear : flags &&& 1 <<< t.code = 0 := by
        by_contra h
        exact hf (hflag.1 h)
      rw [if_neg hf]
      by_cases hz : n % 2 ^ t.bodyBits = 0
      · rw [if_neg (fun h => h.2 hz), if_neg (fun h => h hclear), if_neg (fun h => h hz)]
        rw [toOption_bind]
        simp only [Except.toOption, Option.bind_some]
        change ((readSections value flags _ (offset + t.bodyBits)) >>= fun others =>
          Except.ok ((sectionName t, none) :: others)).toOption = _
        rw [toOption_bind, ih hts' hnodup' (offset + t.bodyBits) hdts]
        cases hs : sectionsContents flags ts (value / 2 ^ (offset + t.bodyBits)) d with
        | none => rfl
        | some v =>
          have hsame := (sectionFields_of_contents hts' hnodup' hdts hs).2.2 t hnot
          have hvalid : ¬ validFlag t v ≠ 0 := by
            rw [hsame.flag, hdt]
            decide
          simp only [Option.map_some, Option.bind_some, Except.toOption, List.map_cons,
            sectionEntry, if_neg hvalid]
      · rw [if_pos ⟨hclear, hz⟩, if_pos hz]
        rfl

theorem angle_eq (n shift : ℕ) : angle n shift = (tiltOf (n / 2 ^ shift % 2048)).toInt := by
  have hk : n / 2 ^ shift % 2048 < 2048 := Nat.mod_lt _ (by decide)
  rw [toInt_tiltOf hk]
  simp only [angle, Nat.shiftRight_eq_div_pow, and_low, tiltBits, Nat.reducePow, Nat.reduceSub]
  generalize n / 2 ^ shift % 2048 = k at hk
  have hhigh : k / 1024 ≠ 0 ↔ ¬ k < 1024 := by omega
  simp only [hhigh]
  split_ifs <;> rfl

theorem terrainNames_eq (hn : n < 8) :
    terrainNames.getD n "" = ((TerrainState.all[n]?).map terrainName).getD "" := by
  interval_cases n <;> rfl

theorem checks_reorder {α : Type} {tilt zero bounded height : Prop} [Decidable height]
    [Decidable bounded] [Decidable (tilt ∧ ¬ zero)] [Decidable (¬ tilt ∧ ¬ bounded)]
    (h : zero → bounded) (x : α) :
    (if tilt ∧ ¬ zero then none else if ¬ bounded then none else if height then none else some x) =
      if height then none else if tilt ∧ ¬ zero then none
        else if ¬ tilt ∧ ¬ bounded then none else some x := by
  split_ifs <;> first | rfl | tauto

/-- **Terrain reports read both ways.** -/
theorem readTerrain_eq (n : ℕ) :
    (readTerrain n).toOption = (contents .terrain n).map fun f => terrainView (f {}).terrain := by
  have h1 : ∀ x : ℕ, x &&& 1 = x % 2 := fun x => Nat.and_two_pow_sub_one_eq_mod x 1
  have h7 : ∀ x : ℕ, x &&& 7 = x % 8 := fun x => Nat.and_two_pow_sub_one_eq_mod x 3
  have h511 : ∀ x : ℕ, x &&& 511 = x % 512 := fun x => Nat.and_two_pow_sub_one_eq_mod x 9
  have hp : (tiltOf (n / 2 % 2048)).toInt = 0 ↔ n / 2 % 2048 = 0 := by
    rw [← tiltOf_eq_zero (Nat.mod_lt _ (by decide)), ← Int16.toInt_inj, Int16.toInt_zero]
  have hr : (tiltOf (n / 4096 % 2048)).toInt = 0 ↔ n / 4096 % 2048 = 0 := by
    rw [← tiltOf_eq_zero (Nat.mod_lt _ (by decide)), ← Int16.toInt_inj, Int16.toInt_zero]
  -- Once the checks have been passed the two dictionaries are the same.
  have hview : terrainView
      { tiltValid := UInt8.ofNat (n % 2), pitchX10 := tiltOf (n / 2 % 2048)
        rollX10 := tiltOf (n / 4096 % 2048), state := UInt8.ofNat (n / 8388608 % 8)
        onHump := UInt8.ofNat (n / 67108864 % 2), climbMm := UInt16.ofNat (n / 134217728 % 512)
        peakValid := UInt8.ofNat (n / 68719476736 % 2)
        peakMm := UInt16.ofNat (n / 137438953472 % 512) } =
      { tiltValid := decide (¬ n % 2 = 0)
        pitchDeg := if ¬ n % 2 = 0 then some ((tiltOf (n / 2 % 2048)).toInt / 10) else none
        rollDeg := if ¬ n % 2 = 0 then some ((tiltOf (n / 4096 % 2048)).toInt / 10) else none
        state := terrainNames.getD (n / 8388608 % 8) ""
        onHump := decide (¬ n / 67108864 % 2 = 0)
        climbMm := if ¬ n / 67108864 % 2 = 0 then some (n / 134217728 % 512) else none
        peakValid := decide (¬ n / 68719476736 % 2 = 0)
        peakMm := if ¬ n / 68719476736 % 2 = 0 then some (n / 137438953472 % 512) else none } := by
    simp (disch := omega) only [terrainView, toNat_ofNat8, toNat_ofNat16, ne_eq,
      UInt8_ofNat_eq_zero, terrainNames_eq]
  simp only [readTerrain, contents, Nat.shiftRight_eq_div_pow, h1, h7, h511, angle_eq, tiltBits,
    Nat.reduceAdd, Nat.reducePow, pow_one, toOption_ite, ne_eq, not_not, hp, hr, tiltLimitX10]
  have hbound : ((900 : ℤ) < |(tiltOf (n / 2 % 2048)).toInt| ∨
      900 < |(tiltOf (n / 4096 % 2048)).toInt|) ↔
      ¬ (-900 ≤ (tiltOf (n / 2 % 2048)).toInt ∧ (tiltOf (n / 2 % 2048)).toInt ≤ 900 ∧
        -900 ≤ (tiltOf (n / 4096 % 2048)).toInt ∧ (tiltOf (n / 4096 % 2048)).toInt ≤ 900) := by
    rw [lt_abs, lt_abs]
    omega
  have hzero : n / 2 % 2048 = 0 ∧ n / 4096 % 2048 = 0 →
      -900 ≤ (tiltOf (n / 2 % 2048)).toInt ∧ (tiltOf (n / 2 % 2048)).toInt ≤ 900 ∧
        -900 ≤ (tiltOf (n / 4096 % 2048)).toInt ∧ (tiltOf (n / 4096 % 2048)).toInt ≤ 900 := by
    rintro ⟨hp0, hr0⟩
    rw [hp.2 hp0, hr.2 hr0]
    decide
  simp only [hbound,
    apply_ite (Option.map fun f : Snapshot → Snapshot => terrainView (f {}).terrain),
    Option.map_some, Option.map_none, hview, ← not_and_or]
  exact checks_reorder hzero _

/-! ## Whole packets -/

/-- What `decode` does with the number of a packet's body. -/
def readBody (t : Topic) (value : ℕ) : Except String Reading :=
  match t with
  | .mapReply => .ok (.mapReply (value = 0) (results.getD value ""))
  | .snapshot => do
    let sections ← readSections value (value &&& 127) (names.zip widths).zipIdx 7
    .ok (.snapshot sections)
  | .status =>
    if value &&& 1 = 0 ∨ (value &&& 2 = 0 ∧ value >>> 2 ≠ 0) then .error "invalid heartbeat status"
    else do
      let faults ←
        if value &&& 2 ≠ 0 then (readSection "faults" (value >>> 2)).map some else .ok none
      .ok (.status faults)
  | .pose =>
    let heading := value >>> poseDistanceBits
    if 359 < heading then .error "invalid heading"
    else .ok (.pose (value &&& (1 <<< poseDistanceBits - 1)) heading)
  | .terrain => do
    let t ← readTerrain value
    .ok (.terrain t)
  | t => do
    let s ← readSection (sectionName t) value
    .ok (.single s)

theorem decode_section (ht : t ∈ Topic.sections) (payload : List UInt8) :
    decode t.name payload = check payload t.bodyBits >>= readBody t := by
  have hlast : lastPart t.name = sectionName t := by
    revert t
    decide +kernel
  have hstart : t.name.startsWith "car/telemetry/" = true := by
    revert t
    decide +kernel
  rcases Topic.mem_sections ht with rfl | rfl | rfl | rfl | rfl | rfl | rfl
  all_goals
    rw [decode, hlast, hstart]
    rfl

theorem decode_name (t : Topic) (payload : List UInt8) :
    decode t.name payload = check payload t.bodyBits >>= readBody t := by
  by_cases ht : t ∈ Topic.sections
  · exact decode_section ht payload
  · cases t
    case snapshot | mapReply | status | pose | terrain => rfl
    all_goals exact absurd (by decide) ht

/-- **The body of a packet read both ways.** -/
theorem readBody_eq (ht : t ≠ .mapReply) (hn : n < 2 ^ t.bodyBits) :
    (readBody t n).toOption = (bodyContents t n).map (view t) := by
  by_cases hs : t ∈ Topic.sections
  · have hread := readSection_eq hs hn
    obtain ⟨hbody, hsingle, hview⟩ : bodyContents t n = (contents t n).map (fun f => f {}) ∧
        readBody t n = (readSection (sectionName t) n >>= fun s => .ok (.single s)) ∧
        ∀ v, view t v = .single (sectionView t v) := by
      rcases Topic.mem_sections hs with rfl | rfl | rfl | rfl | rfl | rfl | rfl <;>
        exact ⟨rfl, rfl, fun _ => rfl⟩
    rw [hsingle, toOption_bind, hread, hbody]
    cases contents t n with
    | none => rfl
    | some => simp only [Option.map_some, Option.bind_some, Except.toOption, hview]
  · cases t
    case snapshot =>
      have h127 : n &&& 127 = n % 128 := Nat.and_two_pow_sub_one_eq_mod n 7
      have hread := readSections_eq n (n % 128) (List.Subset.refl Topic.sections) (by decide) 7
        (d := {}) (by decide)
      simp only [readBody, tableEntries, toOption_bind, h127, hread, bodyContents, Nat.reducePow]
      cases sectionsContents (n % 128) Topic.sections (n / 128) {} <;> rfl
    case status =>
      rw [Topic.bodyBits, faultBits] at hn
      have h1 : n &&& 1 = n % 2 := Nat.and_two_pow_sub_one_eq_mod n 1
      have h2 : n &&& 2 = 0 ↔ n / 2 % 2 = 0 := and_bit n 1
      have hfaults := readSection_eq (t := .faults) (by decide) (n := n / 4)
        (by rw [Topic.bodyBits, faultBits]; omega)
      simp only [readBody, bodyContents, h1, h2, Nat.shiftRight_eq_div_pow, ne_eq, Nat.reducePow,
        toOption_ite, show n / 4 % 64 = n / 4 by omega, toOption_bind, toOption_map]
      by_cases halive : n % 2 = 0
      · rw [if_pos (Or.inl halive), if_pos (by omega)]
        rfl
      have halive' : ¬ ¬ n % 2 = 1 := by omega
      by_cases hvalid : n / 2 % 2 = 0
      · by_cases hz : n / 4 = 0
        · simp [halive, halive', hvalid, hz, view, Except.toOption]
        · rw [if_pos (Or.inr ⟨hvalid, hz⟩), if_neg halive', if_pos ⟨hvalid, hz⟩]
          rfl
      · have hv : UInt8.ofNat (n / 2 % 2) ≠ 0 := by
          rw [ne_eq, UInt8_ofNat_eq_zero (by omega)]
          exact hvalid
        have hz : ¬ (n / 2 % 2 = 0 ∧ ¬ n / 4 = 0) := fun h => hvalid h.1
        have hgood : ¬ (n % 2 = 0 ∨ n / 2 % 2 = 0 ∧ ¬ n / 4 = 0) := by tauto
        rw [show sectionName .faults = "faults" from rfl] at hfaults
        rw [if_neg hgood, if_pos hvalid, if_neg halive', if_neg hz, hfaults]
        simp only [contents, show n / 4 % 64 = n / 4 by omega, Option.map_some, Option.bind_some,
          Except.toOption, view, if_pos hv, sectionView]
    case pose =>
      rw [Topic.bodyBits, Telemetry.poseDistanceBits] at hn
      simp only [readBody, bodyContents, contents, Nat.shiftRight_eq_div_pow, and_low,
        poseDistanceBits, toOption_ite, Nat.reducePow, show n / 4096 % 512 = n / 4096 by omega]
      by_cases hh : n / 4096 ≤ 359
      · rw [if_pos hh, if_neg (by omega)]
        simp (disch := omega) only [Except.toOption, Option.map_some, view, toNat_ofNat16,
          Int16.toInt_ofNat_of_lt, Int.toNat_natCast]
      · rw [if_neg hh, if_pos (by omega)]
        rfl
    case terrain =>
      simp only [readBody, toOption_bind, readTerrain_eq, bodyContents]
      cases contents .terrain n <;> rfl
    case mapReply => exact absurd rfl ht
    all_goals exact absurd (by decide) hs

/-- **The two decoders are one function** on the packets of every topic but the map reply. -/
theorem decode_eq_parse (ht : t ≠ .mapReply) (payload : List UInt8) :
    (decode t.name payload).toOption = (parse t payload).map (view t) := by
  refine Option.ext fun r => ?_
  simp only [decode_name, toOption_bind, Option.bind_eq_some_iff, Option.map_eq_some_iff,
    toOption_eq_some (x := check _ _), check_eq]
  constructor
  · rintro ⟨n, hpacket, hr⟩
    rw [readBody_eq ht hpacket.lt, Option.map_eq_some_iff] at hr
    obtain ⟨v, hv, rfl⟩ := hr
    exact ⟨v, (parse_eq_some_iff t payload v).2 ⟨ht, n, hpacket, hv⟩, rfl⟩
  · rintro ⟨v, hv, rfl⟩
    obtain ⟨-, n, hpacket, hbody⟩ := (parse_eq_some_iff t payload v).1 hv
    refine ⟨n, hpacket, ?_⟩
    rw [readBody_eq ht hpacket.lt, hbody, Option.map_some]

/-! ## Map commands and their replies -/

theorem number_toBytes (k n : ℕ) : number (toBytes k n) = n % 256 ^ k := by
  induction k generalizing n with
  | zero => simp [toBytes, Nat.mod_one]
  | succ k ih =>
    have hcons : toBytes (k + 1) n = UInt8.ofNat (n % 256) :: toBytes k (n / 256) := by
      rw [toBytes, List.range_succ_eq_map, List.map_cons, List.map_map, pow_zero, Nat.div_one]
      simp only [toBytes, Function.comp_def, Nat.div_div_eq_div_mul, pow_succ']
    rw [hcons, number_cons, ih, toNat_ofNat8 (by omega), pow_succ',
      Nat.mod_mul]

theorem length_toBytes (k n : ℕ) : (toBytes k n).length = k := by simp [toBytes]

def letter (c : UInt8) : String := String.singleton (Char.ofNat c.toNat)

theorem toList_letter (c : UInt8) : (letter c).toList = [Char.ofNat c.toNat] := by
  simp [letter]

theorem toNat_ofNat_byte (c : UInt8) : (Char.ofNat c.toNat).toNat = c.toNat := by
  have h : ∀ k : Fin 256, (Char.ofNat k.val).toNat = k.val := by decide +kernel
  exact h ⟨c.toNat, c.toNat_lt⟩

theorem letter_injective : Function.Injective letter := by
  intro a b h
  have h' := congrArg String.toList h
  rw [toList_letter, toList_letter, List.cons.injEq] at h'
  rw [← UInt8.toNat_inj, ← toNat_ofNat_byte a, h'.1, toNat_ofNat_byte]

theorem isLetter_letter (c : UInt8) : isLetter (letter c) ↔ letterA ≤ c ∧ c ≤ letterZ := by
  simp only [isLetter, toList_letter, decide_eq_true_iff, UInt8.le_iff_toNat_le]
  rw [Char.le_def, Char.le_def, UInt32.le_iff_toNat_le, UInt32.le_iff_toNat_le]
  have h : (Char.ofNat c.toNat).val.toNat = c.toNat := toNat_ofNat_byte c
  rw [h]
  rfl

theorem exists_letter {s : String} (h : isLetter s) : ∃ c, s = letter c := by
  unfold isLetter at h
  split at h
  · rename_i ch hs
    have hle : ch.toNat ≤ 90 := by
      have := (of_decide_eq_true h).2
      rw [Char.le_def, UInt32.le_iff_toNat_le] at this
      exact this
    refine ⟨UInt8.ofNat ch.toNat, ?_⟩
    rw [← String.toList_inj, hs, toList_letter,
      UInt8.toNat_ofNat_of_lt' (by rw [UInt8.size]; omega), Char.ofNat_toNat]
  · cases h

theorem dedup_length_eq_iff (l : List String) : l.dedup.length = l.length ↔ l.Nodup := by
  rw [← List.dedup_eq_self]
  exact ⟨fun h => (List.dedup_sublist l).eq_of_length h, fun h => by rw [h]⟩

theorem ord_letter (c : UInt8) : ord (letter c) = c.toNat := by
  rw [ord, toList_letter, List.headD_cons, toNat_ofNat_byte]

theorem mapBits_eq {m : BarcodeMap} (h : m.Valid) :
    (([letter m.forward, letter m.left, letter m.right, letter m.uturn].zipIdx.map fun x =>
      (ord x.1 - 65) <<< (5 * x.2)).sum) = pack (mapFields m) := by
  have hsub : ∀ c ∈ m.letters, (c - letterA).toNat = c.toNat - 65 ∧ c.toNat - 65 < 32 := by
    intro c hc
    obtain ⟨hA, hZ⟩ := h.1 c hc
    have hA' : 65 ≤ c.toNat := UInt8.le_iff_toNat_le.1 hA
    have hZ' : c.toNat ≤ 90 := UInt8.le_iff_toNat_le.1 hZ
    exact ⟨toNat_sub_letterA hA', by omega⟩
  simp only [BarcodeMap.letters, List.forall_mem_cons] at hsub
  obtain ⟨⟨h1, l1⟩, ⟨h2, l2⟩, ⟨h3, l3⟩, ⟨h4, l4⟩, -⟩ := hsub
  simp only [List.zipIdx_cons, List.zipIdx_nil, List.map_cons, List.map_nil, List.sum_cons,
    List.sum_nil, ord_letter, Nat.shiftLeft_eq, mapFields, BarcodeMap.letters, pack, h1, h2, h3, h4]
  omega

theorem encodeMap_eq (m : BarcodeMap) (packet : List UInt8) :
    encodeMap (letter m.forward) (letter m.left) (letter m.right) (letter m.uturn) = .ok packet ↔
      mapPack m = some packet := by
  have hcond : ([letter m.forward, letter m.left, letter m.right, letter m.uturn].dedup.length ≠ 4 ∨
      [letter m.forward, letter m.left, letter m.right, letter m.uturn].any
        fun c => ¬ isLetter c) ↔ ¬ m.Valid := by
    have hdedup := dedup_length_eq_iff (m.letters.map letter)
    rw [List.nodup_map_iff letter_injective] at hdedup
    have hany : ((m.letters.map letter).any fun c => ¬ isLetter c) = true ↔
        ¬ ∀ c ∈ m.letters, letterA ≤ c ∧ c ≤ letterZ := by
      simp only [List.any_map, List.any_eq_true, Function.comp_apply, decide_eq_true_iff,
        isLetter_letter, not_forall, exists_prop]
    change (¬ (m.letters.map letter).dedup.length = (m.letters.map letter).length ∨
      ((m.letters.map letter).any fun c => ¬ isLetter c) = true) ↔ _
    rw [hdedup, hany, BarcodeMap.Valid, not_and_or, or_comm]
  have hsent : m.Valid → IsPacket 20 (version :: toBytes 3 (pack (mapFields m)))
      (pack (mapFields m)) := by
    intro h
    have hlt : pack (mapFields m) < 2 ^ 20 := pack_lt (mapFields m)
    refine ⟨hlt, _, rfl, length_toBytes 3 _, ?_⟩
    rw [number_toBytes]
    exact Nat.mod_eq_of_lt (by omega)
  rw [mapPack_eq_some_iff, encodeMap]
  simp only [ite_eq_iff, reduceCtorEq, and_false, false_or, Except.ok.injEq, hcond, not_not]
  refine and_congr_right fun h => ?_
  rw [mapBits_eq h]
  exact ⟨fun hp => hp ▸ hsent h, fun hp => (hsent h).unique hp⟩

theorem isLetter_of_encodeMap {forward left right uturn : String} {packet : List UInt8}
    (h : encodeMap forward left right uturn = .ok packet) :
    ∀ c ∈ [forward, left, right, uturn], isLetter c := by
  simp only [encodeMap, ite_eq_iff, reduceCtorEq, and_false, false_or, not_or] at h
  intro c hc
  by_contra hn
  exact h.1.2 (List.any_eq_true.2 ⟨c, hc, by simpa using hn⟩)

def mapView (m : BarcodeMap) : Reading :=
  .map (Char.ofNat m.forward.toNat) (Char.ofNat m.left.toNat) (Char.ofNat m.right.toNat)
    (Char.ofNat m.uturn.toNat)

theorem decode_map (payload : List UInt8) :
    (decode "car/cmd/barcode_map" payload).toOption = (mapUnpack payload).map mapView := by
  have h31 : ∀ x : ℕ, x &&& 31 = x % 32 := fun x => Nat.and_two_pow_sub_one_eq_mod x 5
  have hletter : ∀ n i : ℕ, Char.ofNat (65 + ((n >>> (5 * i)) &&& 31)) =
      Char.ofNat (letterA + UInt8.ofNat (n / 2 ^ (5 * i) % 32)).toNat := fun n i => by
    rw [Nat.shiftRight_eq_div_pow, h31, toNat_letterA_add (Nat.mod_lt _ (by decide))]
  have hdecode : decode "car/cmd/barcode_map" payload = check payload 20 >>= fun n =>
      encodeMap (letter (mapOf n).forward) (letter (mapOf n).left) (letter (mapOf n).right)
        (letter (mapOf n).uturn) >>= fun packet =>
      if packet ≠ payload then .error "noncanonical mapping" else .ok (mapView (mapOf n)) := by
    change (check payload 20 >>= fun n => _) = _
    refine congrArg _ (funext fun n => ?_)
    simp only [hletter]
    simp only [mul_zero, pow_zero, Nat.div_one, mul_one, Nat.reducePow, Nat.reduceMul]
    rfl
  refine Option.ext fun r => ?_
  simp only [hdecode, toOption_bind, Option.bind_eq_some_iff, Option.map_eq_some_iff,
    toOption_eq_some, check_eq, encodeMap_eq, mapUnpack_eq_some_iff, mapPack_eq_some_iff]
  constructor
  · rintro ⟨n, hpacket, packet, ⟨hvalid, hsent⟩, hr⟩
    rw [pack_mapOf hpacket.lt] at hsent
    rw [if_neg (not_not.2 (hsent.unique hpacket))] at hr
    exact ⟨mapOf n, ⟨hvalid, n, hpacket, rfl⟩, Except.ok.inj hr⟩
  · rintro ⟨_, ⟨hvalid, n, hpacket, rfl⟩, rfl⟩
    refine ⟨n, hpacket, payload, ⟨hvalid, ?_⟩, if_neg (not_not.2 rfl)⟩
    rw [pack_mapOf hpacket.lt]
    exact hpacket

theorem exists_reply (h : n < 4) : ∃ reply : Reply, reply.code = n := by
  interval_cases n
  exacts [⟨.ok, rfl⟩, ⟨.invalid, rfl⟩, ⟨.busy, rfl⟩, ⟨.internal, rfl⟩]

theorem payloadValid_mapReply (payload : List UInt8) :
    payloadValid .mapReply payload ↔
      ∃ reply : Reply, payload = [wireVersion, UInt8.ofNat reply.code] := by
  simp only [payloadValid, if_true, decide_eq_true_iff]
  constructor
  · rintro ⟨hlen, hversion, hcode⟩
    obtain ⟨a, b, rfl⟩ := List.length_eq_two.1 hlen
    obtain rfl : a = wireVersion := hversion
    have hb : b.toNat ≤ 3 := hcode
    obtain ⟨reply, hreply⟩ := exists_reply (n := b.toNat) (by omega)
    exact ⟨reply, by rw [hreply, UInt8.ofNat_toNat]⟩
  · rintro ⟨reply, rfl⟩
    cases reply <;> decide

theorem isPacket_two (payload : List UInt8) (n : ℕ) :
    IsPacket 2 payload n ↔
      ∃ reply : Reply, payload = [wireVersion, UInt8.ofNat reply.code] ∧ n = reply.code := by
  constructor
  · rintro ⟨hlt, body, rfl, hlen, rfl⟩
    obtain ⟨b, rfl⟩ := List.length_eq_one_iff.1 hlen
    have hb : number [b] = b.toNat := by simp
    obtain ⟨reply, hreply⟩ := exists_reply (n := b.toNat) (by rw [hb] at hlt; omega)
    exact ⟨reply, by rw [hreply, UInt8.ofNat_toNat], by rw [hb, hreply]⟩
  · rintro ⟨reply, rfl, rfl⟩
    cases reply <;> exact ⟨by decide, _, rfl, rfl, rfl⟩

theorem decode_mapReply (payload : List UInt8) (r : Reading) :
    decode Topic.mapReply.name payload = .ok r ↔
      ∃ reply : Reply, payload = [wireVersion, UInt8.ofNat reply.code] ∧
        r = .mapReply (decide (reply = .ok)) (replyName reply) := by
  have hread : ∀ reply : Reply, readBody .mapReply reply.code =
      .ok (.mapReply (decide (reply = .ok)) (replyName reply)) := fun reply => by
    cases reply <;> rfl
  rw [decode_name, ← toOption_eq_some]
  simp only [toOption_bind, Option.bind_eq_some_iff, toOption_eq_some, check_eq, Topic.bodyBits,
    isPacket_two]
  constructor
  · rintro ⟨_, ⟨reply, rfl, rfl⟩, hr⟩
    exact ⟨reply, rfl, Except.ok.inj (hr.symm.trans (hread reply))⟩
  · rintro ⟨reply, rfl, rfl⟩
    exact ⟨_, ⟨reply, rfl, rfl⟩, hread reply⟩

/-- **The firmware and the laptop agree on the protocol**: both accept the same packets, the laptop
reads what the firmware decodes (`view`), and map commands are the same bytes for both. -/
theorem laptop_agrees :
    (∀ t payload, payloadValid t payload = true ↔ ∃ r, decode t.name payload = .ok r) ∧
    (∀ t payload out v, Telemetry.decode t payload out = (true, v) →
      decode t.name payload = .ok (view t v)) ∧
    (∀ payload, payloadValid .mapReply payload = true → ∃ reply : Reply,
      payload = [wireVersion, UInt8.ofNat reply.code] ∧
      decode Topic.mapReply.name payload =
        .ok (.mapReply (decide (reply = .ok)) (replyName reply))) ∧
    (∀ forward left right uturn packet, encodeMap forward left right uturn = .ok packet ↔
      ∃ m : BarcodeMap, forward = letter m.forward ∧ left = letter m.left ∧
        right = letter m.right ∧ uturn = letter m.uturn ∧ mapPack m = some packet) ∧
    ∀ payload r, decode "car/cmd/barcode_map" payload = .ok r ↔
      ∃ m, mapUnpack payload = some m ∧ r = mapView m := by
  refine ⟨?_, ?_, ?_, ?_, ?_⟩
  · intro t payload
    by_cases ht : t = .mapReply
    · subst ht
      rw [payloadValid_mapReply]
      simp only [decode_mapReply]
      exact ⟨fun ⟨reply, h⟩ => ⟨_, reply, h, rfl⟩, fun ⟨_, reply, h, _⟩ => ⟨reply, h⟩⟩
    · have heq := decode_eq_parse ht payload
      rw [payloadValid, if_neg ht, Telemetry.decode]
      cases hp : parse t payload with
      | none =>
        rw [hp, Option.map_none] at heq
        simp only [Bool.false_eq_true, false_iff, not_exists]
        intro r hr
        rw [hr] at heq
        cases heq
      | some v =>
        rw [hp, Option.map_some, toOption_eq_some] at heq
        simp only [true_iff]
        exact ⟨_, heq⟩
  · intro t payload out v h
    have hparse : parse t payload = some v := parse_of_decode h
    have ht : t ≠ .mapReply := ((parse_eq_some_iff t payload v).1 hparse).1
    rw [← toOption_eq_some, decode_eq_parse ht, hparse, Option.map_some]
  · intro payload h
    obtain ⟨reply, hreply⟩ := (payloadValid_mapReply payload).1 h
    exact ⟨reply, hreply, (decode_mapReply payload _).2 ⟨reply, hreply, rfl⟩⟩
  · intro forward left right uturn packet
    constructor
    · intro h
      obtain ⟨f, rfl⟩ := exists_letter (isLetter_of_encodeMap h forward (by simp))
      obtain ⟨l, rfl⟩ := exists_letter (isLetter_of_encodeMap h left (by simp))
      obtain ⟨r, rfl⟩ := exists_letter (isLetter_of_encodeMap h right (by simp))
      obtain ⟨u, rfl⟩ := exists_letter (isLetter_of_encodeMap h uturn (by simp))
      exact ⟨⟨f, l, r, u⟩, rfl, rfl, rfl, rfl, (encodeMap_eq ⟨f, l, r, u⟩ packet).1 h⟩
    · rintro ⟨m, rfl, rfl, rfl, rfl, h⟩
      exact (encodeMap_eq m packet).2 h
  · intro payload r
    rw [← toOption_eq_some, decode_map, Option.map_eq_some_iff]
    exact exists_congr fun m => and_congr_right fun _ => eq_comm

/-- The status packet with the encoder and the echo fault: both sides name the two faults. -/
theorem laptop_agrees_status :
    decode "car/status" [3, 43] =
      .ok (.status (some (.faults 10 ["encoder_fault", "no_echo"]))) :=
  laptop_agrees.2.1 .status [3, 43] {} { faultsValid := 1, faults := 10 } (by decide +kernel)

end RoboticCar.Telemetry.Laptop
