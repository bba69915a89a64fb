import RoboticCar.Lib.BitField
import RoboticCar.Lib.CFloat

/-!
# Terrain results and their packet

A result travels in twelve bytes.  A measurement that is out of range goes out as zero with its flag
cleared (`TerrainResult.sentFlags`) and numbers lose what their resolution does not hold; the time,
the state and the event bits always arrive (`terrainUnpack_terrainPack`).
-/

namespace RoboticCar.Terrain

open Lib CFloat

/-- `terrain_state_t`, in the order of its codes. -/
inductive TerrainState
  | unknown | stationary | moving | accelerating | turning | climbing | descending | impact
  deriving DecidableEq

namespace TerrainState

def code : TerrainState → ℕ
  | .unknown => 0
  | .stationary => 1
  | .moving => 2
  | .accelerating => 3
  | .turning => 4
  | .climbing => 5
  | .descending => 6
  | .impact => 7

def ofCode : ℕ → TerrainState
  | 0 => .unknown
  | 1 => .stationary
  | 2 => .moving
  | 3 => .accelerating
  | 4 => .turning
  | 5 => .climbing
  | 6 => .descending
  | _ => .impact

@[simp]
theorem ofCode_code (s : TerrainState) : ofCode (s.code % 2 ^ 3) = s := by
  cases s <;> rfl

end TerrainState

/-- The flags of a result, from `TERRAIN_TILT_VALID` at bit 0 to `TERRAIN_FAULT`. -/
structure Flags where
  tiltValid : Bool
  turnValid : Bool
  peakValid : Bool
  calibrated : Bool
  fault : Bool
  deriving DecidableEq

namespace Flags

def none : Flags := ⟨false, false, false, false, false⟩

/-- The flags as five bits. -/
def toNat (f : Flags) : ℕ :=
  f.tiltValid.toNat + 2 * f.turnValid.toNat + 4 * f.peakValid.toNat + 8 * f.calibrated.toNat +
    16 * f.fault.toNat

/-- The flags in five bits. -/
def ofNat (n : ℕ) : Flags :=
  ⟨n.testBit 0, n.testBit 1, n.testBit 2, n.testBit 3, n.testBit 4⟩

@[simp]
theorem ofNat_toNat (f : Flags) : ofNat (f.toNat % 2 ^ 5) = f := by
  obtain ⟨a, b, c, d, e⟩ := f
  revert a b c d e
  decide

end Flags

structure TerrainResult (F : Type) where
  timestampUs : UInt32
  pitchDeg : F
  rollDeg : F
  turnDps : F
  peakM : F
  humpHeightM : F
  state : TerrainState
  flags : Flags
  impact : Bool
  humpCompleted : Bool
  humpActive : Bool

variable {F : Type} [CFloat F]

def TerrainResult.zero : TerrainResult F :=
  ⟨0, CFloat.zero, CFloat.zero, CFloat.zero, CFloat.zero, CFloat.zero, .unknown, .none, false,
    false, false⟩

/-! ## The packet -/

/-- The flags that `terrain_pack` sends: the validity of what is out of range is cleared. -/
def TerrainResult.sentFlags (r : TerrainResult F) : Flags :=
  { r.flags with
    tiltValid := r.flags.tiltValid && !(!isFinite r.pitchDeg || !isFinite r.rollDeg ||
      gt (absF r.pitchDeg) (lit 90) || gt (absF r.rollDeg) (lit 90))
    turnValid := r.flags.turnValid && !(!isFinite r.turnDps || gt (absF r.turnDps) (lit 360))
    peakValid := r.flags.peakValid &&
      !(!isFinite r.peakM || lt r.peakM CFloat.zero || gt r.peakM (lit 0.5)) }

/-- The hump in progress that `terrain_pack` sends. -/
def TerrainResult.sentActive (r : TerrainResult F) : Bool :=
  r.humpActive && isFinite r.humpHeightM && ge r.humpHeightM CFloat.zero &&
    le r.humpHeightM (lit 0.5)

/-- A 32-bit integer as an unsigned one. -/
def word (n : Int) : ℕ := (n % 2 ^ 32).toNat

def packetWidths : List ℕ := [32, 3, 5, 11, 11, 10, 9, 1, 1, 1, 9]

/-- The twelve bytes of a packet as the number that their bits make. -/
abbrev TerrainPacket := ℕ

/-- The values of the fields that `terrain_pack` writes. -/
def TerrainResult.fields [CMath F] (r : TerrainResult F) : List ℕ :=
  let flags := r.sentFlags
  let active := r.sentActive
  let pitch := if flags.tiltValid then CMath.lroundf (r.pitchDeg * lit 10) else 0
  let roll := if flags.tiltValid then CMath.lroundf (r.rollDeg * lit 10) else 0
  let rate := if flags.turnValid then CMath.lroundf r.turnDps else 0
  let height := if flags.peakValid then CMath.lroundf (r.peakM * lit 1000) else 0
  let climb := if active then CMath.lroundf (r.humpHeightM * lit 1000) else 0
  [r.timestampUs.toNat, r.state.code, flags.toNat, word pitch, word roll, word rate, word height,
    r.humpCompleted.toNat, r.impact.toNat, active.toNat, word climb]

def terrainPack [CMath F] (r : TerrainResult F) : TerrainPacket :=
  BitField.pack (r.fields.zip packetWidths)

def signedValue (v width : ℕ) : Int :=
  if v.testBit (width - 1) then (v : Int) - 2 ^ width else v

/-- The result with the given fields. -/
def TerrainResult.ofFields : List ℕ → TerrainResult F
  | [time, state, flags, pitch, roll, rate, height, completed, impact, active, climb] =>
    { timestampUs := UInt32.ofNat time
      state := .ofCode state
      flags := .ofNat flags
      pitchDeg := ofInt (signedValue pitch 11) / lit 10
      rollDeg := ofInt (signedValue roll 11) / lit 10
      turnDps := ofInt (signedValue rate 10)
      peakM := ofInt height / lit 1000
      humpCompleted := decide (completed ≠ 0)
      impact := decide (impact ≠ 0)
      humpActive := decide (active ≠ 0)
      humpHeightM := ofInt climb / lit 1000 }
  | _ => .zero

def terrainUnpack (packet : TerrainPacket) : TerrainResult F :=
  .ofFields (BitField.unpack packetWidths packet)

/-- What a packet always keeps of a result. -/
structure TerrainResult.Arrives (r out : TerrainResult F) : Prop where
  timestampUs : out.timestampUs = r.timestampUs
  state : out.state = r.state
  flags : out.flags = r.sentFlags
  impact : out.impact = r.impact
  humpCompleted : out.humpCompleted = r.humpCompleted
  humpActive : out.humpActive = r.sentActive

theorem decide_toNat_mod_two (b : Bool) : decide (b.toNat % 2 ^ 1 ≠ 0) = b := by
  cases b <;> rfl

/-- **A packet keeps the time, the state, the sent flags and the event bits.** -/
theorem terrainUnpack_terrainPack [CMath F] (r : TerrainResult F) :
    r.Arrives (terrainUnpack (terrainPack r)) := by
  have hread : BitField.unpack packetWidths (terrainPack r) =
      (r.fields.zip packetWidths).map fun f => f.1 % 2 ^ f.2 :=
    BitField.unpack_pack_mod (r.fields.zip packetWidths)
  have htime : r.timestampUs.toNat % 2 ^ 32 = r.timestampUs.toNat :=
    Nat.mod_eq_of_lt r.timestampUs.toNat_lt
  rw [terrainUnpack, hread]
  refine ⟨?_, TerrainState.ofCode_code r.state, Flags.ofNat_toNat r.sentFlags,
    decide_toNat_mod_two r.impact, decide_toNat_mod_two r.humpCompleted,
    decide_toNat_mod_two r.sentActive⟩
  exact (congrArg UInt32.ofNat htime).trans r.timestampUs.ofNat_toNat

end RoboticCar.Terrain
