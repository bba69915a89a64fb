import RoboticCar.Lib.Bytes

/-!
# Controller diagnostics

`control_debug.c` packs a snapshot of the controller into 70 bytes, and `control_protocol.py` takes
them apart with a table of its own.  The C record, its packer and its unpacker come from one table
of fields, so a record is a function on the names of the table here.

`unpack_eq_some`: the firmware accepts exactly what it packs; `decodeControl_eq`: the laptop
accepts the same packets and reads the same numbers.
-/

namespace RoboticCar.Diagnostics.Control

open Lib Lib.Bytes Lib.BitField

/-! ## The firmware -/

/-- The members of `control_debug_sample_t`. -/
inductive Field
  | timestampUs | motionTimestampUs | sequence
  | motionAvailable | motionValid | braked | busy
  | motionState | motionFault
  | setpointLeft | setpointRight | measuredLeft | measuredRight
  | dutyLeft | dutyRight | encoderLeft | encoderRight
  | driveState | reason | pending | lineError | lineFlags
  | barcodeStatus | acceptedCalibration | readiness
  | barcodeEvents | junctionEvents | lostEvents
  | sampleGapUs | runMaxGapUs
  | leftWhite | leftBlack | leftWhiteLimit | leftBlackLimit
  | rightWhite | rightBlack | rightWhiteLimit | rightBlackLimit
  | barcodeWhite | barcodeBlack | barcodeWhiteLimit | barcodeBlackLimit
  | calSensor | collecting | whiteMin | whiteMax
  | blackMin | blackMax | whiteCount | blackCount
  deriving DecidableEq

/-- A line of the table: a member, its width in the packet, and whether it is signed. -/
structure Line where
  field : Field
  width : ℕ
  signed : Bool

/-- `CONTROL_DEBUG_FIELDS`. -/
def fields : List Line :=
  let U (field : Field) (width : ℕ) : Line := ⟨field, width, false⟩
  let S (field : Field) (width : ℕ) : Line := ⟨field, width, true⟩
  [U .timestampUs 32, U .motionTimestampUs 32, U .sequence 8,
    U .motionAvailable 1, U .motionValid 1, U .braked 1, U .busy 1,
    U .motionState 3, U .motionFault 3,
    S .setpointLeft 13, S .setpointRight 13, S .measuredLeft 13, S .measuredRight 13,
    S .dutyLeft 8, S .dutyRight 8, S .encoderLeft 20, S .encoderRight 20,
    U .driveState 3, U .reason 4, U .pending 3, S .lineError 8, U .lineFlags 5,
    U .barcodeStatus 3, U .acceptedCalibration 3, U .readiness 5,
    U .barcodeEvents 16, U .junctionEvents 16, U .lostEvents 16,
    U .sampleGapUs 32, U .runMaxGapUs 32,
    U .leftWhite 12, U .leftBlack 12, U .leftWhiteLimit 10, U .leftBlackLimit 10,
    U .rightWhite 12, U .rightBlack 12, U .rightWhiteLimit 10, U .rightBlackLimit 10,
    U .barcodeWhite 12, U .barcodeBlack 12, U .barcodeWhiteLimit 10, U .barcodeBlackLimit 10,
    U .calSensor 2, U .collecting 1, U .whiteMin 12, U .whiteMax 12,
    U .blackMin 12, U .blackMax 12, U .whiteCount 16, U .blackCount 16]

/-- `CONTROL_DEBUG_BITS`. -/
def bits : ℕ := (fields.map Line.width).sum

/-- `CONTROL_DEBUG_PACKET_SIZE`. -/
def packetSize : ℕ := 1 + (bits + 7) / 8

/-- `control_debug_sample_t`: every member is a `uint32_t` or an `int32_t`. -/
abbrev Sample := Field → BitVec 32

def Sample.value (s : Sample) (line : Line) : ℤ :=
  if line.signed then (s line.field).toInt else (s line.field).toNat

/-- The first test of `control_debug_pack`: reserved codes, ranges, and a validity that needs a
snapshot. -/
def inRange (s : Sample) : Bool :=
  let u (field : Field) : ℕ := (s field).toNat
  let i (field : Field) : ℤ := (s field).toInt
  !(5 < u .motionState || 5 < u .motionFault || 6 < u .driveState ||
    10 < u .reason || 4 < u .pending || 4 < u .barcodeStatus || 2 < u .calSensor ||
    i .lineError < -100 || 100 < i .lineError ||
    i .dutyLeft < -100 || 100 < i .dutyLeft ||
    i .dutyRight < -100 || 100 < i .dutyRight ||
    1000 < u .leftWhiteLimit || 1000 < u .leftBlackLimit ||
    1000 < u .rightWhiteLimit || 1000 < u .rightBlackLimit ||
    1000 < u .barcodeWhiteLimit || 1000 < u .barcodeBlackLimit ||
    (u .motionValid ≠ 0 && u .motionAvailable = 0))

/-- The tests that `CD_U` and `CD_S` generate: a member fits its width. -/
def fitsWidth (s : Sample) (line : Line) : Bool :=
  if line.signed then
    -2 ^ (line.width - 1) ≤ (s line.field).toInt && (s line.field).toInt < 2 ^ (line.width - 1)
  else (s line.field).toNat < 2 ^ line.width

/-- `control_debug_pack`: the version and the low bits of every member. -/
def pack (s : Sample) : Option (List UInt8) :=
  if !inRange s then none
  else if !fields.all (fitsWidth s) then none
  else some (1 :: (Writer.puts ⟨List.replicate (packetSize - 1) 0, 0⟩
    (fields.map fun line => ((s line.field).toNat, line.width))).bytes)

def extend (line : Line) (v : BitVec 32) : BitVec 32 :=
  let sign : BitVec 32 := (1 : BitVec 32) <<< (line.width - 1)
  if line.signed then (v &&& (sign - 1)) - (v &&& sign) else v

/-- The assignments of `control_debug_unpack`, one field after the other. -/
def readFields : List Line → Sample → Reader → Sample
  | [], s, _ => s
  | line :: lines, s, r =>
    let (v, r) := r.get line.width
    readFields lines (Function.update s line.field (extend line (BitVec.ofNat 32 v))) r

/-- `control_debug_unpack` into the memory `s`: the packet must be the one its values have. -/
def unpack (packet : List UInt8) (s : Sample) : Option Sample :=
  if packet.headD 0 ≠ 1 then none
  else
    let s := readFields fields s ⟨packet.tail, 0⟩
    if pack s = some packet then some s else none

/-! ## The laptop -/

namespace Laptop

/-- `FIELDS`: names, widths and signs, in the order of the packet. -/
def fields : List (String × ℕ × Bool) :=
  [("timestamp_us", 32, false), ("motion_timestamp_us", 32, false), ("sequence", 8, false),
    ("motion_available", 1, false), ("motion_valid", 1, false), ("braked", 1, false),
    ("busy", 1, false), ("motion_state", 3, false), ("motion_fault", 3, false)] ++
  ["setpoint_left", "setpoint_right", "measured_left", "measured_right"].map (·, 13, true) ++
  [("duty_left", 8, true), ("duty_right", 8, true), ("encoder_left", 20, true),
    ("encoder_right", 20, true), ("drive_state", 3, false), ("reason", 4, false),
    ("pending", 3, false), ("line_error", 8, true), ("line_flags", 5, false),
    ("barcode_status", 3, false), ("accepted_calibration", 3, false), ("readiness", 5, false),
    ("barcode_events", 16, false), ("junction_events", 16, false), ("lost_events", 16, false),
    ("sample_gap_us", 32, false), ("run_max_gap_us", 32, false)] ++
  (["left", "right", "barcode"].flatMap fun channel =>
    [("white", 12), ("black", 12), ("white_limit", 10), ("black_limit", 10)].map fun x =>
      (channel ++ "_" ++ x.1, x.2, false)) ++
  [("cal_sensor", 2, false), ("collecting", 1, false)] ++
  ["white_min", "white_max", "black_min", "black_max"].map (·, 12, false) ++
  [("white_count", 16, false), ("black_count", 16, false)]

abbrev Dict := List (String × ℤ)

/-- `d[name]`. -/
def Dict.at (d : Dict) (name : String) : ℤ := (d.lookup name).getD 0

def validate (d : Dict) : Except String Unit :=
  if [("motion_state", (5 : ℤ)), ("motion_fault", 5), ("drive_state", 6), ("reason", 10),
      ("pending", 4), ("barcode_status", 4), ("cal_sensor", 2)].any fun x =>
      x.2 < d.at x.1 then
    .error "Reserved controller diagnostic value"
  else if 100 < |d.at "line_error"| ∨ 100 < |d.at "duty_left"| ∨ 100 < |d.at "duty_right"| then
    .error "Controller diagnostic value out of range"
  else if d.at "motion_valid" ≠ 0 ∧ d.at "motion_available" = 0 then
    .error "Motion validity requires an available snapshot"
  else if ["left", "right", "barcode"].any fun c => ["white", "black"].any fun s =>
      1000 < d.at (c ++ "_" ++ s ++ "_limit") then
    .error "Calibration threshold out of range"
  else .ok ()

/-- The loop of `decode_control`: the fields from bit `offset` on, and the bit after the last one.
-/
def readAll (bits : ℕ) : List (String × ℕ × Bool) → ℕ → Dict × ℕ
  | [], offset => ([], offset)
  | (name, width, signed) :: rest, offset =>
    let v := bits >>> offset &&& 1 <<< width - 1
    let value : ℤ := if signed ∧ v &&& 1 <<< (width - 1) ≠ 0 then v - (1 <<< width : ℕ)
      else v
    let (d, last) := readAll bits rest (offset + width)
    ((name, value) :: d, last)

/-- What `decode_control` returns. -/
structure Reading where
  timestampUs : ℤ
  sequence : ℤ
  data : Dict

def decodeControl (payload : List UInt8) : Except String Reading :=
  if payload.length ≠ 70 ∨ payload.headD 0 ≠ 1 then
    .error "Controller diagnostics require 70-byte version 1"
  else
    let bits := number payload.tail
    let (d, offset) := readAll bits fields 0
    if bits >>> offset ≠ 0 then .error "Nonzero controller diagnostic padding"
    else do
      validate d
      return ⟨d.at "timestamp_us", d.at "sequence", d⟩

end Laptop

def Field.name : Field → String
  | .timestampUs => "timestamp_us"
  | .motionTimestampUs => "motion_timestamp_us"
  | .sequence => "sequence"
  | .motionAvailable => "motion_available"
  | .motionValid => "motion_valid"
  | .braked => "braked"
  | .busy => "busy"
  | .motionState => "motion_state"
  | .motionFault => "motion_fault"
  | .setpointLeft => "setpoint_left"
  | .setpointRight => "setpoint_right"
  | .measuredLeft => "measured_left"
  | .measuredRight => "measured_right"
  | .dutyLeft => "duty_left"
  | .dutyRight => "duty_right"
  | .encoderLeft => "encoder_left"
  | .encoderRight => "encoder_right"
  | .driveState => "drive_state"
  | .reason => "reason"
  | .pending => "pending"
  | .lineError => "line_error"
  | .lineFlags => "line_flags"
  | .barcodeStatus => "barcode_status"
  | .acceptedCalibration => "accepted_calibration"
  | .readiness => "readiness"
  | .barcodeEvents => "barcode_events"
  | .junctionEvents => "junction_events"
  | .lostEvents => "lost_events"
  | .sampleGapUs => "sample_gap_us"
  | .runMaxGapUs => "run_max_gap_us"
  | .leftWhite => "left_white"
  | .leftBlack => "left_black"
  | .leftWhiteLimit => "left_white_limit"
  | .leftBlackLimit => "left_black_limit"
  | .rightWhite => "right_white"
  | .rightBlack => "right_black"
  | .rightWhiteLimit => "right_white_limit"
  | .rightBlackLimit => "right_black_limit"
  | .barcodeWhite => "barcode_white"
  | .barcodeBlack => "barcode_black"
  | .barcodeWhiteLimit => "barcode_white_limit"
  | .barcodeBlackLimit => "barcode_black_limit"
  | .calSensor => "cal_sensor"
  | .collecting => "collecting"
  | .whiteMin => "white_min"
  | .whiteMax => "white_max"
  | .blackMin => "black_min"
  | .blackMax => "black_max"
  | .whiteCount => "white_count"
  | .blackCount => "black_count"

/-! ## One field -/

/-- The number that `width` bits mean. -/
def meaning (signed : Bool) (width v : ℕ) : ℤ :=
  if signed ∧ 2 ^ (width - 1) ≤ v then v - 2 ^ width else v

theorem and_two_pow_top {k v : ℕ} (hv : v < 2 ^ (k + 1)) :
    v &&& 2 ^ k = if 2 ^ k ≤ v then 2 ^ k else 0 := by
  rw [Nat.and_two_pow, Nat.testBit_eq_decide_div_mod_eq]
  by_cases hle : 2 ^ k ≤ v
  · have hdiv : v / 2 ^ k = 1 := Nat.div_eq_of_lt_le (by omega) (by omega)
    simp [hdiv, hle]
  · simp [Nat.div_eq_of_lt (not_le.1 hle), hle]

theorem toNat_one_shiftLeft {k : ℕ} (hk : k < 32) : ((1 : BitVec 32) <<< k).toNat = 2 ^ k := by
  have hpow : 2 ^ k < 2 ^ 32 := Nat.pow_lt_pow_right (by decide) hk
  rw [BitVec.toNat_shiftLeft, Nat.shiftLeft_eq]
  simpa using hpow

theorem toInt_emod (x : BitVec 32) {width : ℕ} (hw : width ≤ 32) :
    x.toInt % (2 ^ width : ℕ) = (x.toNat % 2 ^ width : ℕ) := by
  obtain ⟨m, hm⟩ : 2 ^ width ∣ 2 ^ 32 := pow_dvd_pow 2 hw
  rw [BitVec.toInt_eq_toNat_cond]
  split
  · rw [Int.natCast_mod]
  · rw [hm, Nat.cast_mul, Int.sub_mul_emod_self_left, Int.natCast_mod]

section

variable {line : Line} {v : ℕ} (hw : 1 ≤ line.width) (hw' : line.width ≤ 32)

include hw hw'

/-- Sign extension gives the meaning of the field. -/
theorem toInt_extend (hsigned : line.signed) (hv : v < 2 ^ line.width) :
    (extend line (BitVec.ofNat 32 v)).toInt = meaning true line.width v := by
  obtain ⟨k, hk⟩ : ∃ k, line.width = k + 1 := ⟨line.width - 1, by omega⟩
  have hle : 2 ^ k ≤ 2 ^ 31 := Nat.pow_le_pow_right (by decide) (by omega)
  have hsucc : 2 ^ (k + 1) = 2 * 2 ^ k := by rw [pow_succ, mul_comm]
  rw [hk, hsucc] at hv
  have hone := toNat_one_shiftLeft (k := k) (by omega)
  have hmask : ((1 : BitVec 32) <<< k - 1).toNat = 2 ^ k - 1 := by
    rw [BitVec.toNat_sub_of_le, hone]
    · rfl
    · rw [BitVec.le_def, hone]
      exact Nat.one_le_two_pow
  have hvalue : (BitVec.ofNat 32 v).toNat = v := by
    rw [BitVec.toNat_ofNat, Nat.mod_eq_of_lt (by omega)]
  have hlow : (BitVec.ofNat 32 v &&& ((1 : BitVec 32) <<< k - 1)).toNat = v % 2 ^ k := by
    rw [BitVec.toNat_and, hmask, hvalue, Nat.and_two_pow_sub_one_eq_mod]
  have hsign : (BitVec.ofNat 32 v &&& (1 : BitVec 32) <<< k).toNat =
      if 2 ^ k ≤ v then 2 ^ k else 0 := by
    rw [BitVec.toNat_and, hone, hvalue, and_two_pow_top (by rw [hsucc]; exact hv)]
  have hextend : (extend line (BitVec.ofNat 32 v)).toNat =
      (2 ^ 32 - (if 2 ^ k ≤ v then 2 ^ k else 0) + v % 2 ^ k) % 2 ^ 32 := by
    simp only [extend, hsigned, if_true, hk, Nat.add_sub_cancel]
    rw [BitVec.toNat_sub, hlow, hsign]
  rw [BitVec.toInt_eq_toNat_cond, hextend, meaning, hk, Nat.add_sub_cancel]
  have hcast : (2 : ℤ) ^ (k + 1) = 2 * (2 ^ k : ℕ) := by
    rw [pow_succ, mul_comm]
    push_cast
    rfl
  rw [hcast]
  by_cases hge : 2 ^ k ≤ v
  · have hmod : v % 2 ^ k = v - 2 ^ k := by
      rw [Nat.mod_eq_sub_mod hge, Nat.mod_eq_of_lt (by omega)]
    simp only [hge, hmod, and_self, if_true]
    split <;> omega
  · simp only [hge, Nat.mod_eq_of_lt (not_le.1 hge), and_false, if_false]
    split <;> omega

theorem toNat_extend_mod (hv : v < 2 ^ line.width) :
    (extend line (BitVec.ofNat 32 v)).toNat % 2 ^ line.width = v := by
  have hpow : 2 ^ line.width ∣ 2 ^ 32 := pow_dvd_pow 2 hw'
  cases hsigned : line.signed with
  | false =>
    have hlt : v < 2 ^ 32 := hv.trans_le (Nat.le_of_dvd (by decide) hpow)
    simp only [extend, hsigned, Bool.false_eq_true, if_false]
    rw [BitVec.toNat_ofNat, Nat.mod_eq_of_lt hlt, Nat.mod_eq_of_lt hv]
  | true =>
    have hmeaning := toInt_extend hw hw' hsigned hv
    have hmod := toInt_emod (extend line (BitVec.ofNat 32 v)) hw'
    rw [hmeaning] at hmod
    refine Int.ofNat_inj.1 (hmod.symm.trans ?_)
    rw [meaning]
    split
    · have hcast : (2 : ℤ) ^ line.width = (2 ^ line.width : ℕ) := by push_cast; rfl
      rw [hcast, Int.sub_emod_right]
      exact Int.emod_eq_of_lt (Int.natCast_nonneg v) (Int.ofNat_lt.2 hv)
    · exact Int.emod_eq_of_lt (Int.natCast_nonneg v) (Int.ofNat_lt.2 hv)

theorem extend_of_fitsWidth {s : Sample} (h : fitsWidth s line) :
    extend line (BitVec.ofNat 32 ((s line.field).toNat % 2 ^ line.width)) = s line.field := by
  cases hsigned : line.signed with
  | false =>
    simp only [fitsWidth, hsigned, Bool.false_eq_true, if_false, decide_eq_true_eq] at h
    simp only [extend, hsigned, Bool.false_eq_true, if_false]
    rw [Nat.mod_eq_of_lt h, BitVec.ofNat_toNat, BitVec.setWidth_eq]
  | true =>
    simp only [fitsWidth, hsigned, if_true, Bool.and_eq_true, decide_eq_true_eq] at h
    have hmod := toInt_emod (s line.field) hw'
    have hlt : (s line.field).toNat % 2 ^ line.width < 2 ^ line.width :=
      Nat.mod_lt _ (Nat.two_pow_pos _)
    refine BitVec.eq_of_toInt_eq ?_
    rw [toInt_extend hw hw' hsigned hlt, meaning]
    generalize (s line.field).toNat % 2 ^ line.width = low at hmod hlt
    generalize (s line.field).toInt = x at h hmod
    obtain ⟨k, hk⟩ : ∃ k, line.width = k + 1 := ⟨line.width - 1, by omega⟩
    have hcast : (2 : ℤ) ^ k = (2 ^ k : ℕ) := by push_cast; rfl
    rw [hk, pow_succ] at hmod hlt
    rw [hk, Nat.add_sub_cancel] at h ⊢
    rw [hcast] at h
    rw [pow_succ, hcast]
    have hadd : (x + (2 ^ k * 2 : ℕ)) % (2 ^ k * 2 : ℕ) = x % (2 ^ k * 2 : ℕ) :=
      Int.add_emod_right _ _
    rcases lt_or_ge x 0 with hneg | hpos
    · rw [Int.emod_eq_of_lt (by omega) (by omega), hmod] at hadd
      rw [if_pos ⟨rfl, by omega⟩]
      omega
    · rw [Int.emod_eq_of_lt hpos (by omega)] at hmod
      rw [if_neg (by omega)]
      exact hmod.symm

theorem value_extend {s : Sample} (hv : v < 2 ^ line.width)
    (h : s line.field = extend line (BitVec.ofNat 32 v)) :
    s.value line = meaning line.signed line.width v := by
  unfold Sample.value
  rw [h]
  cases hsigned : line.signed with
  | true => exact toInt_extend hw hw' hsigned hv
  | false =>
    have hlt : v < 2 ^ 32 := hv.trans_le (Nat.pow_le_pow_right (by decide) hw')
    simp only [meaning, extend, hsigned, Bool.false_eq_true, if_false, false_and,
      BitVec.toNat_ofNat, Nat.mod_eq_of_lt hlt]

theorem fitsWidth_extend {s : Sample} (hv : v < 2 ^ line.width)
    (h : s line.field = extend line (BitVec.ofNat 32 v)) : fitsWidth s line := by
  have hvalue := value_extend hw hw' hv h
  obtain ⟨k, hk⟩ : ∃ k, line.width = k + 1 := ⟨line.width - 1, by omega⟩
  unfold fitsWidth
  unfold Sample.value meaning at hvalue
  cases hsigned : line.signed with
  | true =>
    simp only [hsigned, if_true, hk, Nat.add_sub_cancel, Bool.and_eq_true,
      decide_eq_true_eq] at hvalue hv ⊢
    rw [hvalue]
    have hcast : (2 : ℤ) ^ k = (2 ^ k : ℕ) := by push_cast; rfl
    rw [pow_succ] at hv ⊢
    rw [hcast]
    by_cases hge : 2 ^ k ≤ v
    · rw [if_pos ⟨trivial, hge⟩]
      omega
    · rw [if_neg fun h => hge h.2]
      omega
  | false =>
    simp only [hsigned, Bool.false_eq_true, if_false, false_and, Int.ofNat_inj] at hvalue ⊢
    rw [hvalue]
    exact decide_eq_true hv

end

theorem fields_widths : ∀ line ∈ fields, 1 ≤ line.width ∧ line.width ≤ 32 := by decide

theorem fields_nodup : (fields.map Line.field).Nodup := by decide

theorem exists_line (f : Field) : ∃ line ∈ fields, line.field = f := by
  have h : f ∈ fields.map Line.field := by cases f <;> decide
  exact List.mem_map.1 h

theorem readFields_cons (line : Line) (lines : List Line) (s : Sample) (r : Reader) :
    readFields (line :: lines) s r =
      readFields lines (Function.update s line.field
        (extend line (BitVec.ofNat 32 (r.rest % 2 ^ line.width)))) (r.skip line.width) := by
  rw [readFields, Reader.get_eq]

variable {lines : List Line}

theorem readFields_of_notMem {f : Field} (h : f ∉ lines.map Line.field) (s : Sample) (r : Reader) :
    readFields lines s r f = s f := by
  induction lines generalizing s r with
  | nil => rfl
  | cons line lines ih =>
    rw [List.map_cons, List.mem_cons, not_or] at h
    rw [readFields_cons, ih h.2, Function.update_of_ne h.1]

/-- **What is read**: every member is the extension of its consecutive field. -/
theorem readFields_forall₂ (h : (lines.map Line.field).Nodup) (s : Sample) (r : Reader) :
    List.Forall₂ (fun line v => v < 2 ^ line.width ∧
        readFields lines s r line.field = extend line (BitVec.ofNat 32 v))
      lines (BitField.unpack (lines.map Line.width) r.rest) := by
  induction lines generalizing s r with
  | nil => exact .nil
  | cons line lines ih =>
    obtain ⟨hline, hlines⟩ := List.nodup_cons.1 h
    refine .cons ⟨Nat.mod_lt _ (Nat.two_pow_pos _), ?_⟩ ?_
    · rw [readFields_cons, readFields_of_notMem hline, Function.update_self]
    · rw [← Reader.rest_skip, readFields_cons]
      exact ih hlines _ _

variable {s : Sample}

theorem pack_readFields {values : List ℕ} (hw : ∀ line ∈ lines, 1 ≤ line.width ∧ line.width ≤ 32)
    (h : List.Forall₂ (fun line v => v < 2 ^ line.width ∧
      s line.field = extend line (BitVec.ofNat 32 v)) lines values) :
    BitField.pack (lines.map fun line => ((s line.field).toNat, line.width)) =
      BitField.pack (values.zip (lines.map Line.width)) := by
  induction h with
  | nil => rfl
  | cons hv hrest ih =>
    obtain ⟨⟨hw₁, hw₂⟩, hlines⟩ := List.forall_mem_cons.1 hw
    rw [List.map_cons, List.map_cons, List.zip_cons_cons, BitField.pack, BitField.pack,
      ih hlines, hv.2, toNat_extend_mod hw₁ hw₂ hv.1, Nat.mod_eq_of_lt hv.1]

/-! ## The packet -/

def word (s : Sample) : ℕ :=
  BitField.pack (fields.map fun line => ((s line.field).toNat, line.width))

theorem number_writer (s : Sample) :
    (Writer.puts ⟨List.replicate (packetSize - 1) 0, 0⟩
        (fields.map fun line => ((s line.field).toNat, line.width))).bytes.length =
        packetSize - 1 ∧
      number (Writer.puts ⟨List.replicate (packetSize - 1) 0, 0⟩
        (fields.map fun line => ((s line.field).toNat, line.width))).bytes = word s := by
  have hwidths : ∀ f ∈ fields.map fun line => ((s line.field).toNat, line.width), f.2 ≤ 32 := by
    intro f hf
    obtain ⟨line, hline, rfl⟩ := List.mem_map.1 hf
    exact (fields_widths line hline).2
  have hroom : bits ≤ 8 * (packetSize - 1) := by decide
  exact Writer.number_puts (packetSize - 1) hwidths (by rw [List.map_map]; exact hroom)

variable {packet : List UInt8}

theorem length_of_pack (h : pack s = some packet) : packet.length = packetSize := by
  obtain ⟨-, h⟩ := Option.ite_none_left_eq_some.1 h
  obtain ⟨-, h⟩ := Option.ite_none_left_eq_some.1 h
  rw [← Option.some.inj h, List.length_cons, (number_writer s).1]
  rfl

/-- When a packet is that of a record. -/
theorem pack_eq_some (hlen : packet.length = packetSize) :
    pack s = some packet ↔ inRange s ∧ fields.all (fitsWidth s) ∧
      packet.headD 0 = 1 ∧ number packet.tail = word s := by
  obtain ⟨hbytes, hnumber⟩ := number_writer s
  unfold pack
  cases inRange s with
  | false => simp
  | true =>
    cases fields.all (fitsWidth s) with
    | false => simp
    | true =>
      obtain ⟨head, tail, rfl⟩ : ∃ head tail, packet = head :: tail :=
        List.exists_cons_of_length_pos (by rw [hlen]; decide)
      rw [List.length_cons] at hlen
      simp only [Bool.not_true, Bool.false_eq_true, if_false, Option.some.injEq, List.cons.injEq,
        true_and, List.headD_cons, List.tail_cons, eq_comm (a := (1 : UInt8))]
      refine and_congr_right fun _ => ?_
      rw [← hnumber]
      constructor
      · rintro rfl
        rfl
      · exact fun h => (number_inj (by omega) h).symm

theorem readFields_of_word (hfits : fields.all (fitsWidth s)) {body : List UInt8}
    (hbody : number body = word s) (s₀ : Sample) : readFields fields s₀ ⟨body, 0⟩ = s := by
  have hread := readFields_forall₂ fields_nodup s₀ ⟨body, 0⟩
  have hvalues : BitField.unpack (fields.map Line.width) (word s) =
      fields.map fun line => (s line.field).toNat % 2 ^ line.width := by
    have h := BitField.unpack_pack_mod (fields.map fun line => ((s line.field).toNat, line.width))
    rw [List.map_map, List.map_map] at h
    exact h
  rw [Reader.rest_start, hbody, hvalues, List.forall₂_map_right_iff, List.forall₂_same] at hread
  funext f
  obtain ⟨line, hline, rfl⟩ := exists_line f
  obtain ⟨hw, hw'⟩ := fields_widths line hline
  rw [(hread line hline).2, extend_of_fitsWidth hw hw' (List.all_eq_true.1 hfits line hline)]

/-- **The firmware accepts what it packs**, and reads the sample back. -/
theorem unpack_eq_some (hlen : packet.length = packetSize) {s₀ : Sample} :
    unpack packet s₀ = some s ↔ pack s = some packet := by
  constructor
  · intro h
    obtain ⟨-, h⟩ := Option.ite_none_left_eq_some.1 h
    obtain ⟨hpack, hs⟩ := Option.ite_none_right_eq_some.1 h
    rw [← Option.some.inj hs]
    exact hpack
  · intro h
    obtain ⟨-, hfits, hhead, hbody⟩ := (pack_eq_some hlen).1 h
    have hread := readFields_of_word hfits hbody s₀
    unfold unpack
    simp only [hread]
    rw [if_neg (not_not.2 hhead), if_pos h]

theorem fitsWidth_readFields (s₀ : Sample) (r : Reader) :
    fields.all (fitsWidth (readFields fields s₀ r)) := by
  have hread := (List.forall₂_and_left _ _).2
    ⟨fields_widths, readFields_forall₂ fields_nodup s₀ r⟩
  have hfits := hread.imp fun line v h =>
    And.intro (fitsWidth_extend h.1.1 h.1.2 h.2.1 h.2.2) trivial
  exact List.all_eq_true.2 ((List.forall₂_and_left _ _).1 hfits).1

/-- Unpacking, in terms of the packet's number. -/
theorem unpack_eq (hlen : packet.length = packetSize) (s₀ : Sample) :
    unpack packet s₀ =
      if packet.headD 0 = 1 ∧ number packet.tail < 2 ^ bits ∧
          inRange (readFields fields s₀ ⟨packet.tail, 0⟩) then
        some (readFields fields s₀ ⟨packet.tail, 0⟩)
      else none := by
  have hread := pack_readFields fields_widths
    (readFields_forall₂ fields_nodup s₀ ⟨packet.tail, 0⟩)
  rw [Reader.rest_start, BitField.pack_unpack] at hread
  have hpack : pack (readFields fields s₀ ⟨packet.tail, 0⟩) = some packet ↔
      packet.headD 0 = 1 ∧ number packet.tail < 2 ^ bits ∧
        inRange (readFields fields s₀ ⟨packet.tail, 0⟩) = true := by
    rw [pack_eq_some hlen, word, hread]
    rw [bits, eq_comm (b := _ % _), Nat.mod_eq_iff_lt (Nat.two_pow_pos _).ne']
    constructor
    · rintro ⟨hrange, -, hhead, hlt⟩
      exact ⟨hhead, hlt, hrange⟩
    · rintro ⟨hhead, hlt, hrange⟩
      exact ⟨hrange, fitsWidth_readFields s₀ _, hhead, hlt⟩
  unfold unpack
  by_cases hhead : packet.headD 0 = 1
  · rw [if_neg (not_not.2 hhead)]
    exact if_congr hpack rfl rfl
  · rw [if_pos hhead, if_neg fun h => hhead h.1]

/-! ## The laptop reads the same -/

/-- Both sides have the same table. -/
theorem laptop_fields :
    Laptop.fields = fields.map fun line => (line.field.name, line.width, line.signed) := by
  rfl

theorem laptop_value (signed : Bool) {width v : ℕ} (hw : 1 ≤ width) (hv : v < 2 ^ width) :
    (if signed ∧ v &&& 1 <<< (width - 1) ≠ 0 then (v : ℤ) - (1 <<< width : ℕ) else v) =
      meaning signed width v := by
  obtain ⟨k, rfl⟩ : ∃ k, width = k + 1 := ⟨width - 1, by omega⟩
  have htop : v &&& 2 ^ k ≠ 0 ↔ 2 ^ k ≤ v := by
    rw [and_two_pow_top hv]
    split
    · rename_i hle
      exact iff_of_true (Nat.two_pow_pos k).ne' hle
    · rename_i hlt
      exact iff_of_false (not_not.2 rfl) hlt
  rw [meaning, Nat.add_sub_cancel, Nat.one_shiftLeft, Nat.one_shiftLeft]
  refine if_congr (and_congr_right' htop) ?_ rfl
  push_cast
  rfl

theorem readAll_eq (n : ℕ) (hw : ∀ line ∈ lines, 1 ≤ line.width) (offset : ℕ) :
    Laptop.readAll n (lines.map fun line => (line.field.name, line.width, line.signed)) offset =
      (List.zipWith (fun line v => (line.field.name, meaning line.signed line.width v)) lines
        (BitField.unpack (lines.map Line.width) (n / 2 ^ offset)),
        offset + (lines.map Line.width).sum) := by
  induction lines generalizing offset with
  | nil => rfl
  | cons line lines ih =>
    obtain ⟨hline, hlines⟩ := List.forall_mem_cons.1 hw
    have hv : n >>> offset &&& 1 <<< line.width - 1 = n / 2 ^ offset % 2 ^ line.width := by
      rw [Nat.one_shiftLeft, Nat.and_two_pow_sub_one_eq_mod, Nat.shiftRight_eq_div_pow]
    have hlt : n / 2 ^ offset % 2 ^ line.width < 2 ^ line.width :=
      Nat.mod_lt _ (Nat.two_pow_pos _)
    rw [List.map_cons, Laptop.readAll, ih hlines, hv]
    simp only [laptop_value line.signed hline hlt, pow_add, ← Nat.div_div_eq_div_mul,
      List.map_cons, BitField.unpack, List.zipWith_cons_cons, List.sum_cons, ← add_assoc]

def dict (s : Sample) : Laptop.Dict := fields.map fun line => (line.field.name, s.value line)

def reading (s : Sample) : Laptop.Reading :=
  ⟨(s .timestampUs).toNat, (s .sequence).toNat, dict s⟩

theorem zipWith_meaning {values : List ℕ}
    (h : List.Forall₂ (fun line v => s.value line = meaning line.signed line.width v)
      lines values) :
    List.zipWith (fun line v => (line.field.name, meaning line.signed line.width v)) lines values =
      lines.map fun line => (line.field.name, s.value line) := by
  induction h with
  | nil => rfl
  | cons hv _ ih => rw [List.zipWith_cons_cons, List.map_cons, ih, hv]

/-- The laptop reads what the firmware unpacks. -/
theorem readAll_fields (body : List UInt8) (s₀ : Sample) :
    Laptop.readAll (number body) Laptop.fields 0 =
      (dict (readFields fields s₀ ⟨body, 0⟩), bits) := by
  have hread := (List.forall₂_and_left _ _).2
    ⟨fields_widths, readFields_forall₂ fields_nodup s₀ ⟨body, 0⟩⟩
  have hvalues := hread.imp fun line v h => value_extend h.1.1 h.1.2 h.2.1 h.2.2
  rw [laptop_fields, readAll_eq _ (fun line hline => (fields_widths line hline).1), zero_add,
    pow_zero, Nat.div_one, bits]
  rw [Reader.rest_start] at hvalues
  rw [zipWith_meaning hvalues, dict]

theorem lookup_map_of_mem (h : (lines.map fun line => line.field.name).Nodup) (s : Sample)
    {line : Line} (hline : line ∈ lines) :
    (lines.map fun line => (line.field.name, s.value line)).lookup line.field.name =
      some (s.value line) := by
  induction lines with
  | nil => cases hline
  | cons head rest ih =>
    obtain ⟨hhead, hrest⟩ := List.nodup_cons.1 h
    rw [List.map_cons, List.lookup_cons]
    rcases List.mem_cons.1 hline with rfl | hmem
    · rw [beq_self_eq_true]
    · have hne : line.field.name ≠ head.field.name := fun heq =>
        hhead (List.mem_map.2 ⟨line, hmem, heq⟩)
      rw [beq_eq_false_iff_ne.2 hne]
      exact ih hrest hmem

def Field.signed (f : Field) : Bool := fields.any fun line => line.field = f && line.signed

theorem dict_at (s : Sample) (f : Field) :
    (dict s).at f.name = if f.signed then (s f).toInt else (s f).toNat := by
  have hnames : (fields.map fun line => line.field.name).Nodup := by decide +kernel
  have hsigned : ∀ line ∈ fields, line.signed = line.field.signed := by decide +kernel
  obtain ⟨line, hline, rfl⟩ := exists_line f
  rw [Laptop.Dict.at, dict, lookup_map_of_mem hnames s hline, Option.getD_some, Sample.value,
    hsigned line hline]

/-- Both sides have the same ranges. -/
theorem validate_dict (s : Sample) : (Laptop.validate (dict s)).isOk = inRange s := by
  have hnat (f : Field) (name : String) (hname : f.name = name) (hf : f.signed = false) :
      (dict s).at name = (s f).toNat := by rw [← hname, dict_at, hf]; rfl
  have hint (f : Field) (name : String) (hname : f.name = name) (hf : f.signed) :
      (dict s).at name = (s f).toInt := by rw [← hname, dict_at, hf]; rfl
  have hok (A B C D : Prop) [Decidable A] [Decidable B] [Decidable C] [Decidable D]
      (a b c d : String) :
      (if A then .error a else if B then .error b else if C then .error c
        else if D then .error d else .ok () : Except String Unit).isOk = true ↔
      ¬A ∧ ¬B ∧ ¬C ∧ ¬D := by
    by_cases A <;> by_cases B <;> by_cases C <;> by_cases D <;> simp [*, Except.isOk, Except.toBool]
  rw [Bool.eq_iff_iff, Laptop.validate, hok]
  simp only [List.any_cons, List.any_nil, Bool.or_false, lt_abs, inRange, Bool.or_eq_true,
    decide_eq_true_eq, Bool.not_eq_true', Bool.or_eq_false_iff, Bool.and_eq_false_iff,
    decide_eq_false_iff_not, hnat .motionState "motion_state" rfl rfl,
    hnat .motionFault "motion_fault" rfl rfl, hnat .driveState "drive_state" rfl rfl,
    hnat .reason "reason" rfl rfl, hnat .pending "pending" rfl rfl,
    hnat .barcodeStatus "barcode_status" rfl rfl, hnat .calSensor "cal_sensor" rfl rfl,
    hint .lineError "line_error" rfl rfl, hint .dutyLeft "duty_left" rfl rfl,
    hint .dutyRight "duty_right" rfl rfl, hnat .motionValid "motion_valid" rfl rfl,
    hnat .motionAvailable "motion_available" rfl rfl,
    hnat .leftWhiteLimit ("left" ++ "_" ++ "white" ++ "_limit") rfl rfl,
    hnat .leftBlackLimit ("left" ++ "_" ++ "black" ++ "_limit") rfl rfl,
    hnat .rightWhiteLimit ("right" ++ "_" ++ "white" ++ "_limit") rfl rfl,
    hnat .rightBlackLimit ("right" ++ "_" ++ "black" ++ "_limit") rfl rfl,
    hnat .barcodeWhiteLimit ("barcode" ++ "_" ++ "white" ++ "_limit") rfl rfl,
    hnat .barcodeBlackLimit ("barcode" ++ "_" ++ "black" ++ "_limit") rfl rfl]
  omega

/-- **The laptop accepts what the firmware accepts**, with the same values. -/
theorem decodeControl_eq (hlen : packet.length = packetSize) (s₀ : Sample) :
    (Laptop.decodeControl packet).toOption = (unpack packet s₀).map reading := by
  have hsize : packet.length = 70 := hlen
  have hpad : number packet.tail >>> bits ≠ 0 ↔ ¬number packet.tail < 2 ^ bits := by
    rw [Nat.shiftRight_eq_div_pow, ne_eq, Nat.div_eq_zero_iff_lt (Nat.two_pow_pos _)]
  rw [unpack_eq hlen, Laptop.decodeControl]
  simp only [readAll_fields packet.tail s₀]
  generalize readFields fields s₀ ⟨packet.tail, 0⟩ = s
  have hvalidate := validate_dict s
  by_cases hhead : packet.headD 0 = 1
  · rw [if_neg (not_or.2 ⟨not_not.2 hsize, not_not.2 hhead⟩)]
    by_cases hlt : number packet.tail < 2 ^ bits
    · rw [if_neg fun h => hpad.1 h hlt]
      cases hv : Laptop.validate (dict s) with
      | error =>
        rw [hv] at hvalidate
        rw [if_neg fun h => Bool.false_ne_true (hvalidate.trans h.2.2)]
        rfl
      | ok =>
        rw [hv] at hvalidate
        rw [if_pos ⟨hhead, hlt, hvalidate.symm⟩]
        have htime : (dict s).at "timestamp_us" = (s .timestampUs).toNat := dict_at s .timestampUs
        have hsequence : (dict s).at "sequence" = (s .sequence).toNat := dict_at s .sequence
        rw [htime, hsequence]
        rfl
    · rw [if_pos (hpad.2 hlt), if_neg fun h => hlt h.2.1]
      rfl
  · rw [if_pos (.inr hhead), if_neg fun h => hhead h.1]
    rfl

end RoboticCar.Diagnostics.Control
