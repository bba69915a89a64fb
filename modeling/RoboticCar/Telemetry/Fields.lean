import RoboticCar.Telemetry.Codec

/-!
# The fields of a topic as a number

`fields` lists what `writeFields` sends, with the widths, and `contents` what `readFields` makes of
a number (`writeFields_eq`, `readFields_eq`).  What was accepted is read back as `delivered`
(`contents_fields`), and what is read would be sent as the same number (`fields_of_contents`).  Only
the speeds are rounded (`nearestEven`).
-/

namespace RoboticCar.Telemetry

open Lib.Bytes Lib.BitField

/-! ## A topic as a number -/

/-- The values `writeFields` accepts. -/
def Accepts (t : Topic) (v : Snapshot) : Prop :=
  match t with
  | .motion => (-510 ≤ v.leftMms.toInt ∧ v.leftMms.toInt ≤ 510) ∧
      -510 ≤ v.rightMms.toInt ∧ v.rightMms.toInt ≤ 510
  | .barcode => 65 ≤ v.barcodeLetter.toNat ∧ v.barcodeLetter.toNat ≤ 90
  | .hump => v.humpHeightMm.toNat ≤ 500
  | .heading => 0 ≤ v.headingDeg.toInt ∧ v.headingDeg.toInt ≤ 359
  | .obstacle => (30 ≤ v.obstacleDistanceMm.toNat ∧ v.obstacleDistanceMm.toNat ≤ 4000) ∧
      v.obstacleWidthMm.toNat ≤ 4095
  | .state => 1 ≤ v.robotState.code
  | .faults => v.faults.toNat < 64
  | .pose => v.poseDistanceCm.toNat < 4096 ∧
      0 ≤ v.poseHeadingDeg.toInt ∧ v.poseHeadingDeg.toInt ≤ 359
  | .terrain =>
      v.terrain.state.toNat < 8 ∧ v.terrain.climbMm.toNat ≤ 500 ∧ v.terrain.peakMm.toNat ≤ 500 ∧
      (-900 ≤ v.terrain.pitchX10.toInt ∧ v.terrain.pitchX10.toInt ≤ 900) ∧
      (-900 ≤ v.terrain.rollX10.toInt ∧ v.terrain.rollX10.toInt ≤ 900) ∧
      (v.terrain.tiltValid = 0 → v.terrain.pitchX10 = 0 ∧ v.terrain.rollX10 = 0) ∧
      (v.terrain.onHump = 0 → v.terrain.climbMm = 0) ∧
      (v.terrain.peakValid = 0 → v.terrain.peakMm = 0)
  | _ => False

def fields (t : Topic) (v : Snapshot) : List (ℕ × ℕ) :=
  match t with
  | .motion =>
    [((v.leftMms.toInt.natAbs + 1) / 2, 8), ((decide (v.leftMms.toInt < 0)).toNat, 1),
      ((v.rightMms.toInt.natAbs + 1) / 2, 8), ((decide (v.rightMms.toInt < 0)).toNat, 1)]
  | .barcode => [((v.barcodeLetter - letterA).toNat, 5), (v.barcodeAction.code, 3)]
  | .hump => [(v.humpCount.toNat, 16), (v.humpHeightMm.toNat, 9)]
  | .heading => [(v.headingDeg.toInt.toNat, 9)]
  | .obstacle =>
    [(v.obstacleDistanceMm.toNat, 12), (v.obstacleWidthMm.toNat, 12), (v.obstacleRoute.code, 2)]
  | .state => [(v.robotState.code - RobotState.stopped.code, 3)]
  | .faults => [(v.faults.toNat, faultBits)]
  | .pose => [(v.poseDistanceCm.toNat, poseDistanceBits), (v.poseHeadingDeg.toInt.toNat, 9)]
  | .terrain =>
    [((v.terrain.tiltValid != 0).toNat, 1), (tiltCode v.terrain.pitchX10, tiltBits),
      (tiltCode v.terrain.rollX10, tiltBits), (v.terrain.state.toNat, 3),
      ((v.terrain.onHump != 0).toNat, 1), (v.terrain.climbMm.toNat, 9),
      ((v.terrain.peakValid != 0).toNat, 1), (v.terrain.peakMm.toNat, 9)]
  | _ => []

theorem faults_and_eq_zero (x : UInt8) : x &&& ~~~faultMask = 0 ↔ x.toNat < 64 := by
  have h : ∀ x : BitVec 8, (x &&& ~~~(0x3f : BitVec 8) = 0 ↔ x.toNat < 64) := by decide +kernel
  rw [← UInt8.toBitVec_inj]
  exact h x.toBitVec

theorem terrain_accepts (t : Terrain) :
    (¬ (terrainStates ≤ t.state ∨ humpHeightMaxMm < t.climbMm ∨ humpHeightMaxMm < t.peakMm) ∧
      ¬ (t.tiltValid ≠ 0 ∧ (t.pitchX10.toInt < -tiltLimitX10 ∨ tiltLimitX10 < t.pitchX10.toInt ∨
        t.rollX10.toInt < -tiltLimitX10 ∨ tiltLimitX10 < t.rollX10.toInt)) ∧
      ¬ (t.tiltValid = 0 ∧ (t.pitchX10 ≠ 0 ∨ t.rollX10 ≠ 0)) ∧
      ¬ ((t.onHump = 0 ∧ t.climbMm ≠ 0) ∨ (t.peakValid = 0 ∧ t.peakMm ≠ 0))) ↔
    Accepts .terrain { terrain := t } := by
  simp only [Accepts, terrainStates, humpHeightMaxMm, tiltLimitX10, UInt8.le_iff_toNat_le,
    UInt16.lt_iff_toNat_lt, UInt8.reduceToNat, UInt16.reduceToNat, not_or, not_and, not_not,
    ne_eq, not_le, not_lt]
  by_cases htilt : t.tiltValid = 0
  · by_cases hzero : t.pitchX10 = 0 ∧ t.rollX10 = 0
    · simp [htilt, hzero.1, hzero.2, and_assoc]
    · simp only [htilt]
      tauto
  · simp only [htilt, not_false_eq_true, true_imp_iff, false_imp_iff, true_and]
    tauto

theorem writeFields_eq (t : Topic) (v : Snapshot) (w w' : Writer) :
    writeFields t v w = some w' ↔ Accepts t v ∧ w' = w.puts (fields t v) := by
  cases t
  case terrain =>
    rw [show Accepts .terrain v = Accepts .terrain { terrain := v.terrain } from rfl,
      ← terrain_accepts]
    simp only [writeFields, fields, Writer.puts, List.foldl, ite_eq_iff, reduceCtorEq, and_false,
      false_or, Option.some.injEq, and_assoc, eq_comm (a := w')]
  all_goals simp only [writeFields, Accepts, fields, Writer.puts, List.foldl, ite_eq_iff,
    reduceCtorEq, and_false, false_or, false_and, Option.some.injEq, eq_comm (a := w')]
  all_goals refine and_congr_left fun _ => ?_
  case motion => simp only [speedMaxMms]; omega
  case barcode =>
    simp only [UInt8.lt_iff_toNat_lt, letterA, letterZ, UInt8.reduceToNat]
    omega
  case hump =>
    simp only [UInt16.lt_iff_toNat_lt, humpHeightMaxMm, UInt16.reduceToNat]
    omega
  case heading => omega
  case obstacle =>
    simp only [UInt16.lt_iff_toNat_lt, obstacleMinMm, obstacleMaxMm, obstacleWidthMaxMm,
      UInt16.reduceToNat]
    omega
  case state => simp only [RobotState.code]; omega
  case faults => rw [not_not, faults_and_eq_zero]
  case pose => simp only [poseDistanceBits]; omega

/-- The values of a topic's number: how they change a view, or a refusal. -/
def contents (t : Topic) (n : ℕ) : Option (Snapshot → Snapshot) :=
  match t with
  | .motion =>
    if (n % 256 = 0 ∧ n / 256 % 2 ≠ 0) ∨ (n / 512 % 256 = 0 ∧ n / 131072 % 2 ≠ 0) then none
    else some fun v => { v with
      motionValid := 1, leftMms := speedOf (n % 256) (n / 256 % 2)
      rightMms := speedOf (n / 512 % 256) (n / 131072 % 2) }
  | .barcode =>
    if n % 32 ≤ 25 then
      (BarcodeAction.ofCode? (n / 32 % 8)).map fun action v => { v with
        barcodeValid := 1, barcodeLetter := letterA + UInt8.ofNat (n % 32)
        barcodeAction := action }
    else none
  | .hump =>
    if n / 65536 % 512 ≤ 500 then
      some fun v => { v with
        humpValid := 1, humpCount := UInt16.ofNat (n % 65536)
        humpHeightMm := UInt16.ofNat (n / 65536 % 512) }
    else none
  | .heading =>
    if n % 512 ≤ 359 then
      some fun v => { v with headingValid := 1, headingDeg := Int16.ofNat (n % 512) }
    else none
  | .obstacle =>
    if 30 ≤ n % 4096 ∧ n % 4096 ≤ 4000 then
      (ObstacleRoute.ofCode? (n / 16777216 % 4)).map fun route v => { v with
        obstacleValid := 1, obstacleDistanceMm := UInt16.ofNat (n % 4096)
        obstacleWidthMm := UInt16.ofNat (n / 4096 % 4096), obstacleRoute := route }
    else none
  | .state =>
    (RobotState.ofCode? (n % 8 + 1)).map fun state v => { v with
      robotStateValid := 1, robotState := state }
  | .faults => some fun v => { v with faultsValid := 1, faults := UInt8.ofNat (n % 64) }
  | .pose =>
    if n / 4096 % 512 ≤ 359 then
      some fun v => { v with
        poseValid := 1, poseDistanceCm := UInt16.ofNat (n % 4096)
        poseHeadingDeg := Int16.ofNat (n / 4096 % 512) }
    else none
  | .terrain =>
    if 500 < n / 134217728 % 512 ∨ 500 < n / 137438953472 % 512 ∨
        (n / 67108864 % 2 = 0 ∧ n / 134217728 % 512 ≠ 0) ∨
        (n / 68719476736 % 2 = 0 ∧ n / 137438953472 % 512 ≠ 0) then none
    else if n % 2 = 0 ∧ ¬ (n / 2 % 2048 = 0 ∧ n / 4096 % 2048 = 0) then none
    else if n % 2 ≠ 0 ∧ ¬ (-900 ≤ (tiltOf (n / 2 % 2048)).toInt ∧
        (tiltOf (n / 2 % 2048)).toInt ≤ 900 ∧ -900 ≤ (tiltOf (n / 4096 % 2048)).toInt ∧
        (tiltOf (n / 4096 % 2048)).toInt ≤ 900) then none
    else some fun v => { v with
      terrainValid := 1
      terrain :=
        { tiltValid := UInt8.ofNat (n % 2), pitchX10 := tiltOf (n / 2 % 2048)
          rollX10 := tiltOf (n / 4096 % 2048), state := UInt8.ofNat (n / 8388608 % 8)
          onHump := UInt8.ofNat (n / 67108864 % 2)
          climbMm := UInt16.ofNat (n / 134217728 % 512)
          peakValid := UInt8.ofNat (n / 68719476736 % 2)
          peakMm := UInt16.ofNat (n / 137438953472 % 512) } }
  | _ => none

variable {k : ℕ}

theorem toNat_ofNat8 (hk : k < 256) : (UInt8.ofNat k).toNat = k :=
  UInt8.toNat_ofNat_of_lt' hk

theorem toNat_ofNat16 (hk : k < 65536) : (UInt16.ofNat k).toNat = k :=
  UInt16.toNat_ofNat_of_lt' hk

theorem toNat_letterA_add (hk : k < 32) : (letterA + UInt8.ofNat k).toNat = 65 + k := by
  rw [UInt8.toNat_add, toNat_ofNat8 (by omega)]
  simp only [letterA, UInt8.reduceToNat]
  omega

theorem toInt_tiltOf (hk : k < 2048) :
    (tiltOf k).toInt = if k < 1024 then (k : ℤ) else k - 2048 := by
  have hbit : k &&& 0x400 ≠ 0 ↔ ¬ k < 1024 := by
    have h : ∀ x : Fin 2048, (x.val &&& 0x400 ≠ 0) ↔ ¬ x.val < 1024 := by decide +kernel
    exact h ⟨k, hk⟩
  unfold tiltOf
  simp only [hbit]
  split_ifs with h
  · exact Int16.toInt_ofInt_of_le (by omega) (by omega)
  · exact Int16.toInt_ofInt_of_le (by omega) (by omega)

theorem tiltOf_eq_zero (hk : k < 2048) : tiltOf k = 0 ↔ k = 0 := by
  rw [← Int16.toInt_inj, toInt_tiltOf hk, Int16.toInt_zero]
  split_ifs <;> omega

theorem toInt_speedOf {mag : ℕ} (h : mag < 256) (negative : ℕ) :
    (speedOf mag negative).toInt = if negative = 0 then 2 * (mag : ℤ) else -(2 * mag) := by
  unfold speedOf
  split_ifs
  all_goals
    rw [Int16.toInt_ofInt_of_le (by push_cast; omega) (by push_cast; omega)]
    push_cast
    omega

theorem UInt16_ofNat_eq_zero (hk : k < 65536) : UInt16.ofNat k = 0 ↔ k = 0 := by
  rw [UInt16.ofNat_eq_iff_mod_eq_toNat, UInt16.toNat_zero]
  omega

theorem UInt8_ofNat_eq_zero (hk : k < 256) : UInt8.ofNat k = 0 ↔ k = 0 := by
  rw [UInt8.ofNat_eq_iff_mod_eq_toNat, UInt8.toNat_zero]
  omega

theorem readFields_eq (t : Topic) (r : Reader) (v : Snapshot) :
    readFields t r v = (contents t r.rest).map fun f => (f v, r.skip t.bodyBits) := by
  cases t
  all_goals simp only [readFields, contents, Reader.get_eq, Reader.rest_skip, Reader.skip_skip,
    Nat.reducePow, Nat.reduceMul, Nat.reduceAdd, Topic.bodyBits, faultBits,
    poseDistanceBits, tiltBits, Option.map_none, Option.map_some, Option.map_map,
    apply_ite (Option.map fun f : Snapshot → Snapshot => (f v, r.skip _))]
  case motion =>
    split_ifs <;> first | rfl | (exfalso; omega)
  case barcode =>
    refine if_congr ?_ rfl rfl
    rw [UInt8.le_iff_toNat_le, toNat_letterA_add (by omega)]
    simp only [letterZ, UInt8.reduceToNat]
    omega
  case hump =>
    refine if_congr ?_ rfl rfl
    rw [UInt16.le_iff_toNat_le, toNat_ofNat16 (by omega)]
    rfl
  case heading =>
    refine if_congr ?_ rfl rfl
    rw [Int16.toInt_ofNat_of_lt (by omega)]
    omega
  case obstacle =>
    refine if_congr ?_ rfl rfl
    rw [UInt16.le_iff_toNat_le, UInt16.le_iff_toNat_le, toNat_ofNat16 (by omega)]
    rfl
  case state => rfl
  case pose =>
    refine if_congr ?_ rfl rfl
    rw [Int16.toInt_ofNat_of_lt (by omega)]
    omega
  case terrain =>
    refine if_congr ?_ rfl (if_congr ?_ rfl (if_congr ?_ rfl rfl))
    · simp (disch := omega) only [UInt16.lt_iff_toNat_lt, toNat_ofNat16, UInt8_ofNat_eq_zero,
        UInt16_ofNat_eq_zero, ne_eq]
      rfl
    · rw [UInt8_ofNat_eq_zero (by omega), tiltOf_eq_zero (by omega), tiltOf_eq_zero (by omega)]
    · rw [ne_eq, UInt8_ofNat_eq_zero (by omega)]
      rfl

/-! ## What arrives -/

def nearestEven (x : ℤ) : ℤ := x.sign * ((x.natAbs + 1) / 2 * 2 : ℕ)

theorem two_dvd_nearestEven (x : ℤ) : 2 ∣ nearestEven x :=
  ⟨x.sign * ((x.natAbs + 1) / 2 : ℕ), by rw [nearestEven]; push_cast; ring⟩

theorem nearestEven_eq (x : ℤ) :
    nearestEven x = if x < 0 then -(((x.natAbs + 1) / 2 * 2 : ℕ) : ℤ)
      else ((x.natAbs + 1) / 2 * 2 : ℕ) := by
  unfold nearestEven
  rcases lt_trichotomy x 0 with h | rfl | h
  · rw [if_pos h, Int.sign_eq_neg_one_of_neg h, neg_one_mul]
  · rfl
  · rw [if_neg (by omega), Int.sign_eq_one_of_pos h, one_mul]

theorem abs_nearestEven_sub_le (x : ℤ) : |nearestEven x - x| ≤ 1 := by
  rw [nearestEven_eq, abs_le]
  split_ifs <;> omega

theorem abs_le_abs_nearestEven (x : ℤ) : |x| ≤ |nearestEven x| := by
  rw [nearestEven_eq]
  split_ifs with h
  · rw [abs_of_neg h, abs_neg, abs_of_nonneg (by omega)]
    omega
  · rw [abs_of_nonneg (by omega), abs_of_nonneg (by omega)]
    omega

def flag (x : UInt8) : UInt8 := if x ≠ 0 then 1 else 0

/-- How the receiver's view changes when the fields of a topic arrive. -/
def delivered (t : Topic) (v : Snapshot) (d : Snapshot) : Snapshot :=
  match t with
  | .motion => { d with
      motionValid := 1, leftMms := Int16.ofInt (nearestEven v.leftMms.toInt)
      rightMms := Int16.ofInt (nearestEven v.rightMms.toInt) }
  | .barcode => { d with
      barcodeValid := 1, barcodeLetter := v.barcodeLetter, barcodeAction := v.barcodeAction }
  | .hump => { d with humpValid := 1, humpCount := v.humpCount, humpHeightMm := v.humpHeightMm }
  | .heading => { d with headingValid := 1, headingDeg := v.headingDeg }
  | .obstacle => { d with
      obstacleValid := 1, obstacleDistanceMm := v.obstacleDistanceMm
      obstacleWidthMm := v.obstacleWidthMm, obstacleRoute := v.obstacleRoute }
  | .state => { d with robotStateValid := 1, robotState := v.robotState }
  | .faults => { d with faultsValid := 1, faults := v.faults }
  | .pose => { d with
      poseValid := 1, poseDistanceCm := v.poseDistanceCm, poseHeadingDeg := v.poseHeadingDeg }
  | .terrain => { d with
      terrainValid := 1
      terrain := { v.terrain with
        tiltValid := flag v.terrain.tiltValid, onHump := flag v.terrain.onHump
        peakValid := flag v.terrain.peakValid } }
  | _ => d

theorem BarcodeAction.ofCode?_code (a : BarcodeAction) : ofCode? a.code = some a := by
  cases a <;> rfl

theorem ObstacleRoute.ofCode?_code (a : ObstacleRoute) : ofCode? a.code = some a := by
  cases a <;> rfl

theorem RobotState.ofCode?_code (a : RobotState) : ofCode? a.code = some a := by
  cases a <;> rfl

theorem BarcodeAction.code_lt (a : BarcodeAction) : a.code < 8 := by cases a <;> decide

theorem ObstacleRoute.code_lt (a : ObstacleRoute) : a.code < 4 := by cases a <;> decide

theorem RobotState.code_lt (a : RobotState) : a.code < 9 := by cases a <;> decide

theorem speedOf_sign (x : Int16) :
    speedOf ((x.toInt.natAbs + 1) / 2) (decide (x.toInt < 0)).toNat =
      Int16.ofInt (nearestEven x.toInt) := by
  rw [nearestEven_eq]
  unfold speedOf
  by_cases hneg : x.toInt < 0
  · simp [hneg]
  · simp [hneg]

theorem tiltCode_lt (x : Int16) : tiltCode x < 2048 := by
  unfold tiltCode
  omega

theorem tiltOf_tiltCode {x : Int16} (h : -900 ≤ x.toInt ∧ x.toInt ≤ 900) :
    tiltOf (tiltCode x) = x := by
  rw [← Int16.toInt_inj, toInt_tiltOf (tiltCode_lt x)]
  unfold tiltCode
  split_ifs <;> omega

theorem tiltCode_tiltOf (hk : k < 2048) : tiltCode (tiltOf k) = k := by
  unfold tiltCode
  rw [toInt_tiltOf hk]
  split_ifs <;> omega

theorem UInt8_ofNat_bne (x : UInt8) : UInt8.ofNat (x != 0).toNat = flag x := by
  unfold flag
  by_cases h : x = 0
  · simp [h]
  · rw [if_pos h, bne_iff_ne.2 h]
    rfl

theorem toNat_sub_letterA {c : UInt8} (h : 65 ≤ c.toNat) : (c - letterA).toNat = c.toNat - 65 := by
  have hle : letterA ≤ c := UInt8.le_iff_toNat_le.2 (by simpa [letterA] using h)
  rw [UInt8.toNat_sub_of_le _ _ hle]
  rfl

theorem letterA_add_sub {c : UInt8} (h : 65 ≤ c.toNat) (h' : c.toNat ≤ 90) :
    letterA + UInt8.ofNat (c - letterA).toNat = c := by
  rw [← UInt8.toNat_inj, toNat_letterA_add, toNat_sub_letterA h]
  · omega
  · rw [toNat_sub_letterA h]
    omega

theorem Int16_ofNat_toNat {x : Int16} (h : 0 ≤ x.toInt) : Int16.ofNat x.toInt.toNat = x := by
  have hlt := x.toInt_lt
  rw [← Int16.toInt_inj, Int16.toInt_ofNat_of_lt (by omega), Int.toNat_of_nonneg h]

variable {t : Topic}

/-- Accepted values fit their fields. -/
theorem fields_fit {v : Snapshot} (h : Accepts t v) :
    ∀ f ∈ fields t v, f.1 < 2 ^ f.2 ∧ f.2 ≤ 32 := by
  cases t
  all_goals simp only [Accepts] at h
  all_goals simp only [fields, List.forall_mem_cons, List.not_mem_nil, false_imp_iff, implies_true,
    faultBits, poseDistanceBits, tiltBits, Nat.reducePow, Nat.reduceLeDiff, and_true]
  case motion => exact ⟨by omega, Bool.toNat_lt _, by omega, Bool.toNat_lt _⟩
  case barcode => exact ⟨by rw [toNat_sub_letterA h.1]; omega, v.barcodeAction.code_lt⟩
  case hump => exact ⟨v.humpCount.toNat_lt, by omega⟩
  case heading => omega
  case obstacle => exact ⟨by omega, by omega, v.obstacleRoute.code_lt⟩
  case state =>
    have := v.robotState.code_lt
    rw [show RobotState.stopped.code = 1 from rfl]
    omega
  case faults => exact h
  case pose => exact ⟨h.1, by omega⟩
  case terrain =>
    exact ⟨Bool.toNat_lt _, tiltCode_lt _, tiltCode_lt _, h.1, Bool.toNat_lt _, by omega,
      Bool.toNat_lt _, by omega⟩

theorem fields_sum {v : Snapshot} (h : Accepts t v) :
    ((fields t v).map Prod.snd).sum = t.bodyBits := by
  cases t <;> first | rfl | exact h.elim

/-- **What is sent is read back**, whatever follows it in the packet. -/
theorem contents_fields {v : Snapshot} (h : Accepts t v) (k : ℕ) :
    contents t (pack (fields t v) + 2 ^ t.bodyBits * k) = some (delivered t v) := by
  have hread := unpack_pack_add (fun f hf => (fields_fit h f hf).1) k
  rw [fields_sum h] at hread
  generalize pack (fields t v) + 2 ^ t.bodyBits * k = n at hread ⊢
  cases t
  all_goals simp only [fields, List.map, unpack, List.cons.injEq, Nat.reducePow, faultBits,
    poseDistanceBits, tiltBits, Nat.div_div_eq_div_mul, Nat.reduceMul, and_true] at hread
  all_goals simp only [Accepts] at h
  case motion =>
    obtain ⟨h1, h2, h3, h4⟩ := hread
    have hl : (v.leftMms.toInt.natAbs + 1) / 2 = 0 → (decide (v.leftMms.toInt < 0)).toNat = 0 := by
      simp only [Bool.toNat_eq_zero, decide_eq_false_iff_not]
      omega
    have hr : (v.rightMms.toInt.natAbs + 1) / 2 = 0 →
        (decide (v.rightMms.toInt < 0)).toNat = 0 := by
      simp only [Bool.toNat_eq_zero, decide_eq_false_iff_not]
      omega
    simp only [contents, h1, h2, h3, h4, speedOf_sign]
    rw [if_neg (by tauto)]
    rfl
  case barcode =>
    obtain ⟨h1, h2⟩ := hread
    simp only [contents, h1, h2, BarcodeAction.ofCode?_code, letterA_add_sub h.1 h.2]
    rw [if_pos (by rw [toNat_sub_letterA h.1]; omega)]
    rfl
  case hump =>
    obtain ⟨h1, h2⟩ := hread
    simp only [contents, h1, h2, UInt16.ofNat_toNat]
    rw [if_pos h]
    rfl
  case heading =>
    simp only [contents, hread, Int16_ofNat_toNat h.1]
    rw [if_pos (by omega)]
    rfl
  case obstacle =>
    obtain ⟨h1, h2, h3⟩ := hread
    simp only [contents, h1, h2, h3, UInt16.ofNat_toNat, ObstacleRoute.ofCode?_code]
    rw [if_pos h.1]
    rfl
  case state =>
    have hcode : v.robotState.code - RobotState.stopped.code + 1 = v.robotState.code := by
      rw [show RobotState.stopped.code = 1 from rfl]
      omega
    simp only [contents, hread, hcode, RobotState.ofCode?_code]
    rfl
  case faults =>
    simp only [contents, hread, UInt8.ofNat_toNat]
    rfl
  case pose =>
    obtain ⟨h1, h2⟩ := hread
    simp only [contents, h1, h2, UInt16.ofNat_toNat, Int16_ofNat_toNat h.2.1]
    rw [if_pos (by omega)]
    rfl
  case terrain =>
    obtain ⟨h1, h2, h3, h4, h5, h6, h7, h8⟩ := hread
    obtain ⟨-, hclimb, hpeak, hpitch, hroll, htilt, hhump, hpeakValid⟩ := h
    simp only [contents, h1, h2, h3, h4, h5, h6, h7, h8, tiltOf_tiltCode hpitch,
      tiltOf_tiltCode hroll, UInt8.ofNat_toNat, UInt16.ofNat_toNat, UInt8_ofNat_bne,
      Bool.toNat_eq_zero, bne_eq_false_iff_eq]
    rw [if_neg, if_neg, if_neg]
    · rfl
    · rintro ⟨-, h⟩
      exact h ⟨hpitch.1, hpitch.2, hroll.1, hroll.2⟩
    · rintro ⟨h0, h⟩
      obtain ⟨hp, hr⟩ := htilt h0
      exact h (by rw [hp, hr]; decide)
    · rintro (h | h | ⟨h0, h⟩ | ⟨h0, h⟩)
      · omega
      · omega
      · exact h (by rw [hhump h0]; rfl)
      · exact h (by rw [hpeakValid h0]; rfl)

/-! ## What was read would be sent -/

variable {n : ℕ}

theorem BarcodeAction.code_of_ofCode? {a : BarcodeAction} (h : ofCode? n = some a) :
    a.code = n := by
  unfold ofCode? at h
  split at h <;> cases h <;> rfl

theorem ObstacleRoute.code_of_ofCode? {a : ObstacleRoute} (h : ofCode? n = some a) :
    a.code = n := by
  unfold ofCode? at h
  split at h <;> cases h <;> rfl

theorem RobotState.code_of_ofCode? {a : RobotState} (h : ofCode? n = some a) : a.code = n := by
  unfold ofCode? at h
  split at h <;> cases h <;> rfl

theorem fields_speedOf {mag negative : ℕ} (hmag : mag < 256) (hneg : negative < 2)
    (h : ¬ (mag = 0 ∧ negative ≠ 0)) :
    ((speedOf mag negative).toInt.natAbs + 1) / 2 = mag ∧
      (decide ((speedOf mag negative).toInt < 0)).toNat = negative ∧
      -510 ≤ (speedOf mag negative).toInt ∧ (speedOf mag negative).toInt ≤ 510 := by
  rw [toInt_speedOf hmag]
  split_ifs with h0
  · refine ⟨by omega, ?_, by omega, by omega⟩
    rw [decide_eq_false (by omega), h0]
    rfl
  · refine ⟨by omega, ?_, by omega, by omega⟩
    rw [decide_eq_true (by omega), show negative = 1 by omega]
    rfl

theorem bne_ofNat_mod_two (n : ℕ) : (UInt8.ofNat (n % 2) != 0).toNat = n % 2 := by
  rcases Nat.mod_two_eq_zero_or_one n with h | h <;> rw [h] <;> rfl

/-- **What is read would be sent** as the number it was read from. -/
theorem fields_of_contents {f : Snapshot → Snapshot} (h : contents t n = some f) (d : Snapshot) :
    Accepts t (f d) ∧
      fields t (f d) = (unpack ((fields t (f d)).map Prod.snd) n).zip
        ((fields t (f d)).map Prod.snd) := by
  cases t
  all_goals simp only [contents, ite_eq_iff, reduceCtorEq, and_false, false_or, or_false,
    Option.some.injEq, Option.map_eq_some_iff] at h
  all_goals simp only [Accepts, fields, List.map, unpack, List.zip_cons_cons, List.zip_nil_right]
  case motion =>
    obtain ⟨hz, rfl⟩ := h
    rw [not_or] at hz
    obtain ⟨hl, hls, hlb⟩ := fields_speedOf (Nat.mod_lt n (by decide))
      (Nat.mod_lt (n / 256) (by decide)) hz.1
    obtain ⟨hr, hrs, hrb⟩ := fields_speedOf (Nat.mod_lt (n / 512) (by decide))
      (Nat.mod_lt (n / 131072) (by decide)) hz.2
    refine ⟨⟨hlb, hrb⟩, ?_⟩
    simp only [hl, hls, hr, hrs,
      Nat.reducePow, Nat.div_div_eq_div_mul, Nat.reduceMul]
  case barcode =>
    obtain ⟨hn, a, ha, rfl⟩ := h
    have hcode := toNat_letterA_add (k := n % 32) (by omega)
    have hsub := toNat_sub_letterA (c := letterA + UInt8.ofNat (n % 32)) (by omega)
    refine ⟨by dsimp only; omega, ?_⟩
    simp only [hsub, hcode,
      BarcodeAction.code_of_ofCode? ha, Nat.reducePow, Nat.add_sub_cancel_left]
  case hump =>
    obtain ⟨hn, rfl⟩ := h
    simp (disch := omega) only [toNat_ofNat16, Nat.reducePow]
    exact ⟨hn, trivial⟩
  case heading =>
    obtain ⟨hn, rfl⟩ := h
    simp (disch := omega) only [Int16.toInt_ofNat_of_lt, Nat.reducePow, Int.toNat_natCast,
      and_true]
    omega
  case obstacle =>
    obtain ⟨hn, a, ha, rfl⟩ := h
    simp (disch := omega) only [toNat_ofNat16, ObstacleRoute.code_of_ofCode? ha, Nat.reducePow,
      Nat.div_div_eq_div_mul, Nat.reduceMul, and_true]
    omega
  case state =>
    obtain ⟨a, ha, rfl⟩ := h
    simp only [RobotState.code_of_ofCode? ha, Nat.reducePow,
      show RobotState.stopped.code = 1 from rfl,
      Nat.add_sub_cancel, and_true]
    omega
  case faults =>
    subst h
    simp (disch := omega) only [toNat_ofNat8, faultBits, Nat.reducePow, and_true]
    omega
  case pose =>
    obtain ⟨hn, rfl⟩ := h
    simp (disch := omega) only [Int16.toInt_ofNat_of_lt, toNat_ofNat16, poseDistanceBits,
      Nat.reducePow, Int.toNat_natCast, and_true]
    omega
  case terrain =>
    obtain ⟨hheight, htilt, hangle, rfl⟩ := h
    simp only [not_or, not_and, not_not, not_lt, ne_eq] at hheight
    rw [not_and_not_right] at htilt hangle
    have hp := toInt_tiltOf (k := n / 2 % 2048) (by omega)
    have hr := toInt_tiltOf (k := n / 4096 % 2048) (by omega)
    have hbound : (-900 ≤ (tiltOf (n / 2 % 2048)).toInt ∧ (tiltOf (n / 2 % 2048)).toInt ≤ 900) ∧
        -900 ≤ (tiltOf (n / 4096 % 2048)).toInt ∧ (tiltOf (n / 4096 % 2048)).toInt ≤ 900 := by
      by_cases h0 : n % 2 = 0
      · rw [hp, hr, (htilt h0).1, (htilt h0).2]
        decide
      · obtain ⟨h1, h2, h3, h4⟩ := hangle h0
        exact ⟨⟨h1, h2⟩, h3, h4⟩
    constructor
    · simp (disch := omega) only [toNat_ofNat16, toNat_ofNat8, UInt8_ofNat_eq_zero,
        UInt16_ofNat_eq_zero, tiltOf_eq_zero]
      exact ⟨by omega, hheight.1, hheight.2.1, hbound.1, hbound.2, htilt, hheight.2.2.1,
        hheight.2.2.2⟩
    · simp (disch := omega) only [toNat_ofNat16, toNat_ofNat8, bne_ofNat_mod_two,
        tiltCode_tiltOf, tiltBits, Nat.reducePow, Nat.div_div_eq_div_mul, Nat.reduceMul]

theorem pack_fields_of_contents {f : Snapshot → Snapshot} (h : contents t n = some f)
    (d : Snapshot) :
    pack (fields t (f d)) = n % 2 ^ t.bodyBits := by
  obtain ⟨haccepts, hfields⟩ := fields_of_contents h d
  rw [hfields, pack_unpack, fields_sum haccepts]

end RoboticCar.Telemetry
