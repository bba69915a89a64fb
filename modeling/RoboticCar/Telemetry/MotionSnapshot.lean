import RoboticCar.Telemetry.RoundTrip

/-!
# The motion snapshot

The motion subsystem shows its speeds, state, fault and two flags in four bytes; telemetry packs the
same speeds separately.  `motion_agrees`: the check accepts exactly what the packing makes
(`snapshotValid_iff`), and the values that a snapshot holds are those telemetry transmits exactly.
-/

namespace RoboticCar.Telemetry.MotionSnapshot

/-- `motion_snapshot_t`: the four bytes. -/
@[ext] structure Snap where
  b0 : UInt8
  b1 : UInt8
  b2 : UInt8
  b3 : UInt8
  deriving DecidableEq

def motionReportMaxMms : ℤ := 510
/-- `MOTION_FAULT`, the last state. -/
def motionFault : ℕ := 5
/-- `MOTION_FAULT_TIMEOUT`, the last fault. -/
def motionFaultTimeout : ℕ := 5

def word (s : Snap) : ℕ :=
  s.b0.toNat ||| s.b1.toNat <<< 8 ||| s.b2.toNat <<< 16 ||| s.b3.toNat <<< 24

def ofWord (packed : ℕ) : Snap :=
  ⟨.ofNat packed, .ofNat (packed >>> 8), .ofNat (packed >>> 16), .ofNat (packed >>> 24)⟩

def speedCode (mms : ℤ) : ℕ := (mms.natAbs + 1) / 2 ||| (decide (mms < 0)).toNat <<< 8

def speedValue (code : ℕ) : Int16 :=
  let mag : ℤ := (code &&& 255 : ℕ) * 2
  Int16.ofInt (if code &&& 256 ≠ 0 then -mag else mag)

/-- `motion_snapshot_pack`, with the codes of the state and the fault. -/
def snapshotPack (state fault : ℕ) (busy speedValid : Bool) (left right : ℤ) : Option Snap :=
  if state > motionFault ∨ fault > motionFaultTimeout then none
  else if speedValid ∧ (left < -motionReportMaxMms ∨ left > motionReportMaxMms ∨
      right < -motionReportMaxMms ∨ right > motionReportMaxMms) then none
  else
    let packed := if speedValid then speedCode left ||| speedCode right <<< 9 else 0
    some (ofWord (packed ||| (state <<< 18 ||| fault <<< 21 ||| busy.toNat <<< 24 |||
      speedValid.toNat <<< 25)))

/-- `motion_snapshot_valid`. -/
def snapshotValid (s : Snap) : Bool :=
  let packed := word s
  let left := packed &&& 511
  let right := (packed >>> 9) &&& 511
  if packed >>> 26 ≠ 0 ∨ (packed >>> 18) &&& 7 > motionFault ∨
      (packed >>> 21) &&& 7 > motionFaultTimeout then false
  else if packed &&& (1 <<< 25) = 0 then left == 0 && right == 0
  else left != 256 && right != 256

def leftMms (s : Snap) : Int16 := speedValue (word s &&& 511)

def rightMms (s : Snap) : Int16 := speedValue ((word s >>> 9) &&& 511)

theorem or_shiftLeft {x k : ℕ} (hx : x < 2 ^ k) (y : ℕ) : x ||| y <<< k = x + y * 2 ^ k := by
  rw [Nat.lor_comm, ← Nat.shiftLeft_add_eq_or_of_lt hx, Nat.shiftLeft_eq, add_comm]

theorem and_two_pow_eq_zero (n k : ℕ) : n &&& 2 ^ k = 0 ↔ n / 2 ^ k % 2 = 0 := by
  rw [Nat.and_two_pow, Nat.testBit_eq_decide_div_mod_eq]
  rcases Nat.mod_two_eq_zero_or_one (n / 2 ^ k) with h | h <;> simp [h]

theorem word_eq (s : Snap) : word s =
    s.b0.toNat + s.b1.toNat * 2 ^ 8 + s.b2.toNat * 2 ^ 16 + s.b3.toNat * 2 ^ 24 := by
  have h₀ := s.b0.toNat_lt
  have h₁ := s.b1.toNat_lt
  have h₂ := s.b2.toNat_lt
  rw [word, or_shiftLeft (k := 8) (by omega), or_shiftLeft (k := 16) (by omega),
    or_shiftLeft (k := 24) (by omega)]

theorem word_ofWord {n : ℕ} (hn : n < 2 ^ 32) : word (ofWord n) = n := by
  rw [word_eq]
  simp only [ofWord, UInt8.toNat_ofNat', Nat.shiftRight_eq_div_pow]
  omega

theorem ofWord_word (s : Snap) : ofWord (word s) = s := by
  have h₀ := s.b0.toNat_lt
  have h₁ := s.b1.toNat_lt
  have h₂ := s.b2.toNat_lt
  have h₃ := s.b3.toNat_lt
  rw [word_eq]
  ext
  all_goals
    simp only [ofWord, UInt8.toNat_ofNat', Nat.shiftRight_eq_div_pow]
    omega

theorem speedCode_eq {x : ℤ} (hlo : -510 ≤ x) (hhi : x ≤ 510) :
    speedCode x = (x.natAbs + 1) / 2 + if x < 0 then 256 else 0 := by
  rw [speedCode, or_shiftLeft (by omega)]
  split_ifs with h <;> simp [h]

theorem speedValue_eq {code : ℕ} (h : code < 512) :
    speedValue code = speedOf (code % 256) (code / 256) := by
  have hand : code &&& 256 = 0 ↔ code / 256 = 0 := by
    rw [show 256 = 2 ^ 8 from rfl, and_two_pow_eq_zero]
    omega
  have hmask : code &&& 255 = code % 256 := Nat.and_two_pow_sub_one_eq_mod code 8
  simp only [speedValue, speedOf, hmask, ne_eq, hand]
  split_ifs <;> simp

theorem toInt_speedValue {x : ℤ} (hlo : -510 ≤ x) (hhi : x ≤ 510) :
    speedCode x < 512 ∧ speedCode x ≠ 256 ∧ (speedValue (speedCode x)).toInt = nearestEven x := by
  have hcode := speedCode_eq hlo hhi
  have hlt : speedCode x < 512 := by
    rw [hcode]
    split_ifs <;> omega
  refine ⟨hlt, ?_, ?_⟩
  · rw [hcode]
    split_ifs <;> omega
  · rw [speedValue_eq hlt, toInt_speedOf (Nat.mod_lt _ (by decide)), nearestEven_eq, hcode]
    split_ifs <;> omega

theorem speedCode_speedValue {code : ℕ} (h : code < 512) (h256 : code ≠ 256) :
    speedCode (speedValue code).toInt = code ∧
      -510 ≤ (speedValue code).toInt ∧ (speedValue code).toInt ≤ 510 ∧
      nearestEven (speedValue code).toInt = (speedValue code).toInt := by
  have hvalue : (speedValue code).toInt = if code / 256 = 0 then (code : ℤ) * 2
      else -(((code - 256 : ℕ) : ℤ) * 2) := by
    rw [speedValue_eq h, toInt_speedOf (Nat.mod_lt _ (by decide))]
    split_ifs <;> omega
  have hlo : -510 ≤ (speedValue code).toInt := by rw [hvalue]; split_ifs <;> omega
  have hhi : (speedValue code).toInt ≤ 510 := by rw [hvalue]; split_ifs <;> omega
  refine ⟨?_, hlo, hhi, ?_⟩
  · rw [speedCode_eq hlo hhi, hvalue]
    split_ifs <;> omega
  · rw [nearestEven_eq, hvalue]
    split_ifs <;> omega

/-! ## Snapshots -/

theorem pack_word {left right state fault : ℕ} (hl : left < 512) (hr : right < 512)
    (hs : state < 8) (hf : fault < 8) (busy valid : Bool) :
    (left ||| right <<< 9) ||| (state <<< 18 ||| fault <<< 21 ||| busy.toNat <<< 24 |||
      valid.toNat <<< 25) = left + right * 2 ^ 9 + state * 2 ^ 18 + fault * 2 ^ 21 +
        busy.toNat * 2 ^ 24 + valid.toNat * 2 ^ 25 := by
  have hb := Bool.toNat_le busy
  simp only [← Nat.lor_assoc]
  simp (disch := omega) only [or_shiftLeft]

theorem snapshotValid_eq (s : Snap) : snapshotValid s ↔
    word s < 2 ^ 26 ∧ word s / 2 ^ 18 % 8 ≤ 5 ∧ word s / 2 ^ 21 % 8 ≤ 5 ∧
      if word s / 2 ^ 25 % 2 = 0 then word s % 512 = 0 ∧ word s / 2 ^ 9 % 512 = 0
      else word s % 512 ≠ 256 ∧ word s / 2 ^ 9 % 512 ≠ 256 := by
  have h₃ (n : ℕ) : n &&& 7 = n % 8 := Nat.and_two_pow_sub_one_eq_mod n 3
  have h₉ (n : ℕ) : n &&& 511 = n % 512 := Nat.and_two_pow_sub_one_eq_mod n 9
  simp only [snapshotValid, h₃, h₉, Nat.shiftRight_eq_div_pow, motionFault, motionFaultTimeout,
    Nat.one_shiftLeft, and_two_pow_eq_zero]
  by_cases hv : word s / 2 ^ 25 % 2 = 0
  · simp only [hv, if_true]
    split_ifs
    · simp only [false_iff]
      omega
    · simp only [Bool.and_eq_true, beq_iff_eq]
      omega
  · simp only [hv, if_false]
    split_ifs
    · simp only [false_iff]
      omega
    · simp only [Bool.and_eq_true, bne_iff_ne]
      omega

theorem codes_of_valid {s : Snap} (h : snapshotValid s) :
    word s % 512 ≠ 256 ∧ word s / 2 ^ 9 % 512 ≠ 256 := by
  obtain ⟨-, -, -, h⟩ := (snapshotValid_eq s).1 h
  split_ifs at h <;> omega

theorem snapshotPack_eq_some {state fault : ℕ} {busy valid : Bool} {left right : ℤ} {s : Snap} :
    snapshotPack state fault busy valid left right = some s ↔
      (state ≤ 5 ∧ fault ≤ 5) ∧
      (valid → (-510 ≤ left ∧ left ≤ 510) ∧ -510 ≤ right ∧ right ≤ 510) ∧
      word s = (if valid then speedCode left else 0) +
        (if valid then speedCode right else 0) * 2 ^ 9 + state * 2 ^ 18 + fault * 2 ^ 21 +
        busy.toNat * 2 ^ 24 + valid.toNat * 2 ^ 25 := by
  have hcode {x : ℤ} (hx : valid = true → -510 ≤ x ∧ x ≤ 510) :
      (if valid then speedCode x else 0) < 512 := by
    split_ifs with hv
    · exact (toInt_speedValue (hx hv).1 (hx hv).2).1
    · decide
  have hb := Bool.toNat_le busy
  have hv := Bool.toNat_le valid
  have hzero : (if valid then speedCode left ||| speedCode right <<< 9 else 0) =
      (if valid then speedCode left else 0) ||| (if valid then speedCode right else 0) <<< 9 := by
    split_ifs <;> rfl
  have hif : (valid = true ∧ (left < -510 ∨ left > 510 ∨ right < -510 ∨ right > 510)) ↔
      ¬(valid = true → (-510 ≤ left ∧ left ≤ 510) ∧ -510 ≤ right ∧ right ≤ 510) := by
    rw [Classical.not_imp]
    refine and_congr_right fun _ => ?_
    omega
  simp only [snapshotPack, motionFault, motionFaultTimeout, motionReportMaxMms, hzero, hif]
  by_cases hrange : state ≤ 5 ∧ fault ≤ 5
  · rw [if_neg (by omega)]
    by_cases hspeed : valid = true → (-510 ≤ left ∧ left ≤ 510) ∧ -510 ≤ right ∧ right ≤ 510
    · have hl := hcode fun h => (hspeed h).1
      have hr := hcode fun h => (hspeed h).2
      rw [if_neg (not_not.2 hspeed), pack_word hl hr (by omega) (by omega), Option.some.injEq]
      refine ⟨?_, fun h => ?_⟩
      · rintro rfl
        exact ⟨hrange, hspeed, word_ofWord (by omega)⟩
      · rw [← h.2.2, ofWord_word]
    · rw [if_pos hspeed]
      simp only [reduceCtorEq, false_iff]
      exact fun h => hspeed h.2.1
  · rw [if_pos (by omega)]
    simp only [reduceCtorEq, false_iff]
    exact fun h => hrange h.1

theorem leftMms_eq (s : Snap) : leftMms s = speedValue (word s % 512) := by
  rw [leftMms]
  exact congrArg speedValue (Nat.and_two_pow_sub_one_eq_mod _ 9)

theorem rightMms_eq (s : Snap) : rightMms s = speedValue (word s / 2 ^ 9 % 512) := by
  rw [rightMms, Nat.shiftRight_eq_div_pow]
  exact congrArg speedValue (Nat.and_two_pow_sub_one_eq_mod _ 9)

theorem codes_of_pack {state fault : ℕ} {busy valid : Bool} {left right : ℤ} {s : Snap}
    (h : snapshotPack state fault busy valid left right = some s) :
    word s % 512 = (if valid then speedCode left else 0) ∧
      word s / 2 ^ 9 % 512 = (if valid then speedCode right else 0) ∧
      (valid → (speedCode left < 512 ∧ speedCode left ≠ 256 ∧
        (speedValue (speedCode left)).toInt = nearestEven left) ∧
        speedCode right < 512 ∧ speedCode right ≠ 256 ∧
        (speedValue (speedCode right)).toInt = nearestEven right) := by
  obtain ⟨-, hspeed, hw⟩ := snapshotPack_eq_some.1 h
  cases valid with
  | false =>
    simp only [Bool.false_eq_true, if_false] at hw ⊢
    exact ⟨by omega, by omega, nofun⟩
  | true =>
    obtain ⟨hl, hr⟩ := hspeed rfl
    have hleft := toInt_speedValue hl.1 hl.2
    have hright := toInt_speedValue hr.1 hr.2
    simp only [if_true] at hw ⊢
    exact ⟨by omega, by omega, fun _ => ⟨hleft, hright⟩⟩

theorem snapshotValid_iff (s : Snap) : snapshotValid s ↔
    ∃ state fault busy valid left right,
      snapshotPack state fault busy valid left right = some s := by
  constructor
  · intro h
    obtain ⟨hlt, hs, hf, hspeed⟩ := (snapshotValid_eq s).1 h
    obtain ⟨hl, hr⟩ := codes_of_valid h
    obtain ⟨hleft, hleft', hleft'', -⟩ := speedCode_speedValue (Nat.mod_lt _ (by decide)) hl
    obtain ⟨hright, hright', hright'', -⟩ := speedCode_speedValue (Nat.mod_lt _ (by decide)) hr
    have hbit (n : ℕ) : (decide (n % 2 = 1)).toNat = n % 2 := by
      rcases Nat.mod_two_eq_zero_or_one n with h | h <;> rw [h] <;> rfl
    refine ⟨word s / 2 ^ 18 % 8, word s / 2 ^ 21 % 8, decide (word s / 2 ^ 24 % 2 = 1),
      decide (word s / 2 ^ 25 % 2 = 1), _, _, snapshotPack_eq_some.2
        ⟨⟨hs, hf⟩, fun _ => ⟨⟨hleft', hleft''⟩, hright', hright''⟩, ?_⟩⟩
    rw [hleft, hright, hbit, hbit]
    by_cases hv : word s / 2 ^ 25 % 2 = 1
    · simp only [hv, decide_true, if_true]
      omega
    · rw [if_pos (by omega)] at hspeed
      simp only [hv, decide_false, Bool.false_eq_true, if_false]
      omega
  · rintro ⟨state, fault, busy, valid, left, right, h⟩
    obtain ⟨hleft, hright, hcodes⟩ := codes_of_pack h
    obtain ⟨hrange, -, hw⟩ := snapshotPack_eq_some.1 h
    have hb := Bool.toNat_le busy
    rw [snapshotValid_eq, hleft, hright]
    cases valid with
    | false =>
      simp only [Bool.false_eq_true, if_false, Bool.toNat_false] at hw ⊢
      clear hleft hright
      rw [if_pos (by omega)]
      exact ⟨by omega, by omega, by omega, trivial, trivial⟩
    | true =>
      obtain ⟨⟨hl, hl', -⟩, hr, hr', -⟩ := hcodes rfl
      simp only [if_true, Bool.toNat_true] at hw ⊢
      rw [if_neg (by omega)]
      omega

/-- **The motion snapshot and the telemetry.**  The accepted snapshots are those the packing makes,
with the speeds rounded to multiples of 2 mm/s, and these speeds come through MOTION telemetry
unchanged. -/
theorem motion_agrees :
    (∀ s, snapshotValid s = true ↔ ∃ state fault busy valid left right,
      snapshotPack state fault busy valid left right = some s) ∧
    (∀ state fault busy left right s, snapshotPack state fault busy true left right = some s →
      (leftMms s).toInt = nearestEven left ∧ (rightMms s).toInt = nearestEven right) ∧
    ∀ s, snapshotValid s = true → ∀ (v out : Snapshot) (capacity : ℕ),
      Topic.payloadSize .motion ≤ capacity →
      ∃ packet d,
        encode .motion { v with leftMms := leftMms s, rightMms := rightMms s } capacity =
          some packet ∧
        decode .motion packet out = (true, d) ∧ d.leftMms = leftMms s ∧
          d.rightMms = rightMms s := by
  refine ⟨snapshotValid_iff, fun state fault busy left right s h => ?_,
    fun s h v out capacity hc => ?_⟩
  · obtain ⟨hleft, hright, hcodes⟩ := codes_of_pack h
    obtain ⟨⟨-, -, hl⟩, -, -, hr⟩ := hcodes rfl
    rw [leftMms_eq, rightMms_eq, hleft, hright]
    exact ⟨hl, hr⟩
  · obtain ⟨hl, hr⟩ := codes_of_valid h
    obtain ⟨-, hl', hl'', hleft⟩ := speedCode_speedValue (Nat.mod_lt _ (by decide)) hl
    obtain ⟨-, hr', hr'', hright⟩ := speedCode_speedValue (Nat.mod_lt _ (by decide)) hr
    rw [← leftMms_eq] at hl' hl'' hleft
    rw [← rightMms_eq] at hr' hr'' hright
    have haccepts : BodyAccepts .motion { v with leftMms := leftMms s, rightMms := rightMms s } :=
      ⟨⟨hl', hl''⟩, hr', hr''⟩
    obtain ⟨packet, hpacket⟩ : ∃ packet,
        encode .motion { v with leftMms := leftMms s, rightMms := rightMms s } capacity =
          some packet := by
      rw [encode, if_neg (by simpa using hc), (writeBody_eq _ _ _ _).2 ⟨haccepts, rfl⟩]
      exact ⟨_, rfl⟩
    obtain ⟨-, -, hp⟩ := (encode_eq_some_iff _ _ _ _).1 hpacket
    have hparse : parse .motion packet = some (carried .motion _) :=
      (parse_eq_some_iff _ _ _).2 ⟨by decide, _, hp, bodyContents_pack haccepts⟩
    refine ⟨packet, _, hpacket, by rw [decode, hparse], ?_, ?_⟩
    · change Int16.ofInt (nearestEven (leftMms s).toInt) = leftMms s
      rw [hleft, Int16.ofInt_toInt]
    · change Int16.ofInt (nearestEven (rightMms s).toInt) = rightMms s
      rw [hright, Int16.ofInt_toInt]

end RoboticCar.Telemetry.MotionSnapshot
