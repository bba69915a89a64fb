import Mathlib.Data.Nat.Digits.Lemmas
import RoboticCar.Lib.BitField

/-!
# Bit-serial packets

A writer sets the bits of one value after the other in a list of bytes, a reader collects them
again, both one bit at a time.  In terms of the little-endian `number` of the packet, writing a
field adds it above the others (`Writer.put_holds`), and reading one is a quotient and a remainder
(`get_eq`).  A list of fields is `BitField.pack` (`Writer.puts_holds`).
-/

namespace RoboticCar.Lib.Bytes

open BitField

/-- The little-endian number of a list of bytes. -/
def number (bytes : List UInt8) : ℕ := Nat.ofDigits 256 (bytes.map UInt8.toNat)

/-- Bit `n`, counted from the least significant bit of the first byte. -/
def bitAt (bytes : List UInt8) (n : ℕ) : Bool := (bytes.getD (n / 8) 0).toNat.testBit (n % 8)

@[simp] theorem number_nil : number [] = 0 := rfl

@[simp] theorem number_cons (b : UInt8) (bytes : List UInt8) :
    number (b :: bytes) = b.toNat + 256 * number bytes := by
  simp [number, Nat.ofDigits_cons]

theorem number_lt (bytes : List UInt8) : number bytes < 2 ^ (8 * bytes.length) := by
  have h := Nat.ofDigits_lt_base_pow_length (b := 256) (l := bytes.map UInt8.toNat) (by decide)
    (by simp only [List.mem_map]; rintro _ ⟨x, -, rfl⟩; exact x.toNat_lt)
  rwa [List.length_map, show 256 = 2 ^ 8 from rfl, ← pow_mul] at h

/-- Packets of one length are determined by their numbers. -/
theorem number_inj {p q : List UInt8} (hlen : p.length = q.length) (h : number p = number q) :
    p = q := by
  refine List.map_injective_iff.2 (fun _ _ => UInt8.toNat_inj.1) ?_
  refine Nat.ofDigits_inj_of_len_eq (b := 256) (by decide) (by simpa using hlen) ?_ ?_ h
  all_goals
    simp only [List.mem_map]
    rintro _ ⟨x, -, rfl⟩
    exact x.toNat_lt

@[simp] theorem number_replicate (n : ℕ) : number (List.replicate n 0) = 0 := by
  induction n with
  | zero => rfl
  | succ n ih => simp [List.replicate_succ, ih]

theorem testBit_number (bytes : List UInt8) (n : ℕ) :
    (number bytes).testBit n = bitAt bytes n := by
  induction bytes generalizing n with
  | nil => simp [bitAt]
  | cons b bytes ih =>
    rw [number_cons, add_comm, show 256 = 2 ^ 8 from rfl,
      Nat.testBit_two_pow_mul_add _ (show b.toNat < 2 ^ 8 from b.toNat_lt)]
    split_ifs with h
    · simp [bitAt, Nat.div_eq_of_lt h, Nat.mod_eq_of_lt h]
    · obtain ⟨k, rfl⟩ := Nat.exists_eq_add_of_le (not_lt.1 h)
      have hdiv : (8 + k) / 8 = k / 8 + 1 := by omega
      have hmod : (8 + k) % 8 = k % 8 := by omega
      rw [Nat.add_sub_cancel_left, ih, bitAt, bitAt, hdiv, hmod, List.getD_cons_succ]

/-! ## Setting and collecting bits -/

/-- `bytes[n / 8] |= 1 << (n % 8)`. -/
def setBit (bytes : List UInt8) (n : ℕ) : List UInt8 :=
  bytes.modify (n / 8) (· ||| (1 : UInt8) <<< UInt8.ofNat (n % 8))

/-- The `width` low bits of a 32-bit value, or-ed into the packet from bit `bit` on. -/
def put (bytes : List UInt8) (bit value : ℕ) : ℕ → List UInt8
  | 0 => bytes
  | i + 1 =>
    let bytes := put bytes bit value i
    if i < 32 ∧ value.testBit i then setBit bytes (bit + i) else bytes

/-- The `width` bits from bit `bit` on, collected into a value. -/
def get (bytes : List UInt8) (bit : ℕ) : ℕ → ℕ
  | 0 => 0
  | i + 1 =>
    let value := get bytes bit i
    if bitAt bytes (bit + i) then value ||| 1 <<< i else value

@[simp] theorem length_setBit (bytes : List UInt8) (n : ℕ) :
    (setBit bytes n).length = bytes.length := by
  simp [setBit]

@[simp] theorem length_put (bytes : List UInt8) (bit value width : ℕ) :
    (put bytes bit value width).length = bytes.length := by
  induction width with
  | zero => rfl
  | succ i ih => simp only [put]; split_ifs <;> simp [ih]

theorem testBit_or_one_shiftLeft (b : UInt8) {i : ℕ} (hi : i < 8) (j : ℕ) :
    (b ||| (1 : UInt8) <<< UInt8.ofNat i).toNat.testBit j =
      (b.toNat.testBit j || decide (j = i)) := by
  have hone : ((1 : UInt8) <<< UInt8.ofNat i).toNat = 2 ^ i := by
    interval_cases i <;> rfl
  rw [UInt8.toNat_or, Nat.testBit_or, hone, Nat.testBit_two_pow]
  simp only [eq_comm]

variable {bytes : List UInt8}

theorem bitAt_setBit {n : ℕ} (hn : n < 8 * bytes.length) (m : ℕ) :
    bitAt (setBit bytes n) m = (bitAt bytes m || decide (m = n)) := by
  have hidx : n / 8 < bytes.length := by omega
  unfold bitAt setBit
  rw [List.getD_eq_getElem?_getD, List.getD_eq_getElem?_getD, List.getElem?_modify]
  by_cases h : n / 8 = m / 8
  · rw [← h, List.getElem?_eq_getElem hidx]
    simp only [Option.map_eq_map, Option.map_some, if_true, Option.getD_some]
    rw [testBit_or_one_shiftLeft _ (Nat.mod_lt _ (by decide))]
    have : m % 8 = n % 8 ↔ m = n := by omega
    simp only [this]
  · have : m ≠ n := fun hmn => h (by rw [hmn])
    simp [h, this]

theorem bitAt_put {bit width : ℕ} (value : ℕ) (h : bit + width ≤ 8 * bytes.length) (n : ℕ) :
    bitAt (put bytes bit value width) n =
      (bitAt bytes n ||
        decide (∃ i < width, i < 32 ∧ value.testBit i ∧ n = bit + i)) := by
  induction width with
  | zero => simp [put]
  | succ i ih =>
    have ih := ih (by omega)
    simp only [put]
    split_ifs with hi
    · rw [bitAt_setBit (by rw [length_put]; omega), ih, Bool.or_assoc, ← Bool.decide_or]
      congr 2
      simp only [eq_iff_iff]
      constructor
      · rintro (⟨j, hj, h'⟩ | rfl)
        · exact ⟨j, by omega, h'⟩
        · exact ⟨i, by omega, hi.1, hi.2, rfl⟩
      · rintro ⟨j, hj, hlt, hb, rfl⟩
        rcases Nat.lt_succ_iff_lt_or_eq.1 hj with hj | rfl
        · exact .inl ⟨j, hj, hlt, hb, rfl⟩
        · exact .inr rfl
    · rw [ih]
      congr 2
      simp only [eq_iff_iff]
      constructor
      · rintro ⟨j, hj, h'⟩
        exact ⟨j, by omega, h'⟩
      · rintro ⟨j, hj, hlt, hb, rfl⟩
        rcases Nat.lt_succ_iff_lt_or_eq.1 hj with hj | rfl
        · exact ⟨j, hj, hlt, hb, rfl⟩
        · exact absurd ⟨hlt, hb⟩ hi

/-- `bytes[n / 8] &= ~(1 << (n % 8))`. -/
def clearBit (bytes : List UInt8) (n : ℕ) : List UInt8 :=
  bytes.modify (n / 8) (· &&& ~~~((1 : UInt8) <<< UInt8.ofNat (n % 8)))

/-- The `width` bits from bit `bit` on, cleared one after the other. -/
def clearBits (bytes : List UInt8) (bit : ℕ) : ℕ → List UInt8
  | 0 => bytes
  | i + 1 => clearBit (clearBits bytes bit i) (bit + i)

@[simp] theorem length_clearBit (bytes : List UInt8) (n : ℕ) :
    (clearBit bytes n).length = bytes.length := by
  simp [clearBit]

@[simp] theorem length_clearBits (bytes : List UInt8) (bit width : ℕ) :
    (clearBits bytes bit width).length = bytes.length := by
  induction width with
  | zero => rfl
  | succ i ih => rw [clearBits, length_clearBit, ih]

theorem testBit_and_not_one_shiftLeft (b : UInt8) {i : ℕ} (hi : i < 8) (j : ℕ) :
    (b &&& ~~~((1 : UInt8) <<< UInt8.ofNat i)).toNat.testBit j =
      (b.toNat.testBit j && !decide (j = i)) := by
  have hmask : ∀ k : Fin 8, (~~~((1 : UInt8) <<< UInt8.ofNat k.val)).toNat = 255 ^^^ 2 ^ k.val := by
    decide
  rw [UInt8.toNat_and, Nat.testBit_and, hmask ⟨i, hi⟩, Nat.testBit_xor, Nat.testBit_two_pow]
  by_cases hj : j < 8
  · have hall : ∀ k : Fin 8, (255 : ℕ).testBit k.val = true := by decide
    rw [hall ⟨j, hj⟩, Bool.true_xor]
    simp only [eq_comm]
  · have hlow : b.toNat.testBit j = false := by
      refine Nat.testBit_lt_two_pow (b.toNat_lt.trans_le ?_)
      exact Nat.pow_le_pow_right (by decide) (not_lt.1 hj)
    rw [hlow, Bool.false_and, Bool.false_and]

theorem bitAt_clearBit (bytes : List UInt8) (n m : ℕ) :
    bitAt (clearBit bytes n) m = (bitAt bytes m && !decide (m = n)) := by
  unfold bitAt clearBit
  rw [List.getD_eq_getElem?_getD, List.getD_eq_getElem?_getD, List.getElem?_modify]
  by_cases h : n / 8 = m / 8
  · have hiff : m % 8 = n % 8 ↔ m = n := by omega
    cases hat : bytes[m / 8]? with
    | none => simp [h]
    | some b =>
      simp only [if_pos h, Option.map_eq_map, Option.map_some, Option.getD_some,
        testBit_and_not_one_shiftLeft b (Nat.mod_lt n (by decide)), hiff]
  · have hne : m ≠ n := fun hmn => h (by rw [hmn])
    simp [h, hne]

/-- Clearing a range of bits changes no other. -/
theorem bitAt_clearBits (bytes : List UInt8) (bit width m : ℕ) :
    bitAt (clearBits bytes bit width) m =
      (bitAt bytes m && !decide (bit ≤ m ∧ m < bit + width)) := by
  induction width with
  | zero =>
    have hno : ¬(bit ≤ m ∧ m < bit + 0) := by omega
    rw [clearBits, decide_eq_false hno, Bool.not_false, Bool.and_true]
  | succ i ih =>
    have hsplit : bit ≤ m ∧ m < bit + (i + 1) ↔ (bit ≤ m ∧ m < bit + i) ∨ m = bit + i := by omega
    rw [clearBits, bitAt_clearBit, ih, Bool.and_assoc, ← Bool.not_or, ← Bool.decide_or]
    simp only [hsplit]

/-- A put looks at the bits of its field only. -/
theorem put_mod (bytes : List UInt8) (bit value width : ℕ) :
    put bytes bit (value % 2 ^ width) width = put bytes bit value width := by
  suffices h : ∀ i ≤ width, put bytes bit (value % 2 ^ width) i = put bytes bit value i from
    h width le_rfl
  intro i hi
  induction i with
  | zero => rfl
  | succ i ih =>
    have hbit : (value % 2 ^ width).testBit i = value.testBit i := by
      rw [Nat.testBit_mod_two_pow, decide_eq_true (Nat.lt_of_succ_le hi), Bool.true_and]
    simp only [put, ih (Nat.le_of_succ_le hi), hbit]

/-- **Writing anywhere joins the value**, moved into place, to the number. -/
theorem number_put_or {bit value width : ℕ} (hw : width ≤ 32) (h : bit + width ≤ 8 * bytes.length) :
    number (put bytes bit value width) = number bytes ||| BitField.put value bit width := by
  refine Nat.eq_of_testBit_eq fun n => ?_
  rw [testBit_number, bitAt_put value h, Nat.testBit_or, testBit_number, BitField.put,
    Nat.testBit_shiftLeft, BitField.mask, Nat.and_two_pow_sub_one_eq_mod, Nat.testBit_mod_two_pow]
  congr 1
  rw [Bool.eq_iff_iff, decide_eq_true_iff]
  simp only [Bool.and_eq_true, decide_eq_true_eq]
  constructor
  · rintro ⟨i, hi, -, hbit, rfl⟩
    rw [Nat.add_sub_cancel_left]
    exact ⟨Nat.le_add_right _ _, hi, hbit⟩
  · rintro ⟨hle, hlt, hbit⟩
    exact ⟨n - bit, hlt, by omega, hbit, by omega⟩

/-- **Writing above everything written so far adds the value there.** -/
theorem number_put {bit value width : ℕ} (hn : number bytes < 2 ^ bit) (hv : value < 2 ^ width)
    (hw : width ≤ 32) (h : bit + width ≤ 8 * bytes.length) :
    number (put bytes bit value width) = number bytes + 2 ^ bit * value := by
  rw [number_put_or hw h, or_put hn, Nat.mod_eq_of_lt hv, mul_comm]

theorem testBit_get (bytes : List UInt8) (bit width n : ℕ) :
    (get bytes bit width).testBit n = (decide (n < width) && bitAt bytes (bit + n)) := by
  induction width with
  | zero => simp [get]
  | succ i ih =>
    have hone : (1 <<< i).testBit n = decide (n = i) := by
      rw [Nat.one_shiftLeft, Nat.testBit_two_pow]
      simp only [eq_comm]
    have hsucc : decide (n < i + 1) = (decide (n < i) || decide (n = i)) := by
      rw [← Bool.decide_or]
      congr 1
      exact propext Nat.lt_succ_iff_lt_or_eq
    simp only [get]
    split_ifs with h
    · rw [Nat.testBit_or, ih, hone, hsucc]
      by_cases hn : n = i
      · simp [hn, h]
      · simp [hn]
    · rw [ih, hsucc]
      by_cases hn : n = i
      · simp [hn, h]
      · simp [hn]

/-- Reading a field is a quotient and a remainder. -/
theorem get_eq (bytes : List UInt8) (bit width : ℕ) :
    get bytes bit width = number bytes / 2 ^ bit % 2 ^ width := by
  refine Nat.eq_of_testBit_eq fun n => ?_
  rw [testBit_get, Nat.testBit_mod_two_pow, ← Nat.shiftRight_eq_div_pow, Nat.testBit_shiftRight,
    testBit_number]

theorem number_append (p q : List UInt8) :
    number (p ++ q) = number p + 2 ^ (8 * p.length) * number q := by
  rw [number, List.map_append, Nat.ofDigits_append, List.length_map, pow_mul]
  rfl

/-- The bits of the last byte from bit `r` on are clear when the number ends there. -/
theorem number_lt_iff_last (p : List UInt8) (last : UInt8) (r : ℕ) :
    number (p ++ [last]) < 2 ^ (8 * p.length + r) ↔ last.toNat >>> r = 0 := by
  rw [number_append, number_cons, number_nil, mul_zero, add_zero, Nat.shiftRight_eq_div_pow,
    Nat.div_eq_zero_iff_lt (Nat.two_pow_pos r), pow_add]
  have hp := number_lt p
  constructor
  · intro h
    refine lt_of_mul_lt_mul_left (a := 2 ^ (8 * p.length)) ?_ (Nat.zero_le _)
    omega
  · intro h
    calc number p + 2 ^ (8 * p.length) * last.toNat
        < 2 ^ (8 * p.length) * (last.toNat + 1) := by rw [mul_add]; omega
      _ ≤ 2 ^ (8 * p.length) * 2 ^ r := Nat.mul_le_mul_left _ h

/-- The bits of a byte from bit `r` on, by a mask. -/
theorem high_bits_eq_zero (r : Fin 8) (b : UInt8) :
    b &&& ~~~((1 : UInt8) <<< UInt8.ofNat r - 1) = 0 ↔ b.toNat >>> r.val = 0 := by
  have h : ∀ (r : Fin 8) (x : BitVec 8),
      (UInt8.ofBitVec x &&& ~~~((1 : UInt8) <<< UInt8.ofNat r - 1) = 0 ↔
        x.toNat >>> r.val = 0) := by
    decide +kernel
  exact h r b.toBitVec

/-- A packet being written, and the next bit of it to write. -/
structure Writer where
  bytes : List UInt8
  bit : ℕ

namespace Writer

/-- The next `width` bits of the packet are those of `value`. -/
def put (w : Writer) (value width : ℕ) : Writer :=
  ⟨Bytes.put w.bytes w.bit value width, w.bit + width⟩

/-- Several fields, values with their widths, one after the other. -/
def puts (w : Writer) (fields : List (ℕ × ℕ)) : Writer :=
  fields.foldl (fun w f => w.put f.1 f.2) w

theorem puts_append (w : Writer) (fields fields' : List (ℕ × ℕ)) :
    w.puts (fields ++ fields') = (w.puts fields).puts fields' := List.foldl_append

/-- The writer is at bit `bit` of a packet of `size` bytes and has written the number `n`. -/
structure Holds (w : Writer) (size bit n : ℕ) : Prop where
  length : w.bytes.length = size
  bit_eq : w.bit = bit
  number_eq : number w.bytes = n
  lt : n < 2 ^ bit

theorem holds_zero (size : ℕ) : Holds ⟨List.replicate size 0, 0⟩ size 0 0 :=
  ⟨List.length_replicate, rfl, number_replicate size, Nat.one_pos⟩

theorem put_holds {w : Writer} {size bit n value width : ℕ} (h : w.Holds size bit n)
    (hv : value < 2 ^ width) (hw : width ≤ 32) (hfit : bit + width ≤ 8 * size) :
    (w.put value width).Holds size (bit + width) (n + 2 ^ bit * value) := by
  obtain ⟨rfl, rfl, rfl, hlt⟩ := h
  refine ⟨length_put _ _ _ _, rfl, number_put hlt hv hw hfit, ?_⟩
  calc number w.bytes + 2 ^ w.bit * value
      < 2 ^ w.bit * (value + 1) := by rw [mul_add]; omega
    _ ≤ 2 ^ (w.bit + width) := by rw [pow_add]; exact Nat.mul_le_mul_left _ hv

/-- **A list of fields is written as its packed number**, above what was there. -/
theorem puts_holds {fields : List (ℕ × ℕ)} {w : Writer} {size bit n : ℕ}
    (h : w.Holds size bit n) (hf : ∀ f ∈ fields, f.1 < 2 ^ f.2 ∧ f.2 ≤ 32)
    (hfit : bit + (fields.map Prod.snd).sum ≤ 8 * size) :
    (w.puts fields).Holds size (bit + (fields.map Prod.snd).sum) (n + 2 ^ bit * pack fields) := by
  induction fields generalizing w bit n with
  | nil => simpa [puts, pack] using h
  | cons f rest ih =>
    obtain ⟨value, width⟩ := f
    obtain ⟨⟨hv, hw⟩, hrest⟩ := List.forall_mem_cons.1 hf
    rw [List.map_cons, List.sum_cons] at hfit ⊢
    have hput := put_holds h hv hw (by omega)
    have hall := ih hput hrest (by omega)
    have hpack : n + 2 ^ bit * pack ((value, width) :: rest) =
        n + 2 ^ bit * value + 2 ^ (bit + width) * pack rest := by
      rw [pack, Nat.mod_eq_of_lt hv, pow_add]
      ring
    rw [hpack, ← add_assoc]
    exact hall

theorem puts_mod (w : Writer) (fields : List (ℕ × ℕ)) :
    w.puts (fields.map fun f => (f.1 % 2 ^ f.2, f.2)) = w.puts fields := by
  rw [puts, puts, List.foldl_map]
  simp only [put, put_mod]

/-- A list of fields is written as its packed number, each value masked to its width. -/
theorem number_puts (size : ℕ) {fields : List (ℕ × ℕ)} (hw : ∀ f ∈ fields, f.2 ≤ 32)
    (hfit : (fields.map Prod.snd).sum ≤ 8 * size) :
    (puts ⟨List.replicate size 0, 0⟩ fields).bytes.length = size ∧
      number (puts ⟨List.replicate size 0, 0⟩ fields).bytes = pack fields := by
  have hmasked : ∀ f ∈ fields.map fun f => (f.1 % 2 ^ f.2, f.2), f.1 < 2 ^ f.2 ∧ f.2 ≤ 32 := by
    intro f hf
    obtain ⟨g, hg, rfl⟩ := List.mem_map.1 hf
    exact ⟨Nat.mod_lt _ (Nat.two_pow_pos g.2), hw g hg⟩
  have hholds := puts_holds (holds_zero size) hmasked (by simpa [Function.comp_def] using hfit)
  rw [puts_mod, pack_map_mod] at hholds
  exact ⟨hholds.length, by simpa using hholds.number_eq⟩

end Writer

/-- A packet being read, and the next bit of it to read. -/
structure Reader where
  bytes : List UInt8
  bit : ℕ

namespace Reader

/-- The number the unread bits make. -/
def rest (r : Reader) : ℕ := number r.bytes / 2 ^ r.bit

/-- The reader `width` bits further on. -/
def skip (r : Reader) (width : ℕ) : Reader := { r with bit := r.bit + width }

/-- The next `width` bits, and the reader after them. -/
def get (r : Reader) (width : ℕ) : ℕ × Reader := (Bytes.get r.bytes r.bit width, r.skip width)

theorem get_eq (r : Reader) (width : ℕ) : r.get width = (r.rest % 2 ^ width, r.skip width) := by
  rw [get, Bytes.get_eq, rest]

@[simp] theorem rest_skip (r : Reader) (width : ℕ) : (r.skip width).rest = r.rest / 2 ^ width := by
  rw [rest, skip, rest, pow_add, Nat.div_div_eq_div_mul]

@[simp] theorem skip_skip (r : Reader) (m n : ℕ) : (r.skip m).skip n = r.skip (m + n) := by
  simp [skip, add_assoc]

@[simp] theorem skip_zero (r : Reader) : r.skip 0 = r := rfl

@[simp] theorem rest_start (bytes : List UInt8) : rest ⟨bytes, 0⟩ = number bytes := by
  simp [rest]

end Reader

end RoboticCar.Lib.Bytes
