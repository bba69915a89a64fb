import Mathlib.Data.Nat.Bitwise
import Mathlib.Tactic.Ring

/-!
# Fields of a packed word

A word is packed by masking, shifting and `|`, and read back by shifting and masking.  Over the
natural numbers a field is a quotient and a remainder (`get_eq`), and joining a field above the
others is addition (`or_put`), so a round trip is linear arithmetic.

Fields without gaps are `pack`ed from a list of values with widths; `unpack_pack` is the round trip.
-/

namespace RoboticCar.Lib.BitField

/-- The lowest `bits` bits set. -/
def mask (bits : ℕ) : ℕ := 2 ^ bits - 1

/-- `value` masked to `bits` bits, moved up to bit `lsb`. -/
def put (value lsb bits : ℕ) : ℕ := (value &&& mask bits) <<< lsb

/-- The field of `bits` bits at bit `lsb`. -/
def get (word lsb bits : ℕ) : ℕ := (word >>> lsb) &&& mask bits

theorem put_eq (value lsb bits : ℕ) : put value lsb bits = value % 2 ^ bits * 2 ^ lsb := by
  rw [put, mask, Nat.and_two_pow_sub_one_eq_mod, Nat.shiftLeft_eq]

theorem get_eq (word lsb bits : ℕ) : get word lsb bits = word / 2 ^ lsb % 2 ^ bits := by
  rw [get, mask, Nat.and_two_pow_sub_one_eq_mod, Nat.shiftRight_eq_div_pow]

/-- A field put above every bit of the word is added to it. -/
theorem or_put {word lsb : ℕ} (h : word < 2 ^ lsb) (value bits : ℕ) :
    word ||| put value lsb bits = word + value % 2 ^ bits * 2 ^ lsb := by
  rw [put, mask, Nat.and_two_pow_sub_one_eq_mod, Nat.or_comm,
    ← Nat.shiftLeft_add_eq_or_of_lt h, Nat.shiftLeft_eq, Nat.add_comm]

/-! ## Consecutive fields -/

/-- Values with their widths, each above the one before, the first at bit 0. -/
def pack : List (ℕ × ℕ) → ℕ
  | [] => 0
  | (value, bits) :: rest => value % 2 ^ bits + 2 ^ bits * pack rest

/-- The consecutive fields of the given widths. -/
def unpack : List ℕ → ℕ → List ℕ
  | [], _ => []
  | bits :: rest, word => word % 2 ^ bits :: unpack rest (word / 2 ^ bits)

theorem pack_append (fields fields' : List (ℕ × ℕ)) :
    pack (fields ++ fields') = pack fields + 2 ^ (fields.map Prod.snd).sum * pack fields' := by
  induction fields with
  | nil => simp [pack]
  | cons f rest ih =>
    rw [List.cons_append, pack, pack, ih, List.map_cons, List.sum_cons, pow_add]
    ring

/-- Consecutive fields from bit `lsb` on, each put into place and joined with `|`. -/
def join : ℕ → List (ℕ × ℕ) → ℕ
  | _, [] => 0
  | lsb, (value, bits) :: rest => put value lsb bits ||| join (lsb + bits) rest

/-- Joining the fields of a packet packs them. -/
theorem join_eq (lsb : ℕ) (fields : List (ℕ × ℕ)) : join lsb fields = 2 ^ lsb * pack fields := by
  induction fields generalizing lsb with
  | nil => rfl
  | cons f rest ih =>
    obtain ⟨value, bits⟩ := f
    have hlow : put value lsb bits < 2 ^ (lsb + bits) := by
      rw [put_eq, pow_add, mul_comm]
      exact Nat.mul_lt_mul_of_pos_left (Nat.mod_lt _ (Nat.two_pow_pos bits)) (Nat.two_pow_pos lsb)
    rw [join, ih, pack, Nat.or_comm, ← Nat.two_pow_add_eq_or_of_lt hlow, put_eq, pow_add]
    ring

/-- A packed list stays below the bit after its last field. -/
theorem pack_lt (fields : List (ℕ × ℕ)) : pack fields < 2 ^ (fields.map Prod.snd).sum := by
  induction fields with
  | nil => exact Nat.one_pos
  | cons f rest ih =>
    obtain ⟨value, bits⟩ := f
    have hv : value % 2 ^ bits < 2 ^ bits := Nat.mod_lt _ (Nat.two_pow_pos bits)
    rw [List.map_cons, List.sum_cons, pack, pow_add]
    calc value % 2 ^ bits + 2 ^ bits * pack rest
        < 2 ^ bits * (pack rest + 1) := by rw [mul_add]; omega
      _ ≤ 2 ^ bits * 2 ^ (rest.map Prod.snd).sum := Nat.mul_le_mul_left _ ih

/-- The bits of two packets, one above the other. -/
theorem testBit_pack_append (fields fields' : List (ℕ × ℕ)) (i : ℕ) :
    (pack (fields ++ fields')).testBit i =
      if i < (fields.map Prod.snd).sum then (pack fields).testBit i
      else (pack fields').testBit (i - (fields.map Prod.snd).sum) := by
  rw [pack_append, Nat.add_comm, Nat.testBit_two_pow_mul_add _ (pack_lt fields)]

/-- Values that fit their fields are read back, whatever stands above them. -/
theorem unpack_pack_add {fields : List (ℕ × ℕ)} (h : ∀ f ∈ fields, f.1 < 2 ^ f.2) (above : ℕ) :
    unpack (fields.map Prod.snd) (pack fields + 2 ^ (fields.map Prod.snd).sum * above) =
      fields.map Prod.fst := by
  induction fields with
  | nil => rfl
  | cons f rest ih =>
    obtain ⟨value, bits⟩ := f
    have hlt : value < 2 ^ bits := h _ List.mem_cons_self
    have hsplit : pack ((value, bits) :: rest) +
        2 ^ (((value, bits) :: rest).map Prod.snd).sum * above =
        value + 2 ^ bits * (pack rest + 2 ^ (rest.map Prod.snd).sum * above) := by
      rw [pack, Nat.mod_eq_of_lt hlt, List.map_cons, List.sum_cons, pow_add]
      ring
    rw [hsplit, List.map_cons, List.map_cons, unpack, Nat.add_mul_mod_self_left,
      Nat.mod_eq_of_lt hlt, Nat.add_mul_div_left _ _ (Nat.two_pow_pos bits),
      Nat.div_eq_of_lt hlt, Nat.zero_add, ih fun f hf => h f (List.mem_cons_of_mem _ hf)]

/-- Values that fit their fields are read back. -/
theorem unpack_pack {fields : List (ℕ × ℕ)} (h : ∀ f ∈ fields, f.1 < 2 ^ f.2) :
    unpack (fields.map Prod.snd) (pack fields) = fields.map Prod.fst := by
  simpa using unpack_pack_add h 0

/-- Packing masks each value to its width. -/
theorem pack_map_mod (fields : List (ℕ × ℕ)) :
    pack (fields.map fun f => (f.1 % 2 ^ f.2, f.2)) = pack fields := by
  induction fields with
  | nil => rfl
  | cons f rest ih => rw [List.map_cons, pack, pack, ih, Nat.mod_mod]

/-- Values that need not fit are read back masked to their widths. -/
theorem unpack_pack_mod (fields : List (ℕ × ℕ)) :
    unpack (fields.map Prod.snd) (pack fields) = fields.map fun f => f.1 % 2 ^ f.2 := by
  have hfit : ∀ f ∈ fields.map fun f => (f.1 % 2 ^ f.2, f.2), f.1 < 2 ^ f.2 := by
    intro f hf
    obtain ⟨g, -, rfl⟩ := List.mem_map.1 hf
    exact Nat.mod_lt _ (Nat.two_pow_pos g.2)
  have h := unpack_pack hfit
  rw [pack_map_mod, List.map_map, List.map_map] at h
  exact h

/-- One of many fields of the same width. -/
theorem pack_uniform {bits : ℕ} {values : List ℕ} (h : ∀ v ∈ values, v < 2 ^ bits) {i : ℕ}
    (hi : i < values.length) :
    pack (values.map fun v => (v, bits)) / 2 ^ (bits * i) % 2 ^ bits = values[i] := by
  induction values generalizing i with
  | nil => exact absurd hi (Nat.not_lt_zero i)
  | cons v rest ih =>
    obtain ⟨hv, hrest⟩ := List.forall_mem_cons.1 h
    rw [List.map_cons, pack, Nat.mod_eq_of_lt hv]
    cases i with
    | zero =>
      rw [mul_zero, pow_zero, Nat.div_one, Nat.add_mul_mod_self_left, Nat.mod_eq_of_lt hv]
      rfl
    | succ i =>
      have hdiv : (v + 2 ^ bits * pack (rest.map fun v => (v, bits))) / 2 ^ bits =
          pack (rest.map fun v => (v, bits)) := by
        rw [Nat.add_mul_div_left _ _ (Nat.two_pow_pos bits), Nat.div_eq_of_lt hv, Nat.zero_add]
      rw [mul_add, mul_one, add_comm (bits * i), pow_add, ← Nat.div_div_eq_div_mul, hdiv,
        ih hrest (Nat.lt_of_succ_lt_succ hi)]
      rfl

/-- The fields of a number, packed again, are the number up to its last field. -/
theorem pack_unpack (widths : List ℕ) (n : ℕ) :
    pack ((unpack widths n).zip widths) = n % 2 ^ widths.sum := by
  induction widths generalizing n with
  | nil => simp [pack, unpack, Nat.mod_one]
  | cons bits rest ih =>
    rw [unpack, List.zip_cons_cons, pack, ih, Nat.mod_mod, List.sum_cons, pow_add,
      Nat.mod_mul]

end RoboticCar.Lib.BitField
