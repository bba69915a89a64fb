import RoboticCar.Lib.Bytes

/-!
# Reading records from a packet

`Takes r fields r'`: the bits between two readers are the given fields; `Reads`: a decoder reads
exactly the fields of the value it returns.  `Takes` is split and joined along the list of fields,
so a round trip is a statement about that list (`takes_iff_pack`).
-/

namespace RoboticCar.Lib.Decode

open Bytes BitField

/-- A computation that reads a packet and may refuse it. -/
abbrev Decoder (α : Type) := StateT Reader Option α

variable {α β : Type}

/-- The next `width` bits. -/
def bits (width : ℕ) : Decoder ℕ := fun r => some (r.get width)

def flag : Decoder Bool := do
  return (← bits 1) ≠ 0

/-- The next `width` bits as a byte. -/
def u8 (width : ℕ) : Decoder UInt8 := do
  return UInt8.ofNat (← bits width)

/-- The next `width` bits as a half-word. -/
def u16 (width : ℕ) : Decoder UInt16 := do
  return UInt16.ofNat (← bits width)

/-- The next `width` bits as a word. -/
def u32 (width : ℕ) : Decoder UInt32 := do
  return UInt32.ofNat (← bits width)

/-- Two words, the low one first. -/
def u64 : Decoder UInt64 := do
  let low ← bits 32
  let high ← bits 32
  return UInt64.ofNat (low + 2 ^ 32 * high)

/-- Goes on only if the condition holds. -/
def require (p : Prop) [Decidable p] : Decoder Unit := fun r => if p then some ((), r) else none

/-- The bits between two readers are these fields. -/
def Takes : Reader → List (ℕ × ℕ) → Reader → Prop
  | r, [], r' => r' = r
  | r, (value, width) :: fields, r' => r.rest % 2 ^ width = value ∧ Takes (r.skip width) fields r'

variable {r r' : Reader}

@[simp] theorem takes_nil : Takes r [] r' ↔ r' = r := Iff.rfl

variable {value width : ℕ} {fields : List (ℕ × ℕ)}

theorem takes_cons :
    Takes r ((value, width) :: fields) r' ↔
      r.rest % 2 ^ width = value ∧ Takes (r.skip width) fields r' := Iff.rfl

theorem takes_append {fields' : List (ℕ × ℕ)} :
    Takes r (fields ++ fields') r' ↔ ∃ r₁, Takes r fields r₁ ∧ Takes r₁ fields' r' := by
  induction fields generalizing r with
  | nil => simp
  | cons f fields ih =>
    obtain ⟨value, width⟩ := f
    simp only [List.cons_append, takes_cons, ih]
    constructor
    · rintro ⟨hvalue, r₁, h, h'⟩
      exact ⟨r₁, ⟨hvalue, h⟩, h'⟩
    · rintro ⟨r₁, ⟨hvalue, h⟩, h'⟩
      exact ⟨hvalue, r₁, h, h'⟩

/-- Every value fits its width. -/
def Fits (fields : List (ℕ × ℕ)) : Prop := ∀ f ∈ fields, f.1 < 2 ^ f.2

@[simp] theorem fits_nil : Fits [] := nofun

@[simp] theorem fits_cons :
    Fits ((value, width) :: fields) ↔ value < 2 ^ width ∧ Fits fields := List.forall_mem_cons

@[simp] theorem fits_append {fields' : List (ℕ × ℕ)} :
    Fits (fields ++ fields') ↔ Fits fields ∧ Fits fields' := List.forall_mem_append

/-- **The fields between two readers, packed, are the number between them.** -/
theorem takes_iff_pack :
    Takes r fields r' ↔ Fits fields ∧
      r.rest % 2 ^ (fields.map Prod.snd).sum = pack fields ∧
      r' = r.skip (fields.map Prod.snd).sum := by
  induction fields generalizing r with
  | nil => simp [pack, Nat.mod_one]
  | cons f fields ih =>
    obtain ⟨value, width⟩ := f
    rw [takes_cons, ih, fits_cons, List.map_cons, List.sum_cons, Reader.rest_skip,
      Reader.skip_skip, pack, pow_add, Nat.mod_mul]
    have hpos := Nat.two_pow_pos width
    have hlow : r.rest % 2 ^ width < 2 ^ width := Nat.mod_lt _ hpos
    constructor
    · rintro ⟨rfl, hfit, hnumber, rfl⟩
      exact ⟨⟨hlow, hfit⟩, by rw [Nat.mod_mod, hnumber], rfl⟩
    · rintro ⟨⟨hvalue, hfit⟩, hnumber, rfl⟩
      rw [Nat.mod_eq_of_lt hvalue] at hnumber
      have hmod := congrArg (· % 2 ^ width) hnumber
      have hdiv := congrArg (· / 2 ^ width) hnumber
      simp only [Nat.add_mul_mod_self_left, Nat.mod_mod, Nat.mod_eq_of_lt hvalue,
        Nat.add_mul_div_left _ _ hpos, Nat.div_eq_of_lt hlow, Nat.div_eq_of_lt hvalue,
        Nat.zero_add] at hmod hdiv
      exact ⟨hmod, hfit, hdiv, rfl⟩

/-- The decoder reads the fields of what it returns, and returns what satisfies the predicate. -/
def Reads (p : Decoder α) (ok : α → Prop) (fields : α → List (ℕ × ℕ)) : Prop :=
  ∀ r a r', p r = some (a, r') ↔ ok a ∧ Takes r (fields a) r'

theorem bind_eq_some {p : Decoder α} {q : α → Decoder β} {b : β} :
    (p >>= q) r = some (b, r') ↔ ∃ a r₁, p r = some (a, r₁) ∧ q a r₁ = some (b, r') := by
  change (p r >>= fun x => q x.1 x.2) = some (b, r') ↔ _
  rw [Option.bind_eq_bind, Option.bind_eq_some_iff]
  exact Prod.exists

theorem pure_eq_some {a b : α} : (pure a : Decoder α) r = some (b, r') ↔ b = a ∧ r' = r := by
  change some (a, r) = some (b, r') ↔ _
  rw [Option.some.injEq, Prod.mk.injEq, eq_comm, eq_comm (a := r)]

theorem require_eq_some {p : Prop} [Decidable p] {u : Unit} :
    require p r = some (u, r') ↔ p ∧ r' = r := by
  rw [require, Option.ite_none_right_eq_some, Option.some.injEq, Prod.mk.injEq, eq_comm (a := r)]
  exact and_congr_right fun _ => and_iff_right rfl

theorem bits_eq_some : bits width r = some (value, r') ↔ Takes r [(value, width)] r' := by
  rw [bits, Reader.get_eq, Option.some.injEq, Prod.mk.injEq, takes_cons, takes_nil,
    eq_comm (b := r')]

theorem flag_eq_some {b : Bool} : flag r = some (b, r') ↔ Takes r [(b.toNat, 1)] r' := by
  have hbit : r.rest % 2 ^ 1 < 2 := Nat.mod_lt _ (by decide)
  simp only [flag, bind_eq_some, pure_eq_some, bits_eq_some, takes_cons, takes_nil]
  constructor
  · rintro ⟨v, r₁, ⟨rfl, rfl⟩, rfl, rfl⟩
    interval_cases r.rest % 2 ^ 1 <;> exact ⟨rfl, rfl⟩
  · rintro ⟨h, rfl⟩
    refine ⟨b.toNat, _, ⟨h, rfl⟩, ?_, rfl⟩
    cases b <;> rfl

/-- Bits that are kept as a number of another type, which has room for them. -/
theorem bits_map_eq_some {ofNat : ℕ → α} {toNat : α → ℕ} {size : ℕ} (hw : width ≤ size)
    (hto : ∀ n < 2 ^ size, toNat (ofNat n) = n) (hof : ∀ a, ofNat (toNat a) = a) {a : α} :
    (do return ofNat (← bits width) : Decoder α) r = some (a, r') ↔
      Takes r [(toNat a, width)] r' := by
  have hlt : r.rest % 2 ^ width < 2 ^ size :=
    (Nat.mod_lt _ (Nat.two_pow_pos _)).trans_le (Nat.pow_le_pow_right (by decide) hw)
  simp only [bind_eq_some, pure_eq_some, bits_eq_some, takes_cons, takes_nil]
  constructor
  · rintro ⟨v, r₁, ⟨rfl, rfl⟩, rfl, rfl⟩
    exact ⟨(hto _ hlt).symm, rfl⟩
  · rintro ⟨h, rfl⟩
    exact ⟨toNat a, _, ⟨h, rfl⟩, (hof a).symm, rfl⟩

theorem u8_eq_some (hw : width ≤ 8) {u : UInt8} :
    u8 width r = some (u, r') ↔ Takes r [(u.toNat, width)] r' :=
  bits_map_eq_some hw (fun _ => UInt8.toNat_ofNat_of_lt') fun _ => UInt8.ofNat_toNat

theorem u16_eq_some (hw : width ≤ 16) {u : UInt16} :
    u16 width r = some (u, r') ↔ Takes r [(u.toNat, width)] r' :=
  bits_map_eq_some hw (fun _ => UInt16.toNat_ofNat_of_lt') fun _ => UInt16.ofNat_toNat

theorem u32_eq_some (hw : width ≤ 32) {u : UInt32} :
    u32 width r = some (u, r') ↔ Takes r [(u.toNat, width)] r' :=
  bits_map_eq_some hw (fun _ => UInt32.toNat_ofNat_of_lt') fun _ => UInt32.ofNat_toNat

/-- The two words of a double word. -/
def halves (u : UInt64) : List (ℕ × ℕ) := [(u.toNat % 2 ^ 32, 32), (u.toNat / 2 ^ 32, 32)]

theorem fits_halves (u : UInt64) : Fits (halves u) := by
  have hu := u.toNat_lt
  simp only [halves, fits_cons, fits_nil, and_true]
  exact ⟨by omega, by omega⟩

theorem u64_eq_some {u : UInt64} : u64 r = some (u, r') ↔ Takes r (halves u) r' := by
  simp only [u64, halves, bind_eq_some, pure_eq_some, bits_eq_some, takes_cons, takes_nil]
  constructor
  · rintro ⟨low, r₁, ⟨rfl, rfl⟩, high, r₂, ⟨rfl, rfl⟩, rfl, rfl⟩
    have hlow : r.rest % 2 ^ 32 < 2 ^ 32 := Nat.mod_lt _ (by decide)
    have hhigh : (r.skip 32).rest % 2 ^ 32 < 2 ^ 32 := Nat.mod_lt _ (by decide)
    have hnat : (UInt64.ofNat (r.rest % 2 ^ 32 + 2 ^ 32 * ((r.skip 32).rest % 2 ^ 32))).toNat =
        r.rest % 2 ^ 32 + 2 ^ 32 * ((r.skip 32).rest % 2 ^ 32) := by
      rw [UInt64.toNat_ofNat', Nat.mod_eq_of_lt (by omega)]
    rw [hnat]
    exact ⟨by omega, by omega, rfl⟩
  · rintro ⟨hlow, hhigh, rfl⟩
    refine ⟨_, _, ⟨hlow, rfl⟩, _, _, ⟨hhigh, rfl⟩, ?_, rfl⟩
    rw [Nat.mod_add_div, UInt64.ofNat_toNat]

/-- A packet of `size` bytes. -/
structure Packet (size : ℕ) where
  bytes : List UInt8
  length_eq : bytes.length = size

theorem length_puts (w : Writer) (fields : List (ℕ × ℕ)) :
    (w.puts fields).bytes.length = w.bytes.length := by
  induction fields generalizing w with
  | nil => rfl
  | cons f fields ih => exact (ih (w.put f.1 f.2)).trans (length_put _ _ _ _)

namespace Packet

variable {size : ℕ}

/-- A cleared packet with the fields written into it. -/
def ofFields (size : ℕ) (fields : List (ℕ × ℕ)) : Packet size where
  bytes := (Writer.puts ⟨List.replicate size 0, 0⟩ fields).bytes
  length_eq := (length_puts _ _).trans List.length_replicate

def reader (p : Packet size) : Reader := ⟨p.bytes, 0⟩

/-- What a decoder makes of the packet. -/
def decode (p : Packet size) (d : Decoder α) : Option α := (d p.reader).map Prod.fst

theorem eq_iff_number {p q : Packet size} : p = q ↔ number p.bytes = number q.bytes := by
  refine ⟨fun h => by rw [h], fun h => ?_⟩
  have hbytes := number_inj (p.length_eq.trans q.length_eq.symm) h
  obtain ⟨p, hp⟩ := p
  obtain ⟨q, hq⟩ := q
  subst hbytes
  rfl

/-- The bits of the last byte from bit `k` on are clear when the number ends there. -/
theorem last_eq_zero (p : Packet (size + 1)) (k : Fin 8) :
    p.bytes.getD size 0 &&& ~~~((1 : UInt8) <<< UInt8.ofNat k - 1) = 0 ↔
      number p.bytes < 2 ^ (8 * size + k.val) := by
  obtain ⟨bytes, hlen⟩ := p
  obtain ⟨q, last, rfl⟩ : ∃ q last, bytes = q ++ [last] :=
    ⟨_, _, (List.dropLast_append_getLast fun h0 => by simp [h0] at hlen).symm⟩
  have hq : q.length = size := by simpa using hlen
  have hlast : (q ++ [last]).getD size 0 = last := by
    rw [List.getD_append_right _ _ _ _ hq.le, hq, Nat.sub_self]
    rfl
  rw [hlast, high_bits_eq_zero, ← number_lt_iff_last q last k.val, hq]

theorem number_ofFields {fields : List (ℕ × ℕ)} (hw : ∀ width ∈ fields.map Prod.snd, width ≤ 32)
    (hsum : (fields.map Prod.snd).sum ≤ 8 * size) :
    number (ofFields size fields).bytes = pack fields :=
  (Writer.number_puts size (fun _ hf => hw _ (List.mem_map_of_mem hf)) hsum).2

/-- **What a decoder accepts is what the fields of its value are written as**, when the packet has
nothing after them. -/
theorem decode_eq_some {d : Decoder α} {ok : α → Prop} {fields : α → List (ℕ × ℕ)}
    (hd : Reads d ok fields) {p : Packet size} {a : α}
    (hw : ∀ width ∈ (fields a).map Prod.snd, width ≤ 32)
    (hsum : ((fields a).map Prod.snd).sum ≤ 8 * size)
    (hp : number p.bytes < 2 ^ ((fields a).map Prod.snd).sum) :
    p.decode d = some a ↔
      ok a ∧ Fits (fields a) ∧ p = ofFields size (fields a) := by
  have hnumber : number (ofFields size (fields a)).bytes = pack (fields a) :=
    number_ofFields hw hsum
  rw [decode, Option.map_eq_some_iff, eq_iff_number, hnumber]
  constructor
  · rintro ⟨⟨a, r'⟩, h, rfl⟩
    obtain ⟨hok, htakes⟩ := (hd _ _ _).1 h
    obtain ⟨hfit, hrest, -⟩ := takes_iff_pack.1 htakes
    rw [reader, Reader.rest_start, Nat.mod_eq_of_lt hp] at hrest
    exact ⟨hok, hfit, hrest⟩
  · rintro ⟨hok, hfit, hrest⟩
    refine ⟨⟨a, _⟩, (hd _ _ _).2 ⟨hok, takes_iff_pack.2 ⟨hfit, ?_, rfl⟩⟩, rfl⟩
    rw [reader, Reader.rest_start, Nat.mod_eq_of_lt hp, hrest]

/-- The rest of the packet is clear. -/
theorem number_ofFields_lt {fields : List (ℕ × ℕ)} (hw : ∀ width ∈ fields.map Prod.snd, width ≤ 32)
    (hsum : (fields.map Prod.snd).sum ≤ 8 * size) :
    number (ofFields size fields).bytes < 2 ^ (fields.map Prod.snd).sum :=
  number_ofFields hw hsum ▸ pack_lt fields

end Packet

/-- A pair of functions that write a value as a packet and read it back, and may refuse. -/
structure Codec (α β : Type) where
  pack : α → Option β
  unpack : β → Option α

namespace Codec

variable {γ : Type}

/-- The result and the output parameter of a function that assigns it only when it succeeds. -/
def assign (result : Option γ) (out : γ) : Bool × γ :=
  match result with
  | some v => (true, v)
  | none => (false, out)

theorem assign_eq_true {result : Option γ} {out v : γ} :
    assign result out = (true, v) ↔ result = some v := by
  cases result <;> simp [assign]

theorem snd_assign_of_false {result : Option γ} {out : γ} (h : (assign result out).1 = false) :
    (assign result out).2 = out := by
  cases result with
  | none => rfl
  | some => cases h

/-- Packing into an output parameter. -/
def packTo (c : Codec α β) (v : α) (out : β) : Bool × β := assign (c.pack v) out

/-- Unpacking into an output parameter. -/
def unpackTo (c : Codec α β) (p : β) (out : α) : Bool × α := assign (c.unpack p) out

/-- The codec loses nothing but what `sent` takes away, has one packet a value, and refuses cleanly.
-/
structure LosesNothing (c : Codec α β) (sent : α → α) : Prop where
  unpack_pack : ∀ v p out out', c.packTo v out = (true, p) → c.unpackTo p out' = (true, sent v)
  pack_unpack : ∀ p v out out', c.unpackTo p out = (true, v) → c.packTo v out' = (true, p)
  pack_false : ∀ v out, (c.packTo v out).1 = false → (c.packTo v out).2 = out
  unpack_false : ∀ p out, (c.unpackTo p out).1 = false → (c.unpackTo p out).2 = out

theorem LosesNothing.intro {c : Codec α β} {sent : α → α}
    (hunpack : ∀ v p, c.pack v = some p → c.unpack p = some (sent v))
    (hpack : ∀ p v, c.unpack p = some v → c.pack v = some p) : c.LosesNothing sent where
  unpack_pack v p _ _ h := assign_eq_true.2 (hunpack v p (assign_eq_true.1 h))
  pack_unpack p v _ _ h := assign_eq_true.2 (hpack p v (assign_eq_true.1 h))
  pack_false _ _ h := snd_assign_of_false h
  unpack_false _ _ h := snd_assign_of_false h

end Codec

end RoboticCar.Lib.Decode
