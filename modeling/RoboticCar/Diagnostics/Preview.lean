import RoboticCar.Diagnostics.Control

/-!
# The preview of the infrared sensors

`ir_debug.c` packs the three infrared readings into 16 bytes, those that are not valid as zero, so
that unpacking gives the sample without them (`unpack_of_pack`); `ir_protocol.py` decodes them.
`diagnostics_agree` says for this packet and the controller's that both sides agree.
-/

namespace RoboticCar.Diagnostics.Preview

open Lib Lib.Bytes Lib.BitField

/-- `ir_debug_sample_t`. -/
@[ext]
structure Sample where
  timestampUs : UInt32
  raw : Fin 3 → UInt16
  darkness : Fin 3 → UInt16
  rawValid : UInt8
  normalisedValid : UInt8
  surface : Fin 3 → UInt8
  sequence : UInt8
  deriving DecidableEq

/-- `IR_DEBUG_PACKET_SIZE`. -/
def packetSize : ℕ := 16

/-- `(raw_valid >> i) & 1`. -/
def Sample.hasRaw (s : Sample) (i : Fin 3) : Bool := s.rawValid.toNat.testBit i

/-- `(normalised_valid >> i) & 1`. -/
def Sample.hasNormalised (s : Sample) (i : Fin 3) : Bool := s.normalisedValid.toNat.testBit i

/-- The tests of `ir_debug_pack`. -/
def inRange (s : Sample) : Bool :=
  !(7 < s.rawValid || 7 < s.normalisedValid || s.normalisedValid &&& ~~~s.rawValid ≠ 0) &&
    (List.finRange 3).all fun i =>
      !(s.hasRaw i && 4095 < s.raw i) &&
        !(s.hasNormalised i && (1000 < s.darkness i || 2 < s.surface i))

/-- The body of the loop of `ir_debug_pack`. -/
def putChannel (s : Sample) (bytes : List UInt8) (i : Fin 3) : List UInt8 :=
  let bytes := if s.hasRaw i then put bytes (32 + 12 * i) (s.raw i).toNat 12 else bytes
  if s.hasNormalised i then
    put (put bytes (68 + 10 * i) (s.darkness i).toNat 10) (104 + 2 * i) (s.surface i).toNat 2
  else bytes

def body (s : Sample) : List UInt8 :=
  let bytes := put (List.replicate (packetSize - 1) 0) 0 s.timestampUs.toNat 32
  let bytes := (List.finRange 3).foldl (putChannel s) bytes
  let bytes := put bytes 98 s.rawValid.toNat 3
  let bytes := put bytes 101 s.normalisedValid.toNat 3
  put bytes 110 s.sequence.toNat 8

/-- `ir_debug_pack`. -/
def pack (s : Sample) : Option (List UInt8) :=
  if inRange s then some (1 :: body s) else none

/-- The assignments of `ir_debug_unpack`. -/
def read (bytes : List UInt8) : Sample where
  timestampUs := UInt32.ofNat (get bytes 0 32)
  rawValid := UInt8.ofNat (get bytes 98 3)
  normalisedValid := UInt8.ofNat (get bytes 101 3)
  sequence := UInt8.ofNat (get bytes 110 8)
  raw i := UInt16.ofNat (get bytes (32 + 12 * i) 12)
  darkness i := UInt16.ofNat (get bytes (68 + 10 * i) 10)
  surface i := UInt8.ofNat (get bytes (104 + 2 * i) 2)

/-- `ir_debug_unpack`. -/
def unpack (packet : List UInt8) : Option Sample :=
  if packet.headD 0 ≠ 1 ∨ packet.getD 15 0 &&& 0xC0 ≠ 0 then none
  else
    let s := read packet.tail
    if pack s = some packet then some s else none

namespace Laptop

def channels : List String := ["left", "right", "barcode"]
def surfaces : List String := ["unknown", "white", "black"]

/-- One sensor of the result; `none` is Python's `None`. -/
structure Sensor where
  raw : Option ℕ
  darkness : Option ℕ
  rawValid : Bool
  valid : Bool
  surface : String

/-- What `decode_ir` returns. -/
structure Reading where
  timestampUs : ℕ
  sequence : ℕ
  sensors : List (String × Sensor)

def sensor (bits rawMask normMask i : ℕ) : Except String Sensor :=
  let raw := bits >>> (32 + 12 * i) &&& 4095
  let darkness := bits >>> (68 + 10 * i) &&& 1023
  let surface := bits >>> (104 + 2 * i) &&& 3
  let rawValid : Bool := rawMask &&& 1 <<< i ≠ 0
  let valid : Bool := normMask &&& 1 <<< i ≠ 0
  if 2 < surface ∨ 1000 < darkness ∨ (!rawValid ∧ raw ≠ 0) ∨
      (!valid ∧ (darkness ≠ 0 ∨ surface ≠ 0)) then
    .error "Invalid or noncanonical IR preview field"
  else
    .ok ⟨if rawValid then some raw else none, if valid then some darkness else none, rawValid,
      valid, if valid then surfaces.getD surface "" else "unavailable"⟩

def decodeIr (payload : List UInt8) : Except String Reading :=
  if payload.length ≠ 16 ∨ payload.headD 0 ≠ 1 then
    .error "IR preview requires a 16-byte version-1 packet"
  else
    let bits := number payload.tail
    if bits >>> 118 ≠ 0 then .error "Nonzero IR preview padding"
    else
      let rawMask := bits >>> 98 &&& 7
      let normMask := bits >>> 101 &&& 7
      -- `norm_mask & ~raw_mask`
      if normMask.ldiff rawMask ≠ 0 then
        .error "Normalized IR validity requires raw validity"
      else do
        let sensors ← channels.zipIdx.mapM fun (name, i) => do
          return (name, ← sensor bits rawMask normMask i)
        return ⟨bits &&& 0xFFFFFFFF, bits >>> 110 &&& 255, sensors⟩

end Laptop

/-! ## The packet as a number -/

def Sample.fields (s : Sample) : List (ℕ × ℕ) :=
  [(s.timestampUs.toNat, 32)] ++ (List.finRange 3).map (fun i => ((s.raw i).toNat, 12)) ++
    (List.finRange 3).map (fun i => ((s.darkness i).toNat, 10)) ++
    [(s.rawValid.toNat, 3), (s.normalisedValid.toNat, 3)] ++
    (List.finRange 3).map (fun i => ((s.surface i).toNat, 2)) ++ [(s.sequence.toNat, 8)]

def Sample.canonical (s : Sample) : Sample :=
  { s with
    raw := fun i => if s.hasRaw i then s.raw i else 0
    darkness := fun i => if s.hasNormalised i then s.darkness i else 0
    surface := fun i => if s.hasNormalised i then s.surface i else 0 }

theorem canonical_raw (s : Sample) (i : Fin 3) :
    s.canonical.raw i = if s.hasRaw i then s.raw i else 0 := rfl

theorem canonical_darkness (s : Sample) (i : Fin 3) :
    s.canonical.darkness i = if s.hasNormalised i then s.darkness i else 0 := rfl

theorem canonical_surface (s : Sample) (i : Fin 3) :
    s.canonical.surface i = if s.hasNormalised i then s.surface i else 0 := rfl

variable {bytes : List UInt8}

theorem number_put_if (c : Bool) {bit value width : ℕ} (hw : width ≤ 32)
    (h : bit + width ≤ 8 * bytes.length) :
    number (if c then put bytes bit value width else bytes) =
      number bytes ||| BitField.put (if c then value else 0) bit width := by
  cases c with
  | true => exact number_put_or hw h
  | false => simp [BitField.put]

/-- A channel adds its fields to the number. -/
theorem number_putChannel (s : Sample) (h : bytes.length = 15) (i : Fin 3) :
    (putChannel s bytes i).length = 15 ∧
      number (putChannel s bytes i) = number bytes |||
        BitField.put (s.canonical.raw i).toNat (32 + 12 * i) 12 |||
        BitField.put (s.canonical.darkness i).toNat (68 + 10 * i) 10 |||
        BitField.put (s.canonical.surface i).toNat (104 + 2 * i) 2 := by
  have hi : i.val < 3 := i.isLt
  have hraw : number (if s.hasRaw i then put bytes (32 + 12 * i) (s.raw i).toNat 12 else bytes) =
      number bytes ||| BitField.put (s.canonical.raw i).toNat (32 + 12 * i) 12 := by
    rw [number_put_if _ (by decide) (by omega), Sample.canonical, apply_ite UInt16.toNat]
    rfl
  have hlen : (if s.hasRaw i then put bytes (32 + 12 * i) (s.raw i).toNat 12
      else bytes).length = 15 := by
    split <;> simp [h]
  unfold putChannel
  simp only
  generalize (if s.hasRaw i then put bytes (32 + 12 * i) (s.raw i).toNat 12 else bytes) = bytes'
    at hraw hlen
  cases hnorm : s.hasNormalised i with
  | true =>
    have hlen' : (put bytes' (68 + 10 * i) (s.darkness i).toNat 10).length = 15 := by simp [hlen]
    refine ⟨by simp [hlen], ?_⟩
    rw [if_pos rfl, number_put_or (by decide) (by omega), number_put_or (by decide) (by omega),
      hraw]
    simp [Sample.canonical, hnorm]
  | false =>
    refine ⟨by simp [hlen], ?_⟩
    rw [if_neg Bool.false_ne_true, hraw]
    simp [Sample.canonical, hnorm, BitField.put]

theorem join_order (t r₀ d₀ s₀ r₁ d₁ s₁ r₂ d₂ s₂ v n q : ℕ) :
    t ||| r₀ ||| d₀ ||| s₀ ||| r₁ ||| d₁ ||| s₁ ||| r₂ ||| d₂ ||| s₂ ||| v ||| n ||| q =
      t ||| (r₀ ||| (r₁ ||| (r₂ ||| (d₀ ||| (d₁ ||| (d₂ ||| (v ||| (n ||| (s₀ ||| (s₁ ||| (s₂ |||
        q))))))))))) := by
  ac_rfl

/-- **The body of a packet is the packed canonical sample.** -/
theorem number_body (s : Sample) :
    (body s).length = 15 ∧ number (body s) = BitField.pack s.canonical.fields := by
  have hstart : (put (List.replicate (packetSize - 1) 0) 0 s.timestampUs.toNat 32).length = 15 := by
    simp [packetSize]
  obtain ⟨hlen₀, hnum₀⟩ := number_putChannel s hstart 0
  obtain ⟨hlen₁, hnum₁⟩ := number_putChannel s hlen₀ 1
  obtain ⟨hlen₂, hnum₂⟩ := number_putChannel s hlen₁ 2
  have hfold : (List.finRange 3).foldl (putChannel s)
      (put (List.replicate (packetSize - 1) 0) 0 s.timestampUs.toNat 32) =
      putChannel s (putChannel s (putChannel s
        (put (List.replicate (packetSize - 1) 0) 0 s.timestampUs.toNat 32) 0) 1) 2 := rfl
  unfold body
  refine ⟨by simp [hfold, hlen₂], ?_⟩
  have hjoin := join_eq 0 s.canonical.fields
  rw [pow_zero, one_mul] at hjoin
  simp only [hfold]
  rw [number_put_or (by decide) (by simp [hlen₂]), number_put_or (by decide) (by simp [hlen₂]),
    number_put_or (by decide) (by simp [hlen₂]), hnum₂, hnum₁, hnum₀,
    number_put_or (by decide) (by simp [packetSize]), number_replicate, ← hjoin]
  have hthree : List.finRange 3 = [0, 1, 2] := rfl
  simp only [Sample.fields, hthree, List.map_cons, List.map_nil, List.cons_append, List.nil_append,
    join, Nat.zero_or, Nat.or_zero, Fin.val_zero, Fin.val_one, Fin.val_two, Nat.reduceAdd,
    Nat.reduceMul]
  have htime : s.canonical.timestampUs = s.timestampUs := rfl
  have hvalid : s.canonical.rawValid = s.rawValid := rfl
  have hnormalised : s.canonical.normalisedValid = s.normalisedValid := rfl
  have hsequence : s.canonical.sequence = s.sequence := rfl
  rw [htime, hvalid, hnormalised, hsequence]
  exact join_order _ _ _ _ _ _ _ _ _ _ _ _ _

/-! ## Reading a packet -/

def widths : List ℕ := [32, 12, 12, 12, 10, 10, 10, 3, 3, 2, 2, 2, 8]

theorem map_snd_fields (s : Sample) : s.fields.map Prod.snd = widths := rfl

theorem get_mod (bytes : List UInt8) (bit : ℕ) {width m : ℕ} (hw : 2 ^ width ≤ m) :
    get bytes bit width % m = get bytes bit width := by
  rw [Bytes.get_eq]
  exact Nat.mod_eq_of_lt ((Nat.mod_lt _ (Nat.two_pow_pos _)).trans_le hw)

theorem fields_read (bytes : List UInt8) :
    (read bytes).fields.map Prod.fst = BitField.unpack widths (number bytes) := by
  have hthree : List.finRange 3 = [0, 1, 2] := rfl
  simp only [Sample.fields, read, hthree, List.map_cons, List.map_nil, List.cons_append,
    List.nil_append, UInt32.toNat_ofNat', UInt16.toNat_ofNat', UInt8.toNat_ofNat', widths,
    BitField.unpack, Fin.val_zero, Fin.val_one, Fin.val_two, Nat.reduceAdd, Nat.reduceMul]
  simp (disch := decide) only [get_mod]
  simp only [Bytes.get_eq, Nat.div_div_eq_div_mul, ← pow_add, Nat.reduceAdd, pow_zero,
    Nat.div_one]

variable {s : Sample}

theorem eq_of_fields {s' : Sample} (h : s.fields.map Prod.fst = s'.fields.map Prod.fst) :
    s = s' := by
  have hthree : List.finRange 3 = [0, 1, 2] := rfl
  simp only [Sample.fields, hthree, List.map_cons, List.map_nil, List.cons_append,
    List.nil_append, List.cons.injEq, and_true, UInt32.toNat_inj, UInt16.toNat_inj,
    UInt8.toNat_inj] at h
  obtain ⟨ht, r₀, r₁, r₂, d₀, d₁, d₂, hv, hn, f₀, f₁, f₂, hq⟩ := h
  exact Sample.ext ht (funext fun | 0 => r₀ | 1 => r₁ | 2 => r₂)
    (funext fun | 0 => d₀ | 1 => d₁ | 2 => d₂) hv hn (funext fun | 0 => f₀ | 1 => f₁ | 2 => f₂) hq

theorem read_of_number (h : ∀ f ∈ s.fields, f.1 < 2 ^ f.2)
    (hbytes : number bytes = BitField.pack s.fields) : read bytes = s := by
  refine eq_of_fields ?_
  rw [fields_read, hbytes, ← map_snd_fields s, BitField.unpack_pack h]

theorem canonical_canonical (s : Sample) : s.canonical.canonical = s.canonical := by
  have hif {α : Type} (c : Bool) (x y : α) :
      (if c then (if c then x else y) else y) = if c then x else y := by cases c <;> rfl
  exact Sample.ext rfl (funext fun i => hif (s.hasRaw i) (s.raw i) 0)
    (funext fun i => hif (s.hasNormalised i) (s.darkness i) 0) rfl rfl
    (funext fun i => hif (s.hasNormalised i) (s.surface i) 0) rfl

theorem inRange_iff (s : Sample) : inRange s ↔
    s.rawValid ≤ 7 ∧ s.normalisedValid ≤ 7 ∧ s.normalisedValid &&& ~~~s.rawValid = 0 ∧
      ∀ i, (s.hasRaw i → s.raw i ≤ 4095) ∧
        (s.hasNormalised i → s.darkness i ≤ 1000 ∧ s.surface i ≤ 2) := by
  simp only [inRange, Bool.and_eq_true, Bool.not_eq_true', Bool.or_eq_false_iff,
    decide_eq_false_iff_not, List.all_eq_true, List.mem_finRange, true_imp_iff,
    Bool.and_eq_false_iff, UInt8.not_lt, UInt16.not_lt, not_not, and_assoc]
  simp only [imp_iff_not_or, Bool.not_eq_true]

theorem inRange_canonical (h : inRange s) : inRange s.canonical := by
  rw [inRange_iff] at h ⊢
  obtain ⟨hraw, hnormalised, hboth, hchannels⟩ := h
  refine ⟨hraw, hnormalised, hboth, fun i => ⟨fun hi => ?_, fun hi => ?_⟩⟩
  · have hvalue : s.canonical.raw i = s.raw i := if_pos hi
    rw [hvalue]
    exact (hchannels i).1 hi
  · have hdark : s.canonical.darkness i = s.darkness i := if_pos hi
    have hsurface : s.canonical.surface i = s.surface i := if_pos hi
    rw [hdark, hsurface]
    exact (hchannels i).2 hi

theorem fields_fit (h : inRange s) : ∀ f ∈ s.canonical.fields, f.1 < 2 ^ f.2 := by
  obtain ⟨hraw, hnormalised, -, hchannels⟩ := (inRange_iff s).1 h
  simp only [Sample.fields, List.forall_mem_append, List.forall_mem_cons, List.forall_mem_map,
    List.mem_finRange, true_imp_iff, List.not_mem_nil, false_imp_iff, implies_true, and_true]
  refine ⟨⟨⟨⟨⟨UInt32.toNat_lt _, fun i => ?_⟩, fun i => ?_⟩, ?_, ?_⟩, fun i => ?_⟩,
    UInt8.toNat_lt _⟩
  · rw [canonical_raw]
    split
    · rename_i hi
      exact Nat.lt_succ_of_le (UInt16.le_iff_toNat_le.1 ((hchannels i).1 hi))
    · decide
  · rw [canonical_darkness]
    split
    · rename_i hi
      exact (UInt16.le_iff_toNat_le.1 ((hchannels i).2 hi).1).trans_lt (by decide)
    · decide
  · exact Nat.lt_succ_of_le (UInt8.le_iff_toNat_le.1 hraw)
  · exact Nat.lt_succ_of_le (UInt8.le_iff_toNat_le.1 hnormalised)
  · rw [canonical_surface]
    split
    · rename_i hi
      exact (UInt8.le_iff_toNat_le.1 ((hchannels i).2 hi).2).trans_lt (by decide)
    · decide

variable {packet : List UInt8}

/-- When a packet is that of a sample. -/
theorem pack_eq_some (hlen : packet.length = packetSize) :
    pack s = some packet ↔ inRange s ∧ packet.headD 0 = 1 ∧
      number packet.tail = BitField.pack s.canonical.fields := by
  obtain ⟨hbody, hnumber⟩ := number_body s
  obtain ⟨head, tail, rfl⟩ : ∃ head tail, packet = head :: tail :=
    List.exists_cons_of_length_pos (by rw [hlen]; decide)
  rw [List.length_cons, packetSize] at hlen
  rw [pack, Option.ite_none_right_eq_some, Option.some.injEq, List.cons.injEq, List.headD_cons,
    List.tail_cons, ← hnumber, eq_comm (a := (1 : UInt8))]
  refine and_congr_right fun _ => and_congr_right fun _ => ⟨?_, fun h => ?_⟩
  · rintro rfl
    rfl
  · exact (number_inj (by omega) h).symm

theorem padding_iff (hlen : packet.length = packetSize) :
    packet.getD 15 0 &&& 0xC0 = 0 ↔ number packet.tail < 2 ^ 118 := by
  obtain ⟨head, tail, rfl⟩ : ∃ head tail, packet = head :: tail :=
    List.exists_cons_of_length_pos (by rw [hlen]; decide)
  rw [List.length_cons, packetSize] at hlen
  obtain ⟨init, last, rfl⟩ : ∃ init last, tail = init ++ [last] :=
    ⟨tail.dropLast, tail.getLast (List.ne_nil_of_length_pos (by omega)),
      (List.dropLast_append_getLast _).symm⟩
  rw [List.length_append, List.length_singleton] at hlen
  have hinit : init.length = 14 := by omega
  have hlast : (head :: (init ++ [last])).getD 15 0 = last := by
    rw [List.getD_cons_succ, List.getD_append_right _ _ _ _ hinit.le, hinit]
    rfl
  have hiff := number_lt_iff_last init last 6
  rw [hinit] at hiff
  rw [hlast, List.tail_cons, hiff]
  exact high_bits_eq_zero 6 last

/-- When a number is that of the sample it is read as. -/
theorem number_eq_iff (bytes : List UInt8) (h : inRange (read bytes)) :
    number bytes = BitField.pack (read bytes).canonical.fields ↔
      number bytes < 2 ^ 118 ∧ (read bytes).canonical = read bytes := by
  constructor
  · intro hnumber
    refine ⟨?_, (read_of_number (fields_fit h) hnumber).symm⟩
    rw [hnumber]
    exact BitField.pack_lt _
  · rintro ⟨hlt, hcanonical⟩
    have hfields : (read bytes).fields = (BitField.unpack widths (number bytes)).zip widths := by
      rw [← fields_read, ← map_snd_fields (read bytes), ← List.unzip_fst, ← List.unzip_snd,
        List.zip_unzip]
    rw [hcanonical, hfields, BitField.pack_unpack]
    exact (Nat.mod_eq_of_lt hlt).symm

/-- When the firmware accepts: the version, no padding, values in range, and no value where none is
valid. -/
theorem unpack_eq (hlen : packet.length = packetSize) :
    unpack packet =
      if packet.headD 0 = 1 ∧ number packet.tail < 2 ^ 118 ∧ inRange (read packet.tail) ∧
          (read packet.tail).canonical = read packet.tail then
        some (read packet.tail)
      else none := by
  have hpack : pack (read packet.tail) = some packet ↔
      packet.headD 0 = 1 ∧ number packet.tail < 2 ^ 118 ∧ inRange (read packet.tail) = true ∧
        (read packet.tail).canonical = read packet.tail := by
    rw [pack_eq_some hlen]
    constructor
    · rintro ⟨hrange, hhead, hnumber⟩
      obtain ⟨hlt, hcanonical⟩ := (number_eq_iff _ hrange).1 hnumber
      exact ⟨hhead, hlt, hrange, hcanonical⟩
    · rintro ⟨hhead, hlt, hrange, hcanonical⟩
      exact ⟨hrange, hhead, (number_eq_iff _ hrange).2 ⟨hlt, hcanonical⟩⟩
  unfold unpack
  by_cases hok : packet.headD 0 = 1 ∧ number packet.tail < 2 ^ 118
  · rw [if_neg]
    · exact if_congr hpack rfl rfl
    · rintro (hhead | hpad)
      · exact hhead hok.1
      · exact hpad ((padding_iff hlen).2 hok.2)
  · rw [if_pos, if_neg fun h => hok ⟨h.1, h.2.1⟩]
    by_contra hno
    rw [not_or, not_not, not_not, padding_iff hlen] at hno
    exact hok hno

/-- **Unpacking gives the sample without its invalid readings.** -/
theorem unpack_of_pack (hlen : packet.length = packetSize) (h : pack s = some packet) :
    unpack packet = some s.canonical := by
  obtain ⟨hrange, hhead, hnumber⟩ := (pack_eq_some hlen).1 h
  have hread := read_of_number (fields_fit hrange) hnumber
  have hlt : number packet.tail < 2 ^ 118 := by
    rw [hnumber]
    exact BitField.pack_lt _
  rw [unpack_eq hlen, hread, if_pos]
  exact ⟨hhead, hlt, inRange_canonical hrange, canonical_canonical s⟩

theorem pack_of_unpack (h : unpack packet = some s) : pack s = some packet := by
  obtain ⟨-, h⟩ := Option.ite_none_left_eq_some.1 h
  obtain ⟨hpack, hs⟩ := Option.ite_none_right_eq_some.1 h
  rw [← Option.some.inj hs]
  exact hpack

/-! ## The laptop reads the same -/

def Sample.sensor (s : Sample) (i : Fin 3) : Laptop.Sensor where
  raw := if s.hasRaw i then some (s.raw i).toNat else none
  darkness := if s.hasNormalised i then some (s.darkness i).toNat else none
  rawValid := s.hasRaw i
  valid := s.hasNormalised i
  surface := if s.hasNormalised i then Laptop.surfaces.getD (s.surface i).toNat ""
    else "unavailable"

def reading (s : Sample) : Laptop.Reading :=
  ⟨s.timestampUs.toNat, s.sequence.toNat,
    [("left", s.sensor 0), ("right", s.sensor 1), ("barcode", s.sensor 2)]⟩

/-- A channel passes: its values are in range where they are valid, and zero where not. -/
def Sample.passes (s : Sample) (i : Fin 3) : Prop :=
  (s.hasNormalised i = true → s.darkness i ≤ 1000 ∧ s.surface i ≤ 2) ∧
    s.canonical.raw i = s.raw i ∧ s.canonical.darkness i = s.darkness i ∧
    s.canonical.surface i = s.surface i

instance (s : Sample) (i : Fin 3) : Decidable (s.passes i) := by
  unfold Sample.passes
  infer_instance

theorem mask_bit (m i : ℕ) : m &&& 1 <<< i ≠ 0 ↔ m.testBit i := by
  rw [Nat.one_shiftLeft, Nat.and_two_pow]
  cases m.testBit i <;> simp

theorem get_mask (bytes : List UInt8) (bit : ℕ) {width m : ℕ} (hw : 2 ^ width ≤ m) :
    get bytes bit width % m = number bytes >>> bit &&& 2 ^ width - 1 := by
  rw [get_mod _ _ hw, Bytes.get_eq, Nat.and_two_pow_sub_one_eq_mod, Nat.shiftRight_eq_div_pow]

theorem rawValid_read (bytes : List UInt8) :
    (read bytes).rawValid.toNat = number bytes >>> 98 &&& 7 := by
  rw [read, UInt8.toNat_ofNat', get_mask _ _ (by decide)]
  rfl

theorem normalisedValid_read (bytes : List UInt8) :
    (read bytes).normalisedValid.toNat = number bytes >>> 101 &&& 7 := by
  rw [read, UInt8.toNat_ofNat', get_mask _ _ (by decide)]
  rfl

/-- The laptop's view of a channel. -/
theorem sensor_eq (bytes : List UInt8) (i : Fin 3) :
    Laptop.sensor (number bytes) (number bytes >>> 98 &&& 7) (number bytes >>> 101 &&& 7) i =
      if (read bytes).passes i then .ok ((read bytes).sensor i)
      else .error "Invalid or noncanonical IR preview field" := by
  have hraw : ((read bytes).raw i).toNat = number bytes >>> (32 + 12 * i.val) &&& 4095 := by
    rw [read, UInt16.toNat_ofNat', get_mask _ _ (by decide)]
    rfl
  have hdark : ((read bytes).darkness i).toNat = number bytes >>> (68 + 10 * i.val) &&& 1023 := by
    rw [read, UInt16.toNat_ofNat', get_mask _ _ (by decide)]
    rfl
  have hsurface : ((read bytes).surface i).toNat = number bytes >>> (104 + 2 * i.val) &&& 3 := by
    rw [read, UInt8.toNat_ofNat', get_mask _ _ (by decide)]
    rfl
  simp only [Laptop.sensor, ← hraw, ← hdark, ← hsurface, ← rawValid_read, ← normalisedValid_read,
    mask_bit]
  generalize read bytes = s
  have hbad : (2 < (s.surface i).toNat ∨ 1000 < (s.darkness i).toNat ∨
      (!decide (s.hasRaw i = true)) = true ∧ (s.raw i).toNat ≠ 0 ∨
      (!decide (s.hasNormalised i = true)) = true ∧
        ((s.darkness i).toNat ≠ 0 ∨ (s.surface i).toNat ≠ 0)) ↔ ¬s.passes i := by
    unfold Sample.passes
    rw [canonical_raw, canonical_darkness, canonical_surface]
    cases s.hasRaw i <;> cases s.hasNormalised i <;>
    · simp [UInt16.le_iff_toNat_le, UInt8.le_iff_toNat_le, ← UInt16.toNat_inj,
        ← UInt8.toNat_inj]
      try omega
  by_cases hpasses : s.passes i
  · rw [if_pos hpasses]
    refine (if_neg fun h => hbad.1 h hpasses).trans ?_
    simp only [Bool.decide_eq_true]
    rfl
  · rw [if_neg hpasses]
    exact if_pos (hbad.2 hpasses)

theorem ldiff_masks (bytes : List UInt8) :
    (number bytes >>> 101 &&& 7).ldiff (number bytes >>> 98 &&& 7) = 0 ↔
      (read bytes).normalisedValid &&& ~~~(read bytes).rawValid = 0 := by
  have hmasks : ∀ n < 8, ∀ r < 8, Nat.ldiff n r = 0 ↔
      UInt8.ofNat n &&& ~~~UInt8.ofNat r = 0 := by decide +kernel
  have hlt (m : ℕ) : m &&& 7 < 8 := Nat.lt_succ_of_le Nat.and_le_right
  have h := hmasks _ (hlt (number bytes >>> 101)) _ (hlt (number bytes >>> 98))
  rw [h, ← rawValid_read, ← normalisedValid_read, UInt8.ofNat_toNat, UInt8.ofNat_toNat]

theorem forall_channels {p : Fin 3 → Prop} : (∀ i, p i) ↔ p 0 ∧ p 1 ∧ p 2 :=
  ⟨fun h => ⟨h 0, h 1, h 2⟩, fun ⟨h₀, h₁, h₂⟩ => fun | 0 => h₀ | 1 => h₁ | 2 => h₂⟩

/-- The tests of the laptop are those of the firmware. -/
theorem inRange_read (bytes : List UInt8) :
    inRange (read bytes) ∧ (read bytes).canonical = read bytes ↔
      (read bytes).normalisedValid &&& ~~~(read bytes).rawValid = 0 ∧
        ∀ i, (read bytes).passes i := by
  have hmask (m : ℕ) : m &&& 7 ≤ 7 := Nat.and_le_right
  have hraw : (read bytes).rawValid ≤ 7 := by
    rw [UInt8.le_iff_toNat_le, rawValid_read]
    exact hmask _
  have hnormalised : (read bytes).normalisedValid ≤ 7 := by
    rw [UInt8.le_iff_toNat_le, normalisedValid_read]
    exact hmask _
  have hreading (i : Fin 3) : (read bytes).raw i ≤ 4095 := by
    rw [UInt16.le_iff_toNat_le, read, UInt16.toNat_ofNat', get_mask _ _ (by decide)]
    exact Nat.and_le_right
  rw [inRange_iff]
  generalize read bytes = s at hraw hnormalised hreading
  constructor
  · rintro ⟨⟨-, -, hboth, hchannels⟩, hcanonical⟩
    refine ⟨hboth, fun i => ⟨(hchannels i).2, ?_, ?_, ?_⟩⟩ <;> rw [hcanonical]
  · rintro ⟨hboth, hpasses⟩
    refine ⟨⟨hraw, hnormalised, hboth, fun i => ⟨fun _ => hreading i, (hpasses i).1⟩⟩, ?_⟩
    exact Sample.ext rfl (funext fun i => (hpasses i).2.1) (funext fun i => (hpasses i).2.2.1) rfl
      rfl (funext fun i => (hpasses i).2.2.2) rfl

/-- **The laptop accepts what the firmware accepts**, with the same values. -/
theorem decodeIr_eq (hlen : packet.length = packetSize) :
    (Laptop.decodeIr packet).toOption = (unpack packet).map reading := by
  have hsize : packet.length = 16 := hlen
  have hpad : number packet.tail >>> 118 = 0 ↔ number packet.tail < 2 ^ 118 := by
    rw [Nat.shiftRight_eq_div_pow, Nat.div_eq_zero_iff_lt (Nat.two_pow_pos _)]
  have htime : number packet.tail &&& 0xFFFFFFFF = (read packet.tail).timestampUs.toNat := by
    rw [read, UInt32.toNat_ofNat', get_mask _ _ (by decide)]
    rfl
  have hsequence : number packet.tail >>> 110 &&& 255 = (read packet.tail).sequence.toNat := by
    rw [read, UInt8.toNat_ofNat', get_mask _ _ (by decide)]
    rfl
  have hzero := sensor_eq packet.tail 0
  have hone := sensor_eq packet.tail 1
  have htwo := sensor_eq packet.tail 2
  rw [unpack_eq hlen]
  simp only [Laptop.decodeIr, hsize, hpad, ldiff_masks, inRange_read, htime, hsequence, ne_eq,
    not_true_eq_false, false_or, forall_channels]
  by_cases hhead : packet.headD 0 = 1
  swap
  · simp only [hhead, not_false_eq_true, if_true, false_and, if_false]
    rfl
  by_cases hlt : number packet.tail < 2 ^ 118
  swap
  · simp only [hhead, hlt, not_false_eq_true, not_true_eq_false, if_true, if_false, false_and,
      and_false]
    rfl
  by_cases hmask : (read packet.tail).normalisedValid &&& ~~~(read packet.tail).rawValid = 0
  swap
  · simp only [hhead, hlt, hmask, not_false_eq_true, not_true_eq_false, if_true, if_false,
      false_and, and_false]
    rfl
  simp only [hhead, hlt, hmask, not_true_eq_false, if_false, true_and, Laptop.channels,
    List.zipIdx_cons, List.zipIdx_nil, List.mapM_cons, List.mapM_nil]
  simp only [Fin.val_zero, Fin.val_one, Fin.val_two] at hzero hone htwo
  rw [hzero, hone, htwo]
  by_cases h₀ : (read packet.tail).passes 0 <;> by_cases h₁ : (read packet.tail).passes 1 <;>
    by_cases h₂ : (read packet.tail).passes 2 <;>
    simp only [h₀, h₁, h₂, if_true, if_false, and_self, and_false, false_and] <;> rfl

theorem length_of_pack (h : pack s = some packet) : packet.length = packetSize := by
  obtain ⟨-, h⟩ := Option.ite_none_right_eq_some.1 h
  rw [← Option.some.inj h, List.length_cons, (number_body s).1]
  rfl

/-- **Diagnostic packets agree between firmware and laptop**: both accept the same packets with the
same values, and what is unpacked is what was packed, apart from readings that were not valid. -/
theorem diagnostics_agree :
    (∀ packet s₀, packet.length = Control.packetSize →
      (Control.Laptop.decodeControl packet).toOption =
          (Control.unpack packet s₀).map Control.reading ∧
        ∀ s, Control.unpack packet s₀ = some s ↔ Control.pack s = some packet) ∧
      (∀ s packet, Control.pack s = some packet → packet.length = Control.packetSize) ∧
      (∀ packet, packet.length = packetSize →
        (Laptop.decodeIr packet).toOption = (unpack packet).map reading ∧
          ((unpack packet).isSome = true ↔ ∃ s, pack s = some packet)) ∧
      ∀ s packet, pack s = some packet →
        packet.length = packetSize ∧ unpack packet = some s.canonical := by
  refine ⟨fun packet s₀ hlen => ⟨Control.decodeControl_eq hlen s₀, fun s =>
    Control.unpack_eq_some hlen⟩, fun s packet => Control.length_of_pack, fun packet hlen =>
    ⟨decodeIr_eq hlen, ?_⟩,
    fun s packet h => ⟨length_of_pack h, unpack_of_pack (length_of_pack h) h⟩⟩
  rw [Option.isSome_iff_exists]
  constructor
  · rintro ⟨s, h⟩
    exact ⟨s, pack_of_unpack h⟩
  · rintro ⟨s, h⟩
    exact ⟨s.canonical, unpack_of_pack hlen h⟩

def benchSample : Sample where
  timestampUs := 1000
  raw := fun | 0 => 100 | 1 => 4095 | 2 => 7
  darkness := fun _ => 0
  rawValid := 3
  normalisedValid := 0
  surface := fun _ => 0
  sequence := 9

/-- A controller that drives backwards. -/
def benchControl : Control.Sample
  | .timestampUs => 1000
  | .sequence => 9
  | .dutyLeft | .dutyRight => -40
  | .leftWhiteLimit => 300
  | _ => 0

theorem diagnostics_agree_bench :
    (∃ packet, Control.pack benchControl = some packet ∧
      Control.unpack packet (fun _ => 7) = some benchControl ∧
      (Control.Laptop.decodeControl packet).toOption = some (Control.reading benchControl)) ∧
    ∃ packet, pack benchSample = some packet ∧ unpack packet = some benchSample.canonical ∧
      (Laptop.decodeIr packet).toOption = some (reading benchSample.canonical) := by
  obtain ⟨hcontrol, hsent, hpreview, hback⟩ := diagnostics_agree
  constructor
  · have hpack : (Control.pack benchControl).isSome = true := by decide +kernel
    obtain ⟨packet, h⟩ := Option.isSome_iff_exists.1 hpack
    obtain ⟨hread, hunpack⟩ := hcontrol packet (fun _ => 7) (hsent benchControl packet h)
    have hsample := (hunpack benchControl).2 h
    exact ⟨packet, h, hsample, by rw [hread, hsample, Option.map_some]⟩
  · have hpack : (pack benchSample).isSome = true := by decide +kernel
    obtain ⟨packet, h⟩ := Option.isSome_iff_exists.1 hpack
    obtain ⟨hlen, hunpack⟩ := hback benchSample packet h
    exact ⟨packet, h, hunpack, by rw [(hpreview packet hlen).1, hunpack, Option.map_some]⟩

/-- The leftover reading does not come back. -/
theorem preview_not_inverse :
    ∃ packet, pack benchSample = some packet ∧ unpack packet ≠ some benchSample := by
  refine ⟨1 :: body benchSample, by decide +kernel, ?_⟩
  decide +kernel

end RoboticCar.Diagnostics.Preview
