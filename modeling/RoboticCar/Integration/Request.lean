import RoboticCar.Drive.Model
import RoboticCar.Lib.Bytes

/-!
# Requests to the sampling owner

A request waits for the owner as a packet (`integration_codec.c`) with a kind, a sensor and the 26
actions of a mapping.  What the kind does not use is sent as zero, and `unpack` accepts only what
`pack` would have made (`unpack_pack`, `ControlRequest.canonical`).
-/

namespace RoboticCar.Integration

open Lib.Bytes Lib.BitField Navigation

inductive ControlKind
  | white | black | applyCalibration | mapping | start | stop | reset
  deriving DecidableEq

namespace ControlKind

def code : ControlKind → ℕ
  | white => 0
  | black => 1
  | applyCalibration => 2
  | mapping => 3
  | start => 4
  | stop => 5
  | reset => 6

def ofCode? : ℕ → Option ControlKind
  | 0 => some white
  | 1 => some black
  | 2 => some applyCalibration
  | 3 => some mapping
  | 4 => some start
  | 5 => some stop
  | 6 => some reset
  | _ => none

def namesSensor : ControlKind → Bool
  | white | black | applyCalibration => true
  | _ => false

theorem ofCode?_code (k : ControlKind) : ofCode? k.code = some k := by cases k <;> rfl

theorem code_lt (k : ControlKind) : k.code < 8 := by cases k <;> decide

end ControlKind

/-- A request: its kind, the code of a sensor and the codes of the actions of the 26 letters. -/
structure ControlRequest where
  kind : ControlKind
  sensor : ℕ := 0
  map : Fin 26 → ℕ := fun _ => 0
  deriving DecidableEq

def sensorCount : ℕ := 3
def navActionCount : ℕ := 5

namespace ControlRequest

def canonical (r : ControlRequest) : ControlRequest where
  kind := r.kind
  sensor := if r.kind.namesSensor then r.sensor else 0
  map := fun i => if r.kind = .mapping then r.map i else 0

/-- The sensor and the actions are in range where the kind uses them. -/
def Packable (r : ControlRequest) : Prop :=
  (r.kind.namesSensor = true → r.sensor < sensorCount) ∧ ∀ i, r.canonical.map i < navActionCount

instance (r : ControlRequest) : Decidable r.Packable := inferInstanceAs (Decidable (_ ∧ _))

end ControlRequest

/-- What the owner publishes of itself, as far as the operator's panel acts on it. -/
structure Status where
  state : Driving.DriveState
  commandSequence : UInt32
  commandOk : Bool
  collecting : Bool
  calibrationSensor : SensorId
  acceptedCalibration : UInt8

abbrev ControlPacket := List UInt8

def pack (r : ControlRequest) : Option ControlPacket :=
  let w : Writer := ⟨List.replicate 11 0, 0⟩
  let sensor := r.kind.namesSensor
  if sensor ∧ sensorCount ≤ r.sensor then none
  else
    let w := (w.put r.kind.code 3).put (if sensor then r.sensor else 0) 2
    ((List.finRange 26).foldlM (fun w i =>
      let action := if r.kind = .mapping then r.map i else 0
      if navActionCount ≤ action then none else some (w.put action 3)) w).map Writer.bytes

/-- The request of a packet, if `pack` would make this packet of it. -/
def unpack (p : ControlPacket) : Option ControlRequest :=
  if p.getD 10 0 &&& 0xf8 ≠ 0 then none
  else
    let (kind, r) := (⟨p, 0⟩ : Reader).get 3
    let (sensor, r) := r.get 2
    let map (i : Fin 26) : ℕ := ((r.skip (3 * i)).get 3).1
    (ControlKind.ofCode? kind).bind fun kind =>
      let v : ControlRequest := { kind := kind, sensor := sensor, map := map }
      if pack v = some p then some v else none

/-! ## Round trip -/

namespace ControlRequest

def fields (r : ControlRequest) : List (ℕ × ℕ) :=
  (r.kind.code, 3) :: (r.canonical.sensor, 2) ::
    ((List.finRange 26).map r.canonical.map).map fun a => (a, 3)

@[simp] theorem canonical_canonical (r : ControlRequest) : r.canonical.canonical = r.canonical := by
  rcases r with ⟨kind, sensor, map⟩
  simp only [canonical, mk.injEq, true_and]
  exact ⟨by split_ifs <;> rfl, funext fun i => by split_ifs <;> rfl⟩

theorem packable_canonical (r : ControlRequest) : r.canonical.Packable ↔ r.Packable := by
  have hsensor : (r.kind.namesSensor = true → r.canonical.sensor < sensorCount) ↔
      (r.kind.namesSensor = true → r.sensor < sensorCount) :=
    imp_congr_right fun hs => by rw [canonical, if_pos hs]
  rw [Packable, Packable, canonical_canonical, ← hsensor]
  rfl

theorem sensor_lt {r : ControlRequest} (h : r.Packable) : r.canonical.sensor < 4 := by
  change (if r.kind.namesSensor then r.sensor else 0) < 4
  split_ifs with hs
  · exact (h.1 hs).trans (by decide)
  · decide

theorem fields_fit {r : ControlRequest} (h : r.Packable) :
    ∀ f ∈ r.fields, f.1 < 2 ^ f.2 ∧ f.2 ≤ 32 := by
  refine List.forall_mem_cons.2 ⟨⟨r.kind.code_lt, (by decide : 3 ≤ 32)⟩,
    List.forall_mem_cons.2 ⟨⟨sensor_lt h, (by decide : 2 ≤ 32)⟩, ?_⟩⟩
  rintro f hf
  obtain ⟨a, ha, rfl⟩ := List.mem_map.1 hf
  obtain ⟨i, -, rfl⟩ := List.mem_map.1 ha
  exact ⟨(h.2 i).trans (show navActionCount < 2 ^ 3 by decide), (by decide : 3 ≤ 32)⟩

theorem fields_sum (r : ControlRequest) : (r.fields.map Prod.snd).sum = 83 := by
  simp [fields, Function.comp_def]

theorem foldlM_actions (r : ControlRequest) (l : List (Fin 26)) (w w' : Writer) :
    l.foldlM (fun w i =>
      let action := if r.kind = .mapping then r.map i else 0
      if navActionCount ≤ action then none else some (w.put action 3)) w = some w' ↔
      (∀ i ∈ l, r.canonical.map i < navActionCount) ∧
        w' = w.puts ((l.map r.canonical.map).map fun a => (a, 3)) := by
  induction l generalizing w with
  | nil => exact ⟨fun h => ⟨nofun, (Option.some.inj h).symm⟩, fun h => by rw [h.2]; rfl⟩
  | cons i l ih =>
    rw [List.foldlM_cons, List.forall_mem_cons]
    change ((if navActionCount ≤ r.canonical.map i then none
      else some (w.put (r.canonical.map i) 3)) >>= _) = some w' ↔ _
    by_cases h : navActionCount ≤ r.canonical.map i
    · rw [if_pos h]
      exact ⟨fun h' => (by cases h'), fun h' => absurd h'.1.1 (not_lt.2 h)⟩
    · rw [if_neg h, Option.bind_eq_bind, Option.bind_some, ih]
      exact ⟨fun ⟨h', e⟩ => ⟨⟨not_le.1 h, h'⟩, e⟩, fun ⟨h', e⟩ => ⟨h'.2, e⟩⟩

end ControlRequest

theorem pack_eq_some_iff (r : ControlRequest) (p : ControlPacket) :
    pack r = some p ↔
      r.Packable ∧ p = (Writer.puts ⟨List.replicate 11 0, 0⟩ r.fields).bytes := by
  simp only [pack, ite_eq_iff, reduceCtorEq, and_false, false_or, Option.map_eq_some_iff,
    r.foldlM_actions, ControlRequest.Packable, List.mem_finRange, true_imp_iff, not_and, not_le]
  constructor
  · rintro ⟨hs, _, ⟨hm, rfl⟩, rfl⟩
    exact ⟨⟨hs, hm⟩, rfl⟩
  · rintro ⟨⟨hs, hm⟩, rfl⟩
    exact ⟨hs, _, ⟨hm, rfl⟩, rfl⟩

theorem pack_canonical (r : ControlRequest) : pack r.canonical = pack r := by
  refine Option.ext fun p => ?_
  rw [pack_eq_some_iff, pack_eq_some_iff, ControlRequest.packable_canonical,
    show r.canonical.fields = r.fields by
      rw [ControlRequest.fields, ControlRequest.canonical_canonical]; rfl]

theorem padding_eq_zero (b : UInt8) : b &&& 0xf8 = 0 ↔ b.toNat >>> 3 = 0 :=
  high_bits_eq_zero 3 b

/-- **The owner gets the request that was accepted**, up to what its kind does not use. -/
theorem unpack_pack {r : ControlRequest} {p : ControlPacket} (h : pack r = some p) :
    unpack p = some r.canonical := by
  obtain ⟨hr, rfl⟩ := (pack_eq_some_iff r p).1 h
  have hholds := Writer.puts_holds (Writer.holds_zero 11) (ControlRequest.fields_fit hr)
    (by rw [ControlRequest.fields_sum]; decide)
  rw [ControlRequest.fields_sum, zero_add, zero_add, pow_zero, one_mul] at hholds
  obtain ⟨hlen, -, hnumber, hlt⟩ := hholds
  generalize (Writer.puts ⟨List.replicate 11 0, 0⟩ r.fields).bytes = p at h hlen hnumber ⊢
  have hpack := (pack_canonical r).trans h
  have hword := hnumber
  have hkind := r.kind.code_lt
  have hsensor := ControlRequest.sensor_lt hr
  have hactions : ∀ v ∈ (List.finRange 26).map r.canonical.map, v < 2 ^ 3 := by
    intro v hv
    obtain ⟨i, -, rfl⟩ := List.mem_map.1 hv
    exact (hr.2 i).trans (by decide)
  simp only [ControlRequest.fields, Lib.BitField.pack] at hnumber
  generalize hM : Lib.BitField.pack
    (((List.finRange 26).map r.canonical.map).map fun a => (a, 3)) = M at hnumber
  have hread : (⟨p, 0⟩ : Reader).rest % 2 ^ 3 = r.kind.code ∧
      (⟨p, 0⟩ : Reader).rest / 2 ^ 3 % 2 ^ 2 = r.canonical.sensor ∧
      (⟨p, 0⟩ : Reader).rest / 2 ^ 3 / 2 ^ 2 = M := by
    rw [Reader.rest_start, hnumber]
    omega
  have hmap : ∀ i : Fin 26, M / 2 ^ (3 * i.val) % 2 ^ 3 = r.canonical.map i := by
    intro i
    have := pack_uniform hactions (i := i) (by simp)
    rw [hM] at this
    simpa using this
  have hhigh : p.getD 10 0 &&& 0xf8 = 0 := by
    obtain ⟨q, last, rfl⟩ : ∃ q last, p = q ++ [last] :=
      ⟨_, _, (List.dropLast_append_getLast fun h0 => by simp [h0] at hlen).symm⟩
    have hq : q.length = 10 := by simpa using hlen
    have hlast : (q ++ [last]).getD 10 0 = last := by
      rw [List.getD_append_right _ _ _ _ hq.le, hq]
      rfl
    rw [hlast, padding_eq_zero, ← number_lt_iff_last q last 3, hq, hword]
    exact hlt
  simp only [unpack, Reader.get_eq, Reader.rest_skip, hread, hmap, hhigh, ne_eq, not_true_eq_false,
    if_false, ControlKind.ofCode?_code, Option.bind_some]
  exact if_pos hpack

theorem pack_of_unpack {r : ControlRequest} {p : ControlPacket} (h : unpack p = some r) :
    pack r = some p := by
  simp only [unpack, ite_eq_iff, reduceCtorEq, and_false, false_or, Option.bind_eq_some_iff,
    Option.some.injEq, or_false] at h
  obtain ⟨-, kind, -, hpack, rfl⟩ := h
  exact hpack

end RoboticCar.Integration
