import RoboticCar.Navigation.Navigation
import RoboticCar.Telemetry.RoundTrip

/-!
# The active barcode map

The network subsystem keeps the map as a packet of four bytes (`active_map` of `command.c`), and the
navigation core as a table of 26 actions.  Bit 7 of the first byte is a latch: a map is installed
only while it is open.  The map without the latch is always well formed (`Wellformed`), and its
action for a letter is that of the table (`barcodeAction_eq_expand`).
-/

namespace RoboticCar.Integration

open Telemetry Navigation

/-- `active_map`: a packed map with the latch in bit 7 of its first byte. -/
abbrev ActiveMap := List UInt8

namespace ActiveMap

def boot : ActiveMap := [wireVersion, 0x20, 0x88, 0x01]

def latched (m : ActiveMap) : Bool := decide (m.getD 0 0 &&& 0x80 ≠ 0)

/-- The map with the latch masked off, which is also the map after `buddy1_configuration_reopen`. -/
def masked (m : ActiveMap) : ActiveMap := m.modify 0 (· &&& 0x7f)

def closed (m : ActiveMap) : ActiveMap := m.modify 0 (· ||| 0x80)

end ActiveMap

/-- `buddy1_configuration_claim`: the map, whether this call froze it, and the frozen map. -/
def configurationClaim (m : ActiveMap) : Option (BarcodeMap × Bool × ActiveMap) :=
  (mapUnpack m.masked).map fun map => (map, !m.latched, m.closed)

/-- `buddy1_configuration_reopen`. -/
def configurationReopen (m : ActiveMap) : ActiveMap := m.masked

/-- The results of `buddy1_apply_barcode_map` when the lock is granted. -/
inductive Applied
  | ok | par | obj
  deriving DecidableEq

/-- `buddy1_apply_barcode_map`. -/
def applyBarcodeMap (m : ActiveMap) (map : BarcodeMap) : Applied × ActiveMap :=
  match mapPack map with
  | none => (.par, m)
  | some packed => if m.latched then (.obj, m) else (.ok, packed)

/-- `buddy1_barcode_action`. -/
def barcodeAction (m : ActiveMap) (letter : UInt8) : BarcodeAction :=
  match mapUnpack m.masked with
  | none => .unknown
  | some map =>
    if letter = map.forward then .forward
    else if letter = map.left then .left
    else if letter = map.right then .right
    else if letter = map.uturn then .uturn
    else .unknown

/-- `buddy1_command_process` of a map command: the reply, and the map it leaves. -/
def commandProcess (m : ActiveMap) (payload : List UInt8) : Reply × ActiveMap :=
  match mapUnpack payload with
  | none => (.invalid, m)
  | some map =>
    let r := applyBarcodeMap m map
    (match r.1 with
      | .ok => .ok
      | .obj => .busy
      | .par => .internal, r.2)

def actionFor : NavAction → BarcodeAction
  | .straight => .forward
  | .left => .left
  | .right => .right
  | .uTurn => .uturn
  | .none => .unknown

/-- The actions of a map in the order in which `vehicle_controller_prepare_start` enters them. -/
def mapEntries (map : BarcodeMap) : List (UInt8 × NavAction) :=
  [(map.forward, .straight), (map.left, .left), (map.right, .right), (map.uturn, .uTurn)]

/-- `expanded` of `vehicle_controller_prepare_start`. -/
def expand (map : BarcodeMap) : Fin 26 → NavAction :=
  (mapEntries map).foldl
    (fun table e i => if i.val = (e.1 - letterA).toNat then e.2 else table i) fun _ => .none

def letterOf (i : Fin 26) : UInt8 := letterA + UInt8.ofNat i.val

def actionOf : ℕ → NavAction
  | 1 => .left
  | 2 => .right
  | 3 => .straight
  | 4 => .uTurn
  | _ => .none

/-- One turn of the loop of `vehicle_controller_apply_mapping`: a slot is filled once. -/
def fillSlot (reduced : BarcodeMap) (action : ℕ) (letter : UInt8) : Option BarcodeMap :=
  match action with
  | 0 => some reduced
  | 1 => if reduced.left ≠ 0 then none else some { reduced with left := letter }
  | 2 => if reduced.right ≠ 0 then none else some { reduced with right := letter }
  | 3 => if reduced.forward ≠ 0 then none else some { reduced with forward := letter }
  | 4 => if reduced.uturn ≠ 0 then none else some { reduced with uturn := letter }
  | _ => none

/-- `vehicle_controller_apply_mapping`. -/
def applyMapping (m : ActiveMap) (map : Fin 26 → ℕ) : Bool × ActiveMap :=
  match (List.finRange 26).foldlM (fun r i => fillSlot r (map i) (letterOf i)) ⟨0, 0, 0, 0⟩ with
  | none => (false, m)
  | some reduced =>
    let r := applyBarcodeMap m reduced
    (decide (r.1 = .ok), r.2)

namespace ActiveMap

variable {m : ActiveMap}

def Wellformed (m : ActiveMap) : Prop := ∃ map, mapUnpack m.masked = some map

theorem masked_masked (m : ActiveMap) : m.masked.masked = m.masked := by
  have h : ∀ x : BitVec 8, x &&& 0x7f &&& 0x7f = x &&& 0x7f := by decide +kernel
  cases m with
  | nil => rfl
  | cons x l => exact congrArg (· :: l) (UInt8.toBitVec_inj.1 (h x.toBitVec))

theorem masked_closed (m : ActiveMap) : m.closed.masked = m.masked := by
  have h : ∀ x : BitVec 8, (x ||| 0x80) &&& 0x7f = x &&& 0x7f := by decide +kernel
  cases m with
  | nil => rfl
  | cons x l => exact congrArg (· :: l) (UInt8.toBitVec_inj.1 (h x.toBitVec))

theorem masked_of_open (h : m.latched = false) : m.masked = m := by
  have hx : ∀ x : BitVec 8, x &&& 0x80 = 0 → x &&& 0x7f = x := by decide +kernel
  cases m with
  | nil => rfl
  | cons x l =>
    have hopen : x &&& 0x80 = 0 := by simpa [latched] using h
    refine congrArg (· :: l) (UInt8.toBitVec_inj.1 (hx x.toBitVec ?_))
    exact UInt8.toBitVec_inj.2 hopen

theorem closed_of_latched (h : m.latched) : m.closed = m := by
  have hx : ∀ x : BitVec 8, x &&& 0x80 ≠ 0 → x ||| 0x80 = x := by decide +kernel
  cases m with
  | nil => rfl
  | cons x l =>
    have hclosed : x &&& 0x80 ≠ 0 := by simpa [latched] using h
    refine congrArg (· :: l) (UInt8.toBitVec_inj.1 (hx x.toBitVec fun h0 => hclosed ?_))
    exact UInt8.toBitVec_inj.1 h0

theorem Wellformed.latched_closed (h : m.Wellformed) : m.closed.latched := by
  have hx : ∀ x : BitVec 8, (x ||| 0x80) &&& 0x80 ≠ 0 := by decide +kernel
  cases m with
  | nil =>
    obtain ⟨map, hmap⟩ := h
    have hnil : mapUnpack (masked []) = none := rfl
    rw [hnil] at hmap
    cases hmap
  | cons x =>
    have hne : (x ||| 0x80) &&& 0x80 ≠ 0 := fun h0 =>
      hx x.toBitVec (UInt8.toBitVec_inj.2 h0)
    simp [latched, closed, hne]

theorem wellformed_boot : boot.Wellformed := ⟨⟨65, 66, 67, 68⟩, by decide +kernel⟩

theorem packed {map : BarcodeMap} {p : ActiveMap} (h : mapPack map = some p) :
    p.latched = false ∧ mapUnpack p.masked = some map := by
  obtain ⟨hvalid, hpacket⟩ := (mapPack_eq_some_iff map p).1 h
  have hopen : p.latched = false := by
    obtain ⟨-, body, rfl, -⟩ := hpacket
    have hversion : wireVersion &&& 0x80 = 0 := by decide
    simp [latched, hversion]
  refine ⟨hopen, ?_⟩
  rw [masked_of_open hopen]
  exact (mapUnpack_eq_some_iff p map).2 ⟨hvalid, _, hpacket, mapOf_pack hvalid⟩

end ActiveMap

section Operations

variable {m : ActiveMap}

/-- **A map is installed exactly while the latch is open**, and otherwise nothing changes. -/
theorem applyBarcodeMap_cases (m : ActiveMap) (map : BarcodeMap) :
    (∃ p, mapPack map = some p ∧ m.latched = false ∧ applyBarcodeMap m map = (.ok, p)) ∨
      (applyBarcodeMap m map).1 ≠ .ok ∧ (applyBarcodeMap m map).2 = m := by
  rw [applyBarcodeMap]
  split
  · exact .inr ⟨nofun, rfl⟩
  · rename_i p hp
    cases hm : m.latched with
    | false => exact .inl ⟨p, hp, rfl, rfl⟩
    | true => exact .inr ⟨nofun, rfl⟩

theorem applyMapping_cases (m : ActiveMap) (map : Fin 26 → ℕ) :
    (applyMapping m map).2 = m ∧ (applyMapping m map).1 = false ∨
      m.latched = false ∧ (applyMapping m map).1 = true ∧
        ∃ reduced, mapPack reduced = some (applyMapping m map).2 := by
  rw [applyMapping]
  split
  · exact .inl ⟨rfl, rfl⟩
  · rename_i reduced _
    rcases applyBarcodeMap_cases m reduced with ⟨p, hp, hm, h⟩ | ⟨h, h'⟩
    · rw [h]
      exact .inr ⟨hm, rfl, reduced, hp⟩
    · exact .inl ⟨h', decide_eq_false h⟩

theorem commandProcess_cases (m : ActiveMap) (payload : List UInt8) :
    (∃ map, mapUnpack payload = some map ∧ m.latched = false ∧
        mapPack map = some (commandProcess m payload).2 ∧ (commandProcess m payload).1 = .ok) ∨
      (commandProcess m payload).2 = m ∧ (commandProcess m payload).1 ≠ .ok := by
  rw [commandProcess]
  split
  · exact .inr ⟨rfl, nofun⟩
  · rename_i map hmap
    rcases applyBarcodeMap_cases m map with ⟨p, hp, hm, h⟩ | ⟨h, h'⟩
    · rw [h]
      exact .inl ⟨map, hmap, hm, hp, rfl⟩
    · refine .inr ⟨h', ?_⟩
      dsimp only
      split
      · contradiction
      · exact nofun
      · exact nofun

/-- **The reply says OK exactly if the map was installed.** -/
theorem commandProcess_ok_iff (m : ActiveMap) (payload : List UInt8) :
    (commandProcess m payload).1 = .ok ↔
      ∃ map, mapUnpack payload = some map ∧ mapPack map = some (commandProcess m payload).2 := by
  rcases commandProcess_cases m payload with ⟨map, hmap, -, hp, hok⟩ | ⟨hsame, hno⟩
  · exact iff_of_true hok ⟨map, hmap, hp⟩
  · refine iff_of_false hno ?_
    rintro ⟨map, hmap, hp⟩
    rw [hsame] at hp
    -- an open map would have been replaced by this one
    have hopen := (ActiveMap.packed hp).1
    refine hno ?_
    rw [commandProcess, hmap]
    simp [applyBarcodeMap, hp, hopen]

end Operations

/-- A claim gives the map as it is, and freezes it. -/
theorem of_configurationClaim {m m' : ActiveMap} {map : BarcodeMap} {newly : Bool}
    (h : configurationClaim m = some (map, newly, m')) :
    mapUnpack m.masked = some map ∧ newly = !m.latched ∧ m' = m.closed := by
  obtain ⟨map', hmap, hx⟩ := Option.map_eq_some_iff.1 h
  obtain ⟨rfl, hnewly, hm⟩ := Prod.mk.inj hx |>.imp_right Prod.mk.inj
  exact ⟨hmap, hnewly.symm, hm.symm⟩

theorem letterOf_eq_iff {c : UInt8} (hA : letterA ≤ c) (i : Fin 26) :
    letterOf i = c ↔ i.val = (c - letterA).toNat := by
  have hA' : 65 ≤ c.toNat := UInt8.le_iff_toNat_le.1 hA
  have hi : (letterOf i).toNat = 65 + i.val := toNat_letterA_add (by omega)
  rw [toNat_sub_letterA hA', ← UInt8.toNat_inj, hi]
  omega

/-- **What is reported for a letter is what the expanded table says.** -/
theorem barcodeAction_eq_expand {m : ActiveMap} {map : BarcodeMap}
    (h : mapUnpack m.masked = some map) (i : Fin 26) :
    barcodeAction m (letterOf i) = actionFor (expand map i) := by
  obtain ⟨⟨hrange, hnodup⟩, -⟩ := (mapUnpack_eq_some_iff _ map).1 h
  have hletter {c : UInt8} (hc : c ∈ map.letters) :
      letterOf i = c ↔ i.val = (c - letterA).toNat :=
    letterOf_eq_iff (hrange c hc).1 i
  rw [barcodeAction, h]
  simp only [expand, mapEntries, List.foldl]
  simp only [← hletter (c := map.forward) (by simp [BarcodeMap.letters]),
    ← hletter (c := map.left) (by simp [BarcodeMap.letters]),
    ← hletter (c := map.right) (by simp [BarcodeMap.letters]),
    ← hletter (c := map.uturn) (by simp [BarcodeMap.letters])]
  simp only [BarcodeMap.letters, List.nodup_cons, List.mem_cons, List.not_mem_nil, or_false,
    not_or] at hnodup
  -- the table is filled in the other order, but no letter has two actions
  grind [actionFor]

end RoboticCar.Integration
