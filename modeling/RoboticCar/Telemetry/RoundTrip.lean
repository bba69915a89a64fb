import RoboticCar.Telemetry.Fields

/-!
# Round trips of the telemetry codec

The body of a packet is the number of its fields.  Those of a snapshot are its flags and seven
optional sections, each read where the one before it ended (`sectionsContents_pack`,
`sectionFields_of_contents`).  `encode_eq_some_iff` and `parse_eq_some_iff` describe both
directions, and `telemetry_codec` is the round trip.
-/

namespace RoboticCar.Telemetry

open Lib.Bytes Lib.BitField

/-! ## Sections of a snapshot -/

def validFlag (t : Topic) (v : Snapshot) : UInt8 :=
  match t with
  | .motion => v.motionValid
  | .barcode => v.barcodeValid
  | .hump => v.humpValid
  | .heading => v.headingValid
  | .obstacle => v.obstacleValid
  | .state => v.robotStateValid
  | .faults => v.faultsValid
  | _ => 0

variable {t : Topic}

theorem Topic.mem_sections (ht : t ∈ Topic.sections) :
    t = .motion ∨ t = .barcode ∨ t = .hump ∨ t = .heading ∨ t = .obstacle ∨ t = .state ∨
      t = .faults := by
  simpa [Topic.sections] using ht

theorem testBit_validity (ht : t ∈ Topic.sections) (v : Snapshot) :
    v.validity.testBit t.code = (validFlag t v != 0) := by
  have key : ∀ a b c d e f g : Bool, ∀ i : Fin 7,
      (a.toNat ||| b.toNat <<< 1 ||| c.toNat <<< 2 ||| d.toNat <<< 3 ||| e.toNat <<< 4 |||
        f.toNat <<< 5 ||| g.toNat <<< 6).testBit i = [a, b, c, d, e, f, g].get i := by
    decide +kernel
  rcases Topic.mem_sections ht with rfl | rfl | rfl | rfl | rfl | rfl | rfl
  · exact key _ _ _ _ _ _ _ 0
  · exact key _ _ _ _ _ _ _ 1
  · exact key _ _ _ _ _ _ _ 2
  · exact key _ _ _ _ _ _ _ 3
  · exact key _ _ _ _ _ _ _ 4
  · exact key _ _ _ _ _ _ _ 5
  · exact key _ _ _ _ _ _ _ 6

theorem validity_lt (v : Snapshot) : v.validity < 128 := by
  have key : ∀ a b c d e f g : Bool,
      (a.toNat ||| b.toNat <<< 1 ||| c.toNat <<< 2 ||| d.toNat <<< 3 ||| e.toNat <<< 4 |||
        f.toNat <<< 5 ||| g.toNat <<< 6) < 128 := by decide +kernel
  exact key _ _ _ _ _ _ _

def only (t : Topic) (v : Snapshot) : Snapshot :=
  match t with
  | .motion => { motionValid := v.motionValid, leftMms := v.leftMms, rightMms := v.rightMms }
  | .barcode =>
    { barcodeValid := v.barcodeValid, barcodeLetter := v.barcodeLetter
      barcodeAction := v.barcodeAction }
  | .hump => { humpValid := v.humpValid, humpCount := v.humpCount, humpHeightMm := v.humpHeightMm }
  | .heading => { headingValid := v.headingValid, headingDeg := v.headingDeg }
  | .obstacle =>
    { obstacleValid := v.obstacleValid, obstacleDistanceMm := v.obstacleDistanceMm
      obstacleWidthMm := v.obstacleWidthMm, obstacleRoute := v.obstacleRoute }
  | .state => { robotStateValid := v.robotStateValid, robotState := v.robotState }
  | .faults => { faultsValid := v.faultsValid, faults := v.faults }
  | .pose =>
    { poseValid := v.poseValid, poseDistanceCm := v.poseDistanceCm
      poseHeadingDeg := v.poseHeadingDeg }
  | .terrain => { terrainValid := v.terrainValid, terrain := v.terrain }
  | _ => {}

theorem validFlag_only (t : Topic) (v : Snapshot) : validFlag t (only t v) = validFlag t v := by
  cases t <;> rfl

theorem accepts_only (t : Topic) (v : Snapshot) : Accepts t (only t v) = Accepts t v := by
  cases t <;> rfl

theorem fields_only (t : Topic) (v : Snapshot) : fields t (only t v) = fields t v := by
  cases t <;> rfl

def SameSection (t : Topic) (v d : Snapshot) : Prop := only t v = only t d

namespace SameSection

variable {t : Topic} {v d : Snapshot} (h : SameSection t v d)
include h

theorem flag : validFlag t v = validFlag t d := by
  rw [← validFlag_only, h, validFlag_only]

theorem accepts : Accepts t v ↔ Accepts t d := by
  rw [← accepts_only, h, accepts_only]

theorem fields_eq : fields t v = fields t d := by
  rw [← fields_only, h, fields_only]

end SameSection

variable {n : ℕ}

/-- Reading a topic: its own fields do not depend on the view it is read into, the others stay, and
a section becomes valid. -/
theorem only_of_contents {f : Snapshot → Snapshot} (h : contents t n = some f) (d d' : Snapshot) :
    SameSection t (f d) (f d') ∧ (∀ t' ≠ t, SameSection t' (f d) d) ∧
      (t ∈ Topic.sections → validFlag t (f d) = 1) := by
  cases t
  all_goals simp only [contents, ite_eq_iff, reduceCtorEq, and_false, false_or, or_false,
    Option.some.injEq, Option.map_eq_some_iff] at h
  all_goals
    first
    | subst h
    | obtain ⟨-, rfl⟩ := h
    | obtain ⟨_, -, rfl⟩ := h
    | obtain ⟨-, _, -, rfl⟩ := h
    refine ⟨rfl, fun t' hne => ?_, fun ht => ?_⟩
    · cases t' <;> first | exact absurd rfl hne | rfl
    · first | rfl | exact absurd ht (by decide)

def sectionsContents (flags : ℕ) : List Topic → ℕ → Snapshot → Option Snapshot
  | [], _, d => some d
  | t :: ts, n, d =>
    if flags.testBit t.code then
      (contents t n).bind fun f => sectionsContents flags ts (n / 2 ^ t.bodyBits) (f d)
    else if n % 2 ^ t.bodyBits ≠ 0 then none
    else sectionsContents flags ts (n / 2 ^ t.bodyBits) d

def sectionNumber (v : Snapshot) (t : Topic) : ℕ :=
  if v.validity.testBit t.code then pack (fields t v) else 0

def sectionFields (v : Snapshot) (ts : List Topic) : List (ℕ × ℕ) :=
  ts.map fun t => (sectionNumber v t, t.bodyBits)

theorem readZeros_eq (n : ℕ) (r : Reader) :
    readZeros n r = if r.rest % 2 ^ n ≠ 0 then none else some (r.skip n) := by
  induction n generalizing r with
  | zero => simp [readZeros, Nat.mod_one]
  | succ n ih =>
    have hsplit : r.rest % 2 ^ (n + 1) = 0 ↔ r.rest % 2 = 0 ∧ r.rest / 2 % 2 ^ n = 0 := by
      rw [pow_succ', Nat.mod_mul]
      omega
    simp only [readZeros, Reader.get_eq, ih, Reader.rest_skip, Reader.skip_skip, pow_one, ne_eq,
      hsplit, Nat.add_comm 1 n]
    split_ifs <;> first | rfl | tauto

theorem foldlM_readSection (flags : ℕ) (ts : List Topic) (d : Snapshot) (r : Reader) :
    (ts.foldlM (readSection flags) (d, r)).map Prod.fst = sectionsContents flags ts r.rest d := by
  induction ts generalizing d r with
  | nil => rfl
  | cons t ts ih =>
    rw [List.foldlM_cons, sectionsContents, readSection]
    split_ifs with hflag hz
    · rw [readFields_eq]
      cases contents t r.rest with
      | none => rfl
      | some => simp [ih]
    · rw [readZeros_eq, if_pos hz]
      rfl
    · rw [readZeros_eq, if_neg hz]
      simp [ih]

variable {v : Snapshot}

theorem sectionNumber_lt (h : v.validity.testBit t.code → Accepts t v) :
    sectionNumber v t < 2 ^ t.bodyBits := by
  unfold sectionNumber
  split_ifs with hflag
  · rw [← fields_sum (h hflag)]
    exact pack_lt _
  · exact Nat.two_pow_pos _

theorem pack_sectionFields_cons (h : v.validity.testBit t.code → Accepts t v)
    (ts : List Topic) :
    pack (sectionFields v (t :: ts)) =
      sectionNumber v t + 2 ^ t.bodyBits * pack (sectionFields v ts) := by
  rw [sectionFields, List.map_cons, pack, Nat.mod_eq_of_lt (sectionNumber_lt h)]
  rfl

def deliverSections (v : Snapshot) (ts : List Topic) (d : Snapshot) : Snapshot :=
  ts.foldl (fun d t => if v.validity.testBit t.code then delivered t v d else d) d

theorem sectionsContents_pack {ts : List Topic}
    (h : ∀ t ∈ ts, v.validity.testBit t.code → Accepts t v) (d : Snapshot) :
    sectionsContents v.validity ts (pack (sectionFields v ts)) d =
      some (deliverSections v ts d) := by
  induction ts generalizing d with
  | nil => rfl
  | cons t ts ih =>
    obtain ⟨ht, hts⟩ := List.forall_mem_cons.1 h
    have hlt := sectionNumber_lt ht
    have hpack := pack_sectionFields_cons ht ts
    have hdiv : pack (sectionFields v (t :: ts)) / 2 ^ t.bodyBits = pack (sectionFields v ts) := by
      rw [hpack, Nat.add_mul_div_left _ _ (Nat.two_pow_pos _), Nat.div_eq_of_lt hlt, Nat.zero_add]
    have hmod : pack (sectionFields v (t :: ts)) % 2 ^ t.bodyBits = sectionNumber v t := by
      rw [hpack, Nat.add_mul_mod_self_left, Nat.mod_eq_of_lt hlt]
    rw [sectionsContents, hdiv, hmod, deliverSections, List.foldl_cons]
    split_ifs with hflag hz
    · rw [hpack, sectionNumber, if_pos hflag, contents_fields (ht hflag)]
      exact ih hts _
    · exact absurd (by rw [sectionNumber, if_neg hflag]) hz
    · exact ih hts d

/-- Sections that are read would be sent as the number they came from; the others of `d` stay. -/
theorem sectionFields_of_contents {flags : ℕ} {ts : List Topic} (hts : ts ⊆ Topic.sections)
    (hnodup : ts.Nodup) {d : Snapshot} (hd : ∀ t ∈ ts, validFlag t d = 0)
    (h : sectionsContents flags ts n d = some v) :
    (∀ t ∈ ts, (validFlag t v != 0) = flags.testBit t.code ∧
      (flags.testBit t.code → Accepts t v)) ∧
    pack (ts.map fun t => (if flags.testBit t.code then pack (fields t v) else 0, t.bodyBits)) =
      n % 2 ^ (ts.map Topic.bodyBits).sum ∧
    ∀ t ∉ ts, SameSection t v d := by
  induction ts generalizing n d with
  | nil =>
    obtain rfl : d = v := by simpa [sectionsContents] using h
    exact ⟨by simp, by simp [pack, Nat.mod_one], fun t _ => rfl⟩
  | cons t ts ih =>
    obtain ⟨ht, hts⟩ := List.cons_subset.1 hts
    obtain ⟨hnot, hnodup⟩ := List.nodup_cons.1 hnodup
    obtain ⟨hdt, hdts⟩ := List.forall_mem_cons.1 hd
    rw [sectionsContents] at h
    have hsum : n % 2 ^ ((t :: ts).map Topic.bodyBits).sum = n % 2 ^ t.bodyBits +
        2 ^ t.bodyBits * (n / 2 ^ t.bodyBits % 2 ^ (ts.map Topic.bodyBits).sum) := by
      rw [List.map_cons, List.sum_cons, pow_add, Nat.mod_mul]
    by_cases hflag : flags.testBit t.code
    · rw [if_pos hflag, Option.bind_eq_some_iff] at h
      obtain ⟨f, hf, h⟩ := h
      obtain ⟨-, hkeep, hvalid⟩ := only_of_contents hf d d
      have hne : ∀ t' ∈ ts, t' ≠ t := fun t' h' heq => hnot (heq ▸ h')
      obtain ⟨hall, hpack, hrest⟩ := ih hts hnodup
        (fun t' h' => (hkeep t' (hne t' h')).flag.trans (hdts t' h')) h
      have hsame := hrest t hnot
      refine ⟨List.forall_mem_cons.2 ⟨⟨?_, fun _ => ?_⟩, hall⟩, ?_, fun t' h' => ?_⟩
      · rw [hsame.flag, hvalid ht, hflag]
        rfl
      · exact hsame.accepts.2 (fields_of_contents hf d).1
      · rw [hsum, List.map_cons, pack, hpack, if_pos hflag, hsame.fields_eq,
          pack_fields_of_contents hf, Nat.mod_mod]
      · exact Eq.trans (hrest t' (List.not_mem_of_not_mem_cons h'))
          (hkeep t' (List.ne_of_not_mem_cons h'))
    · rw [if_neg hflag] at h
      split_ifs at h with hz
      obtain ⟨hall, hpack, hrest⟩ := ih hts hnodup hdts h
      have hsame := hrest t hnot
      refine ⟨List.forall_mem_cons.2 ⟨⟨?_, fun h' => absurd h' hflag⟩, hall⟩, ?_, fun t' h' => ?_⟩
      · rw [hsame.flag, hdt, Bool.eq_false_iff.2 hflag]
        rfl
      · rw [hsum, List.map_cons, pack, hpack, if_neg hflag, not_not.1 hz, Nat.zero_mod]
      · exact hrest t' (List.not_mem_of_not_mem_cons h')

/-! ## Bodies -/

/-- The values `encode` accepts. -/
def BodyAccepts (t : Topic) (v : Snapshot) : Prop :=
  match t with
  | .snapshot => ∀ s ∈ Topic.sections, v.validity.testBit s.code = true → Accepts s v
  | .status => v.faultsValid ≠ 0 → v.faults.toNat < 64
  | t => Accepts t v

def sentFields (v : Snapshot) (t : Topic) : List (ℕ × ℕ) :=
  if v.validity.testBit t.code then fields t v else [(0, t.bodyBits)]

def bodyFields (t : Topic) (v : Snapshot) : List (ℕ × ℕ) :=
  match t with
  | .snapshot => (v.validity, 7) :: Topic.sections.flatMap (sentFields v)
  | .status =>
    [(1, 1), ((v.faultsValid != 0).toNat, 1),
      (if v.faultsValid ≠ 0 then v.faults.toNat else 0, faultBits)]
  | t => fields t v

def bodyContents (t : Topic) (n : ℕ) : Option Snapshot :=
  match t with
  | .snapshot => sectionsContents (n % 128) Topic.sections (n / 128) {}
  | .status =>
    if n % 2 ≠ 1 then none
    else if n / 2 % 2 = 0 ∧ n / 4 % 64 ≠ 0 then none
    else some { faultsValid := UInt8.ofNat (n / 2 % 2), faults := UInt8.ofNat (n / 4 % 64) }
  | t => (contents t n).map fun f => f {}

def carried (t : Topic) (v : Snapshot) : Snapshot :=
  match t with
  | .snapshot => deliverSections v Topic.sections {}
  | .status =>
    { faultsValid := flag v.faultsValid, faults := if v.faultsValid ≠ 0 then v.faults else 0 }
  | t => delivered t v {}

theorem foldlM_writeSection (v : Snapshot) (ts : List Topic) (w w' : Writer) :
    ts.foldlM (writeSection v v.validity) w = some w' ↔
      (∀ t ∈ ts, v.validity.testBit t.code → Accepts t v) ∧
        w' = w.puts (ts.flatMap (sentFields v)) := by
  induction ts generalizing w with
  | nil => exact ⟨fun h => ⟨by simp, (Option.some.inj h).symm⟩, fun h => by rw [h.2]; rfl⟩
  | cons t ts ih =>
    rw [List.foldlM_cons, List.forall_mem_cons, List.flatMap_cons, Writer.puts_append, writeSection,
      sentFields]
    split_ifs with hflag
    · simp only [Option.bind_eq_bind, Option.bind_eq_some_iff, writeFields_eq, ih]
      constructor
      · rintro ⟨_, ⟨ht, rfl⟩, hts, rfl⟩
        exact ⟨⟨fun _ => ht, hts⟩, rfl⟩
      · rintro ⟨⟨ht, hts⟩, rfl⟩
        exact ⟨_, ⟨ht hflag, rfl⟩, hts, rfl⟩
    · simp only [Option.bind_eq_bind, Option.bind_some, ih]
      exact and_congr_left fun _ => ⟨fun h => ⟨fun h' => absurd h' hflag, h⟩, fun h => h.2⟩

theorem writeBody_eq (t : Topic) (v : Snapshot) (w w' : Writer) :
    writeBody t v w = some w' ↔ BodyAccepts t v ∧ w' = w.puts (bodyFields t v) := by
  cases t
  case snapshot => exact foldlM_writeSection v _ _ _
  case status =>
    simp only [writeBody, BodyAccepts, bodyFields, Writer.puts, List.foldl, ite_eq_iff,
      reduceCtorEq, and_false, false_or, Option.some.injEq, eq_comm (a := w'), not_and, ne_eq,
      not_not,
      faults_and_eq_zero]
  all_goals
    simp only [writeBody, BodyAccepts, bodyFields]
    exact writeFields_eq _ v w w'

theorem sentFields_fit (h : v.validity.testBit t.code → Accepts t v)
    (ht : t ∈ Topic.sections) :
    (∀ f ∈ sentFields v t, f.1 < 2 ^ f.2 ∧ f.2 ≤ 32) ∧
      ((sentFields v t).map Prod.snd).sum = t.bodyBits ∧
      pack (sentFields v t) = sectionNumber v t := by
  have hle : ∀ t ∈ Topic.sections, t.bodyBits ≤ 32 := by decide
  unfold sentFields sectionNumber
  split_ifs with hflag
  · exact ⟨fields_fit (h hflag), fields_sum (h hflag), rfl⟩
  · refine ⟨?_, by simp, by simp [pack]⟩
    rintro f hf
    obtain rfl := List.mem_singleton.1 hf
    exact ⟨Nat.two_pow_pos _, hle t ht⟩

theorem pack_sentFields {ts : List Topic} (hts : ts ⊆ Topic.sections)
    (h : ∀ t ∈ ts, v.validity.testBit t.code → Accepts t v) :
    ((ts.flatMap (sentFields v)).map Prod.snd).sum = (ts.map Topic.bodyBits).sum ∧
      pack (ts.flatMap (sentFields v)) = pack (sectionFields v ts) := by
  induction ts with
  | nil => exact ⟨rfl, rfl⟩
  | cons t ts ih =>
    obtain ⟨ht, hts⟩ := List.cons_subset.1 hts
    obtain ⟨ha, has⟩ := List.forall_mem_cons.1 h
    obtain ⟨hsum, hpack⟩ := ih hts has
    obtain ⟨-, hsum', hpack'⟩ := sentFields_fit ha ht
    refine ⟨?_, ?_⟩
    · rw [List.flatMap_cons, List.map_append, List.sum_append, hsum, hsum', List.map_cons,
        List.sum_cons]
    · rw [List.flatMap_cons, pack_append, hpack, hsum', hpack', pack_sectionFields_cons ha]

theorem bodyFields_fit (h : BodyAccepts t v) :
    (∀ f ∈ bodyFields t v, f.1 < 2 ^ f.2 ∧ f.2 ≤ 32) ∧
      ((bodyFields t v).map Prod.snd).sum = t.bodyBits := by
  cases t
  case snapshot =>
    have hsum := (pack_sentFields (List.Subset.refl _) h).1
    refine ⟨List.forall_mem_cons.2 ⟨⟨validity_lt v, (by decide : 7 ≤ 32)⟩, ?_⟩, ?_⟩
    · intro f hf
      obtain ⟨t, ht, hf⟩ := List.mem_flatMap.1 hf
      exact (sentFields_fit (h t ht) ht).1 f hf
    · rw [bodyFields, List.map_cons, List.sum_cons, hsum]
      rfl
  case status =>
    refine ⟨?_, rfl⟩
    simp only [bodyFields, List.forall_mem_cons, List.not_mem_nil, false_imp_iff, implies_true,
      and_true, faultBits]
    refine ⟨by decide, ⟨Bool.toNat_lt _, by decide⟩, ?_, by decide⟩
    split_ifs with hv
    · exact h hv
    · decide
  all_goals
    simp only [BodyAccepts, bodyFields] at h ⊢
    exact ⟨fields_fit h, fields_sum h⟩

theorem readBody_eq (t : Topic) (r : Reader) : readBody t r = bodyContents t r.rest := by
  cases t
  case snapshot =>
    simp only [readBody, Reader.get_eq, bodyContents, foldlM_readSection, Reader.rest_skip,
      Nat.reducePow]
  case status =>
    simp (disch := omega) only [readBody, Reader.get_eq, bodyContents, Reader.rest_skip,
      Nat.reducePow, pow_one,
      faultBits, ne_eq, UInt8_ofNat_eq_zero, Nat.div_div_eq_div_mul, Nat.reduceMul]
  all_goals
    simp only [readBody, bodyContents, readFields_eq, Option.map_map]
    rfl

/-- **A sent body is read back.** -/
theorem bodyContents_pack (h : BodyAccepts t v) :
    bodyContents t (pack (bodyFields t v)) = some (carried t v) := by
  cases t
  case snapshot =>
    have hpack := (pack_sentFields (List.Subset.refl _) h).2
    have hv := validity_lt v
    have hn : pack (bodyFields .snapshot v) =
        v.validity + 128 * pack (sectionFields v Topic.sections) := by
      rw [bodyFields, pack, hpack, Nat.mod_eq_of_lt (by simpa using hv)]
      rfl
    have hmod : pack (bodyFields .snapshot v) % 128 = v.validity := by rw [hn]; omega
    have hdiv : pack (bodyFields .snapshot v) / 128 = pack (sectionFields v Topic.sections) := by
      rw [hn]; omega
    rw [bodyContents, hmod, hdiv]
    exact sectionsContents_pack h {}
  case status =>
    have hread := unpack_pack fun f hf => ((bodyFields_fit h).1 f hf).1
    generalize pack (bodyFields .status v) = n at hread ⊢
    simp only [bodyFields, List.map, unpack, List.cons.injEq, Nat.reducePow, faultBits, pow_one,
      Nat.div_div_eq_div_mul, Nat.reduceMul, and_true] at hread
    obtain ⟨h1, h2, h3⟩ := hread
    simp only [bodyContents, h1, h2, h3, carried, UInt8_ofNat_bne]
    by_cases hv : v.faultsValid = 0
    · simp [hv]
    · simp [hv, bne_iff_ne.2 hv]
  all_goals
    simp only [BodyAccepts, bodyFields, bodyContents, carried] at h ⊢
    simpa using congrArg (Option.map fun f : Snapshot → Snapshot => f {}) (contents_fields h 0)

theorem validity_eq_of_testBit {flags : ℕ} (hf : flags < 128)
    (h : ∀ t ∈ Topic.sections, (validFlag t v != 0) = flags.testBit t.code) :
    v.validity = flags := by
  refine Nat.eq_of_testBit_eq fun i => ?_
  by_cases hi : i < 7
  · obtain ⟨t, ht, rfl⟩ : ∃ t ∈ Topic.sections, t.code = i := by
      have key : ∀ j : Fin 7, ∃ t ∈ Topic.sections, t.code = j := by decide
      exact key ⟨i, hi⟩
    rw [testBit_validity ht, h t ht]
  · have hpow : 2 ^ 7 ≤ 2 ^ i := Nat.pow_le_pow_right (by decide) (not_lt.1 hi)
    rw [Nat.testBit_lt_two_pow ((validity_lt v).trans_le hpow),
      Nat.testBit_lt_two_pow (lt_of_lt_of_le hf hpow)]

/-- **A body that is read would be sent** as the same number. -/
theorem bodyFields_of_contents (hn : n < 2 ^ t.bodyBits) (h : bodyContents t n = some v) :
    BodyAccepts t v ∧ pack (bodyFields t v) = n := by
  cases t
  case snapshot =>
    obtain ⟨hall, hpack, -⟩ := sectionFields_of_contents (List.Subset.refl Topic.sections)
      (by decide) (by decide) h
    have hflags : v.validity = n % 128 :=
      validity_eq_of_testBit (Nat.mod_lt _ (by decide)) fun t ht => (hall t ht).1
    have haccepts : BodyAccepts .snapshot v := fun t ht hb =>
      (hall t ht).2 (by rw [← hflags]; exact hb)
    refine ⟨haccepts, ?_⟩
    have hsections : pack (sectionFields v Topic.sections) = n / 128 := by
      rw [← hflags] at hpack
      rw [Topic.bodyBits, faultBits] at hn
      rw [sectionFields]
      refine hpack.trans (Nat.mod_eq_of_lt ?_)
      rw [Nat.div_lt_iff_lt_mul (by decide)]
      exact hn
    rw [bodyFields, pack, (pack_sentFields (List.Subset.refl _) haccepts).2, hsections, hflags]
    omega
  case status =>
    simp only [bodyContents, ite_eq_iff, reduceCtorEq, and_false, false_or, Option.some.injEq] at h
    obtain ⟨halive, hzero, rfl⟩ := h
    rw [Topic.bodyBits, faultBits] at hn
    simp (disch := omega) only [BodyAccepts, bodyFields, pack, faultBits, bne_ofNat_mod_two,
      toNat_ofNat8, ne_eq, UInt8_ofNat_eq_zero]
    refine ⟨fun _ => by omega, ?_⟩
    split_ifs <;> omega
  all_goals
    simp only [BodyAccepts, bodyFields, bodyContents, Option.map_eq_some_iff] at h ⊢
    obtain ⟨f, hf, rfl⟩ := h
    exact ⟨(fields_of_contents hf {}).1,
      (pack_fields_of_contents hf {}).trans (Nat.mod_eq_of_lt hn)⟩

/-! ## Packets -/

/-- The version byte and a body of `bits` bits with the given number. -/
structure IsPacket (bits : ℕ) (packet : List UInt8) (n : ℕ) : Prop where
  lt : n < 2 ^ bits
  eq : ∃ body, packet = wireVersion :: body ∧ body.length = (bits + 7) / 8 ∧ number body = n

theorem IsPacket.unique {bits : ℕ} {p q : List UInt8} (h : IsPacket bits p n)
    (h' : IsPacket bits q n) : p = q := by
  obtain ⟨b, rfl, hlen, hb⟩ := h.eq
  obtain ⟨b', rfl, hlen', hb'⟩ := h'.eq
  rw [number_inj (hlen.trans hlen'.symm) (hb.trans hb'.symm)]

theorem payloadSize_sub (t : Topic) : t.payloadSize - 1 = (t.bodyBits + 7) / 8 := by
  rw [Topic.payloadSize, Nat.add_sub_cancel_left]

/-- **The packets `encode` makes.** -/
theorem encode_eq_some_iff (t : Topic) (v : Snapshot) (capacity : ℕ) (packet : List UInt8) :
    encode t v capacity = some packet ↔
      t.payloadSize ≤ capacity ∧ BodyAccepts t v ∧
        IsPacket t.bodyBits packet (pack (bodyFields t v)) := by
  have hmap : BodyAccepts t v → t ≠ .mapReply := by rintro h rfl; exact h
  have hsent : BodyAccepts t v → IsPacket t.bodyBits
      (wireVersion ::
        (Writer.puts ⟨List.replicate (t.payloadSize - 1) 0, 0⟩ (bodyFields t v)).bytes)
      (pack (bodyFields t v)) := by
    intro h
    obtain ⟨hfit, hsum⟩ := bodyFields_fit h
    have hholds := Writer.puts_holds (Writer.holds_zero (t.payloadSize - 1)) hfit
      (by rw [hsum, payloadSize_sub]; omega)
    rw [zero_add, zero_add, pow_zero, one_mul] at hholds
    refine ⟨hsum ▸ hholds.lt, _, rfl, ?_, hholds.number_eq⟩
    rw [hholds.length, payloadSize_sub]
  unfold encode
  split_ifs with h
  · simp only [false_iff]
    rintro ⟨hcap, haccepts, -⟩
    exact h.elim (fun hlt => absurd hcap (not_le.2 hlt)) (hmap haccepts)
  · simp only [Option.map_eq_some_iff, writeBody_eq]
    constructor
    · rintro ⟨_, ⟨haccepts, rfl⟩, rfl⟩
      exact ⟨by omega, haccepts, hsent haccepts⟩
    · rintro ⟨-, haccepts, hpacket⟩
      exact ⟨_, ⟨haccepts, rfl⟩, (hsent haccepts).unique hpacket⟩

theorem padding_iff {bits : ℕ} {body : List UInt8} (hlen : body.length = (bits + 7) / 8) :
    (bits % 8 ≠ 0 ∧
      ((wireVersion :: body).getD ((wireVersion :: body).length - 1) 0).toNat >>> (bits % 8) ≠ 0) ↔
    ¬ number body < 2 ^ bits := by
  by_cases hr : bits % 8 = 0
  · have hlt := number_lt body
    rw [hlen, show 8 * ((bits + 7) / 8) = bits by omega] at hlt
    simp [hr, hlt]
  · obtain ⟨p, last, rfl⟩ : ∃ p last, body = p ++ [last] :=
      ⟨_, _, (List.dropLast_append_getLast fun h => by rw [h] at hlen; simp at hlen; omega).symm⟩
    rw [List.length_append, List.length_singleton] at hlen
    have hlast : (wireVersion :: (p ++ [last])).getD ((wireVersion :: (p ++ [last])).length - 1) 0 =
        last := by
      simp
    have hiff := number_lt_iff_last p last (bits % 8)
    rw [show 8 * p.length + bits % 8 = bits by omega] at hiff
    rw [hlast, hiff]
    simp [hr]

/-- **What `parse` makes of a packet.** -/
theorem parse_eq_some_iff (t : Topic) (packet : List UInt8) (v : Snapshot) :
    parse t packet = some v ↔
      t ≠ .mapReply ∧ ∃ n, IsPacket t.bodyBits packet n ∧ bodyContents t n = some v := by
  simp only [parse, ite_eq_iff, reduceCtorEq, and_false, false_or, readBody_eq, Reader.rest_start]
  constructor
  · rintro ⟨hhead, hpad, hbody⟩
    simp only [not_or, not_not, ne_eq] at hhead
    obtain ⟨hmap, hlen, hversion⟩ := hhead
    obtain ⟨b, body, rfl⟩ : ∃ b body, packet = b :: body := by
      refine List.exists_cons_of_length_pos ?_
      rw [hlen, Topic.payloadSize]
      omega
    obtain rfl : b = wireVersion := hversion
    have hlen' : body.length = (t.bodyBits + 7) / 8 := by
      rw [List.length_cons, Topic.payloadSize] at hlen
      omega
    rw [padding_iff hlen', not_not] at hpad
    exact ⟨hmap, number body, ⟨hpad, body, rfl, hlen', rfl⟩, hbody⟩
  · rintro ⟨hmap, n, ⟨hlt, body, rfl, hlen, rfl⟩, hbody⟩
    refine ⟨?_, ?_, hbody⟩
    · simp only [not_or, not_not, ne_eq]
      refine ⟨hmap, ?_, rfl⟩
      rw [List.length_cons, hlen, Topic.payloadSize, add_comm]
    · rw [padding_iff hlen, not_not]
      exact hlt

theorem parse_of_decode {packet : List UInt8} {out : Snapshot}
    (h : decode t packet out = (true, v)) : parse t packet = some v := by
  unfold decode at h
  split at h
  · rename_i hp
    rw [hp, (Prod.mk.inj h).2]
  · cases h

def mapFields (m : BarcodeMap) : List (ℕ × ℕ) := m.letters.map fun c => ((c - letterA).toNat, 5)

def mapOf (n : ℕ) : BarcodeMap :=
  ⟨letterA + UInt8.ofNat (n % 32), letterA + UInt8.ofNat (n / 32 % 32),
    letterA + UInt8.ofNat (n / 1024 % 32), letterA + UInt8.ofNat (n / 32768 % 32)⟩

theorem mapFields_fit {m : BarcodeMap} (h : m.Valid) :
    ∀ f ∈ mapFields m, f.1 < 2 ^ f.2 ∧ f.2 ≤ 32 := by
  rintro f hf
  obtain ⟨c, hc, rfl⟩ := List.mem_map.1 hf
  obtain ⟨hA, hZ⟩ := h.1 c hc
  have hA' : 65 ≤ c.toNat := UInt8.le_iff_toNat_le.1 hA
  have hZ' : c.toNat ≤ 90 := UInt8.le_iff_toNat_le.1 hZ
  simp only [toNat_sub_letterA hA']
  omega

/-- **The packets `mapPack` makes.** -/
theorem mapPack_eq_some_iff (m : BarcodeMap) (packet : List UInt8) :
    mapPack m = some packet ↔ m.Valid ∧ IsPacket 20 packet (pack (mapFields m)) := by
  have hsent : m.Valid → IsPacket 20
      (wireVersion :: (Writer.puts ⟨List.replicate 3 0, 0⟩ (mapFields m)).bytes)
      (pack (mapFields m)) := by
    intro h
    have hsum : ((mapFields m).map Prod.snd).sum = 20 := rfl
    have hholds := Writer.puts_holds (Writer.holds_zero 3) (mapFields_fit h) (by rw [hsum]; decide)
    rw [zero_add, zero_add, pow_zero, one_mul] at hholds
    exact ⟨hsum ▸ hholds.lt, _, rfl, hholds.length, hholds.number_eq⟩
  unfold mapPack
  split_ifs with h
  · rw [Option.some.injEq]
    refine ⟨?_, fun hp => (hsent h).unique hp.2⟩
    rintro rfl
    exact ⟨h, hsent h⟩
  · simp [h]

theorem mapOf_pack {m : BarcodeMap} (h : m.Valid) : mapOf (pack (mapFields m)) = m := by
  have hread := unpack_pack fun f hf => (mapFields_fit h f hf).1
  generalize pack (mapFields m) = n at hread ⊢
  have hback : ∀ c ∈ m.letters, letterA + UInt8.ofNat (c - letterA).toNat = c := fun c hc =>
    letterA_add_sub (UInt8.le_iff_toNat_le.1 (h.1 c hc).1) (UInt8.le_iff_toNat_le.1 (h.1 c hc).2)
  simp only [mapFields, BarcodeMap.letters, List.map, unpack, List.cons.injEq, Nat.reducePow,
    Nat.div_div_eq_div_mul, Nat.reduceMul, and_true] at hread
  obtain ⟨h1, h2, h3, h4⟩ := hread
  rw [mapOf, h1, h2, h3, h4, hback _ (by simp [BarcodeMap.letters]),
    hback _ (by simp [BarcodeMap.letters]), hback _ (by simp [BarcodeMap.letters]),
    hback _ (by simp [BarcodeMap.letters])]

theorem pack_mapOf (hn : n < 2 ^ 20) : pack (mapFields (mapOf n)) = n := by
  have hsub : ∀ k < 32, (letterA + UInt8.ofNat k - letterA).toNat = k := fun k hk => by
    rw [toNat_sub_letterA (by rw [toNat_letterA_add hk]; omega), toNat_letterA_add hk]
    omega
  simp only [mapFields, mapOf, BarcodeMap.letters, List.map, hsub (n % 32) (by omega),
    hsub (n / 32 % 32) (by omega), hsub (n / 1024 % 32) (by omega),
    hsub (n / 32768 % 32) (by omega), pack]
  omega

theorem mapPack_isSome (m : BarcodeMap) : (mapPack m).isSome = true ↔ m.Valid := by
  unfold mapPack
  split_ifs with h <;> simp [h]

theorem high_nibble_eq_zero (b : UInt8) : b &&& 0xf0 = 0 ↔ b.toNat >>> 4 = 0 :=
  high_bits_eq_zero 4 b

/-- **What `mapUnpack` makes of a packet.** -/
theorem mapUnpack_eq_some_iff (packet : List UInt8) (m : BarcodeMap) :
    mapUnpack packet = some m ↔ m.Valid ∧ ∃ n, IsPacket 20 packet n ∧ mapOf n = m := by
  simp only [mapUnpack, ite_eq_iff, reduceCtorEq, and_false, false_or, or_false, Reader.get_eq,
    Reader.rest_skip, Reader.rest_start, Nat.reducePow, Nat.div_div_eq_div_mul, Nat.reduceMul,
    mapPack_isSome, Option.some.injEq]
  constructor
  · rintro ⟨hhead, hvalid, rfl⟩
    simp only [not_or, not_not, ne_eq, mapBytes, high_nibble_eq_zero] at hhead
    obtain ⟨hlen, hversion, hhigh⟩ := hhead
    obtain ⟨a, b, c, d, rfl⟩ := List.length_eq_four.1 hlen
    obtain rfl : a = wireVersion := hversion
    refine ⟨hvalid, number [b, c, d], ⟨?_, [b, c, d], rfl, rfl, rfl⟩, rfl⟩
    exact (number_lt_iff_last [b, c] d 4).2 hhigh
  · rintro ⟨hvalid, n, ⟨hlt, body, rfl, hlen, rfl⟩, rfl⟩
    obtain ⟨b, c, d, rfl⟩ := List.length_eq_three.1 hlen
    refine ⟨?_, hvalid, rfl⟩
    simp only [not_or, not_not, ne_eq, mapBytes, high_nibble_eq_zero]
    exact ⟨rfl, rfl, (number_lt_iff_last [b, c] d 4).1 hlt⟩

/-- **The telemetry codec.**  What `encode` accepts is decoded as `carried`: the fields sent, with
all else zero and speeds rounded to multiples of 2.  What `decode` accepts is encoded to the same
bytes; a refusal leaves the output alone; map packets are inverse to valid maps. -/
theorem telemetry_codec :
    (∀ t v capacity packet out, encode t v capacity = some packet →
      decode t packet out = (true, carried t v)) ∧
    (∀ x, 2 ∣ nearestEven x ∧ |nearestEven x - x| ≤ 1 ∧ |x| ≤ |nearestEven x|) ∧
    (∀ t packet out v capacity, decode t packet out = (true, v) → t.payloadSize ≤ capacity →
      encode t v capacity = some packet) ∧
    (∀ t packet out, (decode t packet out).1 = false → (decode t packet out).2 = out) ∧
    (∀ m packet, mapPack m = some packet → mapUnpack packet = some m) ∧
    (∀ m packet, mapUnpack packet = some m → mapPack m = some packet) ∧
    ∀ m, (mapPack m).isSome = true ↔ m.Valid := by
  refine ⟨?_, ?_, ?_, ?_, ?_, ?_, mapPack_isSome⟩
  · intro t v capacity packet out h
    obtain ⟨-, haccepts, hpacket⟩ := (encode_eq_some_iff t v capacity packet).1 h
    have hmap : t ≠ .mapReply := by rintro rfl; exact haccepts
    have hparse := (parse_eq_some_iff t packet _).2
      ⟨hmap, _, hpacket, bodyContents_pack haccepts⟩
    rw [decode, hparse]
  · exact fun x => ⟨two_dvd_nearestEven x, abs_nearestEven_sub_le x, abs_le_abs_nearestEven x⟩
  · intro t packet out v capacity h hcap
    have hparse := parse_of_decode h
    obtain ⟨-, n, hpacket, hbody⟩ := (parse_eq_some_iff t packet v).1 hparse
    obtain ⟨haccepts, rfl⟩ := bodyFields_of_contents hpacket.lt hbody
    exact (encode_eq_some_iff t v capacity packet).2 ⟨hcap, haccepts, hpacket⟩
  · intro t packet out h
    unfold decode at h ⊢
    split at h
    · cases h
    · rfl
  · intro m packet h
    obtain ⟨hvalid, hpacket⟩ := (mapPack_eq_some_iff m packet).1 h
    exact (mapUnpack_eq_some_iff packet m).2 ⟨hvalid, _, hpacket, mapOf_pack hvalid⟩
  · intro m packet h
    obtain ⟨hvalid, n, hpacket, rfl⟩ := (mapUnpack_eq_some_iff packet m).1 h
    refine (mapPack_eq_some_iff _ packet).2 ⟨hvalid, ?_⟩
    rw [pack_mapOf hpacket.lt]
    exact hpacket

/-- A snapshot with two valid sections: 5 and -3 mm/s arrive as 6 and -4. -/
theorem telemetry_codec_rounds :
    decode .snapshot [3, 193, 1, 2, 1, 0, 0, 0, 0, 0, 0, 0, 0, 9] {} =
      (true, { motionValid := 1, leftMms := 6, rightMms := -4, faultsValid := 1, faults := 9 }) :=
  telemetry_codec.1 .snapshot
    { motionValid := 2, leftMms := 5, rightMms := -3, faultsValid := 1, faults := 9 } 14 _ {}
    (by decide +kernel)

end RoboticCar.Telemetry
