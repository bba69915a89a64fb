import RoboticCar.Lib.Run
import RoboticCar.Telemetry.RoundTrip

/-!
# The telemetry cache

The car keeps what it last reported as a packed snapshot.  A report decodes it, replaces one section
and encodes it again; each update is one critical section, followed by a packet to the outbox.

`cache_correct` says what is left after any number of calls: what the cache decodes to is what it
would be decoded to again (`Cached`), so writing one section leaves the bits of the others
(`snapshotBits_other`).
-/

namespace RoboticCar.Telemetry

open Lib.Bytes Lib.BitField

/-! ## The model -/

/-- What a call returns; `kernel` stands for what a failed kernel call returned. -/
inductive Er
  | ok | par | sys | obj | kernel
  deriving DecidableEq

/-- `BUDDY1_PAYLOAD_MAX`. -/
def payloadMax : ℕ := 14

/-- The cached packet and the outbox with its oldest message first. -/
structure Cache where
  latest : List UInt8
  outbox : List (Topic × List UInt8)
  deriving DecidableEq

/-- What the kernel answers: whether the mutex exists, and the lock and a place were granted. -/
structure Kernel where
  created : Bool
  locks : Bool
  sends : Bool

namespace Cache

/-- `latest` as it is initialised. -/
def boot : Cache := ⟨wireVersion :: List.replicate 13 0, []⟩

/-- `buddy1_queue_publish`. -/
def queuePublish (k : Kernel) (s : Cache) (topic : Topic) (payload : List UInt8) : Er × Cache :=
  if !payloadValid topic payload then (.par, s)
  else if k.sends then (.ok, { s with outbox := s.outbox ++ [(topic, payload)] })
  else (.kernel, s)

end Cache

def writeSections (v : Snapshot) (flags : ℕ) : List Topic → Writer → Bool × Writer
  | [], w => (true, w)
  | t :: ts, w =>
    match writeSection v flags w t with
    | none => (false, w)
    | some w => writeSections v flags ts w

/-- `buddy1_encode` of a snapshot over the zeroed packet; a refusal leaves what had been written. -/
def encodeSnapshot (v : Snapshot) (packet : List UInt8) : Bool × List UInt8 :=
  let size := Topic.snapshot.payloadSize
  if packet.length < size then (false, packet)
  else
    let w : Writer := ⟨List.replicate (size - 1) 0, 0⟩
    let r := writeSections v v.validity Topic.sections (w.put v.validity 7)
    (r.1, wireVersion :: r.2.bytes ++ packet.drop size)

/-- The view with the section of a topic replaced and marked valid, for the topics with a section.
-/
def withSection (t : Topic) (v cache : Snapshot) : Option Snapshot :=
  match t with
  | .motion => some { cache with motionValid := 1, leftMms := v.leftMms, rightMms := v.rightMms }
  | .barcode => some { cache with
      barcodeValid := 1, barcodeLetter := v.barcodeLetter, barcodeAction := v.barcodeAction }
  | .hump => some { cache with
      humpValid := 1, humpCount := v.humpCount, humpHeightMm := v.humpHeightMm }
  | .heading => some { cache with headingValid := 1, headingDeg := v.headingDeg }
  | .obstacle => some { cache with
      obstacleValid := 1, obstacleDistanceMm := v.obstacleDistanceMm
      obstacleWidthMm := v.obstacleWidthMm, obstacleRoute := v.obstacleRoute }
  | .state => some { cache with robotStateValid := 1, robotState := v.robotState }
  | _ => none

def storeSection (t : Topic) (v : Snapshot) (latest : List UInt8) : Er × List UInt8 :=
  match parse .snapshot latest with
  | none => (.sys, latest)
  | some cache =>
    match withSection t v cache with
    | none => (.par, latest)
    | some cache =>
      let r := encodeSnapshot cache latest
      (if r.1 then .ok else .par, r.2)

def liveOnly (t : Topic) : Bool := decide (t = .pose ∨ t = .terrain)

def report (k : Kernel) (s : Cache) (t : Topic) (v : Snapshot) : Er × Cache :=
  match encode t v payloadMax with
  | none => (.par, s)
  | some payload =>
    if liveOnly t then s.queuePublish k t payload
    else if !k.locks then (.kernel, s)
    else
      let r := storeSection t v s.latest
      let s := { s with latest := r.2 }
      if r.1 ≠ .ok then (r.1, s) else s.queuePublish k t payload

def withFaults (changed active : UInt8) (v : Snapshot) : Snapshot :=
  { v with faults := (v.faults &&& ~~~changed) ||| active, faultsValid := 1 }

/-- `buddy1_update_faults` up to the end of its critical section: an error, or the packet to be
placed. -/
def lockedUpdate (k : Kernel) (s : Cache) (changed active : UInt8) :
    Except Er (Cache × List UInt8) :=
  if changed = 0 ∨ changed &&& ~~~faultMask ≠ 0 ∨ active &&& ~~~changed ≠ 0 then .error .par
  else if !k.created then .error .obj
  else if !k.locks then .error .kernel
  else
    match parse .snapshot s.latest with
    | none => .error .sys
    | some v =>
      let v := withFaults changed active v
      .ok ({ s with latest := (encodeSnapshot v s.latest).2 },
        (encode .faults v 2).getD [wireVersion, 0])

/-- `buddy1_update_faults`. -/
def updateFaults (k : Kernel) (s : Cache) (changed active : UInt8) : Er × Cache :=
  match lockedUpdate k s changed active with
  | .error code => (code, s)
  | .ok (s, packet) => s.queuePublish k .faults packet

def sectionOffset (t : Topic) : ℕ :=
  7 + ((Topic.sections.takeWhile (· ≠ t)).map Topic.bodyBits).sum

/-- The bytes after `buddy1_invalidate` of a section. -/
def clearSection (t : Topic) (latest : List UInt8) : List UInt8 :=
  latest.take 1 ++ clearBits (clearBit latest.tail t.code) (sectionOffset t) t.bodyBits

/-- `buddy1_invalidate` of the topic with the given selector. -/
def invalidate (k : Kernel) (s : Cache) (type : UInt8) : Er × Cache :=
  match Topic.sections[type.toNat]? with
  | none => (.par, s)
  | some t => if !k.locks then (.kernel, s) else (.ok, { s with latest := clearSection t s.latest })

/-- The value of an enumeration that a caller passes as a number. -/
def ofCode {α : Type} (ofCode? : ℕ → Option α) (code : ℤ) : Option α :=
  if 0 ≤ code then ofCode? code.toNat else none

/-- A call, with its arguments as they come: an obstacle route and a robot state are numbers. -/
inductive Call
  | motion (leftMms rightMms : Int16)
  | barcode (letter : UInt8) (action : BarcodeAction)
  | hump (count heightMm : UInt16)
  | heading (headingDeg : Int16)
  | obstacle (distanceMm widthMm : UInt16) (route : ℤ)
  | pose (distanceCmMod : UInt16) (headingDeg : Int16)
  | terrain (terrain : Terrain)
  | robotState (state : ℤ)
  | updateFaults (changed active : UInt8)
  | invalidate (type : UInt8)
  deriving DecidableEq

/-- The topic and the view of a report; an enumeration out of its range is refused. -/
def Call.reports : Call → Option (Topic × Option Snapshot)
  | .motion left right => some (.motion, some { leftMms := left, rightMms := right })
  | .barcode letter action =>
    some (.barcode, some { barcodeLetter := letter, barcodeAction := action })
  | .hump count height => some (.hump, some { humpCount := count, humpHeightMm := height })
  | .heading deg => some (.heading, some { headingDeg := deg })
  | .obstacle distance width route =>
    some (.obstacle, (ofCode ObstacleRoute.ofCode? route).map fun route =>
      { obstacleDistanceMm := distance, obstacleWidthMm := width, obstacleRoute := route })
  | .pose distance deg => some (.pose, some { poseDistanceCm := distance, poseHeadingDeg := deg })
  | .terrain values => some (.terrain, some { terrain := values })
  | .robotState state =>
    some (.state, (ofCode RobotState.ofCode? state).map fun state => { robotState := state })
  | .updateFaults _ _ | .invalidate _ => none

def Cache.call (s : Cache) (c : Call × Kernel) : Er × Cache :=
  match c.1 with
  | .updateFaults changed active => Telemetry.updateFaults c.2 s changed active
  | .invalidate type => Telemetry.invalidate c.2 s type
  | call =>
    match call.reports with
    | some (t, some v) => report c.2 s t v
    | _ => (.par, s)

def Cache.act (s : Cache) (c : Call × Kernel) : Cache := (s.call c).2

variable {v : Snapshot}

theorem eq_of_sameSection {d : Snapshot} (h : ∀ t, SameSection t v d) : v = d := by
  have hmotion := h .motion
  have hbarcode := h .barcode
  have hhump := h .hump
  have hheading := h .heading
  have hobstacle := h .obstacle
  have hstate := h .state
  have hfaults := h .faults
  have hpose := h .pose
  have hterrain := h .terrain
  obtain ⟨⟩ := v
  obtain ⟨⟩ := d
  simp only [SameSection, only, Snapshot.mk.injEq, true_and, and_true] at *
  simp only [*, and_self]

theorem delivered_only (t : Topic) (v d : Snapshot) :
    delivered t (only t v) d = delivered t v d := by
  cases t <;> rfl

theorem only_delivered (t : Topic) (v d d' : Snapshot) :
    SameSection t (delivered t v d) (delivered t v d') := by
  cases t <;> rfl

variable {t : Topic}

theorem only_delivered_ne {t' : Topic} (h : t' ≠ t) (v d : Snapshot) :
    SameSection t' (delivered t v d) d := by
  cases t <;> cases t' <;> first | rfl | exact absurd rfl h

theorem only_deliverSections (v : Snapshot) (ts : List Topic) (hnodup : ts.Nodup) (t : Topic)
    (d : Snapshot) :
    SameSection t (deliverSections v ts d)
      (if t ∈ ts ∧ v.validity.testBit t.code = true then delivered t v {} else d) := by
  induction ts generalizing d with
  | nil => simp [deliverSections, SameSection]
  | cons s ts ih =>
    obtain ⟨hnot, hnodup⟩ := List.nodup_cons.1 hnodup
    have hrest := ih hnodup (if v.validity.testBit s.code then delivered s v d else d)
    rw [deliverSections, List.foldl_cons]
    refine Eq.trans hrest ?_
    by_cases hts : t = s
    · subst hts
      rw [if_neg fun hc => hnot hc.1]
      by_cases hflag : v.validity.testBit t.code
      · rw [if_pos hflag, if_pos ⟨List.mem_cons_self, hflag⟩]
        exact only_delivered t v d {}
      · rw [if_neg hflag, if_neg fun hc => hflag hc.2]
    · have hmem : t ∈ s :: ts ↔ t ∈ ts := by simp [hts]
      simp only [hmem]
      by_cases hflag : t ∈ ts ∧ v.validity.testBit t.code
      · rw [if_pos hflag, if_pos hflag]
      · rw [if_neg hflag, if_neg hflag]
        split_ifs
        · exact only_delivered_ne hts v d
        · rfl

variable {v' : Snapshot}

theorem SameSection.carried (h : SameSection t v v') :
    SameSection t (carried .snapshot v) (carried .snapshot v') := by
  have hv := only_deliverSections v Topic.sections (by decide) t {}
  have hv' := only_deliverSections v' Topic.sections (by decide) t {}
  refine Eq.trans hv (Eq.trans ?_ hv'.symm)
  by_cases ht : t ∈ Topic.sections
  · rw [testBit_validity ht, testBit_validity ht, h.flag, ← delivered_only t v, h,
      delivered_only t v']
  · rw [if_neg fun hc => ht hc.1, if_neg fun hc => ht hc.1]

/-! ## The bits of a section -/

def snapshotNumber (v : Snapshot) : ℕ := pack (bodyFields .snapshot v)

def OwnBit (t : Topic) (i : ℕ) : Prop :=
  i = t.code ∨ sectionOffset t ≤ i ∧ i < sectionOffset t + t.bodyBits

instance (t : Topic) (i : ℕ) : Decidable (OwnBit t i) := inferInstanceAs (Decidable (_ ∨ _))

theorem sections_split (ht : t ∈ Topic.sections) :
    ∃ pre post, Topic.sections = pre ++ t :: post ∧
      sectionOffset t = 7 + (pre.map Topic.bodyBits).sum ∧ t ∉ pre ∧ t ∉ post := by
  refine ⟨Topic.sections.takeWhile (· ≠ t), (Topic.sections.dropWhile (· ≠ t)).tail, ?_⟩
  rcases Topic.mem_sections ht with rfl | rfl | rfl | rfl | rfl | rfl | rfl <;>
    exact ⟨rfl, rfl, by decide, by decide⟩

theorem testBit_snapshotNumber (h : BodyAccepts .snapshot v) (i : ℕ) :
    (snapshotNumber v).testBit i =
      if i < 7 then v.validity.testBit i
      else (pack (sectionFields v Topic.sections)).testBit (i - 7) := by
  have hsplit : snapshotNumber v = pack ([(v.validity, 7)] ++ sectionFields v Topic.sections) := by
    rw [snapshotNumber, bodyFields, pack, (pack_sentFields (List.Subset.refl _) h).2]
    rfl
  have hflags : pack [(v.validity, 7)] = v.validity := by
    rw [pack, pack, mul_zero, add_zero]
    exact Nat.mod_eq_of_lt (validity_lt v)
  rw [hsplit, testBit_pack_append, hflags]
  rfl

theorem map_snd_sectionFields (v : Snapshot) (ts : List Topic) :
    (sectionFields v ts).map Prod.snd = ts.map Topic.bodyBits := by
  rw [sectionFields, List.map_map]
  rfl

theorem SameSection.sectionNumber (ht : t ∈ Topic.sections) (h : SameSection t v v') :
    Telemetry.sectionNumber v t = Telemetry.sectionNumber v' t := by
  rw [Telemetry.sectionNumber, Telemetry.sectionNumber, testBit_validity ht, testBit_validity ht,
    h.flag, h.fields_eq]

/-- **Views that differ in one section differ only in its bits.** -/
theorem snapshotBits_other (ht : t ∈ Topic.sections) (h : BodyAccepts .snapshot v)
    (h' : BodyAccepts .snapshot v') (hsame : ∀ t' ∈ Topic.sections, t' ≠ t → SameSection t' v v')
    {i : ℕ} (hi : ¬OwnBit t i) : (snapshotNumber v).testBit i = (snapshotNumber v').testBit i := by
  obtain ⟨hcode, hrange⟩ := not_or.1 hi
  rw [testBit_snapshotNumber h, testBit_snapshotNumber h']
  split_ifs with hlow
  · obtain ⟨t', ht', rfl⟩ : ∃ t' ∈ Topic.sections, t'.code = i := by
      have key : ∀ j : Fin 7, ∃ t' ∈ Topic.sections, t'.code = j := by decide
      exact key ⟨i, hlow⟩
    have hne : t' ≠ t := fun heq => hcode (by rw [heq])
    rw [testBit_validity ht', testBit_validity ht', (hsame t' ht' hne).flag]
  · obtain ⟨pre, post, hsections, hoffset, hpre, hpost⟩ := sections_split ht
    have hpart (ts : List Topic) (hts : ts ⊆ Topic.sections) (hnot : t ∉ ts) :
        sectionFields v ts = sectionFields v' ts := by
      refine List.map_congr_left fun t' ht' => ?_
      rw [(hsame t' (hts ht') fun heq => hnot (heq ▸ ht')).sectionNumber (hts ht')]
    have hpre' := hpart pre (hsections ▸ List.subset_append_left pre (t :: post)) hpre
    have hpost' := hpart post
      (hsections ▸ fun t' ht' => List.mem_append_right pre (List.mem_cons_of_mem t ht')) hpost
    -- the number with the section itself in the middle
    have hbits (u : Snapshot) : pack (sectionFields u Topic.sections) =
        pack (sectionFields u pre ++ ([(Telemetry.sectionNumber u t, t.bodyBits)] ++
          sectionFields u post)) := by
      rw [hsections]
      simp only [sectionFields, List.map_append, List.map_cons, List.singleton_append]
    rw [hbits v, hbits v', testBit_pack_append, testBit_pack_append, testBit_pack_append,
      testBit_pack_append, hpre', hpost', map_snd_sectionFields]
    simp only [List.map_cons, List.map_nil, List.sum_cons, List.sum_nil, add_zero]
    split_ifs with h₁ h₂
    · rfl
    · exact absurd ⟨by omega, by omega⟩ hrange
    · rfl

theorem snapshotBits_own (ht : t ∈ Topic.sections) (h : BodyAccepts .snapshot v)
    (hflag : validFlag t v = 0) {i : ℕ} (hi : OwnBit t i) :
    (snapshotNumber v).testBit i = false := by
  have hoff : v.validity.testBit t.code = false := by rw [testBit_validity ht, hflag]; rfl
  obtain ⟨pre, post, hsections, hoffset, -, -⟩ := sections_split ht
  rw [testBit_snapshotNumber h]
  rcases hi with rfl | ⟨hle, hlt⟩
  · have hcode : ∀ t ∈ Topic.sections, t.code < 7 := by decide
    rw [if_pos (hcode t ht), hoff]
  · have hbits : pack (sectionFields v Topic.sections) =
        pack (sectionFields v pre ++ ([(0, t.bodyBits)] ++ sectionFields v post)) := by
      rw [hsections]
      simp only [sectionFields, List.map_append, List.map_cons, List.singleton_append,
        Telemetry.sectionNumber, hoff, Bool.false_eq_true, if_false]
    rw [if_neg (by omega), hbits, testBit_pack_append, testBit_pack_append, map_snd_sectionFields]
    simp only [List.map_cons, List.map_nil, List.sum_cons, List.sum_nil, add_zero]
    rw [if_neg (by omega), if_pos (by omega)]
    simp [pack]

/-! ## Canonical packets -/

/-- The bytes are the packet of a view that is decoded to itself. -/
structure Cached (latest : List UInt8) (v : Snapshot) : Prop where
  packet : IsPacket Topic.snapshot.bodyBits latest (snapshotNumber v)
  accepts : BodyAccepts .snapshot v
  carried : carried .snapshot v = v

namespace Cached

variable {latest : List UInt8} {v : Snapshot}

theorem parse (h : Cached latest v) : parse .snapshot latest = some v :=
  (parse_eq_some_iff .snapshot latest v).2
    ⟨by decide, _, h.packet, (bodyContents_pack h.accepts).trans (congrArg some h.carried)⟩

theorem encode (h : Cached latest v) : encode .snapshot v payloadMax = some latest :=
  (encode_eq_some_iff .snapshot v payloadMax latest).2 ⟨by decide, h.accepts, h.packet⟩

theorem length (h : Cached latest v) : latest.length = payloadMax := by
  obtain ⟨body, rfl, hlen, -⟩ := h.packet.eq
  rw [List.length_cons, hlen]
  rfl

theorem testBit (h : Cached latest v) (i : ℕ) :
    bitAt latest.tail i = (snapshotNumber v).testBit i := by
  obtain ⟨body, rfl, -, hnumber⟩ := h.packet.eq
  rw [List.tail_cons, ← testBit_number, hnumber]

theorem of_packet (hp : IsPacket Topic.snapshot.bodyBits latest (snapshotNumber v))
    (h : BodyAccepts .snapshot v) : Cached latest (Telemetry.carried .snapshot v) := by
  have hread := bodyContents_pack h
  obtain ⟨haccepts, hnumber⟩ := bodyFields_of_contents hp.lt hread
  refine ⟨?_, haccepts, ?_⟩
  · rw [snapshotNumber, hnumber]
    exact hp
  · have hagain := bodyContents_pack haccepts
    rw [hnumber] at hagain
    exact Option.some.inj (hagain.symm.trans hread)

end Cached

theorem writeSections_of_foldlM {flags : ℕ} {ts : List Topic} {w w' : Writer}
    (h : ts.foldlM (writeSection v flags) w = some w') :
    writeSections v flags ts w = (true, w') := by
  induction ts generalizing w with
  | nil =>
    rw [List.foldlM_nil] at h
    rw [writeSections, Option.some.inj h]
  | cons t ts ih =>
    rw [List.foldlM_cons, Option.bind_eq_bind, Option.bind_eq_some_iff] at h
    obtain ⟨m, hm, hrest⟩ := h
    rw [writeSections, hm]
    exact ih hrest

theorem encodeSnapshot_of_accepts (h : BodyAccepts .snapshot v) {packet : List UInt8}
    (hlen : packet.length = payloadMax) :
    ∃ p, encodeSnapshot v packet = (true, p) ∧
      IsPacket Topic.snapshot.bodyBits p (snapshotNumber v) := by
  have hwrite := (writeBody_eq .snapshot v
    ⟨List.replicate (Topic.snapshot.payloadSize - 1) 0, 0⟩ _).2 ⟨h, rfl⟩
  have hencode : encode .snapshot v payloadMax = some (wireVersion ::
      (Writer.puts ⟨List.replicate (Topic.snapshot.payloadSize - 1) 0, 0⟩
        (bodyFields .snapshot v)).bytes) := by
    rw [encode, if_neg (by decide), hwrite]
    rfl
  refine ⟨_, ?_, ((encode_eq_some_iff .snapshot v payloadMax _).1 hencode).2.2⟩
  have hsize : ¬packet.length < Topic.snapshot.payloadSize := by rw [hlen]; decide
  have hdrop : packet.drop Topic.snapshot.payloadSize = [] :=
    List.drop_eq_nil_of_le (by rw [hlen]; decide)
  simp only [encodeSnapshot, if_neg hsize, hdrop, List.append_nil]
  rw [writeSections_of_foldlM hwrite]

/-- A view whose section `t` is that of `u`, and valid. -/
structure Replaced (t : Topic) (u cache cache' : Snapshot) : Prop where
  others : ∀ t' ≠ t, SameSection t' cache' cache
  accepts : Accepts t cache'
  flag : validFlag t cache' = 1
  delivered : ∀ d, delivered t cache' d = delivered t u d

variable {latest : List UInt8} {cache : Snapshot}

/-- **Replacing a section** in place leaves a canonical packet whose other bits are unchanged. -/
theorem Cached.replace {u cache' : Snapshot} (h : Cached latest cache) (ht : t ∈ Topic.sections)
    (hr : Replaced t u cache cache') :
    ∃ p, encodeSnapshot cache' latest = (true, p) ∧ Cached p (delivered t u cache) ∧
      ∀ i, ¬OwnBit t i → bitAt p.tail i = bitAt latest.tail i := by
  have haccepts : BodyAccepts .snapshot cache' := by
    intro s hs hflag
    by_cases hst : s = t
    · exact hst ▸ hr.accepts
    · have hsame := hr.others s hst
      rw [testBit_validity hs, hsame.flag, ← testBit_validity hs] at hflag
      exact hsame.accepts.2 (h.accepts s hs hflag)
  obtain ⟨p, hp, hpacket⟩ := encodeSnapshot_of_accepts haccepts h.length
  have hview : Telemetry.carried .snapshot cache' = delivered t u cache := by
    refine eq_of_sameSection fun s => ?_
    by_cases hst : s = t
    · subst hst
      have hvalid : cache'.validity.testBit s.code := by
        rw [testBit_validity ht, hr.flag]
        rfl
      have hown := only_deliverSections cache' Topic.sections (by decide) s {}
      rw [if_pos ⟨ht, hvalid⟩, hr.delivered] at hown
      exact Eq.trans hown (only_delivered s u {} cache)
    · have hcarried := (hr.others s hst).carried
      rw [h.carried] at hcarried
      exact Eq.trans hcarried (only_delivered_ne hst u cache).symm
  have hcached := Cached.of_packet hpacket haccepts
  refine ⟨p, hp, hview ▸ hcached, fun i hi => ?_⟩
  obtain ⟨body, rfl, -, hnumber⟩ := hpacket.eq
  rw [h.testBit, List.tail_cons, ← testBit_number, hnumber]
  exact snapshotBits_other ht haccepts h.accepts (fun s _ hst => hr.others s hst) hi

/-! ## The calls -/

variable {payload : List UInt8}

theorem payloadValid_of_encode {capacity : ℕ} (h : encode t v capacity = some payload) :
    payloadValid t payload := by
  obtain ⟨-, haccepts, hpacket⟩ := (encode_eq_some_iff t v capacity payload).1 h
  have hmap : t ≠ .mapReply := by rintro rfl; exact haccepts
  have hparse := (parse_eq_some_iff t payload _).2 ⟨hmap, _, hpacket, bodyContents_pack haccepts⟩
  rw [payloadValid, if_neg hmap, decode, hparse]

variable {s : Cache}

theorem queuePublish_latest {k : Kernel} (h : payloadValid t payload) :
    (s.queuePublish k t payload).2.latest = s.latest ∧
      ((s.queuePublish k t payload).1 = .ok ∨ (s.queuePublish k t payload).1 = .kernel) := by
  rw [Cache.queuePublish, h]
  cases k.sends with
  | true => exact ⟨rfl, .inl rfl⟩
  | false => exact ⟨rfl, .inr rfl⟩

theorem withSection_replaced {cache' : Snapshot} (h : withSection t v cache = some cache')
    (ha : Accepts t v) : Replaced t v cache cache' := by
  cases t <;> cases h
  all_goals
    refine ⟨fun t' hne => ?_, ha, rfl, fun d => rfl⟩
    cases t' <;> first | rfl | exact absurd rfl hne

def reported : List Topic := [.motion, .barcode, .hump, .heading, .obstacle, .state]

/-- What a call leaves: canonical bytes of the view `v'`, with the bits of other sections than `t`
unchanged. -/
structure Changes (t : Topic) (latest latest' : List UInt8) (v' : Snapshot) : Prop where
  cached : Cached latest' v'
  others : ∀ i, ¬OwnBit t i → bitAt latest'.tail i = bitAt latest.tail i

/-- Storing a section replaces it alone. -/
theorem storeSection_spec (h : Cached latest cache) (ht : t ∈ reported) (ha : Accepts t v) :
    ∃ p, storeSection t v latest = (.ok, p) ∧ Changes t latest p (delivered t v cache) := by
  obtain ⟨cache', hc⟩ : ∃ cache', withSection t v cache = some cache' := by
    simp only [reported, List.mem_cons, List.not_mem_nil, or_false] at ht
    rcases ht with rfl | rfl | rfl | rfl | rfl | rfl <;> exact ⟨_, rfl⟩
  have hsection : ∀ t ∈ reported, t ∈ Topic.sections := by decide
  obtain ⟨p, hp, hcached, hbits⟩ := h.replace (hsection t ht) (withSection_replaced hc ha)
  refine ⟨p, ?_, hcached, hbits⟩
  rw [storeSection, h.parse]
  simp only [hc, hp, if_true]

/-- A report caches and queues its section. -/
theorem report_spec {k : Kernel} (h : Cached s.latest cache) (ht : t ∈ reported)
    (he : encode t v payloadMax = some payload) (hk : k.locks) :
    Changes t s.latest (report k s t v).2.latest (delivered t v cache) ∧
      ((report k s t v).1 = .ok ∨ (report k s t v).1 = .kernel) := by
  have hlive : ∀ t ∈ reported, liveOnly t = false := by decide
  have ha : Accepts t v := by
    have haccepts := ((encode_eq_some_iff t v payloadMax payload).1 he).2.1
    simp only [reported, List.mem_cons, List.not_mem_nil, or_false] at ht
    rcases ht with rfl | rfl | rfl | rfl | rfl | rfl <;> exact haccepts
  obtain ⟨p, hp, hchanges⟩ := storeSection_spec h ht ha
  obtain ⟨hlatest, hcode⟩ := queuePublish_latest (k := k) (s := { s with latest := p })
    (payloadValid_of_encode he)
  have hreport : report k s t v = { s with latest := p }.queuePublish k t payload := by
    simp only [report, he, hlive t ht, hk, hp, Bool.false_eq_true, if_false, Bool.not_true, ne_eq,
      not_true_eq_false]
  rw [hreport, hlatest]
  exact ⟨hchanges, hcode⟩

theorem report_idle {k : Kernel}
    (h : encode t v payloadMax = none ∨ liveOnly t ∨ k.locks = false) :
    (report k s t v).2.latest = s.latest ∧ (report k s t v).1 ≠ .sys := by
  rw [report]
  cases he : encode t v payloadMax with
  | none => exact ⟨rfl, nofun⟩
  | some =>
    obtain ⟨hlatest, hcode⟩ := queuePublish_latest (k := k) (s := s) (payloadValid_of_encode he)
    dsimp only
    by_cases hlive : liveOnly t
    · rw [if_pos hlive]
      exact ⟨hlatest, by rcases hcode with hcode | hcode <;> rw [hcode] <;> decide⟩
    · have hk : k.locks = false := by
        rcases h with h | h | h
        · cases he.symm.trans h
        · exact absurd h hlive
        · exact h
      rw [if_neg hlive, hk]
      exact ⟨rfl, nofun⟩

theorem faults_update_lt {faults changed active : UInt8} (hf : faults.toNat < 64)
    (hc : changed &&& ~~~faultMask = 0) (ha : active &&& ~~~changed = 0) :
    ((faults &&& ~~~changed) ||| active).toNat < 64 := by
  rw [← faults_and_eq_zero] at hf ⊢
  rw [← UInt8.toBitVec_inj] at *
  simp only [UInt8.toBitVec_and, UInt8.toBitVec_or, UInt8.toBitVec_not] at *
  generalize faults.toBitVec = f, changed.toBitVec = c, active.toBitVec = a,
    faultMask.toBitVec = m at *
  ext i hi
  have hf' := congrArg (fun x : BitVec 8 => x.getLsbD i) hf
  have hc' := congrArg (fun x : BitVec 8 => x.getLsbD i) hc
  have ha' := congrArg (fun x : BitVec 8 => x.getLsbD i) ha
  simp at hf' hc' ha' ⊢
  grind

theorem Cached.faults_lt (h : Cached latest v) : v.faults.toNat < 64 := by
  by_cases hflag : v.validity.testBit Topic.faults.code
  · exact h.accepts .faults (by decide) hflag
  · have hown := only_deliverSections v Topic.sections (by decide) .faults {}
    rw [if_neg fun hc => hflag hc.2] at hown
    have hsame : SameSection .faults v {} := h.carried ▸ hown
    have hzero : v.faults = 0 := congrArg Snapshot.faults hsame
    rw [hzero]
    decide

theorem Cached.update (h : Cached latest v) {changed active : UInt8}
    (hc : changed &&& ~~~faultMask = 0) (ha : active &&& ~~~changed = 0) :
    ∃ p packet, (encodeSnapshot (withFaults changed active v) latest).2 = p ∧
      Telemetry.encode .faults (withFaults changed active v) 2 = some packet ∧
      Changes .faults latest p (withFaults changed active v) := by
  have hlt := faults_update_lt h.faults_lt hc ha
  have hreplaced : Replaced .faults { faults := (v.faults &&& ~~~changed) ||| active } v
      (withFaults changed active v) := by
    refine ⟨fun t' hne => ?_, hlt, rfl, fun d => rfl⟩
    cases t' <;> first | rfl | exact absurd rfl hne
  obtain ⟨p, hp, hcached, hbits⟩ := h.replace (by decide) hreplaced
  have hbody : BodyAccepts .faults (withFaults changed active v) := hlt
  obtain ⟨packet, hpacket⟩ : ∃ packet,
      Telemetry.encode .faults (withFaults changed active v) 2 = some packet := by
    rw [Telemetry.encode, if_neg (by decide), (writeBody_eq .faults _ _ _).2 ⟨hbody, rfl⟩]
    exact ⟨_, rfl⟩
  exact ⟨p, packet, by rw [hp], hpacket, hcached, hbits⟩

theorem updateFaults_spec {k : Kernel} (h : Cached s.latest v) {changed active : UInt8}
    (hne : changed ≠ 0) (hc : changed &&& ~~~faultMask = 0) (ha : active &&& ~~~changed = 0)
    (hcreated : k.created) (hk : k.locks) :
    Changes .faults s.latest (updateFaults k s changed active).2.latest
        (withFaults changed active v) ∧
      ((updateFaults k s changed active).1 = .ok ∨
        (updateFaults k s changed active).1 = .kernel) := by
  obtain ⟨p, packet, hp, hpacket, hchanges⟩ := h.update hc ha
  obtain ⟨hlatest, hcode⟩ := queuePublish_latest (k := k) (s := { s with latest := p })
    (payloadValid_of_encode hpacket)
  have hupdate : updateFaults k s changed active =
      { s with latest := p }.queuePublish k .faults packet := by
    simp only [updateFaults, lockedUpdate, hne, hc, ha, hcreated, hk, h.parse, hp, hpacket, ne_eq,
      not_true_eq_false, or_self, if_false, Bool.not_true, Bool.false_eq_true, Option.getD_some]
  rw [hupdate, hlatest]
  exact ⟨hchanges, hcode⟩

def withoutSection (t : Topic) (v : Snapshot) : Snapshot :=
  match t with
  | .motion => { v with motionValid := 0, leftMms := 0, rightMms := 0 }
  | .barcode => { v with barcodeValid := 0, barcodeLetter := 0, barcodeAction := .unknown }
  | .hump => { v with humpValid := 0, humpCount := 0, humpHeightMm := 0 }
  | .heading => { v with headingValid := 0, headingDeg := 0 }
  | .obstacle => { v with
      obstacleValid := 0, obstacleDistanceMm := 0, obstacleWidthMm := 0, obstacleRoute := .unknown }
  | .state => { v with robotStateValid := 0, robotState := .unknown }
  | .faults => { v with faultsValid := 0, faults := 0 }
  | _ => v

theorem withoutSection_ne {t' : Topic} (h : t' ≠ t) (v : Snapshot) :
    SameSection t' (withoutSection t v) v := by
  cases t <;> cases t' <;> first | rfl | exact absurd rfl h

theorem withoutSection_own (ht : t ∈ Topic.sections) (v : Snapshot) :
    SameSection t (withoutSection t v) {} := by
  rcases Topic.mem_sections ht with rfl | rfl | rfl | rfl | rfl | rfl | rfl <;> rfl

/-- **Clearing a section** in place leaves the canonical packet of the view without it. -/
theorem Cached.clear (h : Cached latest v) (ht : t ∈ Topic.sections) :
    Changes t latest (clearSection t latest) (withoutSection t v) ∧
      ∀ i, OwnBit t i → bitAt (clearSection t latest).tail i = false := by
  have hflag : validFlag t (withoutSection t v) = 0 := by
    rw [(withoutSection_own ht v).flag]
    cases t <;> rfl
  have hoff : (withoutSection t v).validity.testBit t.code = false := by
    rw [testBit_validity ht, hflag]
    rfl
  have haccepts : BodyAccepts .snapshot (withoutSection t v) := by
    intro s hs hvalid
    by_cases hst : s = t
    · subst hst
      cases hoff.symm.trans hvalid
    · have hsame := withoutSection_ne hst v
      rw [testBit_validity hs, hsame.flag, ← testBit_validity hs] at hvalid
      exact hsame.accepts.2 (h.accepts s hs hvalid)
  have hcarried : Telemetry.carried .snapshot (withoutSection t v) = withoutSection t v := by
    refine eq_of_sameSection fun s => ?_
    by_cases hst : s = t
    · subst hst
      have hown := only_deliverSections (withoutSection s v) Topic.sections (by decide) s {}
      rw [hoff, if_neg (by simp)] at hown
      exact Eq.trans hown (withoutSection_own ht v).symm
    · have hsame := (withoutSection_ne hst v).carried
      rw [h.carried] at hsame
      exact Eq.trans hsame (withoutSection_ne hst v).symm
  obtain ⟨body, rfl, hlen, hnumber⟩ := h.packet.eq
  have hclear : clearSection t (wireVersion :: body) = wireVersion ::
      clearBits (clearBit body t.code) (sectionOffset t) t.bodyBits := rfl
  have hbits (i : ℕ) :
      bitAt (clearBits (clearBit body t.code) (sectionOffset t) t.bodyBits) i =
        (bitAt body i && !decide (OwnBit t i)) := by
    rw [bitAt_clearBits, bitAt_clearBit, Bool.and_assoc, ← Bool.not_or, ← Bool.decide_or]
    rfl
  have hcleared : number (clearBits (clearBit body t.code) (sectionOffset t) t.bodyBits) =
      snapshotNumber (withoutSection t v) := by
    refine Nat.eq_of_testBit_eq fun i => ?_
    rw [testBit_number, hbits, ← testBit_number, hnumber]
    by_cases hi : OwnBit t i
    · rw [snapshotBits_own ht haccepts hflag hi, decide_eq_true hi, Bool.not_true, Bool.and_false]
    · rw [decide_eq_false hi, Bool.not_false, Bool.and_true]
      exact snapshotBits_other ht h.accepts haccepts
        (fun s _ hst => (withoutSection_ne hst v).symm) hi
  have hfit := (bodyFields_fit haccepts).2
  refine ⟨⟨⟨⟨hfit ▸ pack_lt _, _, hclear, ?_, hcleared⟩, haccepts, hcarried⟩, fun i hi => ?_⟩,
    fun i hi => ?_⟩
  · rw [length_clearBits, length_clearBit, hlen]
  · rw [hclear, List.tail_cons, hbits, decide_eq_false hi, Bool.not_false, Bool.and_true]
    rfl
  · rw [hclear, List.tail_cons, hbits, decide_eq_true hi, Bool.not_true, Bool.and_false]

/-! ## Any number of calls -/

/-- What a call does to a cache of the view `v`: nothing when refused; a report replaces its
section, a fault update its bits, an invalidation clears its section, and no other bit changes. -/
structure CallOk (s : Cache) (v : Snapshot) (c : Call × Kernel) : Prop where
  sys : (s.call c).1 ≠ .sys
  par : (s.call c).1 = .par → (s.act c).latest = s.latest
  reports : ∀ t w payload, c.1.reports = some (t, some w) →
    encode t w payloadMax = some payload → liveOnly t = false → c.2.locks = true →
    parse .snapshot (s.act c).latest = some (delivered t w v) ∧
      ∀ i, ¬OwnBit t i → bitAt (s.act c).latest.tail i = bitAt s.latest.tail i
  faults : ∀ changed active, c.1 = .updateFaults changed active → changed ≠ 0 →
    changed &&& ~~~faultMask = 0 → active &&& ~~~changed = 0 → c.2.created = true →
    c.2.locks = true →
    parse .snapshot (s.act c).latest =
        some { v with faults := (v.faults &&& ~~~changed) ||| active, faultsValid := 1 } ∧
      ∀ i, ¬OwnBit .faults i → bitAt (s.act c).latest.tail i = bitAt s.latest.tail i
  invalidates : ∀ type t, c.1 = .invalidate type → Topic.sections[type.toNat]? = some t →
    c.2.locks = true →
    parse .snapshot (s.act c).latest = some (withoutSection t v) ∧
      (∀ i, OwnBit t i → bitAt (s.act c).latest.tail i = false) ∧
      ∀ i, ¬OwnBit t i → bitAt (s.act c).latest.tail i = bitAt s.latest.tail i

theorem call_of_reports {c : Call × Kernel} {o : Option Snapshot} (h : c.1.reports = some (t, o)) :
    (t ∈ reported ∨ liveOnly t) ∧
      s.call c = o.elim (.par, s) fun v => report c.2 s t v := by
  obtain ⟨call, k⟩ := c
  refine ⟨by cases call <;> cases h <;> decide, ?_⟩
  have hcall : s.call (call, k) = match call.reports with
      | some (t, some v) => report k s t v
      | _ => (.par, s) := by
    cases call <;> first | rfl | cases h
  rw [hcall, show call.reports = some (t, o) from h]
  cases o <;> rfl

theorem Er.not_sys_par {er : Er} (h : er = .ok ∨ er = .kernel) : er ≠ .sys ∧ er ≠ .par := by
  rcases h with rfl | rfl <;> decide

theorem callOk_reports (h : Cached s.latest v) {c : Call × Kernel} {o : Option Snapshot}
    (hc : c.1.reports = some (t, o)) : CallOk s v c ∧ ∃ v', Cached (s.act c).latest v' := by
  obtain ⟨htopic, hcall⟩ := call_of_reports (s := s) hc
  have hother {P : Prop} (hno : c.1.reports = none) : P :=
    absurd (hc.symm.trans hno) nofun
  have hfaults {P : Prop} (changed active : UInt8) (hc' : c.1 = .updateFaults changed active) : P :=
    hother (by rw [hc']; rfl)
  have hinvalid {P : Prop} (type : UInt8) (hc' : c.1 = .invalidate type) : P :=
    hother (by rw [hc']; rfl)
  -- a call that stores nothing: refused, live only or locked out
  have hidle (hlatest : (s.call c).2.latest = s.latest) (hsys : (s.call c).1 ≠ .sys)
      (hno : ∀ w payload, o = some w → encode t w payloadMax = some payload →
        liveOnly t = false → c.2.locks = true → False) :
      CallOk s v c ∧ ∃ v', Cached (s.act c).latest v' := by
    refine ⟨⟨hsys, fun _ => hlatest, fun t' w payload hc' he hl hk => ?_,
      fun _ _ hc' => hfaults _ _ hc', fun _ _ hc' => hinvalid _ hc'⟩, v, ?_⟩
    · obtain ⟨rfl, ho⟩ := Prod.mk.inj (Option.some.inj (hc.symm.trans hc'))
      exact (hno w payload ho he hl hk).elim
    · rw [Cache.act, hlatest]
      exact h
  cases o with
  | none =>
    have hcode : (s.call c).1 = .par := congrArg Prod.fst hcall
    exact hidle (congrArg (fun r : Er × Cache => r.2.latest) hcall) (hcode ▸ nofun)
      fun _ _ ho => absurd ho (Option.some_ne_none _).symm
  | some w =>
    rw [Option.elim_some] at hcall
    by_cases hstores : (∃ payload, encode t w payloadMax = some payload) ∧ liveOnly t = false ∧
        c.2.locks = true
    · obtain ⟨⟨payload, he⟩, hl, hk⟩ := hstores
      have ht : t ∈ reported := htopic.resolve_right (by rw [hl]; exact Bool.false_ne_true)
      obtain ⟨hchanges, hcode⟩ := report_spec h ht he hk
      rw [← hcall] at hchanges hcode
      obtain ⟨hsys, hpar⟩ := Er.not_sys_par hcode
      refine ⟨⟨hsys, fun hp => absurd hp hpar, ?_, fun _ _ hc' => hfaults _ _ hc',
        fun _ _ hc' => hinvalid _ hc'⟩, _, hchanges.cached⟩
      · intro t' w' _ hc' _ _ _
        obtain ⟨rfl, ho⟩ := Prod.mk.inj (Option.some.inj (hc.symm.trans hc'))
        obtain rfl := Option.some.inj ho
        exact ⟨hchanges.cached.parse, hchanges.others⟩
    · have hnot : encode t w payloadMax = none ∨ liveOnly t = true ∨ c.2.locks = false := by
        by_contra hcon
        simp only [not_or, Bool.not_eq_true, Bool.not_eq_false] at hcon
        exact hstores ⟨Option.ne_none_iff_exists'.1 hcon.1, hcon.2.1, hcon.2.2⟩
      obtain ⟨hlatest, hsys⟩ := report_idle (s := s) (v := w) hnot
      refine hidle (hcall ▸ hlatest) (hcall ▸ hsys) ?_
      rintro _ payload ⟨⟩ he hl hk
      exact hstores ⟨⟨payload, he⟩, hl, hk⟩

theorem callOk_updateFaults (h : Cached s.latest v) (changed active : UInt8) (k : Kernel) :
    CallOk s v (.updateFaults changed active, k) ∧
      ∃ v', Cached (s.act (.updateFaults changed active, k)).latest v' := by
  have hcall : s.call (.updateFaults changed active, k) = updateFaults k s changed active := rfl
  have hnone {x : Topic × Option Snapshot} :
      (Call.updateFaults changed active).reports ≠ some x := nofun
  by_cases hok : (changed ≠ 0 ∧ changed &&& ~~~faultMask = 0 ∧ active &&& ~~~changed = 0) ∧
      k.created = true ∧ k.locks = true
  · obtain ⟨⟨hne, hc, ha⟩, hcreated, hk⟩ := hok
    obtain ⟨hchanges, hcode⟩ := updateFaults_spec h hne hc ha hcreated hk
    rw [← hcall] at hchanges hcode
    obtain ⟨hsys, hpar⟩ := Er.not_sys_par hcode
    refine ⟨⟨hsys, fun hp => absurd hp hpar, fun _ _ _ hc' => absurd hc' hnone, ?_,
      fun _ _ hc' => nomatch hc'⟩, _, hchanges.cached⟩
    rintro _ _ ⟨⟩ - - - - -
    exact ⟨hchanges.cached.parse, hchanges.others⟩
  · have hidle : (updateFaults k s changed active).2 = s ∧
        (updateFaults k s changed active).1 ≠ .sys := by
      rw [updateFaults, lockedUpdate]
      split_ifs with hbad hno hlock
      · exact ⟨rfl, by simp⟩
      · exact ⟨rfl, by simp⟩
      · exact ⟨rfl, by simp⟩
      · simp only [not_or, not_not] at hbad
        exact absurd ⟨hbad, by simpa using hno, by simpa using hlock⟩ hok
    have hlatest : (s.act (.updateFaults changed active, k)).latest = s.latest :=
      congrArg Cache.latest hidle.1
    refine ⟨⟨hidle.2, fun _ => hlatest, fun _ _ _ hc' => absurd hc' hnone, ?_,
      fun _ _ hc' => nomatch hc'⟩, v, hlatest ▸ h⟩
    rintro _ _ ⟨⟩ hne hc ha hcreated hk
    exact absurd ⟨⟨hne, hc, ha⟩, hcreated, hk⟩ hok

theorem callOk_invalidate (h : Cached s.latest v) (type : UInt8) (k : Kernel) :
    CallOk s v (.invalidate type, k) ∧ ∃ v', Cached (s.act (.invalidate type, k)).latest v' := by
  have hnone {x : Topic × Option Snapshot} : (Call.invalidate type).reports ≠ some x := nofun
  by_cases hok : (∃ t, Topic.sections[type.toNat]? = some t) ∧ k.locks
  · obtain ⟨⟨t, ht⟩, hk⟩ := hok
    obtain ⟨hchanges, hown⟩ := h.clear (List.mem_of_getElem? ht)
    have hcall : s.call (.invalidate type, k) =
        (.ok, { s with latest := clearSection t s.latest }) := by
      simp [Cache.call, invalidate, ht, hk]
    refine ⟨⟨by rw [hcall]; exact nofun, fun hp => ?_, fun _ _ _ hc' => absurd hc' hnone,
      fun _ _ hc' => (nomatch hc'), ?_⟩, _, by rw [Cache.act, hcall]; exact hchanges.cached⟩
    · rw [hcall] at hp
      cases hp
    · rintro _ t' ⟨⟩ ht' -
      obtain rfl := Option.some.inj (ht.symm.trans ht')
      rw [Cache.act, hcall]
      exact ⟨hchanges.cached.parse, hown, hchanges.others⟩
  · have hidle : (invalidate k s type).2 = s ∧ (invalidate k s type).1 ≠ .sys := by
      rw [invalidate]
      split
      · exact ⟨rfl, nofun⟩
      · rename_i t ht
        rw [if_pos (by simpa using fun hk => hok ⟨⟨t, ht⟩, hk⟩)]
        exact ⟨rfl, nofun⟩
    have hlatest : (s.act (.invalidate type, k)).latest = s.latest :=
      congrArg Cache.latest hidle.1
    refine ⟨⟨hidle.2, fun _ => hlatest, fun _ _ _ hc' => absurd hc' hnone,
      fun _ _ hc' => (nomatch hc'), ?_⟩, v, hlatest ▸ h⟩
    rintro _ t ⟨⟩ ht hk
    exact absurd ⟨⟨t, ht⟩, hk⟩ hok

/-- Every call keeps the cache well formed. -/
theorem callOk (h : Cached s.latest v) (c : Call × Kernel) :
    CallOk s v c ∧ ∃ v', Cached (s.act c).latest v' := by
  obtain ⟨call, k⟩ := c
  cases call with
  | updateFaults changed active => exact callOk_updateFaults h changed active k
  | invalidate type => exact callOk_invalidate h type k
  | _ => exact callOk_reports h rfl

theorem cached_boot : Cached Cache.boot.latest {} := by
  have hflags : ({} : Snapshot).validity = 0 := by decide
  have haccepts : BodyAccepts .snapshot {} := by
    intro t _ hflag
    rw [hflags, Nat.zero_testBit] at hflag
    exact absurd hflag nofun
  refine ⟨⟨by decide +kernel, List.replicate 13 0, rfl, rfl, by decide +kernel⟩, haccepts, rfl⟩

/-- **The telemetry cache.**  After any calls the cached bytes decode to a view that is encoded to
these very bytes, and every further call does what it is meant to do and no more. -/
theorem cache_correct (calls : List (Call × Kernel)) :
    ∃ v, parse .snapshot (calls.foldl Cache.act .boot).latest = some v ∧
      encode .snapshot v payloadMax = some (calls.foldl Cache.act .boot).latest ∧
      ∀ c, CallOk (calls.foldl Cache.act .boot) v c := by
  obtain ⟨v, hv⟩ := Lib.Run.invariant (I := fun s : Cache => ∃ v, Cached s.latest v)
    (fun s c ⟨v, hv⟩ => (callOk hv c).2) ⟨_, cached_boot⟩ calls
  exact ⟨v, hv.parse, hv.encode, fun c => (callOk hv c).1⟩

end RoboticCar.Telemetry
