import Mathlib.Data.List.Induction
import RoboticCar.Barcode.Recording

/-!
# The past of the record reader

The journal of a run has an entry for every call: the call and the reader before it.  `Past` says
how the reader's fields come from it: the leading white is covered by entries lighter than a bar,
a recording is the last waiting readings and all since the trigger, and after the verdict all
readings were white.  `Past.took` is the step and `past` the run.
-/

namespace RoboticCar.Barcode

open Navigation Record

/-- A call, with the reader before it. -/
structure Entry where
  before : Record
  call : RecCall

namespace Entry

def steps (e : Entry) : ℕ × ℕ := (e.before.step (e.call.t - e.before.lastUs)).getD (0, 0)

/-- The time that the reader counts up to this reading; there is none before the first. -/
def stepUs (e : Entry) : ℕ := if e.before.seen then e.steps.1 * recStepUs else 0

def paper (e : Entry) : ℕ := learnPaper e.before.paper e.call.dark

def Light (e : Entry) : Prop := e.call.dark < e.paper + recRise

def sample (e : Entry) : Sample := ⟨e.call.dark, e.steps.1⟩

/-- The recording as it stands with this reading, taken as white. -/
def heard (c : BarcodeConfig) (e : Entry) : Record := e.before.heard c e.call e.steps.1 e.steps.2

end Entry

def after (c : BarcodeConfig) (r : Record) (l : List RecCall) : Record :=
  l.foldl (fun r x => (r.call c x).2) r

def journal (c : BarcodeConfig) : Record → List RecCall → List Entry
  | _, [] => []
  | r, x :: l => ⟨r, x⟩ :: journal c (r.call c x).2 l

theorem after_snoc (c : BarcodeConfig) (r : Record) (l : List RecCall) (x : RecCall) :
    after c r (l ++ [x]) = ((after c r l).call c x).2 := by
  simp [after]

theorem journal_snoc (c : BarcodeConfig) (r : Record) (l : List RecCall) (x : RecCall) :
    journal c r (l ++ [x]) = journal c r l ++ [⟨after c r l, x⟩] := by
  induction l generalizing r with
  | nil => rfl
  | cons y l ih => simp [journal, after, ih]

def spent (es : List Entry) : ℕ := (es.map Entry.stepUs).sum

/-! ## What the fields say about it -/

/-- The entries end with readings short of a bar that took at least this long. -/
def Lit (es : List Entry) (us : ℕ) : Prop :=
  ∃ old lit, es = old ++ lit ∧ (∀ e ∈ lit, e.Light) ∧ us ≤ spent lit

/-- The reader is waiting. -/
structure Waits (es : List Entry) (r : Record) : Prop where
  ring : RingOk r
  blocked : r.blocked = true → r.pre = [] ∧ r.leadingUs = 0
  readings : r.pre.map Sample.dark <:+ es.map fun e => e.call.dark
  leading : Lit es (max (r.leadingUs + r.preUs) r.whiteUs)

/-- A recording: triggered after the entries `waits`, which end with `head`, with `recorded` since
then. -/
structure Records (waits : List Entry) (head : List Sample) (recorded : List Entry) (r : Record) :
    Prop where
  frame : FrameOk r
  leading : Lit waits (r.leadingUs + r.prefixUs)
  sample : r.sample = head ++ recorded.map Entry.sample
  head_time : timeOf head = r.prefixUs
  head_readings : head.map Sample.dark <:+ (waits.map fun e => e.call.dark) ∨
    ∃ level, head = [⟨level, 0⟩]
  triggered : ∀ e, recorded.head? = some e →
    e.before.state = .waiting ∧ ¬e.Light ∧ r.paper = e.paper
  later : ∀ e ∈ recorded.tail, e.before.state ≠ .waiting
  clock : spent recorded = timeOf (recorded.map Entry.sample)

/-- The quiet wait began with the entry `e`, at the verdict, and every reading since was white. -/
structure Quiet (c : BarcodeConfig) (waits : List Entry) (head : List Sample)
    (judged : List Entry) (e : Entry) (since : List Entry) (r : Record) : Prop where
  verdict : (e.heard c).verdict c = some (r.candidate, r.requiredUs)
  records : Records waits head (judged ++ [e]) (e.heard c)
  paper : r.paper = (e.heard c).paper
  prominence : r.prominence = (e.heard c).prominence
  begun : e.before.state ≠ .quiet
  waited : ∀ e' ∈ since, e'.before.state = .quiet
  white : ∀ e' ∈ e :: since, e'.call.valid = true ∧ (e.heard c).white e'.call.dark = true

/-- How the reader comes from the journal. -/
inductive Past (c : BarcodeConfig) (es : List Entry) (r : Record) : Prop
  | waits (hstate : r.state = .waiting) (h : Waits es r)
  | records (hstate : r.state = .recording) (waits : List Entry) (head : List Sample)
      (recorded : List Entry) (hes : es = waits ++ recorded) (hne : recorded ≠ [])
      (h : Records waits head recorded r)
  | quiet (hstate : r.state = .quiet) (waits : List Entry) (head : List Sample)
      (judged : List Entry) (e : Entry) (since : List Entry)
      (hes : es = waits ++ (judged ++ e :: since))
      (h : Records waits head (judged ++ e :: since) r)
      (hquiet : Quiet c waits head judged e since r)

theorem lit_nil (es : List Entry) : Lit es 0 := ⟨es, [], by simp, nofun, le_rfl⟩

theorem Lit.mono {es : List Entry} {us us' : ℕ} (h : Lit es us) (hle : us' ≤ us) : Lit es us' := by
  obtain ⟨old, lit, hes, hlit, hus⟩ := h
  exact ⟨old, lit, hes, hlit, hle.trans hus⟩

variable {e : Entry}

/-- One more light reading. -/
theorem Lit.snoc {es : List Entry} {us : ℕ} (h : Lit es us) (he : e.Light) :
    Lit (es ++ [e]) (us + e.stepUs) := by
  obtain ⟨old, lit, rfl, hlit, hus⟩ := h
  refine ⟨old, lit ++ [e], by simp, ?_, ?_⟩
  · simpa [or_imp, forall_and] using ⟨hlit, he⟩
  · simpa [spent] using hus

variable {c : BarcodeConfig} {es waits recorded : List Entry} {head : List Sample} {r r' : Record}
  {x : RecCall}

theorem Records.congr (h : Records waits head recorded r) (hsample : r'.sample = r.sample)
    (hframe : r'.frameUs = r.frameUs) (hleading : r'.leadingUs = r.leadingUs)
    (hhead : r'.prefixUs = r.prefixUs) (hpaper : r'.paper = r.paper) :
    Records waits head recorded r' where
  frame :=
    ⟨hsample ▸ h.frame.length, hsample ▸ h.frame.steps, by rw [hframe, hsample, h.frame.time]⟩
  leading := by rw [hleading, hhead]; exact h.leading
  sample := hsample.trans h.sample
  head_time := h.head_time.trans hhead.symm
  head_readings := h.head_readings
  triggered := hpaper ▸ h.triggered
  later := h.later
  clock := h.clock

theorem waits_empty (hpre : r.pre = []) (htime : r.preUs = 0) (hleading : r.leadingUs = 0)
    (hwhite : r.whiteUs = 0) : Waits es r where
  ring := ⟨by simp [hpre], by simp [hpre], by simp [hpre], by simp [hpre, htime, timeOf]⟩
  blocked _ := ⟨hpre, hleading⟩
  readings := by simp [hpre]
  leading := by
    rw [hleading, htime, hwhite]
    exact lit_nil es

/-- A finished record waits. -/
theorem waits_finish (q : Record) (failed : Bool) : Waits es (q.finish failed) :=
  waits_empty rfl rfl rfl rfl

/-- A reading goes into the ring. -/
theorem waits_prePush {step : ℕ} (hring : RingOk r) (hblocked : r.blocked = false)
    (hstep : step ≤ recStepMax) (hreadings : r.pre.map Sample.dark <:+ es.map fun e => e.call.dark)
    (hleading : Lit (es ++ [e]) (max (r.leadingUs + r.preUs + step * recStepUs) r.whiteUs)) :
    Waits (es ++ [e]) (r.prePush e.call.dark step) := by
  obtain ⟨hring', hfields, hcredit⟩ := hring.prePush e.call.dark hstep
  refine ⟨hring', ?_, ?_, ?_⟩
  · rw [hfields]
    intro h
    exact absurd h (by simp [hblocked])
  · rw [List.map_append]
    refine (prePush_suffix r e.call.dark step).trans ?_
    exact List.suffix_append_self_iff.2 hreadings
  · have hwhite : (r.prePush e.call.dark step).whiteUs = r.whiteUs := by rw [hfields]
    rw [hwhite]
    exact hleading.mono (max_le_max hcredit le_rfl)

/-- The first reading of a record. -/
theorem waits_begin (e : Entry) : Waits (es ++ [e]) (begin {} e.call.dark e.call.t) := by
  refine waits_prePush ⟨by simp, by simp, by simp, rfl⟩ rfl (Nat.zero_le _) (by simp) ?_
  exact lit_nil _

/-- A reading short of a bar goes on with the wait. -/
theorem Waits.light (h : Waits es r) {step residual noise : ℕ} (hseen : r.seen)
    (hstep : r.step (x.t - r.lastUs) = some (step, residual))
    (hlight : x.dark < learnPaper r.paper x.dark + recRise) :
    Waits (es ++ [⟨r, x⟩]) (prePush { r.ticked x residual with
        paper := learnPaper r.paper x.dark
        blocked := false
        noiseQ4 := noise
        whiteUs := satAdd r.whiteUs (step * recStepUs)
        prev := x.dark } x.dark step) := by
  have hstepUs : Entry.stepUs ⟨r, x⟩ = step * recStepUs := by
    simp [Entry.stepUs, Entry.steps, hseen, hstep]
  refine waits_prePush (e := ⟨r, x⟩) ⟨h.ring.length, h.ring.steps, h.ring.first, h.ring.time⟩ rfl
    (step_le hstep) h.readings ?_
  refine (h.leading.snoc (e := ⟨r, x⟩) hlight).mono ?_
  rw [hstepUs]
  have hsat := satAdd_le r.whiteUs (step * recStepUs)
  exact max_le (Nat.add_le_add_right (le_max_left _ _) _)
    (hsat.trans (Nat.add_le_add_right (le_max_right _ _) _))

/-- A bar turns the wait into a recording. -/
theorem Waits.trigger (h : Waits es r) (c : BarcodeConfig) :
    Records es (r.trigger c).sample [] (r.trigger c) where
  frame := .trigger h.ring
  leading := by
    refine h.leading.mono ?_
    simp only [Record.trigger]
    split <;> omega
  sample := by simp
  head_time := (FrameOk.trigger h.ring).time.symm
  head_readings := by
    simp only [Record.trigger]
    split
    · exact .inr ⟨r.prev, rfl⟩
    · exact .inl h.readings
  triggered := by simp
  later := by simp
  clock := rfl

/-- A stored reading goes on with the recording. -/
theorem Records.store (h : Records waits head recorded r) {step residual : ℕ}
    (he : e.steps = (step, residual)) (hseen : e.before.seen) (hroom : r.sample.length < recMax)
    (hstep : step ≤ recStepMax)
    (hfirst : recorded = [] → e.before.state = .waiting ∧ ¬e.Light ∧ r.paper = e.paper)
    (hlater : recorded ≠ [] → e.before.state ≠ .waiting) :
    Records waits head (recorded ++ [e]) (r.store e.call.dark step) where
  frame := h.frame.store hroom hstep
  leading := h.leading
  sample := by
    simp only [Record.store, h.sample, List.map_append, List.map_cons, List.map_nil,
      List.append_assoc, Entry.sample, he]
  head_time := h.head_time
  head_readings := h.head_readings
  triggered := by
    rcases recorded with - | ⟨e₀, recorded⟩
    · rintro _ ⟨rfl⟩
      exact hfirst rfl
    · exact h.triggered
  later := by
    rcases recorded with - | ⟨e₀, recorded⟩
    · simp
    · simpa [or_imp, forall_and] using ⟨h.later, hlater (by simp)⟩
  clock := by
    have hclock := h.clock
    simp only [spent, timeOf, List.map_append, List.sum_append] at hclock ⊢
    simp [hclock, Entry.stepUs, hseen, Entry.sample, Sample.stepUs]

/-! ## One more call -/

variable {step residual : ℕ}

theorem Opens.steps (hx : Opens c r x step residual) : Entry.steps ⟨r, x⟩ = (step, residual) := by
  simp [Entry.steps, hx.step]

theorem Opens.heard (hx : Opens c r x step residual) :
    Entry.heard c ⟨r, x⟩ = r.heard c x step residual := by
  simp only [Entry.heard, hx.steps]

/-- So does one that is stored and followed. -/
theorem Records.noted (hx : Opens c r x step residual)
    (h : Records waits head recorded (r.opened c x residual))
    (hfirst : recorded = [] ↔ r.state = .waiting) :
    Records waits head (recorded ++ [⟨r, x⟩]) (r.noted c x step residual) := by
  have hpaper (hw : r.state = .waiting) :
      (r.opened c x residual).paper = Entry.paper ⟨r, x⟩ := by
    rw [Record.opened, if_pos hw]
    rfl
  have hstore := h.store (e := ⟨r, x⟩) hx.steps hx.seen hx.room (step_le hx.step)
    (fun hnil => ⟨hfirst.1 hnil, Nat.not_lt.2 (hx.dark (hfirst.1 hnil)), hpaper (hfirst.1 hnil)⟩)
    fun hne hw => hne (hfirst.2 hw)
  obtain ⟨_, _, _, hturn⟩ := turn_fields ((r.opened c x residual).store x.dark step) x.dark step
  rw [Record.noted, hturn]
  exact hstore.congr rfl rfl rfl rfl rfl

/-- The recording that a reading is added to. -/
theorem Past.opened (h : Past c es r) (x : RecCall) (residual : ℕ) :
    ∃ waits head recorded, es = waits ++ recorded ∧ (recorded = [] ↔ r.state = .waiting) ∧
      Records waits head recorded (r.opened c x residual) := by
  cases h with
  | waits hstate h =>
    rw [Record.opened, if_pos hstate]
    have hwaits : Waits es { r.ticked x residual with
        paper := learnPaper r.paper x.dark, blocked := false } :=
      ⟨⟨h.ring.length, h.ring.steps, h.ring.first, h.ring.time⟩, by simp, h.readings,
        h.leading⟩
    exact ⟨es, _, [], by simp, by simp [hstate], hwaits.trigger c⟩
  | records hstate waits head recorded hes hne h =>
    rw [Record.opened, if_neg (by simp [hstate])]
    exact ⟨waits, head, recorded, hes, by simp [hne, hstate], h.congr rfl rfl rfl rfl rfl⟩
  | quiet hstate waits head judged e since hes h =>
    rw [Record.opened, if_neg (by simp [hstate])]
    exact ⟨waits, head, _, hes, by simp [hstate], h.congr rfl rfl rfl rfl rfl⟩

theorem Records.quiet_noted {judged since : List Entry}
    (h : Records waits head (judged ++ e :: since) r) (hstate : r.state = .quiet)
    (hx : Opens c r x step residual) :
    Records waits head (judged ++ e :: (since ++ [⟨r, x⟩])) (r.noted c x step residual) := by
  have hopened : Records waits head (judged ++ e :: since) (r.opened c x residual) := by
    rw [Record.opened, if_neg (by simp [hstate])]
    exact h.congr rfl rfl rfl rfl rfl
  simpa using hopened.noted hx (by simp [hstate])

/-- White goes on with the quiet wait. -/
theorem Quiet.noted {judged since : List Entry} (h : Quiet c waits head judged e since r)
    (hstate : r.state = .quiet) (hx : Opens c r x step residual)
    (hwhite : (r.noted c x step residual).white x.dark = true) :
    Quiet c waits head judged e (since ++ [⟨r, x⟩]) (r.heard c x step residual) := by
  obtain ⟨hpaper, hprominence, hcandidate, hrequired⟩ := noted_records r c x step residual
  rw [Record.opened, if_neg (by simp [hstate])] at hpaper hprominence hcandidate hrequired
  have hpaper' : (r.noted c x step residual).paper = (e.heard c).paper := hpaper.trans h.paper
  have hprominence' : (r.noted c x step residual).prominence = (e.heard c).prominence :=
    hprominence.trans h.prominence
  refine ⟨?_, h.records, hpaper', hprominence', h.begun, fun e' he' => ?_, fun e' he' => ?_⟩
  · rw [h.verdict]
    exact congrArg some (Prod.ext hcandidate.symm hrequired.symm)
  · rcases List.mem_append.1 he' with he' | he'
    · exact h.waited e' he'
    · rw [List.mem_singleton.1 he', hstate]
  · rcases List.mem_append.1 (show e' ∈ (e :: since) ++ [⟨r, x⟩] from he') with he' | he'
    · exact h.white e' he'
    · rw [List.mem_singleton.1 he']
      exact ⟨hx.valid, white_congr hpaper' hprominence' x.dark ▸ hwhite⟩

theorem not_quiet_of_opened (h : (r.opened c x residual).state = .recording) :
    r.state ≠ .quiet := by
  intro hr
  simp [opened_state, hr] at h

def Fresh (r : Record) : Prop := r.seen = false → r = {}

variable {o : BarcodeStatus × Record}

theorem Took.fresh (ho : Took c r x o) : Fresh o.2 := by
  intro hseen
  cases ho with
  | reset => rfl
  | restart => simp [Record.begin, prePush_keeps] at hseen
  | blocked _ _ hs => simp [Record.ticked, hs] at hseen
  | light _ _ _ _ hs => simp [prePush_keeps, Record.ticked, hs] at hseen
  | failed _ q hq | release _ _ _ _ _ _ _ _ q hq | released _ _ _ _ _ _ q hq =>
    simp [Record.finish, hq] at hseen
  | ink _ _ hx | white _ _ hx | quiet _ _ hx =>
    simp [Record.heard, noted_seen, hx.seen] at hseen

/-- **One call goes on with the past.** -/
theorem Past.took (h : Past c es r) (hfresh : Fresh r) (ho : Took c r x o) :
    Past c (es ++ [⟨r, x⟩]) o.2 := by
  cases ho with
  | reset => exact .waits rfl (waits_empty rfl rfl rfl rfl)
  | restart status r' hr' =>
    obtain rfl : r' = {} := by
      rcases hr' with rfl | ⟨rfl, hseen⟩
      · rfl
      · exact hfresh hseen
    exact .waits (prePush_keeps _ _ _).2.1 (waits_begin ⟨r, x⟩)
  | blocked residual hwaiting hseen hblocked =>
    cases h with
    | waits hstate h =>
      obtain ⟨hpre, hleading⟩ := h.blocked hblocked
      have htime : r.preUs = 0 := by simpa [hpre, timeOf] using h.ring.time
      exact .waits hstate (waits_empty hpre htime hleading rfl)
    | records hstate | quiet hstate => simp [hstate] at hwaiting
  | light step residual noise hwaiting hseen hstep hlight =>
    cases h with
    | waits hstate h =>
      exact .waits ((prePush_keeps _ _ _).2.1.trans hstate) (h.light hseen hstep hlight)
    | records hstate | quiet hstate => simp [hstate] at hwaiting
  | failed status q => exact .waits rfl (waits_finish q true)
  | ink step residual hx hstate =>
    obtain ⟨waits, head, recorded, hes, hfirst, hrec⟩ := h.opened x residual
    refine .records ((noted_state r c x step residual).trans hstate) waits head _
      (by rw [hes, List.append_assoc]) (by simp) ?_
    exact Records.congr (hrec.noted hx hfirst) rfl rfl rfl rfl rfl
  | white step residual hx hwhite =>
    have hstate : (r.heard c x step residual).state = (r.opened c x residual).state :=
      noted_state r c x step residual
    rw [opened_state] at hstate
    cases hr : r.state with
    | quiet =>
      cases h with
      | waits hs | records hs => simp [hs] at hr
      | quiet hs waits head judged e since hes h hquiet =>
        refine .quiet (by simpa [hr] using hstate) waits head judged e (since ++ [⟨r, x⟩])
          (by simp [hes]) ?_ (hquiet.noted hs hx hwhite)
        exact (h.quiet_noted hs hx).congr rfl rfl rfl rfl rfl
    | waiting | recording =>
      obtain ⟨waits, head, recorded, hes, hfirst, hrec⟩ := h.opened x residual
      refine .records (by simpa [hr] using hstate) waits head _
        (by rw [hes, List.append_assoc]) (by simp) ?_
      exact Records.congr (hrec.noted hx hfirst) rfl rfl rfl rfl rfl
  | quiet step residual hx hwhite candidate required hverdict hstate =>
    obtain ⟨waits, head, recorded, hes, hfirst, hrec⟩ := h.opened x residual
    have hnoted := hrec.noted hx hfirst
    refine .quiet rfl waits head recorded ⟨r, x⟩ [] (by rw [hes, List.append_assoc]) ?_
      ⟨?_, ?_, ?_, ?_, not_quiet_of_opened hstate, by simp, ?_⟩
    · exact Records.congr hnoted rfl rfl rfl rfl rfl
    · rw [hx.heard]
      exact hverdict
    · rw [hx.heard]
      exact Records.congr hnoted rfl rfl rfl rfl rfl
    · rw [hx.heard]
    · rw [hx.heard]
    · intro e' he'
      rw [hx.heard, List.mem_singleton.1 he']
      exact ⟨hx.valid, hwhite⟩
  | release step residual hx hwhite candidate required hverdict hover q
  | released step residual hx hwhite hstate hover q =>
    exact .waits rfl (waits_finish q false)

/-- A journal that ends in a quiet wait, cut where the recording and where the wait began. -/
structure Cut (es waits judged : List Entry) (e : Entry) (since : List Entry) : Prop where
  journal : es = waits ++ (judged ++ e :: since)
  triggered : ∀ e₁, (judged ++ [e]).head? = some e₁ → e₁.before.state = .waiting
  later : ∀ e' ∈ (judged ++ [e]).tail, e'.before.state ≠ .waiting
  begun : e.before.state ≠ .quiet
  waited : ∀ e' ∈ since, e'.before.state = .quiet

/-- A list is cut in one way only at the last element with a property. -/
theorem append_cons_inj_of_last {α : Type*} {P : α → Prop} {a a' b b' : List α} {x x' : α}
    (h : a ++ x :: b = a' ++ x' :: b') (hx : P x) (hx' : P x') (hb : ∀ y ∈ b, ¬P y)
    (hb' : ∀ y ∈ b', ¬P y) : a = a' ∧ x = x' ∧ b = b' := by
  rcases List.append_eq_append_iff.1 h with ⟨_ | ⟨y, m⟩, rfl, hm⟩ | ⟨_ | ⟨y, m⟩, rfl, hm⟩
  · simpa using hm
  · obtain ⟨-, rfl⟩ := List.cons.inj hm
    exact absurd hx' (hb x' (by simp))
  · simpa [eq_comm] using hm
  · obtain ⟨-, rfl⟩ := List.cons.inj hm
    exact absurd hx (hb' x (by simp))

/-- The quiet wait at the end of a journal and its recording are determined. -/
theorem Cut.unique {judged judged' since since' waits' : List Entry} {e' : Entry}
    (h : Cut es waits judged e since) (h' : Cut es waits' judged' e' since') :
    waits = waits' ∧ judged = judged' ∧ e = e' ∧ since = since' := by
  have heq : (waits ++ judged) ++ e :: since = (waits' ++ judged') ++ e' :: since' := by
    simpa using h.journal.symm.trans h'.journal
  obtain ⟨happend, rfl, rfl⟩ := append_cons_inj_of_last (P := fun e => e.before.state ≠ .quiet) heq
    h.begun h'.begun (by simpa using h.waited) (by simpa using h'.waited)
  have hcons : waits ++ (judged ++ [e]) = waits' ++ (judged' ++ [e]) := by
    simp only [← List.append_assoc, happend]
  have hfirst := h.triggered
  have hfirst' := h'.triggered
  have hlater := h.later
  have hlater' := h'.later
  obtain ⟨e₁, rest, hrest⟩ := List.exists_cons_of_ne_nil (l := judged ++ [e]) (by simp)
  obtain ⟨e₁', rest', hrest'⟩ := List.exists_cons_of_ne_nil (l := judged' ++ [e]) (by simp)
  rw [hrest] at hfirst hlater hcons
  rw [hrest'] at hfirst' hlater' hcons
  obtain ⟨hwaits, rfl, rfl⟩ := append_cons_inj_of_last
    (P := fun e : Entry => e.before.state = .waiting) hcons (hfirst _ rfl) (hfirst' _ rfl) hlater
    hlater'
  exact ⟨hwaits, List.append_left_injective [e] (hrest.trans hrest'.symm), rfl, rfl⟩

/-- Where a journal in a quiet wait is cut. -/
theorem Records.cut {judged since : List Entry} (h : Records waits head (judged ++ [e]) r)
    (hes : es = waits ++ (judged ++ e :: since)) (hbegun : e.before.state ≠ .quiet)
    (hwaited : ∀ e' ∈ since, e'.before.state = .quiet) : Cut es waits judged e since :=
  ⟨hes, fun e₁ he₁ => (h.triggered e₁ he₁).1, h.later, hbegun, hwaited⟩

/-- A letter is released: all was white since the quiet wait began with `e`, for long enough. -/
def Released (c : BarcodeConfig) (es : List Entry) (result : Fin 26 × Bool) : Prop :=
  ∃ (waits : List Entry) (head : List Sample) (judged : List Entry) (e : Entry)
      (since : List Entry) (required : ℕ), Cut es waits judged e since ∧
    Records waits head (judged ++ [e]) (e.heard c) ∧
    (e.heard c).verdict c = some (result, required) ∧
    required ≤ timeOf (head ++ (judged ++ e :: since).map Entry.sample) ∧
    timeOf (head ++ (judged ++ e :: since).map Entry.sample) < 0x7FFFFFFF ∧
    ∀ e' ∈ e :: since, e'.call.valid = true ∧ (e.heard c).white e'.call.dark = true

theorem FrameOk.time_lt (h : FrameOk r) : timeOf r.sample < 0x7FFFFFFF := by
  have hle := timeOf_le h.steps
  have hlen : r.sample.length * 31500 ≤ recMax * 31500 := Nat.mul_le_mul_right _ h.length
  have hmax : recMax * 31500 < 0x7FFFFFFF := by decide
  omega

/-- A letter is released at the end of a quiet wait. -/
theorem Past.released (h : Past c es r) (ho : Took c r x o) {result : BarcodeResult}
    (hresult : o.1 = .decoded result) :
    Released c (es ++ [⟨r, x⟩]) (result.letter, result.reversed) := by
  cases ho with
  | reset | blocked | light | ink | white | quiet => cases hresult
  | restart status r' hr' hstatus | failed status q hq hstatus =>
    exact absurd hresult (hstatus result)
  | release step residual hx hwhite candidate required hverdict hover q hq hstate =>
    cases hresult
    obtain ⟨waits, head, recorded, hes, hfirst, hrec⟩ := h.opened x residual
    have hheard : Records waits head (recorded ++ [⟨r, x⟩]) (Entry.heard c ⟨r, x⟩) := by
      rw [hx.heard]
      exact Records.congr (hrec.noted hx hfirst) rfl rfl rfl rfl rfl
    refine ⟨waits, head, recorded, ⟨r, x⟩, [], required,
      hheard.cut (by rw [hes, List.append_assoc]) (not_quiet_of_opened hstate) (by simp), hheard,
      hx.heard ▸ hverdict, ?_, ?_, ?_⟩
    · rw [← hheard.sample, ← hheard.frame.time, hx.heard]
      exact hover
    · rw [← hheard.sample]
      exact hheard.frame.time_lt
    · intro e' he'
      rw [hx.heard, List.mem_singleton.1 he']
      exact ⟨hx.valid, hwhite⟩
  | released step residual hx hwhite hstate hover =>
    cases hresult
    rw [opened_state] at hstate
    cases h with
    | waits hs | records hs => simp [hs] at hstate
    | quiet hs waits head judged e since hes h hquiet =>
      have hnoted := h.quiet_noted hs hx
      have hquiet' := hquiet.noted hs hx hwhite
      refine ⟨waits, head, judged, e, since ++ [⟨r, x⟩], _,
        hquiet'.records.cut (by simp [hes]) hquiet'.begun hquiet'.waited, hquiet'.records,
        hquiet'.verdict, ?_, ?_, hquiet'.white⟩
      · rw [← hnoted.sample, ← hnoted.frame.time]
        exact hover
      · rw [← hnoted.sample]
        exact hnoted.frame.time_lt

/-- **Every reader has a past.** -/
theorem past (hc : configValid c) (l : List RecCall) :
    Past c (journal c {} l) (after c {} l) ∧ Fresh (after c {} l) := by
  induction l using List.reverseRecOn with
  | nil => exact ⟨.waits rfl (waits_empty rfl rfl rfl rfl), fun _ => rfl⟩
  | append_singleton l x ih =>
    have htook := update_took hc (after c {} l) x
    rw [journal_snoc, after_snoc]
    exact ⟨ih.1.took ih.2 htook, htook.fresh⟩

theorem released_of_decoded (hc : configValid c) (l : List RecCall) (x : RecCall)
    {result : BarcodeResult} (h : ((after c {} l).call c x).1 = .decoded result) :
    Released c (journal c {} (l ++ [x])) (result.letter, result.reversed) := by
  rw [journal_snoc]
  exact (past hc l).1.released (update_took hc _ x) h

end RoboticCar.Barcode
