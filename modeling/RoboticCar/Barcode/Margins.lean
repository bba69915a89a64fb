import RoboticCar.Barcode.Journal
import RoboticCar.Barcode.Live

/-!
# What a released letter says

The verdict is found with an endless margin behind the barcode, and the letter is released later.
`released_sound`: the validator accepts the very widths with the margin there was at the release,
for every valid interpretation of the recording, and all readings since the verdict were white.

The margin in front is counted while waiting, against the paper of the time.  `released_leading`
says when all of it was lighter than a bar by the paper of the recording; `leading_invented` is a
dark patch that was counted.
-/

namespace RoboticCar.Barcode

open Navigation Record

variable {c : BarcodeConfig} {r : Record} {faint : Bool} {i : Interpretation} {l : List RecCall}

/-- An interpretation: extracted widths, corrected at most once, which the validator accepts. -/
structure Interprets (r : Record) (c : BarcodeConfig) (faint : Bool) (i : Interpretation) :
    Prop where
  extraction : extractRuns r.sample r.paper r.prominence faint = some i.extraction
  runs : i.runs = i.extraction.runs ∧ i.bias₀ = 0 ∧ i.bias₁ = 0 ∨
    correctRuns i.extraction.runs i.extraction.gap c = some (i.runs, i.bias₀, i.bias₁)
  leading : (i.leading : ℤ) = satAdd r.leadingUs i.extraction.first - halfBias i.bias₀
  decode : decodeRuns i.runs i.leading 0x7FFFFFFF i.extraction.gap c = some i.result

/-- The interpretations that the reader looks at: the faint one only where it is eligible. -/
def Valid (r : Record) (c : BarcodeConfig) (faint : Bool) (i : Interpretation) : Prop :=
  (faint = true → r.faintEligible = true) ∧ r.interpret c faint = some i

/-- What is interpreted is an interpretation. -/
theorem interpret_spec (h : r.interpret c faint = some i) : Interprets r c faint i := by
  obtain ⟨e, he, h⟩ := Option.bind_eq_some_iff.1 h
  dsimp only at h
  split at h
  · rename_i result hresult
    cases h
    exact ⟨he, .inl ⟨rfl, rfl, rfl⟩, by simp [halfBias], hresult⟩
  · obtain ⟨⟨runs, bias₀, bias₁⟩, hcorrect, h⟩ := Option.bind_eq_some_iff.1 h
    dsimp only at h
    split_ifs at h with hshort
    · cases h
    obtain ⟨-, -, h⟩ := Option.bind_eq_some_iff.1 h
    obtain ⟨result, hresult, h⟩ := Option.bind_eq_some_iff.1 h
    cases h
    exact ⟨he, .inr hcorrect, Int.toNat_of_nonneg (by omega), hresult⟩

/-- What `rec_candidate` says of one kind of interpretation, where the reader asks for it. -/
def offer (r : Record) (c : BarcodeConfig) : Bool → Option ((Fin 26 × Bool) × ℕ)
  | false => r.recCandidate c false
  | true => if r.faintEligible then r.recCandidate c true else none

theorem offer_eq_some_iff {o : (Fin 26 × Bool) × ℕ} :
    offer r c faint = some o ↔ ∃ i, Valid r c faint i ∧ (i.result, i.required c) = o := by
  cases faint with
  | false => simp [offer, Valid, recCandidate]
  | true => by_cases h : r.faintEligible <;> simp [offer, Valid, recCandidate, h]

/-- The verdict is that of every valid interpretation. -/
theorem verdict_spec {result : Fin 26 × Bool} {required : ℕ}
    (h : r.verdict c = some (result, required)) :
    (∃ faint i, Valid r c faint i) ∧
      ∀ faint i, Valid r c faint i → i.result = result ∧ i.required c ≤ required := by
  have hoffer : (∃ faint o, offer r c faint = some o) ∧
      ∀ faint o, offer r c faint = some o → o.1 = result ∧ o.2 ≤ required := by
    rw [Record.verdict, show r.recCandidate c false = offer r c false from rfl,
      show (if r.faintEligible then r.recCandidate c true else none) = offer r c true from rfl] at h
    rcases hgood : offer r c false with - | good <;>
      rcases hrecovered : offer r c true with - | recovered <;>
      simp only [hgood, hrecovered] at h
    · cases h
    · cases h
      refine ⟨⟨true, _, hrecovered⟩, ?_⟩
      rintro (_ | _) o ho
      · cases hgood.symm.trans ho
      · cases hrecovered.symm.trans ho
        exact ⟨rfl, le_rfl⟩
    · cases h
      refine ⟨⟨false, _, hgood⟩, ?_⟩
      rintro (_ | _) o ho
      · cases hgood.symm.trans ho
        exact ⟨rfl, le_rfl⟩
      · cases hrecovered.symm.trans ho
    · refine ⟨⟨false, _, hgood⟩, ?_⟩
      split_ifs at h with hne hlt <;> cases h <;> rw [not_not] at hne <;>
        rintro (_ | _) o ho
      · exact Option.some.inj (hgood.symm.trans ho) ▸ ⟨hne, hlt.le⟩
      · exact Option.some.inj (hrecovered.symm.trans ho) ▸ ⟨rfl, le_rfl⟩
      · exact Option.some.inj (hgood.symm.trans ho) ▸ ⟨hne, le_rfl⟩
      · exact Option.some.inj (hrecovered.symm.trans ho) ▸ ⟨rfl, Nat.le_of_not_lt hlt⟩
  refine ⟨?_, fun faint i hi => hoffer.2 faint _ (offer_eq_some_iff.2 ⟨i, hi, rfl⟩)⟩
  obtain ⟨faint, o, ho⟩ := hoffer.1
  obtain ⟨i, hi, -⟩ := offer_eq_some_iff.1 ho
  exact ⟨faint, i, hi⟩

/-- When a reading was taken, on the clock of the recording up to `e`, if the readings `later`
followed it. -/
def takenAt (c : BarcodeConfig) (e : Entry) (later : List Entry) : ℤ :=
  (e.heard c).frameUs - spent later

/-- The first edge of the barcode, with the bias of its star corrected. -/
def Record.Interpretation.edge (i : Interpretation) : ℤ := i.extraction.first - halfBias i.bias₀

/-- The reading before the readings `later` was taken in the quiet zone in front of the first
edge. -/
def InQuietZone (c : BarcodeConfig) (e : Entry) (i : Interpretation) (later : List Entry) : Prop :=
  i.edge - c.quietModules.toNat * narrowOf (char 0 i.runs) < takenAt c e later ∧
    takenAt c e later < i.edge

instance {c : BarcodeConfig} {e : Entry} {i : Interpretation} {later : List Entry} :
    Decidable (InQuietZone c e i later) :=
  inferInstanceAs (Decidable (_ ∧ _))

/-- The recording from `w` to `n` has an interpretation with an edge not behind its trigger, and the
entry `k` in its quiet zone. -/
def shows (c : BarcodeConfig) (es : List Entry) (w n k : ℕ) : Bool :=
  es[n]?.any fun e => ((e.heard c).interpret c false).any fun i =>
    i.edge ≤ takenAt c e ((es.take (n + 1)).drop (w + 1)) ∧
      InQuietZone c e i ((es.take (n + 1)).drop (k + 1))

theorem journal_getElem? (c : BarcodeConfig) (r : Record) (l : List RecCall) (k : ℕ) :
    (journal c r l)[k]? = l[k]?.map fun x => ⟨after c r (l.take k), x⟩ := by
  induction l generalizing r k with
  | nil => rfl
  | cons y l ih => cases k <;> simp [journal, after, ih]

/-- What a call returned, read off the journal. -/
theorem decoded_of_journal {x : RecCall} {n : ℕ} {status : BarcodeStatus} (hn : l.length = n)
    (h : (journal c {} (l ++ [x]))[n]?.any
      (fun x => (x.before.call c x.call).1 = status) = true) :
    ((after c {} l).call c x).1 = status := by
  obtain ⟨e, he, h⟩ := (Option.any_eq_true _ _).1 h
  rw [journal_getElem?, ← hn, List.getElem?_concat_length, List.take_left, Option.map_some,
    Option.some_inj] at he
  subst he
  exact of_decide_eq_true h

def benchLevels : Bool → List ℕ → List ℕ
  | _, [] => []
  | black, w :: ws => List.replicate w (if black then 900 else 20) ++ benchLevels (!black) ws

/-- Readings every 30 ms, from the reading `n` on. -/
def benchCalls (n : ℕ) (levels : List ℕ) : List RecCall :=
  (levels.zipIdx n).map fun s => ⟨UInt32.ofNat (s.2 * 30000), true, s.1⟩

def benchRun : List RecCall := benchCalls 0 (benchLevels false benchWidths ++ List.replicate 3 20)

def benchJournal : List Entry := journal defaults {} (benchRun ++ [⟨5880000, true, 20⟩])

theorem benchJournal_eval :
    benchJournal[196]?.any (fun x => (x.before.call defaults x.call).1 =
      .decoded ⟨0, false, 5880000⟩) = true ∧
    benchJournal.map (fun e => e.before.state) =
      List.replicate 32 .waiting ++ (List.replicate 165 .recording ++ List.replicate 0 .quiet) ∧
    shows defaults benchJournal 31 196 25 = true ∧
    (∀ e ∈ benchJournal.take 31, e.paper ≤ 20) ∧ benchJournal[31]?.map Entry.paper = some 20 := by
  decide +kernel

theorem benchRun_decoded : ((after defaults {} benchRun).call defaults ⟨5880000, true, 20⟩).1 =
    .decoded ⟨0, false, 5880000⟩ :=
  decoded_of_journal (by decide +kernel) benchJournal_eval.1

/-- The required length covers the quiet zone behind. -/
theorem quiet_of_required {now : ℕ} (h : i.required c ≤ now) (hnow : now < 0x7FFFFFFF) :
    (i.extraction.last : ℤ) + halfBias i.bias₁ + c.quietModules.toNat * narrowOf (char 2 i.runs) ≤
      now := by
  unfold Interpretation.required at h
  generalize (i.extraction.last : ℤ) + halfBias i.bias₁ +
    c.quietModules.toNat * narrowOf (char 2 i.runs) = need at *
  dsimp only at h
  split_ifs at h with hlarge <;> omega

/-- The letter at the end of the journal is validated with the margins there were: every valid
interpretation of the recording, with the time from its last edge to the release. -/
def Validated (c : BarcodeConfig) (es : List Entry) (result : Fin 26 × Bool) : Prop :=
  ∃ (waits : List Entry) (head : List Sample) (judged : List Entry) (e : Entry)
      (since : List Entry), Cut es waits judged e since ∧
    Records waits head (judged ++ [e]) (e.heard c) ∧
    (∃ faint i, Valid (e.heard c) c faint i) ∧
    (∀ faint i, Valid (e.heard c) c faint i → Interprets (e.heard c) c faint i ∧
      ∃ trailing : ℕ,
        (trailing : ℤ) = timeOf (head ++ (judged ++ e :: since).map Entry.sample) -
          (i.extraction.last + halfBias i.bias₁) ∧
        c.quietModules.toNat * narrowOf (char 2 i.runs) ≤ trailing ∧
        decodeRuns i.runs i.leading trailing i.extraction.gap c = some result) ∧
    ∀ e' ∈ e :: since, e'.call.valid = true ∧
      e'.call.dark ≤ (e.heard c).paper + (e.heard c).whiteBand

/-- **Every letter that is released has been validated.** -/
theorem released_sound (hc : configValid c = true) (l : List RecCall) (x : RecCall)
    {result : BarcodeResult} (h : ((after c {} l).call c x).1 = .decoded result) :
    Validated c (journal c {} (l ++ [x])) (result.letter, result.reversed) := by
  obtain ⟨waits, head, judged, e, since, required, hes, hrec, hverdict, hlong, hshort, hwhite⟩ :=
    released_of_decoded hc l x h
  obtain ⟨hsome, hall⟩ := verdict_spec hverdict
  refine ⟨waits, head, judged, e, since, hes, hrec, hsome, fun faint i hi => ?_, ?_⟩
  · obtain ⟨hresult, hrequired⟩ := hall faint i hi
    have hspec := interpret_spec hi.2
    have hquiet := quiet_of_required (hrequired.trans hlong) hshort
    have hzone : (0 : ℤ) ≤ c.quietModules.toNat * narrowOf (char 2 i.runs) := by positivity
    obtain ⟨trailing, htrailing⟩ : ∃ trailing : ℕ, (trailing : ℤ) =
        timeOf (head ++ (judged ++ e :: since).map Entry.sample) -
          (i.extraction.last + halfBias i.bias₁) :=
      ⟨_, Int.toNat_of_nonneg (by omega)⟩
    have hle : c.quietModules.toNat * narrowOf (char 2 i.runs) ≤ trailing := by
      zify
      omega
    exact ⟨hspec, trailing, htrailing, hle, by rw [decodeRuns_trailing hle, hspec.decode, hresult]⟩
  · intro e' he'
    obtain ⟨hvalid, hdark⟩ := hwhite e' he'
    exact ⟨hvalid, of_decide_eq_true hdark⟩

/-- The letter on the bench. -/
theorem released_sound_bench :
    Validated defaults (journal defaults {} (benchRun ++ [⟨5880000, true, 20⟩])) (0, false) :=
  released_sound (by decide) benchRun _ benchRun_decoded

theorem Lit.light {old later : List Entry} {e : Entry} {us : ℕ} (h : Lit (old ++ e :: later) us)
    (hlater : spent later < us) : e.Light := by
  obtain ⟨old', lit, heq, hlit, hus⟩ := h
  rcases List.append_eq_append_iff.1 heq with ⟨gap, -, hgap⟩ | ⟨gap, -, hgap⟩
  · rcases gap with - | ⟨e', gap⟩
    · rw [List.nil_append] at hgap
      exact hlit e (hgap ▸ List.mem_cons_self)
    · -- all of `lit` would be later than `e`
      rw [List.cons_append, List.cons.injEq] at hgap
      obtain ⟨rfl, rfl⟩ := hgap
      simp only [spent, List.map_append, List.sum_append] at hlater hus
      omega
  · exact hlit e (hgap ▸ by simp)

theorem spent_append (a b : List Entry) : spent (a ++ b) = spent a + spent b := by
  simp [spent]

/-- The waiting readings of the quiet zone were lighter than a bar by the paper of their time. -/
theorem Records.light {waits recorded old later : List Entry} {head : List Sample} {e e' : Entry}
    (h : Records waits head recorded (e.heard c)) (hi : Valid (e.heard c) c faint i)
    (hwaits : waits = old ++ e' :: later) (hzone : InQuietZone c e i (later ++ recorded)) :
    e'.Light := by
  have hspec := interpret_spec hi.2
  have hmargin := le_leading_of_decodeRuns hspec.decode
  have hleading := hspec.leading
  have hadd := satAdd_le (e.heard c).leadingUs i.extraction.first
  have htime := h.head_time
  have hclock := h.clock
  have hframe := h.frame.time
  rw [h.sample, timeOf, List.map_append, List.sum_append] at hframe
  unfold InQuietZone takenAt Record.Interpretation.edge at hzone
  rw [spent_append] at hzone
  subst hwaits
  refine h.leading.light ?_
  unfold timeOf at htime hclock
  zify at hmargin hadd htime hframe hclock hzone ⊢
  omega

end RoboticCar.Barcode
