import Mathlib.Data.List.Basic

/-!
# Messages that arrive in fragments

lwIP hands a message over in pieces, the last one flagged.  The client collects them in static
buffers and passes complete messages on; what was too long or does not add up is dropped, and its
bytes stay.  `message_received` says when a message is passed on, from any state of the buffers, and
that the bytes are its own; `messages_received` is the same for a sequence.
-/

namespace RoboticCar.Mqtt

def rxTopicMax : ℕ := 64
def rxDataMax : ℕ := 14

/-- The static buffers; of `rx_topic` what stands before its NUL. -/
structure Rx where
  topic : List UInt8
  data : ℕ → UInt8
  len : ℕ
  truncated : Bool
  expected : ℕ

/-- A call of `mqtt_utk_app_receive`: the topic and the payload. -/
abbrev Call : Type := List UInt8 × List UInt8

namespace Rx

/-- `incoming_publish_cb`, given the characters of the topic before its NUL. -/
def incomingPublish (s : Rx) (topic : List UInt8) (totLen : ℕ) : Rx :=
  { s with
    topic := topic.take (rxTopicMax - 1)
    len := 0
    truncated := decide (rxTopicMax - 1 < topic.length ∨ rxDataMax < totLen)
    expected := if totLen ≤ rxDataMax then totLen else 0 }

def store (s : Rx) (b : UInt8) : Rx :=
  if s.len < rxDataMax then { s with data := Function.update s.data s.len b, len := s.len + 1 }
  else { s with truncated := true }

def payload (s : Rx) : List UInt8 := (List.range s.len).map s.data

/-- `incoming_data_cb`, with the call it makes. -/
def incomingData (s : Rx) (fragment : List UInt8) (last : Bool) : Rx × Option Call :=
  let s := fragment.foldl store s
  if last then
    let s := { s with truncated := s.truncated || decide (s.len ≠ s.expected) }
    (s, if s.truncated then none else some (s.topic, s.payload))
  else (s, none)

def incomingFragments (s : Rx) : List (List UInt8) → Rx × List Call
  | [] => (s, [])
  | [fragment] => ((s.incomingData fragment true).1, (s.incomingData fragment true).2.toList)
  | fragment :: rest =>
    let r := (s.incomingData fragment false).1.incomingFragments rest
    (r.1, (s.incomingData fragment false).2.toList ++ r.2)

end Rx

/-- A message: its topic, the length that was announced, and its fragments, of which there is at
least one. -/
structure Message where
  topic : List UInt8
  totLen : ℕ
  fragments : List (List UInt8)
  nonempty : fragments ≠ []

namespace Message

def bytes (m : Message) : List UInt8 := m.fragments.flatten

def receive (m : Message) (s : Rx) : Rx × List Call :=
  (s.incomingPublish m.topic m.totLen).incomingFragments m.fragments

def accepted (m : Message) : Option Call :=
  if m.topic.length < rxTopicMax ∧ m.totLen ≤ rxDataMax ∧ m.bytes.length = m.totLen then
    some (m.topic, m.bytes)
  else none

/-- The buffers after the bytes `done` of the message, whatever was in them before. -/
structure Holds (m : Message) (done : List UInt8) (s : Rx) : Prop where
  topic : s.topic = m.topic.take (rxTopicMax - 1)
  payload : s.payload = done.take rxDataMax
  len : s.len = min done.length rxDataMax
  truncated : s.truncated =
    decide (rxTopicMax - 1 < m.topic.length ∨ rxDataMax < m.totLen ∨ rxDataMax < done.length)
  expected : s.expected = if m.totLen ≤ rxDataMax then m.totLen else 0

variable {m : Message} {done : List UInt8} {s : Rx}

theorem holds_publish (m : Message) (s : Rx) : m.Holds [] (s.incomingPublish m.topic m.totLen) :=
  ⟨rfl, rfl, rfl, by simp [Rx.incomingPublish], rfl⟩

/-- One more byte. -/
theorem Holds.store (h : m.Holds done s) (b : UInt8) : m.Holds (done ++ [b]) (s.store b) := by
  have hlen := h.len
  unfold Rx.store
  by_cases hroom : s.len < rxDataMax
  · have hdone : done.length < rxDataMax := by omega
    have hs : s.len = done.length := by omega
    rw [if_pos hroom]
    refine ⟨h.topic, ?_, ?_, ?_, h.expected⟩
    · have hpayload : (List.range s.len).map s.data = done := by
        have hpayload := h.payload
        rwa [List.take_of_length_le (Nat.le_of_lt hdone)] at hpayload
      simp only [Rx.payload, List.range_succ, List.map_append, List.map_singleton,
        Function.update_self]
      rw [List.take_of_length_le (by rw [List.length_append]; exact hdone)]
      congr 1
      refine Eq.trans (List.map_congr_left fun i hi => ?_) hpayload
      rw [Function.update_of_ne (Nat.ne_of_lt (List.mem_range.1 hi))]
    · simp only [List.length_append, List.length_singleton]
      omega
    · refine h.truncated.trans (decide_eq_decide.2 ?_)
      simp only [List.length_append, List.length_singleton]
      omega
  · have hdone : rxDataMax ≤ done.length := by omega
    rw [if_neg hroom]
    refine ⟨h.topic, ?_, ?_, ?_, h.expected⟩
    · rw [List.take_append_of_le_length hdone]
      exact h.payload
    · simp only [List.length_append, List.length_singleton]
      omega
    · refine (decide_eq_true ?_).symm
      simp only [List.length_append, List.length_singleton]
      omega

theorem Holds.foldl (h : m.Holds done s) (fragment : List UInt8) :
    m.Holds (done ++ fragment) (fragment.foldl Rx.store s) := by
  induction fragment generalizing done s with
  | nil => rwa [List.append_nil]
  | cons b rest ih => simpa using ih (h.store b)

/-- The last fragment completes the message. -/
theorem Holds.last (h : m.Holds done s) {fragment : List UInt8}
    (hall : done ++ fragment = m.bytes) :
    (s.incomingData fragment true).2 = m.accepted := by
  obtain ⟨htopic, hpayload, hlen, htruncated, hexpected⟩ := hall ▸ h.foldl fragment
  simp only [Rx.incomingData, if_true, accepted]
  generalize fragment.foldl Rx.store s = e at *
  by_cases hok : m.topic.length < rxTopicMax ∧ m.totLen ≤ rxDataMax ∧ m.bytes.length = m.totLen
  · obtain ⟨hshort, hfits, hsum⟩ := hok
    have htopic' : e.topic = m.topic := by rw [htopic, List.take_of_length_le (by omega)]
    have hpayload' : (List.range e.len).map e.data = m.bytes := by
      rw [← Rx.payload, hpayload, List.take_of_length_le (by omega)]
    have hclear : (e.truncated || decide (e.len ≠ e.expected)) = false := by
      rw [htruncated, hlen, hexpected.trans (if_pos hfits)]
      simp only [Bool.or_eq_false_iff, decide_eq_false_iff_not]
      omega
    simp only [hclear, hshort, hfits, hsum, and_self, if_true, Bool.false_eq_true, if_false]
    rw [Rx.payload, htopic', hpayload']
  · have hset : (e.truncated || decide (e.len ≠ e.expected)) := by
      rw [htruncated, hlen]
      simp only [Bool.or_eq_true, decide_eq_true_eq]
      by_cases hfits : m.totLen ≤ rxDataMax
      · rw [hexpected, if_pos hfits]
        have hmax : rxTopicMax = 64 := rfl
        omega
      · exact .inl (.inr (.inl (by omega)))
    simp only [hset, hok, if_true, if_false]

/-- Any split of the message completes it. -/
theorem Holds.fragments (h : m.Holds done s) {rest : List (List UInt8)} (hrest : rest ≠ [])
    (hall : done ++ rest.flatten = m.bytes) :
    (s.incomingFragments rest).2 = m.accepted.toList := by
  induction rest generalizing done s with
  | nil => exact absurd rfl hrest
  | cons fragment rest ih =>
    rw [List.flatten_cons, ← List.append_assoc] at hall
    cases rest with
    | nil => rw [Rx.incomingFragments, h.last (by simpa using hall)]
    | cons => exact ih (h.foldl fragment) (by simp) hall

/-- **A message that arrives in fragments** is passed on once, with its topic and its bytes, if both
fit and the fragments add up, and otherwise not at all, whatever the buffers held before. -/
theorem message_received (m : Message) (s : Rx) : (m.receive s).2 = m.accepted.toList :=
  (holds_publish m s).fragments m.nonempty rfl

def receiveAll : List Message → Rx → Rx × List Call
  | [], s => (s, [])
  | m :: rest, s =>
    let r := receiveAll rest (m.receive s).1
    (r.1, (m.receive s).2 ++ r.2)

/-- **No message leaves a trace in another**: a sequence of messages is passed on message by
message, each as it would be alone. -/
theorem messages_received (l : List Message) (s : Rx) :
    (receiveAll l s).2 = l.filterMap accepted := by
  induction l generalizing s with
  | nil => rfl
  | cons m rest ih =>
    rw [receiveAll, message_received, ih]
    cases h : m.accepted <;> simp [h]

end Message

end RoboticCar.Mqtt
