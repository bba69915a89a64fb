import Mathlib.Tactic.Linarith
import RoboticCar.Lib.Run

/-!
# When the Wi-Fi joins again

`wifi_retry_policy.h` decides when to give up an attempt to join and when to begin the next: an
attempt may last `WIFI_CONNECT_TIMEOUT_US`, and the delay between two doubles with every failure.

`Spell` says in which spell a history of observations is, when it began and how many backoffs there
have been, and knows nothing of the times that are allowed; `retry_policy` gives the actions in
terms of it.
-/

namespace RoboticCar.Wifi

open Lib

def connectTimeoutUs : ℕ := 20000000
def rejoinDelayUs : ℕ := 5000000
def rejoinMaxDelayUs : ℕ := 30000000

/-- `CYW43_LINK_DOWN` and `CYW43_LINK_UP`; failures are negative. -/
def linkDown : ℤ := 0
def linkUp : ℤ := 3

inductive Action
  | wait | leave | join
  deriving DecidableEq

inductive Phase
  | attempt | backoff | up
  deriving DecidableEq

/-- `wifi_retry_policy_t`. -/
structure Policy where
  sinceUs : UInt64
  delayUs : ℕ
  nextDelayUs : ℕ
  phase : Phase

namespace Policy

/-- `wifi_retry_schedule`. -/
def schedule (p : Policy) (now : UInt64) : Policy :=
  { sinceUs := now
    delayUs := p.nextDelayUs
    nextDelayUs := if p.nextDelayUs * 2 > rejoinMaxDelayUs then rejoinMaxDelayUs
      else p.nextDelayUs * 2
    phase := .backoff }

/-- `wifi_retry_join_result`. -/
def joinResult (p : Policy) (now : UInt64) (result : ℤ) : Policy :=
  if result ≠ 0 then p.schedule now else { p with phase := .attempt, sinceUs := now }

/-- `wifi_retry_init`. -/
def init (now : UInt64) (result : ℤ) : Policy :=
  joinResult ⟨0, 0, rejoinDelayUs, .attempt⟩ now result

def waitBackoff (p : Policy) (now : UInt64) : Action × Policy :=
  if (now - p.sinceUs).toNat ≥ p.delayUs then
    (.join, { p with phase := .attempt, sinceUs := now })
  else (.wait, p)

def waitAttempt (p : Policy) (now : UInt64) (link : ℤ) : Action × Policy :=
  if link < 0 then (.wait, p.schedule now)
  else if (now - p.sinceUs).toNat ≥ connectTimeoutUs then (.leave, p.schedule now)
  else (.wait, p)

/-- `wifi_retry_observe`. -/
def observe (p : Policy) (now : UInt64) (link : ℤ) : Action × Policy :=
  if link = linkUp then (.wait, { p with phase := .up, nextDelayUs := rejoinDelayUs })
  else
    let p :=
      if p.phase = .up then
        if link ≤ linkDown then p.schedule now else { p with phase := .attempt, sinceUs := now }
      else p
    if p.phase = .backoff then p.waitBackoff now else p.waitAttempt now link

end Policy

/-- An observation: the time and the link; and, should it ask for a join, the time and the result of
that. -/
structure Obs where
  now : ℕ
  link : ℤ
  joinNow : ℕ
  result : ℤ

def Policy.call (p : Policy) (o : Obs) : Action × Policy :=
  let r := p.observe (.ofNat o.now) o.link
  (r.1, if r.1 = .join then r.2.joinResult (.ofNat o.joinNow) o.result else r.2)

/-- The spell of the link: an attempt after so many backoffs, the backoff of that number, a
connection. -/
inductive Spell
  | attempt (began backoffs : ℕ)
  | backoff (armed number : ℕ)
  | up
  deriving DecidableEq

def Spell.joined (now : ℕ) (result : ℤ) (backoffs : ℕ) : Spell :=
  if result = 0 then .attempt now backoffs else .backoff now backoffs

/-- The spell after an observation to which the policy answered with the action. -/
def Spell.next (sp : Spell) (o : Obs) (a : Action) : Spell :=
  if o.link = linkUp then .up
  else match sp with
    | .up => if o.link ≤ linkDown then .backoff o.now 0 else .attempt o.now 0
    | .backoff armed number =>
      if a = .join then .joined o.joinNow o.result (number + 1) else .backoff armed number
    | .attempt began backoffs =>
      if o.link < 0 ∨ a = .leave then .backoff o.now backoffs else .attempt began backoffs

/-- The policy with its history: the spell and the time of the last call. -/
structure Watch where
  policy : Policy
  spell : Spell
  last : ℕ

namespace Watch

def init (now : ℕ) (result : ℤ) : Watch :=
  ⟨.init (.ofNat now) result, .joined now result 0, now⟩

def action (w : Watch) (o : Obs) : Action := (w.policy.call o).1

def next (w : Watch) (o : Obs) : Watch :=
  ⟨(w.policy.call o).2, w.spell.next o (w.action o),
    if w.action o = .join then o.joinNow else o.now⟩

/-- The calls are made at nondecreasing times less than `2 ^ 63` apart. -/
def Timely (w : Watch) (o : Obs) : Prop :=
  (w.last ≤ o.now ∧ o.now - w.last < 2 ^ 63) ∧ (w.action o = .join → o.now ≤ o.joinNow)

instance (w : Watch) (o : Obs) : Decidable (w.Timely o) := inferInstanceAs (Decidable (_ ∧ _))

/-- The delay of the backoff with the number `k`. -/
def delay (k : ℕ) : ℕ := min (rejoinDelayUs * 2 ^ k) rejoinMaxDelayUs

/-- The policy at an observation: the action ends the spell, so it comes at the first one late
enough. -/
structure Decides (w : Watch) (o : Obs) : Prop where
  leave : w.action o = .leave ↔ ∃ began backoffs, w.spell = .attempt began backoffs ∧
    o.link ≠ linkUp ∧ 0 ≤ o.link ∧ connectTimeoutUs ≤ o.now - began
  join : w.action o = .join ↔ ∃ armed number, w.spell = .backoff armed number ∧
    o.link ≠ linkUp ∧ delay number ≤ o.now - armed

/-! ## The policy keeps the spell -/

/-- The policy is in the spell of its history. -/
inductive Sound : Watch → Prop
  | attempt {p : Policy} {began k last : ℕ} (hphase : p.phase = .attempt)
      (hsince : p.sinceUs = .ofNat began) (hnext : p.nextDelayUs = delay k) (hle : began ≤ last)
      (hlast : last - began < 2 ^ 32) : Sound ⟨p, .attempt began k, last⟩
  | backoff {p : Policy} {armed k last : ℕ} (hphase : p.phase = .backoff)
      (hsince : p.sinceUs = .ofNat armed) (hdelay : p.delayUs = delay k)
      (hnext : p.nextDelayUs = delay (k + 1)) (hle : armed ≤ last)
      (hlast : last - armed < 2 ^ 32) : Sound ⟨p, .backoff armed k, last⟩
  | up {p : Policy} {last : ℕ} (hphase : p.phase = .up) (hnext : p.nextDelayUs = delay 0) :
      Sound ⟨p, .up, last⟩

theorem delay_lt (k : ℕ) : 0 < delay k ∧ delay k < 2 ^ 32 := by
  have hpow := Nat.one_le_two_pow (n := k)
  simp only [delay, rejoinDelayUs, rejoinMaxDelayUs]
  omega

theorem delay_succ (k : ℕ) : delay (k + 1) =
    if delay k * 2 > rejoinMaxDelayUs then rejoinMaxDelayUs else delay k * 2 := by
  have hpow := Nat.one_le_two_pow (n := k)
  split_ifs with h
  all_goals
    simp only [delay, rejoinDelayUs, rejoinMaxDelayUs, pow_succ] at h ⊢
    omega

theorem elapsed {a b : ℕ} (h : a ≤ b) (hlt : b - a < 2 ^ 64) :
    (UInt64.ofNat b - UInt64.ofNat a).toNat = b - a := by
  rw [UInt64.toNat_sub, UInt64.toNat_ofNat', UInt64.toNat_ofNat']
  omega

variable {p : Policy}

theorem sound_schedule {k : ℕ} (hnext : p.nextDelayUs = delay k) (now : ℕ) :
    Sound ⟨p.schedule (.ofNat now), .backoff now k, now⟩ := by
  refine .backoff rfl rfl hnext ?_ le_rfl (by omega)
  rw [delay_succ, ← hnext]
  rfl

theorem sound_joined {k : ℕ} (hnext : p.nextDelayUs = delay k) (now : ℕ) (result : ℤ) :
    Sound ⟨p.joinResult (.ofNat now) result, .joined now result k, now⟩ := by
  unfold Policy.joinResult Spell.joined
  by_cases h : result = 0
  · rw [if_neg (not_not.2 h), if_pos h]
    exact .attempt rfl rfl hnext le_rfl (by omega)
  · rw [if_pos h, if_neg h]
    exact sound_schedule hnext now

/-- A link that is up. -/
theorem step_up {w : Watch} {o : Obs} (hup : o.link = linkUp) :
    w.Decides o ∧ Sound (w.next o) := by
  have hcall : w.policy.call o =
      (.wait, { w.policy with phase := .up, nextDelayUs := rejoinDelayUs }) := by
    simp [Policy.call, Policy.observe, hup]
  have hact : w.action o = .wait := by rw [action, hcall]
  refine ⟨by constructor <;> simp [hact, hup], ?_⟩
  simp only [next, hcall, hact, Spell.next, hup, if_true, reduceCtorEq, if_false]
  exact .up rfl rfl

/-- An attempt under way. -/
theorem step_attempt {began k last : ℕ} {o : Obs} (hphase : p.phase = .attempt)
    (hsince : p.sinceUs = .ofNat began) (hnext : p.nextDelayUs = delay k) (hle : began ≤ o.now)
    (hlt : o.now - began < 2 ^ 64) (hup : o.link ≠ linkUp) :
    Decides ⟨p, .attempt began k, last⟩ o ∧ Sound (next ⟨p, .attempt began k, last⟩ o) := by
  have hobs : p.observe (.ofNat o.now) o.link =
      if o.link < 0 then (.wait, p.schedule (.ofNat o.now))
      else if connectTimeoutUs ≤ o.now - began then (.leave, p.schedule (.ofNat o.now))
      else (.wait, p) := by
    simp only [Policy.observe, hup, hphase, reduceCtorEq, if_false, Policy.waitAttempt, hsince,
      elapsed hle hlt, ge_iff_le]
  by_cases hneg : o.link < 0
  · rw [if_pos hneg] at hobs
    refine ⟨by constructor <;> simp [action, Policy.call, hobs, hneg], ?_⟩
    simpa [next, action, Policy.call, hobs, Spell.next, hup, hneg] using sound_schedule hnext o.now
  rw [if_neg hneg] at hobs
  by_cases hlate : connectTimeoutUs ≤ o.now - began
  · rw [if_pos hlate] at hobs
    refine ⟨by constructor <;> simp [action, Policy.call, hobs, hup, hlate, not_lt.1 hneg], ?_⟩
    simpa [next, action, Policy.call, hobs, Spell.next, hup] using sound_schedule hnext o.now
  · rw [if_neg hlate] at hobs
    have hsoon : o.now - began < 2 ^ 32 := by
      simp only [connectTimeoutUs] at hlate
      omega
    refine ⟨by constructor <;> simp [action, Policy.call, hobs, hlate], ?_⟩
    simpa [next, action, Policy.call, hobs, Spell.next, hup, hneg] using
      Sound.attempt hphase hsince hnext hle hsoon

/-- A wait before the next attempt. -/
theorem step_backoff {armed k last : ℕ} {o : Obs} (hphase : p.phase = .backoff)
    (hsince : p.sinceUs = .ofNat armed) (hdelay : p.delayUs = delay k)
    (hnext : p.nextDelayUs = delay (k + 1)) (hle : armed ≤ o.now) (hlt : o.now - armed < 2 ^ 64)
    (hup : o.link ≠ linkUp) :
    Decides ⟨p, .backoff armed k, last⟩ o ∧ Sound (next ⟨p, .backoff armed k, last⟩ o) := by
  have hobs : p.observe (.ofNat o.now) o.link = if delay k ≤ o.now - armed then
      (.join, { p with phase := .attempt, sinceUs := .ofNat o.now }) else (.wait, p) := by
    simp only [Policy.observe, hup, hphase, reduceCtorEq, if_false, if_true, Policy.waitBackoff,
      hsince, elapsed hle hlt, hdelay, ge_iff_le]
  by_cases hlate : delay k ≤ o.now - armed
  · rw [if_pos hlate] at hobs
    refine ⟨by constructor <;> simp [action, Policy.call, hobs, hup, hlate], ?_⟩
    simpa [next, action, Policy.call, hobs, Spell.next, hup] using
      sound_joined (p := { p with phase := .attempt, sinceUs := .ofNat o.now }) hnext o.joinNow
        o.result
  · rw [if_neg hlate] at hobs
    have hsoon := (delay_lt k).2
    refine ⟨by constructor <;> simp [action, Policy.call, hobs, hlate], ?_⟩
    simpa [next, action, Policy.call, hobs, Spell.next, hup] using
      Sound.backoff hphase hsince hdelay hnext hle (by omega)

/-- A link just lost. -/
theorem step_lost {last : ℕ} {o : Obs} (hphase : p.phase = .up) (hnext : p.nextDelayUs = delay 0)
    (hup : o.link ≠ linkUp) : Decides ⟨p, .up, last⟩ o ∧ Sound (next ⟨p, .up, last⟩ o) := by
  have hdelay : ¬p.nextDelayUs ≤ 0 := by
    rw [hnext]
    exact not_le.2 (delay_lt 0).1
  have hobs : p.observe (.ofNat o.now) o.link = (.wait, if o.link ≤ linkDown then
      p.schedule (.ofNat o.now) else { p with phase := .attempt, sinceUs := .ofNat o.now }) := by
    simp only [Policy.observe, hup, hphase, if_true, if_false]
    by_cases hdown : o.link ≤ linkDown
    · simp [hdown, Policy.schedule, Policy.waitBackoff, hdelay]
    · have hpos : ¬o.link < 0 := fun h => hdown (le_of_lt h)
      simp [hdown, Policy.waitAttempt, hpos, connectTimeoutUs]
  refine ⟨by constructor <;> simp [action, Policy.call, hobs], ?_⟩
  simp only [next, action, Policy.call, hobs, Spell.next, hup, if_false, reduceCtorEq]
  split_ifs
  · exact sound_schedule hnext o.now
  · exact .attempt rfl rfl hnext le_rfl (by omega)

/-- **What an observation does**, in every spell. -/
theorem Sound.step {w : Watch} (h : Sound w) {o : Obs} (ht : w.Timely o) :
    w.Decides o ∧ Sound (w.next o) := by
  by_cases hup : o.link = linkUp
  · exact step_up hup
  obtain ⟨⟨hle, hlt⟩, -⟩ := ht
  cases h with
  | attempt hphase hsince hnext =>
    dsimp only at hle hlt
    exact step_attempt hphase hsince hnext (by omega) (by omega) hup
  | backoff hphase hsince hdelay hnext =>
    dsimp only at hle hlt
    exact step_backoff hphase hsince hdelay hnext (by omega) (by omega) hup
  | up hphase hnext => exact step_lost hphase hnext hup

/-- **The retry policy.**  LEAVE is returned exactly at the first observation
`WIFI_CONNECT_TIMEOUT_US` after an attempt began, and JOIN exactly at the first after the delay of a
backoff; the delays double from `WIFI_REJOIN_DELAY_US` up to the maximum. -/
theorem retry_policy (now : ℕ) (result : ℤ) {l : List Obs}
    (h : Run.Meets next Timely (init now result) l) :
    Run.Meets next Decides (init now result) l :=
  Run.meets_of_meets (I := Sound) (fun _ _ hs ht => (hs.step ht).2)
  (fun _ _ hs ht => (hs.step ht).1)
    (sound_joined rfl now result) h

/-- An attempt that times out, a refused join after 5 s, and the next one after 10 s. -/
theorem retry_policy_bench :
    let l : List Obs := [⟨19999999, 1, 0, 0⟩, ⟨20000000, 2, 0, 0⟩, ⟨24999999, 0, 0, 0⟩,
      ⟨25000000, 0, 25000001, -1⟩, ⟨35000000, -1, 0, 0⟩, ⟨35000001, 0, 35000001, 0⟩]
    Run.Meets next Timely (init 0 0) l ∧ Run.Meets next Decides (init 0 0) l := by
  intro l
  have h : Run.Meets next Timely (init 0 0) l := by decide +kernel
  exact ⟨h, retry_policy 0 0 h⟩

end Watch

end RoboticCar.Wifi
