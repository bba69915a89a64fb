import RoboticCar.Lib.BitField
import RoboticCar.Lib.CFloat

/-!
# The public types of the motion subsystem

States, faults, results and reports as `motion.h` declares them, the fault bits of `motion_pack.h`
and the word in which a report waits in the queue (`motionUnpackReport_pack`).
-/

namespace RoboticCar.Motion

open Lib BitField

/-- Wheel identifiers, `wheel_id_t`. -/
inductive Wheel
  | left
  | right
  deriving DecidableEq

/-- A value per wheel: the arrays of length `WHEEL_COUNT`. -/
@[ext] structure Wheels (α : Type) where
  left : α
  right : α
  deriving DecidableEq

namespace Wheels

variable {α β : Type}

/-- `a[wheel]`. -/
def get (a : Wheels α) : Wheel → α
  | .left => a.left
  | .right => a.right

/-- `a[wheel] = x`. -/
def set (a : Wheels α) (w : Wheel) (x : α) : Wheels α :=
  match w with
  | .left => { a with left := x }
  | .right => { a with right := x }

/-- The loop over both wheels that updates each entry. -/
def map (f : Wheel → α → β) (a : Wheels α) : Wheels β := ⟨f .left a.left, f .right a.right⟩

end Wheels

inductive MotionState
  | idle
  | velocity
  | drive
  | turn
  | complete
  | fault
  deriving DecidableEq

inductive MotionFault
  | none
  | stall
  | staleCommand
  | encoder
  | direction
  | timeout
  deriving DecidableEq

inductive MotionResult
  | ok
  | errBusy
  | errFault
  | errBadArg
  | errNotCalibrated
  | errObsolete
  deriving DecidableEq

inductive MotionOutcome
  | none
  | done
  | cancelled
  | fault
  deriving DecidableEq

inductive Manoeuvre
  | left
  | right
  | straight
  | uTurn
  deriving DecidableEq

structure MotionReport where
  commandId : UInt8
  outcome : MotionOutcome
  fault : MotionFault
  lost : Bool
  deriving DecidableEq

structure MotionFeedback (D : Type) where
  centreM : D
  timestampUs : UInt32
  epoch : UInt32
  state : MotionState
  fault : MotionFault
  valid : Bool
  braked : Bool
  commandId : UInt8
  reportLossCount : UInt32

def MotionFault.code : MotionFault → ℕ
  | .none => 0
  | .stall => 1
  | .staleCommand => 2
  | .encoder => 3
  | .direction => 4
  | .timeout => 5

/-- The fault a code stands for; no packed word carries a code above 5. -/
def MotionFault.ofCode : ℕ → MotionFault
  | 1 => .stall
  | 2 => .staleCommand
  | 3 => .encoder
  | 4 => .direction
  | 5 => .timeout
  | _ => .none

/-- `MOTION_FAULT_BIT`: code `n` is bit `n - 1`. -/
def motionFaultBit (f : MotionFault) : UInt8 :=
  if f = .none then 0 else 1 <<< (UInt8.ofNat f.code - 1)

/-- `motion_fault_first`: the lowest set bit as a fault code. -/
def motionFaultFirst (faultBits : UInt8) : MotionFault :=
  match (List.range 5).find? fun i => (faultBits >>> UInt8.ofNat i) &&& 1 ≠ 0 with
  | some i => MotionFault.ofCode (i + 1)
  | Option.none => .none

def MotionOutcome.code : MotionOutcome → ℕ
  | .none => 0
  | .done => 1
  | .cancelled => 2
  | .fault => 3

/-- The outcome of a two-bit field. -/
def MotionOutcome.ofCode : ℕ → MotionOutcome
  | 1 => .done
  | 2 => .cancelled
  | 3 => .fault
  | _ => .none

/-- `motion_pack_report`: id in bits 0-7, outcome in 8-9, fault code in 10-12, lost in 13. -/
def motionPackReport (r : MotionReport) : ℕ :=
  put r.commandId.toNat 0 8 ||| put r.outcome.code 8 2 |||
    put r.fault.code 10 3 ||| put (if r.lost then 1 else 0) 13 1

def motionUnpackReport (word : ℕ) : MotionReport where
  commandId := UInt8.ofNat (get word 0 8)
  outcome := .ofCode (get word 8 2)
  fault := .ofCode (get word 10 3)
  lost := get word 13 1 ≠ 0

theorem MotionFault.ofCode_code (f : MotionFault) : ofCode f.code = f := by cases f <;> rfl

theorem MotionFault.code_lt (f : MotionFault) : f.code < 8 := by cases f <;> decide

theorem MotionOutcome.ofCode_code (o : MotionOutcome) : ofCode o.code = o := by cases o <;> rfl

theorem MotionOutcome.code_lt (o : MotionOutcome) : o.code < 4 := by cases o <;> decide

theorem motionPackReport_eq (r : MotionReport) :
    motionPackReport r = r.commandId.toNat + r.outcome.code * 256 + r.fault.code * 1024 +
      (if r.lost then 1 else 0) * 8192 := by
  have hid := r.commandId.toNat_lt
  have ho := r.outcome.code_lt
  have hf := r.fault.code_lt
  have h1 : put r.commandId.toNat 0 8 = r.commandId.toNat := by
    rw [put_eq]; omega
  have h2 : r.commandId.toNat ||| put r.outcome.code 8 2 =
      r.commandId.toNat + r.outcome.code * 256 := by
    rw [or_put (by omega)]; omega
  have h3 : r.commandId.toNat + r.outcome.code * 256 ||| put r.fault.code 10 3 =
      r.commandId.toNat + r.outcome.code * 256 + r.fault.code * 1024 := by
    rw [or_put (by omega)]; omega
  rw [motionPackReport, h1, h2, h3, or_put (by omega)]
  split <;> rfl

@[simp] theorem motionUnpackReport_pack (r : MotionReport) :
    motionUnpackReport (motionPackReport r) = r := by
  have hid := r.commandId.toNat_lt
  have ho := r.outcome.code_lt
  have hf := r.fault.code_lt
  have hl : (if r.lost then 1 else 0 : ℕ) < 2 := by split <;> decide
  have e1 : get (motionPackReport r) 0 8 = r.commandId.toNat := by
    rw [get_eq, motionPackReport_eq]; omega
  have e2 : get (motionPackReport r) 8 2 = r.outcome.code := by
    rw [get_eq, motionPackReport_eq]; omega
  have e3 : get (motionPackReport r) 10 3 = r.fault.code := by
    rw [get_eq, motionPackReport_eq]; omega
  have e4 : get (motionPackReport r) 13 1 = if r.lost then 1 else 0 := by
    rw [get_eq, motionPackReport_eq]; omega
  rcases r with ⟨id, outcome, fault, lost⟩
  simp only [motionUnpackReport, e1, e2, e3, e4, MotionOutcome.ofCode_code,
    MotionFault.ofCode_code, UInt8.ofNat_toNat]
  cases lost <;> rfl

end RoboticCar.Motion
