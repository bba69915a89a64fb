import RoboticCar.Motion.Types

/-!
# Motor outputs and the wheel speed loop

`motor_control.c` turns a duty into the compare levels of two pins, and `speed_pid.c` a speed target
into a duty.  A motor is braked when both pins are low, which a duty of zero does
(`Motor.set_zero_braked`).
-/

namespace RoboticCar.Motion

open Lib CFloat

variable {F : Type} [CFloat F]

/-- `motor_t`, with the compare levels last written to its two pins. -/
structure Motor (F : Type) where
  inverted : Bool
  duty : F
  levelA : UInt32
  levelB : UInt32

def Motor.braked (m : Motor F) : Bool := m.levelA == 0 && m.levelB == 0

/-- `PWM_WRAP`: 125 MHz / 10 kHz - 1. -/
def pwmWrap : UInt32 := 12499

/-- `motor_control_set` on the motor of one wheel. -/
def Motor.set (m : Motor F) (duty : F) : Motor F :=
  let duty := if gt duty (lit 1) then lit 1 else duty
  let duty := if lt duty (-(lit 1)) then -(lit 1) else duty
  let out := if m.inverted then -duty else duty
  let mag := if ge out zero then out else -out
  let level := toUInt32 (mag * ofInt (pwmWrap + 1).toNat)
  let level := if level > pwmWrap + 1 then pwmWrap + 1 else level
  if gt out zero then
    -- forward: A = PWM, B = low
    { m with duty := duty, levelA := level, levelB := 0 }
  else if lt out zero then
    -- backward: A = low, B = PWM
    { m with duty := duty, levelA := 0, levelB := level }
  else
    { m with duty := duty, levelA := 0, levelB := 0 }

def motorControlSet (motors : Wheels (Motor F)) (w : Wheel) (duty : F) : Wheels (Motor F) :=
  motors.set w ((motors.get w).set duty)

def motorControlBrakeAll (motors : Wheels (Motor F)) : Wheels (Motor F) :=
  motorControlSet (motorControlSet motors .left zero) .right zero

def bothBraked (motors : Wheels (Motor F)) : Bool := motors.left.braked && motors.right.braked

theorem Motor.set_zero_braked (m : Motor F) : (m.set zero).braked = true := by
  rcases m with ⟨inverted, duty, a, b⟩
  cases inverted <;> simp [Motor.set, Motor.braked, gt, zero]

@[simp] theorem bothBraked_brakeAll (motors : Wheels (Motor F)) :
    bothBraked (motorControlBrakeAll motors) := by
  simp [bothBraked, motorControlBrakeAll, motorControlSet, Wheels.set, Wheels.get,
    Motor.set_zero_braked]

structure SpeedPid (F : Type) where
  kp : F
  ki : F
  kd : F
  kff : F
  accelMps2 : F
  setpointMps : F
  integral : F

def dutyMax : F := lit 1

def SpeedPid.reset (p : SpeedPid F) : SpeedPid F :=
  { p with setpointMps := zero, integral := zero }

def SpeedPid.init (kp ki kd kff accelMps2 : F) (p : SpeedPid F) : SpeedPid F :=
  { p with kp := kp, ki := ki, kd := kd, kff := kff, accelMps2 := accelMps2 }.reset

/-- `speed_pid_update`: the duty and the new loop state. -/
def SpeedPid.update (p : SpeedPid F) (targetMps speedMps accelMps2 dtS : F) : F × SpeedPid F :=
  let step := p.accelMps2 * dtS
  -- ramp the setpoint toward the target
  let p :=
    if gt targetMps (p.setpointMps + step) then { p with setpointMps := p.setpointMps + step }
    else if lt targetMps (p.setpointMps - step) then
      { p with setpointMps := p.setpointMps - step }
    else { p with setpointMps := targetMps }
  if eq p.setpointMps zero && eq targetMps zero then (zero, p.reset)
  else
    let error := p.setpointMps - speedMps
    let ff := p.kff * p.setpointMps
    let deriv := -p.kd * accelMps2
    let integral := p.integral + p.ki * error * dtS
    let duty := ff + p.kp * error + integral + deriv
    -- anti-windup: the integral does not grow while the output is saturated
    let saturated := (gt duty dutyMax && gt error zero) || (lt duty (-dutyMax) && lt error zero)
    let p' := if saturated then p else { p with integral := integral }
    let duty := if saturated then ff + p.kp * error + p.integral + deriv else duty
    let duty := if gt duty dutyMax then dutyMax else duty
    let duty := if lt duty (-dutyMax) then -dutyMax else duty
    (duty, p')

end RoboticCar.Motion
