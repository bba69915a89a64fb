import Mathlib.Data.Rat.Floor

/-!
# Floating-point arithmetic as the C code uses it

The code needs arithmetic, comparison, literals and conversions, and the properties of interest do
not depend on how a result is rounded.  `CFloat` asks for the operations and, as laws, for a few
comparisons between `±0` and `±1` that every IEEE format decides.  Comparisons are Boolean and need
not be total: a NaN compares false.  The rational numbers are one instance.
-/

namespace RoboticCar.Lib

/-- A C floating-point type: the operators, the comparisons and the conversions. -/
class CFloat (F : Type) extends Add F, Sub F, Mul F, Div F, Neg F where
  /-- The value of a decimal literal of the source. -/
  lit : ℚ → F
  /-- `x < y`. -/
  lt : F → F → Bool
  /-- `x <= y`. -/
  le : F → F → Bool
  /-- `x == y`. -/
  eq : F → F → Bool
  /-- Conversion of an integer. -/
  ofInt : Int → F
  /-- `(uint32_t)x`. -/
  toUInt32 : F → UInt32
  /-- `(int32_t)x`, rounding towards zero. -/
  toInt : F → Int
  lt_zero_zero : lt (lit 0) (lit 0) = false
  lt_neg_zero_zero : lt (-(lit 0)) (lit 0) = false
  lt_zero_neg_zero : lt (lit 0) (-(lit 0)) = false
  lt_one_zero : lt (lit 1) (lit 0) = false
  lt_zero_neg_one : lt (lit 0) (-(lit 1)) = false

attribute [simp] CFloat.lt_zero_zero CFloat.lt_neg_zero_zero CFloat.lt_zero_neg_zero
  CFloat.lt_one_zero CFloat.lt_zero_neg_one

namespace CFloat

variable {F : Type} [CFloat F]

/-- `x > y`. -/
def gt (x y : F) : Bool := lt y x

/-- `x >= y`. -/
def ge (x y : F) : Bool := le y x

/-- The literal `0`. -/
def zero : F := lit 0

/-- `x < 0 ? -x : x`. -/
def absF (x : F) : F := if lt x zero then -x else x

/-- `a < b ? a : b`. -/
def minF (a b : F) : F := if lt a b then a else b

/-- `a > b ? a : b`. -/
def maxF (a b : F) : F := if gt a b then a else b

/-- The test of a value against NaN and infinity: `x == x && (x - x) == 0`. -/
def isFinite (x : F) : Bool := eq x x && eq (x - x) zero

end CFloat

/-- The two widths of one program, with the conversions between them. -/
class CDouble (F D : Type) [CFloat F] [CFloat D] where
  /-- `(double)x`. -/
  ofFloat : F → D
  /-- `(float)x`. -/
  toFloat : D → F

/-- The functions of `math.h` that the program calls. -/
class CMath (F : Type) [CFloat F] where
  /-- `sqrtf(x)`. -/
  sqrtf : F → F
  /-- `sinf(x)`. -/
  sinf : F → F
  /-- `atan2f(y, x)`. -/
  atan2f : F → F → F
  /-- `lroundf(x)`: the nearest integer. -/
  lroundf : F → Int

/-- Exact rational arithmetic: no rounding, no NaN, no infinity. -/
instance instCFloatRat : CFloat ℚ where
  lit q := q
  lt x y := decide (x < y)
  le x y := decide (x ≤ y)
  eq x y := decide (x = y)
  ofInt n := n
  toUInt32 x := UInt32.ofNat (x.num.tdiv x.den).toNat
  toInt x := x.num.tdiv x.den
  lt_zero_zero := by decide
  lt_neg_zero_zero := by simp
  lt_zero_neg_zero := by simp
  lt_one_zero := by decide
  lt_zero_neg_one := by decide

instance instCDoubleRat : CDouble ℚ ℚ where
  ofFloat x := x
  toFloat x := x

end RoboticCar.Lib
