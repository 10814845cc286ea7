/-!
# Floating-point numbers by their bits

A number is held as its 64 bits: a sign, eleven exponent bits and a fraction of 52 bits. Comparing
and printing are then arithmetic on whole numbers.
-/
namespace QueryDialect.Number

structure Binary64 where
  bits : UInt64
  deriving DecidableEq, Repr

namespace Binary64

def isNegative (x : Binary64) : Bool := Nat.pow 2 63 ≤ x.bits.toNat

/-- The eleven exponent bits. -/
def exponentBits (x : Binary64) : Nat := x.bits.toNat / Nat.pow 2 52 % Nat.pow 2 11

def fraction (x : Binary64) : Nat := x.bits.toNat % Nat.pow 2 52

def isNaN (x : Binary64) : Bool := x.exponentBits == 2047 && x.fraction != 0

def isInfinite (x : Binary64) : Bool := x.exponentBits == 2047 && x.fraction == 0

/-- Both zeros. -/
def isZero (x : Binary64) : Bool := x.exponentBits == 0 && x.fraction == 0

def isFinite (x : Binary64) : Bool := x.exponentBits != 2047

/-- Numeric equality: the two zeros are equal, and not-a-number differs even from itself. -/
def equals (x y : Binary64) : Bool :=
  !x.isNaN && !y.isNaN && (x.bits == y.bits || x.isZero && y.isZero)

/-- The whole number that the last binary place counts. -/
def significand (x : Binary64) : Nat :=
  if x.exponentBits = 0 then x.fraction else Nat.pow 2 52 + x.fraction

/-- The power of two that the last binary place stands for. -/
def scale (x : Binary64) : Int :=
  if x.exponentBits = 0 then -1074 else (x.exponentBits : Int) - 1075

instance : BEq Binary64 := ⟨equals⟩

theorem beq_def (x y : Binary64) : (x == y) = equals x y := rfl

end Binary64

end QueryDialect.Number
