import QueryDialect.Number.Shortest

/-!
# Decimal text of floating-point numbers

A style says which numbers are written positionally and whether a whole number shows a zero behind
the point. The other numbers have one digit before the point and an exponent.
-/
namespace QueryDialect.Number

structure FloatStyle where
  /-- Least and greatest exponent of the leading digit that is written positionally. -/
  positional : Option (Int × Int)
  /-- Whether a whole number in positional form ends in `.0`. -/
  wholeMarked : Bool
  deriving DecidableEq, Repr

namespace Decimal

def digits (d : Decimal) : List Char := Nat.toDigits 10 d.coefficient

/-- The exponent of the leading digit. -/
def leading (d : Decimal) : Int := d.exponent + d.digits.length - 1

/-- All digits around the point, with zeros up to it where they do not reach it. -/
def positional (wholeMarked : Bool) (d : Decimal) : List Char :=
  if d.leading < 0 then
    ['0', '.'] ++ List.replicate (-d.leading - 1).toNat '0' ++ d.digits
  else if 0 ≤ d.exponent then
    d.digits ++ List.replicate d.exponent.toNat '0' ++ (if wholeMarked then ['.', '0'] else [])
  else
    let whole := d.digits.length - (-d.exponent).toNat
    d.digits.take whole ++ '.' :: d.digits.drop whole

/-- One digit, the others behind a point if there are any, and the exponent. -/
def scientific (d : Decimal) : List Char :=
  d.digits.take 1 ++ (if d.digits.length ≤ 1 then [] else '.' :: d.digits.drop 1) ++
    'e' :: (toString d.leading).toList

end Decimal

namespace FloatStyle

def isPositional (style : FloatStyle) (d : Decimal) : Bool :=
  match style.positional with
  | none => true
  | some (least, greatest) => least ≤ d.leading && d.leading ≤ greatest

/-- Zero is written like any other whole number. -/
def magnitude (style : FloatStyle) (x : Binary64) : List Char :=
  if x.isZero then Decimal.positional style.wholeMarked ⟨0, 0⟩
  else
    let d := x.roundingInterval.shortest
    if style.isPositional d then d.positional style.wholeMarked else d.scientific

/-- The sign of a zero is kept; not-a-number has none. -/
def print (style : FloatStyle) (x : Binary64) : String :=
  if x.isNaN then "NaN"
  else
    let sign := if x.isNegative then ['-'] else []
    .ofList (sign ++ if x.isInfinite then ['i', 'n', 'f'] else style.magnitude x)

end FloatStyle

end QueryDialect.Number
