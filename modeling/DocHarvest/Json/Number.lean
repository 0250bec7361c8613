import DocHarvest.Json.Token

/-!
# The values of JSON numbers

An integer below `2 ^ 64` is exact, and so is a negative one down to `-2 ^ 63`. Any other number is a
floating-point number: as many of its digits as make an integer below `2 ^ 64`, scaled by a power of
ten. Digits before the point that do not fit count as powers of ten, digits behind it are dropped. A
number too large for a floating-point number has no value.
-/

namespace DocHarvest.Json

open Text

/-- What a number stands for. -/
inductive Number where
  | natural (n : Nat)
  /-- The integer `-n`. -/
  | negative (n : Nat)
  | float (bits : UInt64)
deriving DecidableEq

/-- Appends digits to a number while it stays below `countLimit`; the number and the digits left over. -/
def gather (n : Nat) : Text → Nat × Text
  | [] => (n, [])
  | c :: digits =>
    if n * 10 + digitValue c < countLimit then gather (n * 10 + digitValue c) digits
    else (n, c :: digits)

/-- The power of ten nearest to `10 ^ n`. -/
def powerOfTen (n : Nat) : Float := Float.ofScientific 1 false n

/-- The floating-point number `f * 10 ^ exponent`, unless it is too large. The powers of ten go up to
`10 ^ 308`; below that the number is divided in steps until it is zero. -/
def scale? (f : Float) (exponent : Int) : Option Float :=
  if 308 < exponent then if f == 0 then some f else none
  else if 0 ≤ exponent then
    let scaled := f * powerOfTen exponent.toNat
    if scaled.isInf then none else some scaled
  else if -308 ≤ exponent then some (f / powerOfTen (-exponent).toNat)
  else if f == 0 then some f
  else scale? (f / powerOfTen 308) (exponent + 308)
termination_by (-exponent).toNat
decreasing_by omega

def signed (negative : Bool) (f : Float) : Number :=
  .float (if negative then -f else f).toBits

/-- The greatest exponent that is read; a greater one makes the number zero or too large. -/
def greatestExponent : Nat := 2147483647

/-- What a number stands for, unless it is too large. -/
def NumberForm.number? (form : NumberForm) : Option Number :=
  let fraction := form.fraction.getD []
  let (significand, excess) := gather 0 form.whole
  let (significand, dropped) := gather significand fraction
  let power : Int := excess.length - (fraction.length - dropped.length : Nat)
  let float := fun (power : Int) =>
    (scale? significand.toUInt64.toFloat power).map (signed form.negative)
  match form.exponent with
  | some (down, digits) =>
    let exponent := decimalValue digits
    if greatestExponent < exponent then
      if significand = 0 || down then some (signed form.negative 0) else none
    else float (if down then power - exponent else power + exponent)
  | none =>
    if form.fraction.isSome || !excess.isEmpty then float power
    else if !form.negative then some (.natural significand)
    else if significand = 0 || countLimit / 2 < significand then float 0
    else some (.negative significand)

end DocHarvest.Json
