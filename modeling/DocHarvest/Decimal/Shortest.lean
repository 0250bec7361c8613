/-!
# The fewest digits that read back

A finite floating-point number in binary is `m * 2 ^ q`. The reals that round to it form an interval
around it, with its ends if `m` is even. `Binary.shortest` finds the decimal with the fewest digits
in that interval: for one digit, two digits and so on it tries the two neighbours of the value on the
grid of that many digits, and of two that fit it takes the nearer one.
-/

namespace DocHarvest.Decimal

/-- The positive number `mantissa * 2 ^ (power - 1074)`. -/
structure Binary where
  mantissa : Nat
  power : Nat
  /-- Whether the next smaller number is only half as far away as the next larger one. -/
  closerBelow : Bool

/-- The number `digits * 10 ^ exponent`. -/
structure Numeral where
  digits : Nat
  exponent : Int
deriving DecidableEq

/-- The number of fractions that can follow the first bit of a mantissa, `2 ^ 52`. -/
def fractionCount : Nat := 4503599627370496

/-- The absolute value of the number with these bits, unless it is zero, infinite or no number. -/
def Binary.ofBits? (bits : UInt64) : Option Binary :=
  let fraction := bits.toNat % fractionCount
  let power := bits.toNat / fractionCount % 2048
  if power = 2047 || (power = 0 && fraction = 0) then none
  else if power = 0 then some ⟨fraction, 0, false⟩
  else some ⟨fractionCount + fraction, power - 1, fraction = 0 && power ≠ 1⟩

/-- A ratio of natural numbers. -/
structure Ratio where
  num : Nat
  den : Nat

/-- Whether one ratio is below another. -/
def Ratio.lt (a b : Ratio) : Bool := a.num * b.den < b.num * a.den

/-- `n * 2 ^ (power - 1076)` as a ratio; a quarter of the last binary place is the unit. -/
def quarters (power n : Nat) : Ratio := ⟨n * Nat.pow 2 power, Nat.pow 2 1076⟩

def Binary.value (b : Binary) : Ratio := quarters b.power (4 * b.mantissa)

def Numeral.value (d : Numeral) : Ratio :=
  if d.exponent < 0 then ⟨d.digits, Nat.pow 10 (-d.exponent).toNat⟩
  else ⟨d.digits * Nat.pow 10 d.exponent.toNat, 1⟩

def Binary.roundsTo (b : Binary) (r : Ratio) : Bool :=
  let low := quarters b.power (4 * b.mantissa - if b.closerBelow then 1 else 2)
  let high := quarters b.power (4 * b.mantissa + 2)
  if b.mantissa % 2 = 0 then !r.lt low && !high.lt r else low.lt r && r.lt high

/-- The power of ten of the first digit of a ratio, searched from `guess` downwards. -/
def leadingPower (r : Ratio) : Nat → Int → Int
  | 0, guess => guess
  | fuel + 1, guess =>
    if r.lt (Numeral.value ⟨1, guess⟩) then leadingPower r fuel (guess - 1) else guess

def Ratio.distance (a b : Ratio) : Ratio :=
  ⟨(a.num * b.den - b.num * a.den) + (b.num * a.den - a.num * b.den), a.den * b.den⟩

/-- The neighbour of the number on the grid of multiples of `10 ^ exponent` that rounds to it, the
nearer one if both do, the even one if both are equally near. -/
def Binary.onGrid? (b : Binary) (exponent : Int) : Option Numeral :=
  let v := b.value
  let below :=
    if exponent < 0 then v.num * Nat.pow 10 (-exponent).toNat / v.den
    else v.num / (v.den * Nat.pow 10 exponent.toNat)
  let down : Numeral := ⟨below, exponent⟩
  let up : Numeral := ⟨below + 1, exponent⟩
  match b.roundsTo down.value, b.roundsTo up.value with
  | false, false => none
  | true, false => some down
  | false, true => some up
  | true, true =>
    let toDown := v.distance down.value
    let toUp := v.distance up.value
    if toDown.lt toUp then some down
    else if toUp.lt toDown then some up
    else if below % 2 = 0 then some down else some up

/-- The first grid with a hit, from `count` digits on. -/
def Binary.search (b : Binary) (lead : Int) : Nat → Nat → Numeral
  | 0, count => ⟨b.mantissa, lead - count⟩
  | fuel + 1, count =>
    match b.onGrid? (lead + 1 - count) with
    | some d => d
    | none => b.search lead fuel (count + 1)

/-- The decimal with the fewest digits that rounds to the number. -/
def Binary.shortest (b : Binary) : Numeral :=
  b.search (leadingPower b.value 700 310) 20 1

/-- A decimal whose last digit is not zero. -/
def Numeral.trimZeros (d : Numeral) : Numeral :=
  go 20 d.digits d.exponent
where
  /-- Drops zeros from the end, `fuel` at most. -/
  go : Nat → Nat → Int → Numeral
    | 0, digits, exponent => ⟨digits, exponent⟩
    | fuel + 1, digits, exponent =>
      if digits ≠ 0 && digits % 10 = 0 then go fuel (digits / 10) (exponent + 1)
      else ⟨digits, exponent⟩

end DocHarvest.Decimal
