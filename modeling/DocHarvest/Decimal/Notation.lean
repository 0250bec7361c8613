import DocHarvest.Decimal.Shortest
import DocHarvest.Text.Basic

/-!
# Layout of decimals

A `Layout` says how the digits of a number are written: for which powers of ten without an exponent,
and with how many digits in an exponent. `render` writes a floating-point number with the fewest
digits.
-/

namespace DocHarvest.Decimal

/-- The decisions of a format for numbers. -/
structure Layout where
  /-- The least power of ten of the first digit that is written without an exponent. -/
  leastFixed : Int
  /-- The greatest power of ten of the first digit that is written without an exponent. -/
  greatestFixed : Int
  /-- The sign of an exponent that is not negative. -/
  positiveSign : Text
  /-- What follows a whole number. -/
  wholeMark : Text

/-- The digits with a point after the first `count` of them, and zeros where there are too few. -/
def pointed (layout : Layout) (digits : Text) (count : Nat) : Text :=
  let whole := digits.take count ++ List.replicate (count - digits.length) '0'
  let part := digits.drop count
  if part.isEmpty then whole ++ layout.wholeMark else whole ++ '.' :: part

/-- The digits of a number whose first digit stands for `10 ^ lead`. -/
def layOut (layout : Layout) (digits : Text) (lead : Int) : Text :=
  if layout.leastFixed ≤ lead && lead ≤ layout.greatestFixed then
    if lead < 0 then
      "0.".toList ++ List.replicate ((-lead).toNat - 1) '0' ++ digits
    else pointed layout digits (lead.toNat + 1)
  else
    let whole := digits.take 1
    let part := digits.drop 1
    let mantissa := if part.isEmpty then whole else whole ++ '.' :: part
    let exponent :=
      if lead < 0 then '-' :: Nat.toDigits 10 (-lead).toNat
      else layout.positiveSign ++ Nat.toDigits 10 lead.toNat
    mantissa ++ 'e' :: exponent

/-- The number with these bits, with the fewest digits that read back. -/
def render (layout : Layout) (bits : UInt64) : Text :=
  let sign : Text := if bits >>> 63 = 1 then ['-'] else []
  match Binary.ofBits? bits with
  | none => sign ++ '0' :: layout.wholeMark
  | some b =>
    let d := b.shortest.trimZeros
    let digits : Text := Nat.toDigits 10 d.digits
    sign ++ layOut layout digits (d.exponent + digits.length - 1)

end DocHarvest.Decimal
