import DocHarvest.Text.Basic

/-!
# Digits

The values of digits in base ten and in base sixteen, and of numbers that are written with them.

* `decimalValue_decimal` : a number that is written in base ten reads back
-/

namespace DocHarvest.Text

def digitValue (c : Char) : Nat := c.toNat - 48

def decimalValue (digits : Text) : Nat := digits.foldl (fun n c => n * 10 + digitValue c) 0

/-- A number in base ten. -/
def decimal (n : Nat) : Text := Nat.toDigits 10 n

theorem decimalValue_decimal (n : Nat) : decimalValue (decimal n) = n := by
  have reads : Nat.ofDigitChars 10 (Nat.toDigits 10 n) 0 = n :=
    Nat.ofDigitChars_toDigits (by decide) (by decide)
  simpa [decimalValue, digitValue, decimal, Nat.ofDigitChars, Nat.mul_comm] using reads

def hexValue? (c : Char) : Option Nat :=
  if c.isDigit then some (digitValue c)
  else if 'a' ≤ c && c ≤ 'f' then some (c.toNat - 87)
  else if 'A' ≤ c && c ≤ 'F' then some (c.toNat - 55)
  else none

/-- The value of digits in base sixteen. -/
def hexNumber? (digits : Text) : Option Nat :=
  digits.foldlM (fun n c => (hexValue? c).map (n * 16 + ·)) 0

/-- What is counted is below this number, `2 ^ 64`. -/
def countLimit : Nat := 18446744073709551616

/-- The number below `countLimit` that a text stands for: digits, perhaps behind a plus sign. -/
def natural? (t : Text) : Option Nat :=
  let digits := (dropLead? ['+'] t).getD t
  if digits.isEmpty || !digits.all Char.isDigit then none
  else if decimalValue digits < countLimit then some (decimalValue digits)
  else none

end DocHarvest.Text
