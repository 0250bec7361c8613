import DocHarvest.Proofs.Unicode.Letters
import DocHarvest.Unicode.Word

/-!
# The characters of words

Of the first 128 characters, the letters A to Z, the digits and the underscore can be part of a word
(`isWordChar_of_toNat_lt`). White space ends one (`isWordChar_of_isBlank`).
-/

namespace DocHarvest.Unicode

open Text

variable {c : Char}

theorem isWordChar_of_toNat_lt (ascii : c.toNat < 128) :
    isWordChar c = (c.isAlphanum || c == '_') := by
  have all : ∀ n < 128, isWordChar (Char.ofNat n) =
      ((Char.ofNat n).isAlphanum || Char.ofNat n == '_') := by decide +kernel
  simpa using all c.toNat ascii

theorem isWordChar_of_isBlank (h : isBlank c = true) : isWordChar c = false := by
  have all : ∀ n ∈ blankCodes, wordTable.holds n = false := by decide +kernel
  exact all c.toNat (mem_blankCodes h)

end DocHarvest.Unicode
