import DocHarvest.Text.Basic
import DocHarvest.Unicode.LetterCase
import DocHarvest.Unicode.CaseIgnorable

/-!
# Text in small letters

Every letter is replaced by its small form. The Greek sigma is the one letter whose small form
depends on its neighbours: at the end of a word it is the final sigma.
-/

namespace DocHarvest.Text

open Unicode

/-- Whether the nearest character that matters for case is a letter with case. -/
def meetsCased (t : Text) : Bool := (t.dropWhile isCaseIgnorable).head?.any isCased

def lower (t : Text) : Text :=
  go [] t
where
  /-- `before` is the text already passed, nearest character first. -/
  go (before : Text) : Text → Text
    | [] => []
    | c :: t =>
      let small :=
        if c = 'Σ' then if meetsCased before && !meetsCased t then ['ς'] else ['σ']
        else toLower c
      small ++ go (c :: before) t

end DocHarvest.Text
