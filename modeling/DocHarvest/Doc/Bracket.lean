import DocHarvest.Text.Basic

/-!
# Bracketed expressions

Types and optional parameters stand between brackets that may be nested.
-/

namespace DocHarvest.Doc

/-- Reads up to the bracket that closes the outermost of `depth` open ones: what stands before it and
what follows. -/
def takeToClosing? (opening closing : Char) : Nat → Text → Option (Text × Text)
  | _, [] => none
  | depth, c :: t =>
    if c = opening then
      (takeToClosing? opening closing (depth + 1) t).map fun (inner, rest) => (c :: inner, rest)
    else if c = closing then
      if depth ≤ 1 then some ([], t)
      else (takeToClosing? opening closing (depth - 1) t).map fun (inner, rest) =>
        (c :: inner, rest)
    else (takeToClosing? opening closing depth t).map fun (inner, rest) => (c :: inner, rest)

/-- Reads a bracketed expression off the front of a text: what stands between the brackets and what
follows them. -/
def takeBracketed? (opening closing : Char) : Text → Option (Text × Text)
  | [] => none
  | c :: t => if c = opening then takeToClosing? opening closing 1 t else none

end DocHarvest.Doc
