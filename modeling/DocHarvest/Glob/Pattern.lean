import DocHarvest.Text.Basic

/-!
# Glob patterns

A `Glob` is a list of pieces. `Glob.ofText?` reads it: `?` stands for any byte, `*` for any bytes,
`[a-z]` for one of a class and `[!a-z]` for one outside it, `{a,b}` for either of two patterns, and
`\` takes the next character as it is. Two stars that fill a whole directory name stand for any number
of directories; elsewhere they are two stars.
-/

namespace DocHarvest

/-- A piece of a pattern. -/
inductive GlobPiece where
  | literal (c : Char)
  /-- Any byte. -/
  | any
  /-- Any bytes. -/
  | star
  /-- `**/` at the front: nothing, or directories down to a slash. -/
  | leadingDirectories
  /-- `/**` at the end: everything below a directory. -/
  | trailingDirectories
  /-- `/**/`: a slash, or directories between two slashes. -/
  | innerDirectories
  /-- One byte inside the ranges, or outside them. -/
  | oneOf (negated : Bool) (ranges : List (Char × Char))
  | alternatives (branches : List (List GlobPiece))

abbrev Glob := List GlobPiece

namespace Glob

/-! ## Classes -/

/-- Reads the ranges of a class after its first character. In `open` a hyphen waits for its upper end;
a second upper end replaces the first one. The ranges come last first. -/
def readRanges (ranges : List (Char × Char)) (isOpen : Bool) :
    Text → Option (List (Char × Char) × Text)
  | [] => none
  | c :: t =>
    if c = ']' then some (if isOpen then ('-', '-') :: ranges else ranges, t)
    else if isOpen then
      match ranges with
      | (low, _) :: ranges => if low ≤ c then readRanges ((low, c) :: ranges) false t else none
      | [] => none
    else if c = '-' then readRanges ranges true t
    else readRanges ((c, c) :: ranges) false t

/-- Reads a class after its opening bracket. The first character stands for itself. -/
def readClass? : Text → Option (GlobPiece × Text)
  | [] => none
  | c :: t =>
    let negated := c = '!' || c = '^'
    match if negated then t else c :: t with
    | [] => none
    | first :: t =>
      (readRanges [(first, first)] false t).map fun (ranges, rest) =>
        (.oneOf negated ranges.reverse, rest)

theorem length_of_readRanges {ranges ranges' : List (Char × Char)} {isOpen : Bool} {t rest : Text}
    (h : readRanges ranges isOpen t = some (ranges', rest)) : rest.length < t.length := by
  induction t generalizing ranges isOpen with
  | nil => exact absurd h nofun
  | cons c t ih =>
    unfold readRanges at h
    split at h
    · obtain ⟨-, rfl⟩ := Prod.mk.inj (Option.some.inj h)
      simp
    · split at h
      · split at h
        · split at h
          · exact Nat.lt_succ_of_lt (ih h)
          · exact absurd h nofun
        · exact absurd h nofun
      · split at h
        · exact Nat.lt_succ_of_lt (ih h)
        · exact Nat.lt_succ_of_lt (ih h)

theorem length_of_readClass? {t rest : Text} {piece : GlobPiece}
    (h : readClass? t = some (piece, rest)) : rest.length < t.length := by
  unfold readClass? at h
  split at h
  · exact absurd h nofun
  · next c t =>
    dsimp only at h
    split at h
    · exact absurd h nofun
    · next first t' ht =>
      obtain ⟨⟨ranges, r⟩, h', e⟩ := Option.map_eq_some_iff.1 h
      obtain ⟨-, rfl⟩ := Prod.mk.inj e
      have lt := length_of_readRanges h'
      split at ht
      · subst ht
        simp only [List.length_cons]
        omega
      · obtain ⟨-, rfl⟩ := List.cons.inj ht
        simp only [List.length_cons]
        omega

/-! ## Groups -/

/-- The branches of a group that are complete, and the pieces of the one being read, last first. -/
structure Group where
  branches : List Glob := []
  pieces : List GlobPiece := []

/-- The pattern being read: its innermost group and the groups around it. The outermost group is the
whole pattern. -/
structure Draft where
  group : Group := {}
  around : List Group := []

namespace Draft

/-- Whether the place is inside braces. -/
def isNested (d : Draft) : Bool := !d.around.isEmpty

/-- Whether no piece stands before the place in its branch. -/
def isFresh (d : Draft) : Bool := d.group.pieces.isEmpty

def add (d : Draft) (piece : GlobPiece) : Draft :=
  { d with group := { d.group with pieces := piece :: d.group.pieces } }

/-- Puts a piece in the place of the last one. -/
def replaceLast (d : Draft) (piece : GlobPiece → GlobPiece) : Draft :=
  match d.group.pieces with
  | [] => d
  | last :: pieces => { d with group := { d.group with pieces := piece last :: pieces } }

def openGroup (d : Draft) : Draft := { group := {}, around := d.group :: d.around }

def nextBranch (d : Draft) : Draft :=
  { d with group := { branches := d.group.pieces.reverse :: d.group.branches } }

/-- Closes the innermost group; there must be one. -/
def closeGroup? (d : Draft) : Option Draft :=
  match d.around with
  | [] => none
  | outer :: around =>
    let branches := (d.group.pieces.reverse :: d.group.branches).reverse
    some (add ⟨outer, around⟩ (.alternatives branches))

/-- The pattern, if every group is closed. -/
def finish? (d : Draft) : Option Glob :=
  if d.isNested then none else some d.group.pieces.reverse

/-- Two stars that do not stand for directories. -/
def addStars (d : Draft) : Draft := (d.add .star).add .star

/-- The piece for two stars behind a piece. -/
def directoriesAfter (isEnd : Bool) : GlobPiece → GlobPiece
  | .leadingDirectories => .leadingDirectories
  | .trailingDirectories => .trailingDirectories
  | _ => if isEnd then .trailingDirectories else .innerDirectories

/-- Whether two stars after the character `before` begin a directory name. -/
def beginsName (d : Draft) (before : Option Char) : Bool :=
  before = some '/' || (d.isNested && (before = some ',' || before = some '{'))

/-- Whether a branch ends before a character. -/
def endsBranch (d : Draft) (next : Option Char) : Bool :=
  match next with
  | none => true
  | some c => d.isNested && (c = ',' || c = '}')

/-- Appends two stars between the characters `before` and `next`, and says whether the slash that
follows belongs to them. -/
def addDoubleStar (d : Draft) (before next : Option Char) : Draft × Bool :=
  if d.isFresh then
    if next = none || next = some '/' then (d.add .leadingDirectories, true)
    else (d.addStars, false)
  else if !d.beginsName before then (d.addStars, false)
  else if d.endsBranch next then (d.replaceLast (directoriesAfter true), false)
  else if next = some '/' then (d.replaceLast (directoriesAfter false), true)
  else (d.addStars, false)

end Draft

/-! ## Patterns -/

/-- Reads a pattern; `before` is the character before the place. -/
def read? (d : Draft) (before : Option Char) : Text → Option Glob
  | [] => d.finish?
  | '*' :: '*' :: t =>
    match d.addDoubleStar before t.head?, t with
    | (d, true), slash :: t => read? d (some slash) t
    | (d, _), t => read? d (some '*') t
  | c :: t =>
    if c = '?' then read? (d.add .any) (some c) t
    else if c = '*' then read? (d.add .star) (some c) t
    else if c = '[' then
      match _class : readClass? t with
      | some (piece, rest) => read? (d.add piece) (some ']') rest
      | none => none
    else if c = '\x7b' then read? d.openGroup (some c) t
    else if c = '\x7d' then
      match d.closeGroup? with
      | some d => read? d (some c) t
      | none => none
    else if c = ',' && d.isNested then read? d.nextBranch (some c) t
    else if c = '\\' then
      match t with
      | [] => none
      | e :: t => read? (d.add (.literal e)) (some e) t
    else read? (d.add (.literal c)) (some c) t
termination_by t => t.length
decreasing_by
  all_goals try have lt := length_of_readClass? _class
  all_goals simp only [List.length_cons]; omega

def ofText? (t : Text) : Option Glob := read? {} none t

end Glob

end DocHarvest
