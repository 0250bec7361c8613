import DocHarvest.Glob.Pattern
import DocHarvest.Text.Bytes

/-!
# What a glob pattern matches

Patterns match paths byte by byte. `GlobPiece.rests` lists what may be left of a path after a piece
has matched at its front; a pattern matches a path if nothing may be left.
-/

namespace DocHarvest

namespace GlobPiece

/-- The byte that parts directories in a path. -/
def slash : UInt8 := 47

/-- What may be left after any bytes. -/
def tails : Bytes → List Bytes
  | [] => [[]]
  | b :: bytes => (b :: bytes) :: tails bytes

/-- What may be left after any bytes and a slash. -/
def afterSlashes : Bytes → List Bytes
  | [] => []
  | b :: bytes => if b = slash then bytes :: afterSlashes bytes else afterSlashes bytes

def bytesOf (c : Char) : Bytes := Text.toBytes [c]

/-- The ranges of bytes that a range of characters stands for: the characters are written as their
bytes, with a hyphen between the last byte of the lower one and the first byte of the upper one. -/
def byteRanges (range : Char × Char) : List (UInt8 × UInt8) :=
  let single := fun (b : UInt8) => (b, b)
  let low := bytesOf range.1
  let high := bytesOf range.2
  if range.1 = range.2 then low.map single
  else
    match low.getLast?, high.head? with
    | some a, some b => low.dropLast.map single ++ (a, b) :: (high.drop 1).map single
    | _, _ => []

/-- Whether a byte lies in one of the ranges. -/
def isIn (ranges : List (Char × Char)) (b : UInt8) : Bool :=
  (ranges.flatMap byteRanges).any fun (low, high) => low ≤ b && b ≤ high

/-- What is left after a leading piece of a path, if the path begins with it. -/
def dropBytes? : Bytes → Bytes → Option Bytes
  | [], path => some path
  | _ :: _, [] => none
  | b :: lead, c :: path => if b = c then dropBytes? lead path else none

mutual

/-- Whether a piece stands for nothing at all: it is a group without a branch that stands for
something. -/
def isVoid : GlobPiece → Bool
  | alternatives branches => areVoidBranches branches
  | _ => false

/-- Whether every piece stands for nothing. -/
def areVoid : List GlobPiece → Bool
  | [] => true
  | piece :: pieces => piece.isVoid && areVoid pieces

/-- Whether every branch stands for nothing. -/
def areVoidBranches : List (List GlobPiece) → Bool
  | [] => true
  | branch :: branches => areVoid branch && areVoidBranches branches

end

mutual

/-- What may be left of a path after a piece. -/
def rests : GlobPiece → Bytes → List Bytes
  | literal c, path => (dropBytes? (bytesOf c) path).toList
  | any, path => path.tail?.toList
  | star, path => tails path
  | leadingDirectories, path => path :: afterSlashes path
  | trailingDirectories, path =>
    match path with
    | [] => []
    | b :: path => if b = slash then tails path else []
  | innerDirectories, path =>
    match path with
    | [] => []
    | b :: path => if b = slash then path :: afterSlashes path else []
  | oneOf negated ranges, path =>
    match path with
    | [] => []
    | b :: path => if isIn ranges b != negated then [path] else []
  | alternatives branches, path =>
    if areVoidBranches branches then [path] else restsOfAny branches path

/-- What may be left of one of several paths after all pieces. -/
def restsOfAll : List GlobPiece → List Bytes → List Bytes
  | [], paths => paths
  | piece :: pieces, paths => restsOfAll pieces (paths.flatMap piece.rests).eraseDups

/-- What may be left of a path after one of the branches; one that stands for nothing is passed
over. -/
def restsOfAny : List (List GlobPiece) → Bytes → List Bytes
  | [], _ => []
  | branch :: branches, path =>
    if areVoid branch then restsOfAny branches path
    else restsOfAll branch [path] ++ restsOfAny branches path

end

end GlobPiece

/-- Whether a pattern matches a path. Two stars alone match every path. -/
def Glob.isMatch (glob : Glob) (path : Text) : Bool :=
  match glob with
  | [.leadingDirectories] => true
  | glob => (GlobPiece.restsOfAll glob [path.toBytes]).any List.isEmpty

end DocHarvest
