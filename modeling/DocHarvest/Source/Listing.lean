import DocHarvest.Json.Number
import DocHarvest.Source.Node

/-!
# Listings of syntax trees

A listing gives the syntax trees of source files, line by line. A line with the name of a language and
a source file, `["java","class A"]`, is followed by the nodes of its tree in preorder, each on a line
of its own: depth, kind, one if the grammar names it and zero if not, first byte, byte behind the last
one, and field or `null`, as in `[1,"block",1,0,12,"body"]`.
-/

namespace DocHarvest

open Text Json

/-- A source file with its syntax tree. -/
structure ListedTree where
  language : Text
  code : Text
  tree : Node

/-- A line of a listing. -/
inductive ListingLine where
  | source (language code : Text)
  | node (depth : Nat) (kind : Text) (named : Bool) (startByte endByte : Nat) (field : Option Text)

namespace ListingLine

/-- The number that a token stands for. -/
def nat? : Token → Option Nat
  | .number form =>
    match form.number? with
    | some (.natural n) => some n
    | _ => none
  | _ => none

/-- The text that a token stands for. -/
def text? : Token → Option Text
  | .string parts => decode? parts
  | _ => none

/-- The text that a token stands for, or nothing for `null`. -/
def optionalText? : Token → Option (Option Text)
  | .null => some none
  | token => (text? token).map some

def ofText? (line : Text) : Option ListingLine :=
  match lex line with
  | [.openArray, language, .comma, code, .closeArray] => do
    return source (← text? language) (← text? code)
  | [.openArray, depth, .comma, kind, .comma, named, .comma, startByte, .comma, endByte, .comma,
      field, .closeArray] => do
    return node (← nat? depth) (← text? kind) ((← nat? named) ≠ 0) (← nat? startByte)
      (← nat? endByte) (← optionalText? field)
  | _ => none

end ListingLine

namespace ListedTree

/-- The nodes that lead a listing, each with its depth, and the lines behind them. Nodes are numbered
from `place` on. -/
def leadingNodes (code : Text) (place : Nat) :
    List ListingLine → List (Nat × NodeLabel) × List ListingLine
  | .node depth kind named startByte endByte field :: lines =>
    let label : NodeLabel := {
      kind := String.ofList kind
      named, startByte, endByte
      start := Point.ofOffset code startByte
      stop := Point.ofOffset code endByte
      field := field.map String.ofList
      place }
    let (labels, rest) := leadingNodes code (place + 1) lines
    ((depth, label) :: labels, rest)
  | lines => ([], lines)

/-- The trees of a listing; a source file without nodes has none. -/
def ofLines : List ListingLine → List ListedTree
  | [] => []
  | .source language code :: lines =>
    match Node.ofPreorder? (leadingNodes code 0 lines).1 with
    | some tree => ⟨language, code, tree⟩ :: ofLines lines
    | none => ofLines lines
  | .node _ _ _ _ _ _ :: lines => ofLines lines

/-- Reads a listing; every line must be of one of the two forms. -/
def ofText? (t : Text) : Option (List ListedTree) :=
  ((lines t).mapM ListingLine.ofText?).map ofLines

end ListedTree

end DocHarvest
