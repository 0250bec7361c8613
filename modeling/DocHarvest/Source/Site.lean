import DocHarvest.Source.Node

/-!
# Definitions and the comments before them

A `Site` is a node together with its earlier siblings. A `DefinitionSite` is a function that was found
inside a container, with what stands right before it. `isAdjacent` and `commentRun` decide which
comments belong to it.
-/

namespace DocHarvest

open Text

/-- A node with its earlier siblings, the nearest first. -/
structure Site where
  node : Node
  before : List Node := []

namespace Site

/-- The sibling right before the node. -/
def previous? (site : Site) : Option Site :=
  match site.before with
  | [] => none
  | node :: before => some { node, before }

/-- The nodes of a list, each with those before it. -/
def ofSiblings (before : List Node) : List Node → List Site
  | [] => []
  | node :: rest => { node, before } :: ofSiblings (node :: before) rest

def children (n : Node) : List Site := ofSiblings [] n.children

/-- The child that fills a field. -/
def child? (n : Node) (field : String) : Option Site :=
  (children n).find? (·.node.label.field = some field)

/-- The first child of one of these kinds. -/
def childOf? (n : Node) (kinds : List String) : Option Site :=
  (children n).find? (·.node.isOf kinds)

end Site

/-- A function or method that was found inside a container. -/
structure DefinitionSite where
  /-- The function or method. -/
  node : Node
  /-- The child of the container that holds it, which may be a wrapper around it. -/
  anchor : Node
  /-- The number of children of the container before the anchor. -/
  index : Nat
  /-- What stands right before the anchor. -/
  previous : Option Site

/-- What stands right before a child of a container. For a first child that starts where its
container starts, it is what stands before the container. -/
def previousOf (container anchor : Site) : Option Site :=
  match anchor.previous? with
  | some previous => some previous
  | none =>
    if container.node.label.startByte = anchor.node.label.startByte then container.previous?
    else none

/-- The children of a container that hold a definition, as `select` finds it. -/
def definitionsIn (container : Site) (select : Node → Option Node) : List DefinitionSite :=
  (Site.children container.node).filterMap fun anchor =>
    (select anchor.node).map fun node =>
      { node
        anchor := anchor.node
        index := anchor.before.length
        previous := previousOf container anchor }

/-- Whether a comment ends on the row above a definition or on its first row, and before it. -/
def isAdjacent (comment definition : Node) : Bool :=
  definition.label.start.row ≤ comment.label.stop.row + 1 &&
    comment.label.endByte ≤ definition.label.startByte

/-- Whether the node has nothing before it on its row that a sibling ends with. -/
def startsRow (node : Node) (previous : Option Node) : Bool :=
  previous.all fun previous => previous.label.stop.row < node.label.start.row

/-- The comments of a run, from the last one backwards. `next` is the comment below the node. -/
def commentsUp (isComment : Node → Bool) (next : Option Node) (node : Node) :
    List Node → List Node
  | [] => if qualifies none then [node] else []
  | previous :: before =>
    if qualifies (some previous) then node :: commentsUp isComment (some node) previous before
    else []
where
  qualifies (previous : Option Node) : Bool :=
    isComment node && startsRow node previous &&
      next.all fun next => next.label.start.row ≤ node.label.stop.row + 1

/-- The run of comments that ends at a node, in order. Every one starts its row and stands right
below the one before it. -/
def commentRun (last : Site) (isComment : Node → Bool) : List Node :=
  (commentsUp isComment none last.node last.before).reverse

end DocHarvest
