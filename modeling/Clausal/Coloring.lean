import Clausal.Answer
import Clausal.Family.Grid
import Clausal.Graph

/-!
# Graph coloring

The encoding has a literal for each node and color.  Every node takes exactly one color, and
the two ends of an edge differ in every color.  When the number of colors is minimized, a
literal for each color is true if any node takes it, and costs 1.
-/

namespace Clausal

inductive ColoringError where
  | noColors
  | strayEdge (a b nodes : UInt64)
  | encoding (failure : EncodingError)
  deriving DecidableEq, Repr

namespace ColoringError

def message : ColoringError → String
  | noColors => "need at least one color"
  | strayEdge a b nodes => s!"edge ({a}, {b}) references a node outside 0..{nodes}"
  | encoding failure => failure.message

end ColoringError

structure Coloring where
  encoding : Encoding
  nodes : UInt64
  colors : UInt64
  color : Grid
  used : Option Line
  deriving DecidableEq

namespace Coloring

def upTo (n : UInt64) : List UInt64 := (List.range n.toNat).map UInt64.ofNat

def fetchColors (color : Grid) (node : UInt64) :
    Encoding → List UInt64 → Except EncodingError (Encoding × List Literal)
  | e, [] => .ok (e, [])
  | e, c :: rest => do
      let (e, literal) ← (Family.fetchNamed color e "color" (node, c)).2
      let (e, literals) ← fetchColors color node e rest
      return (e, literal :: literals)

/-- For each pair of literals in order, the clause that forbids both. -/
def exclusions : List Literal → List (List Literal)
  | [] => []
  | a :: rest => (rest.map fun b => [a.neg, b.neg]) ++ exclusions rest

def addNode (color : Grid) (colors : UInt64) (e : Encoding) (node : UInt64) :
    Except EncodingError Encoding := do
  let e ← e.commentHard s!"node {node} gets exactly one color"
  let (e, literals) ← fetchColors color node e (upTo colors)
  let e ← e.addHard literals
  (exclusions literals).foldlM Encoding.addHard e

/-- The ends of the edge do not both take this color. -/
def addConflict (color : Grid) (a b : UInt64) (e : Encoding) (c : UInt64) :
    Except EncodingError Encoding := do
  let (e, x) ← (Family.fetch color e (a, c)).2
  let (e, y) ← (Family.fetch color e (b, c)).2
  e.addHard [x.neg, y.neg]

def addEdge (color : Grid) (colors : UInt64) (e : Encoding) (edge : UInt64 × UInt64) :
    Except EncodingError Encoding :=
  (upTo colors).foldlM (addConflict color edge.1 edge.2) e

def addUse (color : Grid) (c : UInt64) (u : Literal) (e : Encoding) (node : UInt64) :
    Except EncodingError Encoding := do
  let (e, x) ← (Family.fetch color e (node, c)).2
  e.addHard [x.neg, u]

/-- The color is used if any node takes it, and then costs 1. -/
def addColor (color : Grid) (used : Line) (nodes : UInt64) (e : Encoding) (c : UInt64) :
    Except EncodingError Encoding := do
  let (e, u) ← (Family.fetchNamed used e "used" c).2
  let e ← (upTo nodes).foldlM (addUse color c u) e
  e.addSoft 1 [u.neg]

def build (id : EncodingId) (nodes : UInt64) (edges : List (UInt64 × UInt64))
    (colors : UInt64) (minimize : Bool) : Except EncodingError Coloring := do
  let e ← (Encoding.empty id).comment
    s!"coloring nodes={nodes} edges={edges.length} colors={colors}"
  let (e, color) ← e.newGrid colors false
  let (e, used) ←
    if minimize then do
      let (e, used) ← e.newLine
      pure (e, some used)
    else pure (e, none)
  let e ← (upTo nodes).foldlM (addNode color colors) e
  let e ← if edges.isEmpty then pure e else e.commentHard "adjacent nodes differ"
  let e ← edges.foldlM (addEdge color colors) e
  let e ←
    match used with
    | none => pure e
    | some used => do
        let e ← e.commentHard "a color is used if any node takes it"
        (upTo colors).foldlM (addColor color used nodes) e
  return { encoding := e, nodes, colors, color, used }

/-- The encoding of a graph's colorings; its identity has to be a fresh one. -/
def ofGraph (id : EncodingId) (nodes : UInt64) (edges : List (UInt64 × UInt64))
    (colors : UInt64) (minimize : Bool) : Except ColoringError Coloring :=
  if colors = 0 then .error .noColors
  else
    match edges.find? fun edge => decide (nodes ≤ edge.1) || decide (nodes ≤ edge.2) with
    | some edge => .error (.strayEdge edge.1 edge.2 nodes)
    | none => (build id nodes edges colors minimize).mapError .encoding

def minimizes (c : Coloring) : Bool := c.used.isSome

/-- The first of these colors that the answer gives the node. -/
def colorOf (c : Coloring) (answer : Answer) (n : Numbering) (node : UInt64) :
    List UInt64 → Except EncodingError (Option UInt64)
  | [] => .ok none
  | color :: rest => do
      let index ← c.color.indexOf (node, color)
      let value ← answer.valueOf n (.ofAtom ⟨c.color.var, index⟩)
      if value = some true then return some color
      c.colorOf answer n node rest

/-- The color of each node, where the answer gives it one. -/
def decode (c : Coloring) (answer : Answer) (n : Numbering) :
    Except EncodingError (List (Option UInt64)) :=
  (upTo c.nodes).mapM fun node => c.colorOf answer n node (upTo c.colors)

end Coloring

end Clausal
