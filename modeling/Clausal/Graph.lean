import Std.Data.HashSet
import Clausal.Random.Stream
import Clausal.Word

/-!
# Random graphs

A simple undirected graph over numbered nodes is a list of edges, each with its smaller node
first, in ascending order.  A random graph draws pairs of nodes until it has enough edges;
pairs of equal nodes and repeated edges are drawn again.
-/

namespace Clausal

structure Edge where
  low : UInt64
  high : UInt64
  deriving DecidableEq, Hashable, Repr

namespace Edge

def between (a b : UInt64) : Edge := ⟨min a b, max a b⟩

def le (a b : Edge) : Bool :=
  decide (a.low < b.low) || (a.low == b.low && decide (a.high ≤ b.high))

def sorted (edges : Std.HashSet Edge) : List Edge := edges.toList.mergeSort le

@[simp] theorem mem_sorted {edge : Edge} {edges : Std.HashSet Edge} :
    edge ∈ sorted edges ↔ edge ∈ edges := by
  simp [sorted]

@[simp] theorem length_sorted (edges : Std.HashSet Edge) :
    (sorted edges).length = edges.size := by
  simp [sorted]

end Edge

inductive GraphError where
  | tooManyEdges (nodes limit asked : UInt64)
  /-- However many pairs are drawn, there are never enough edges. -/
  | neverEnough
  deriving DecidableEq, Repr

namespace GraphError

def message : GraphError → String
  | tooManyEdges nodes limit asked =>
      s!"{nodes} nodes allow at most {limit} edges, asked for {asked}"
  | neverEnough => "the draws never give enough edges"

end GraphError

namespace Graph

/-- The number of pairs of distinct nodes, as far as 64 bits reach. -/
def maxEdges (nodes : UInt64) : UInt64 :=
  mulCapped nodes (if nodes = 0 then 0 else nodes - 1) / 2

section

variable {σ : Type} (draw : σ → UInt64 × σ)

def drawPair (source : σ) (edges : Std.HashSet Edge) : Std.HashSet Edge × σ :=
  let (a, source) := draw source
  let (b, source) := draw source
  (if a = b then edges else edges.insert (.between a b), source)

variable (wanted : Nat)

/-- Draws pairs of nodes until there are this many edges; the state is the edges so far and the
source.  There is no answer if the draws go on forever. -/
def collect : StateT (Std.HashSet Edge × σ) Option Unit := fun state =>
  if wanted ≤ state.1.size then some ((), state)
  else collect.run (drawPair draw state.2 state.1)
partial_fixpoint

end

/-- A graph with this many nodes and edges, and what is left of the source, which is asked for
numbers below the number of nodes. -/
def drawn {σ : Type} (sample : σ → UInt64 → UInt64 × σ) (nodes edges : UInt64) (source : σ) :
    Except GraphError (Option (List Edge × σ)) :=
  if maxEdges nodes < edges then .error (.tooManyEdges nodes (maxEdges nodes) edges)
  else
    .ok ((collect (sample · nodes) edges.toNat (∅, source)).map
      fun (_, graph, rest) => (Edge.sorted graph, rest))

/-- A graph with this many nodes and edges, the same one for the same seed. -/
def random (nodes edges seed : UInt64) : Except GraphError (List Edge) :=
  match drawn Random.below nodes edges (.ofSeed seed) with
  | .error failure => .error failure
  | .ok (some (graph, _)) => .ok graph
  | .ok none => .error .neverEnough

end Graph

end Clausal
