/-
This file holds control flow graphs as they are shown: a list of vertices and a
list of edges, both in the order in which they are drawn. Any lists make a graph,
so edges may lead nowhere and numbers may repeat.
-/

namespace Tangle

/-- What a vertex stands for. -/
inductive VertexKind where
  | entry
  | exit
  | decision
  | statement
deriving DecidableEq

namespace VertexKind

def name : VertexKind → String
  | entry => "entry"
  | exit => "exit"
  | decision => "decision"
  | statement => "statement"

def ofName? : String → Option VertexKind
  | "entry" => some entry
  | "exit" => some exit
  | "decision" => some decision
  | "statement" => some statement
  | _ => none

end VertexKind

structure Vertex where
  id : Int
  label : String
  kind : VertexKind
deriving DecidableEq

structure Edge where
  source : Int
  target : Int
  label : Option String
deriving DecidableEq

structure Graph where
  vertices : List Vertex
  edges : List Edge
deriving DecidableEq

/-- The list without repetitions, every item at its first place. -/
def distinct [DecidableEq α] : List α → List α
  | [] => []
  | item :: rest => item :: (distinct rest).filter (· ≠ item)

namespace Graph

/-- The first vertex. -/
def entry? (graph : Graph) : Option Vertex :=
  graph.vertices.head?

def ofKind (graph : Graph) (kind : VertexKind) : List Vertex :=
  graph.vertices.filter (·.kind = kind)

def decisions (graph : Graph) : List Vertex :=
  graph.ofKind .decision

def outgoing (graph : Graph) (id : Int) : List Edge :=
  graph.edges.filter (·.source = id)

def incoming (graph : Graph) (id : Int) : List Edge :=
  graph.edges.filter (·.target = id)

/-- The vertices that edges out of a vertex lead to, each once. -/
def successors (graph : Graph) (id : Int) : List Int :=
  distinct ((graph.outgoing id).map (·.target))

/-- Numbers the edges between the same two vertices from zero; `earlier` holds the edges before. -/
def numberEdges (earlier : List Edge) : List Edge → List (Edge × Nat)
  | [] => []
  | edge :: rest =>
    (edge, earlier.countP fun other => other.source = edge.source && other.target = edge.target) ::
      numberEdges (edge :: earlier) rest

/-- The edges with their numbers, sorted by source, target and number. -/
def numberedEdges (graph : Graph) : List (Edge × Nat) :=
  (numberEdges [] graph.edges).mergeSort fun (a, i) (b, j) =>
    if a.source ≠ b.source then a.source ≤ b.source
    else if a.target ≠ b.target then a.target ≤ b.target
    else i ≤ j

end Graph

end Tangle
