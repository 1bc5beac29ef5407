/-
This file describes the control flow of structured code and draws it as a graph.
A flow has one way in and one way out. Drawing extends a graph from an open end
and returns the open end behind it; every vertex but the entry is reached by the
edge that was open before it.
-/

import Tangle.Graph

namespace Tangle

/-- What decides whether an optional branch is taken. -/
inductive Guard where
  /-- A condition that may fail. -/
  | condition
  /-- Something thrown that may not come. -/
  | handler
deriving DecidableEq

/-- The label of the edge into the branch. -/
def Guard.taken : Guard → String
  | condition => "true"
  | handler => "throw"

/-- The label of the edge past the branch. -/
def Guard.passed : Guard → String
  | condition => "false"
  | handler => "ok"

mutual

/-- The shape of control flow. A text that comes with a branch is that of its first vertex. -/
inductive Flow where
  /-- Nothing to show. -/
  | skip
  /-- One flow behind the other. -/
  | seq (first second : Flow)
  /-- A single statement. -/
  | step (text : String)
  /-- A decision between two branches that meet again. -/
  | either (test : String) (opening : String) (yes : Flow) (otherwise : String) (no : Flow)
  /-- A decision whether to take a branch. -/
  | optional (test : String) (guard : Guard) (opening : String) (body : Flow)
  /-- A decision between a branch and a flow that hangs off the decision directly. -/
  | chain (test : String) (opening : String) (yes : Flow) (next : Flow)
  /-- A decision that is taken again after its body. -/
  | loop (test : String) (body : Flow)
  /-- A decision between any number of clauses. -/
  | choose (test : String) (clauses : Clauses)
  /-- A decision whether the right side of an operator is evaluated. -/
  | shortcut (sign : String)

/-- The clauses of a decision, each with the text of its first vertex. -/
inductive Clauses where
  | nil
  | cons (text : String) (body : Flow) (rest : Clauses)

end

/-- The flows of a list, one behind the other. -/
def Flow.ofList : List Flow → Flow
  | [] => .skip
  | flow :: rest => .seq flow (Flow.ofList rest)

def Clauses.ofList : List (String × Flow) → Clauses
  | [] => .nil
  | (text, body) :: rest => .cons text body (Clauses.ofList rest)

/-! ### Drawing -/

/-- A vertex that control leaves next, and the label of the edge by which it will. -/
structure OpenEnd where
  vertex : Int
  label : Option String
deriving DecidableEq

namespace Graph

/-- The number of the vertex that will be added next. -/
def next (graph : Graph) : Int := graph.vertices.length

def addVertex (graph : Graph) (label : String) (kind : VertexKind) : Graph :=
  { graph with vertices := graph.vertices ++ [⟨graph.next, label, kind⟩] }

def addEdge (graph : Graph) (source target : Int) (label : Option String) : Graph :=
  { graph with edges := graph.edges ++ [⟨source, target, label⟩] }

/-- Leads an open end to a vertex. -/
def close (graph : Graph) (loose : OpenEnd) (target : Int) : Graph :=
  graph.addEdge loose.vertex target loose.label

/-- Leads several open ends to a vertex. -/
def closeAll (graph : Graph) (ends : List OpenEnd) (target : Int) : Graph :=
  ends.foldl (fun drawn loose => drawn.close loose target) graph

/-- Adds a vertex to which an open end leads. -/
def continueWith (graph : Graph) (loose : OpenEnd) (label : String) (kind : VertexKind) : Graph :=
  (graph.addVertex label kind).close loose graph.next

/-- Adds a statement to which a labelled edge leads. -/
def branchTo (graph : Graph) (decision : Int) (edge : String) (label : String) : Graph :=
  (graph.addVertex label .statement).addEdge decision graph.next (some edge)

end Graph

mutual

/-- Draws a flow from an open end on. -/
def Flow.draw (graph : Graph) (start : OpenEnd) : Flow → Graph × OpenEnd
  | .skip => (graph, start)
  | .seq first second =>
    let (graph, middle) := first.draw graph start
    second.draw graph middle
  | .step text => (graph.continueWith start text .statement, ⟨graph.next, none⟩)
  | .either test opening yes otherwise no =>
    let decision := graph.next
    let graph := graph.continueWith start test .decision
    let (graph, yesEnd) := yes.draw (graph.branchTo decision "true" opening) ⟨graph.next, none⟩
    let (graph, noEnd) := no.draw (graph.branchTo decision "false" otherwise) ⟨graph.next, none⟩
    let merge := graph.next
    ((graph.addVertex "merge" .statement).closeAll [yesEnd, noEnd] merge, ⟨merge, none⟩)
  | .optional test guard opening body =>
    let decision := graph.next
    let graph := graph.continueWith start test .decision
    let (graph, bodyEnd) :=
      body.draw (graph.branchTo decision guard.taken opening) ⟨graph.next, none⟩
    let merge := graph.next
    ((graph.addVertex "merge" .statement).closeAll [bodyEnd, ⟨decision, some guard.passed⟩] merge,
      ⟨merge, none⟩)
  | .chain test opening yes next =>
    let decision := graph.next
    let graph := graph.continueWith start test .decision
    let (graph, yesEnd) := yes.draw (graph.branchTo decision "true" opening) ⟨graph.next, none⟩
    let (graph, nextEnd) := next.draw graph ⟨decision, some "false"⟩
    let merge := graph.next
    ((graph.addVertex "merge" .statement).closeAll [yesEnd, nextEnd] merge, ⟨merge, none⟩)
  | .loop test body =>
    let decision := graph.next
    let graph := graph.continueWith start test .decision
    let (graph, bodyEnd) := body.draw (graph.branchTo decision "true" "loop body") ⟨graph.next, none⟩
    let graph := graph.addEdge bodyEnd.vertex decision (some "continue")
    (graph.branchTo decision "false" "loop exit", ⟨graph.next, none⟩)
  | .choose test clauses =>
    let decision := graph.next
    let graph := graph.continueWith start test .decision
    let (graph, ends) := clauses.draw graph decision 0
    let merge := graph.next
    let ends := if ends.isEmpty then [⟨decision, none⟩] else ends
    ((graph.addVertex "switch merge" .statement).closeAll ends merge, ⟨merge, none⟩)
  | .shortcut sign =>
    let decision := graph.next
    let graph := graph.continueWith start (sign ++ " short-circuit") .decision
    let rest := graph.next
    ((graph.branchTo decision "eval" "continue").addEdge decision rest (some "skip"), ⟨rest, none⟩)

/-- Draws the clauses of a decision from the one with the given number on, and returns their
ends. -/
def Clauses.draw (graph : Graph) (decision : Int) (number : Nat) : Clauses → Graph × List OpenEnd
  | .nil => (graph, [])
  | .cons text body rest =>
    let (graph, bodyEnd) :=
      body.draw (graph.branchTo decision ("case " ++ toString number) text) ⟨graph.next, none⟩
    let (graph, ends) := rest.draw graph decision (number + 1)
    (graph, bodyEnd :: ends)

end

/-- The graph of a flow between its entry and its exit. -/
def Flow.graph (flow : Flow) : Graph :=
  let start : Graph := ⟨[⟨0, "ENTRY", .entry⟩], []⟩
  let (graph, last) := flow.draw start ⟨0, none⟩
  graph.continueWith last "EXIT" .exit

end Tangle
