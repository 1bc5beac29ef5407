/-
This file renders graphs as Mermaid flowcharts: one line per vertex, then one per
edge, then one style line per vertex.
-/

import Tangle.Analysis
import Tangle.Flow.Outline

namespace Tangle.Mermaid

/-- Text made safe for a quoted label: on one line, and without double quotes. -/
def escapeLabel (text : String) : String :=
  String.ofList ((Text.collapse text.toList).map fun c => if c == '"' then '\'' else c)

/-- The name of the vertex with the given number. -/
def vertexName (id : Int) : String :=
  "N" ++ toString id

/-- Entry and exit are stadiums, decisions are diamonds, all others are boxes. -/
def vertexLine (vertex : Vertex) : String :=
  let text := escapeLabel vertex.label
  let name := vertexName vertex.id
  match vertex.kind with
  | .entry | .exit => "    " ++ name ++ "([\"" ++ text ++ "\"])"
  | .decision => "    " ++ name ++ "\x7b\"" ++ text ++ "\"\x7d"
  | .statement => "    " ++ name ++ "[\"" ++ text ++ "\"]"

/-- An empty label is no label. -/
def edgeLine (edge : Edge) : String :=
  let source := vertexName edge.source
  let target := vertexName edge.target
  match edge.label with
  | none | some "" => "    " ++ source ++ " --> " ++ target
  | some label => "    " ++ source ++ " -->|\"" ++ escapeLabel label ++ "\"| " ++ target

/-- The colours of a kind of vertex. -/
def colours : VertexKind → String
  | .entry => "fill:#2d5016,stroke:#4a8c2a,color:#fff"
  | .exit => "fill:#5d1f1f,stroke:#a33,color:#fff"
  | .decision => "fill:#4a3c00,stroke:#c9a400,color:#fff"
  | .statement => "fill:#1e3a5f,stroke:#3b6ea5,color:#fff"

def styleLine (vertex : Vertex) : String :=
  "    style " ++ vertexName vertex.id ++ " " ++ colours vertex.kind

/-- The lines before the chart that give its title. An empty title is no title. -/
def titleLines : Option String → List String
  | none | some "" => []
  | some title => ["---", "title: " ++ escapeLabel title, "---"]

/-- A chart in the given direction. -/
def diagram (direction : String) (elements : List String) (title : Option String) : String :=
  "\n".intercalate (titleLines title ++ ("flowchart " ++ direction) :: elements)

/-- The lines of a graph. -/
def elements (graph : Graph) : List String :=
  graph.vertices.map vertexLine ++ graph.edges.map edgeLine ++ graph.vertices.map styleLine

/-- A graph as a chart from top to bottom. -/
def render (graph : Graph) (title : Option String) : String :=
  diagram "TD" (elements graph) title

/-- The title of a function's graph. -/
def functionTitle (report : FunctionReport) : String :=
  report.name ++ "() | Cyclomatic:" ++ toString report.cyclomatic.total ++ " Cognitive:" ++
    toString report.cognitive.total

/-- The chart of a scored function. -/
def renderFunction (source : Source) (function : Node) (report : FunctionReport) :
    Except NodeError String :=
  (source.flowGraph function).map fun graph => render graph (some (functionTitle report))

end Tangle.Mermaid
