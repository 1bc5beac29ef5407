/-
This file says what is in the graph directory of a file after its graphs were
written. The directory is cleared of graphs first, and every graph is then put under
its name, so in the end it holds what was put under each name last. It holds one
graph for each function exactly if no two functions get the same name.
-/

import Tangle.Command.File
import Tangle.Proofs.Actions
import Tangle.Proofs.GraphNames
import Tangle.Proofs.Outlined
import Tangle.Proofs.Paths
import Tangle.Proofs.Storage

namespace Tangle

/-! ### Writing under keys -/

section

variable {κ α : Type} [DecidableEq κ]

theorem distinct_sublist (items : List κ) : (distinct items).Sublist items := by
  induction items with
  | nil => exact .slnil
  | cons item rest inductionHypothesis =>
    exact .cons_cons item (List.filter_sublist.trans inductionHypothesis)

namespace Ordered

/-- Where keys come back, some values are lost. -/
theorem length_putAll_lt {news : List (κ × α)} (again : ¬(news.map (·.1)).Nodup) :
    (putAll [] news).length < news.length := by
  have keys : (putAll [] news).map (·.1) = distinct (news.map (·.1)) := by
    rw [keys_putAll, List.map_nil, List.nil_append]
    exact List.filter_eq_self.mpr fun key _ => by simp
  have fewer := distinct_sublist (news.map (·.1))
  have count : news.length = (news.map (·.1)).length := (List.length_map _).symm
  rw [← List.length_map (·.1), keys, count]
  refine Nat.lt_of_le_of_ne fewer.length_le fun same => again ?_
  rw [← fewer.eq_of_length same]
  exact nodup_distinct _

theorem eq_or_mem_of_mem_put {entries : List (κ × α)} {key : κ} {value : α} {entry : κ × α}
    (member : entry ∈ put entries key value) : entry = (key, value) ∨ entry ∈ entries := by
  induction entries with
  | nil => exact .inl (List.mem_singleton.mp member)
  | cons first rest inductionHypothesis =>
    rw [put] at member
    split at member
    · exact (List.mem_cons.mp member).imp_right (List.mem_cons_of_mem _)
    · rcases List.mem_cons.mp member with rfl | later
      · exact .inr List.mem_cons_self
      · exact (inductionHypothesis later).imp_right (List.mem_cons_of_mem _)

theorem filter_put {choose : κ → Bool} (entries : List (κ × α)) {key : κ} (chosen : choose key)
    (value : α) :
    (put entries key value).filter (choose ·.1) = put (entries.filter (choose ·.1)) key value := by
  induction entries with
  | nil => simp [put, chosen]
  | cons entry rest inductionHypothesis =>
    rw [put]
    by_cases same : entry.1 = key
    · have kept : choose entry.1 = true := same ▸ chosen
      rw [if_pos same, List.filter_cons, if_pos chosen, List.filter_cons, if_pos kept, put,
        if_pos same]
    · rw [if_neg same, List.filter_cons, List.filter_cons, inductionHypothesis]
      by_cases other : choose entry.1 = true
      · rw [if_pos other, if_pos other, put, if_neg same]
      · rw [if_neg other, if_neg other]

end Ordered

end

/-! ### The graph directory -/

namespace Command.File

/-- Whether a file of the given name is taken for a graph. -/
def isGraph (name : String) : Bool :=
  GraphFile.ending.toList.isSuffixOf name.toList

/-- The graphs in a directory. -/
def graphsIn (workspace : Workspace) (cwd : Location) (directory : Path) :
    List (String × Entry) :=
  match workspace.find cwd directory with
  | .ok (_, .directory entries) => entries.filter (isGraph ·.1)
  | _ => []

theorem graphsIn_eq {workspace : Workspace} {cwd location : Location} {directory : Path}
    {entries : List (String × Entry)}
    (found : workspace.find cwd directory = .ok (location, .directory entries)) :
    graphsIn workspace cwd directory = entries.filter (isGraph ·.1) := by
  rw [graphsIn, found]

theorem isGraph_append_ending (name : String) : isGraph (name ++ GraphFile.ending) = true := by
  rw [isGraph, String.toList_append, List.isSuffixOf_iff_suffix]
  exact List.suffix_append _ _

theorem ne_up_of_isGraph {name : String} (graph : isGraph name) : name ≠ ".." := by
  rintro rfl
  exact absurd graph (by decide)

variable {context : Context} {directory : Path} {before after : Workspace}

/-- Removing all graphs of a directory leaves none. -/
theorem graphsIn_removeEnding
    (done : (before.removeEnding context.cwd directory GraphFile.ending).result = .ok ()) :
    graphsIn (before.removeEnding context.cwd directory GraphFile.ending).workspace context.cwd
      directory = [] := by
  unfold Workspace.removeEnding at done ⊢
  split at done
  · rename_i location entries found
    have files := Workspace.isDirectory_of_removeFiles done
    have chosen (entry : String × Entry) (mem : entry ∈ entries.filter (isGraph ·.1)) :
        isGraph entry.1 = true :=
      (List.mem_filter.mp mem).2
    have now := Workspace.find_removeFiles found _
      (fun entry mem => ne_up_of_isGraph (chosen entry mem))
      (fun entry mem inner gone => by
        obtain ⟨item, held, same⟩ := List.mem_map.mp gone
        have graph : isGraph entry.1 = true := same ▸ chosen item held
        have kept := files entry (List.mem_filter.mpr ⟨mem, graph⟩)
        exact absurd inner (by rw [kept]; exact Bool.false_ne_true))
      done
    show graphsIn (before.removeFiles location (entries.filter (isGraph ·.1))).workspace _ _ = []
    rw [graphsIn_eq now, List.filter_eq_nil_iff]
    intro entry mem graph
    obtain ⟨held, gone⟩ := List.mem_filter.mp mem
    exact of_decide_eq_true gone (List.mem_map.mpr ⟨entry, List.mem_filter.mpr ⟨held, graph⟩, rfl⟩)
  · rename_i missing
    show graphsIn before _ _ = []
    unfold graphsIn
    split
    · rename_i found
      exact absurd found (missing _ _)
    · rfl

/-- A cleared directory holds no graphs. -/
theorem graphsIn_clearGraphs (cleared : (clearGraphs context directory).Ends before () after) :
    graphsIn after context.cwd directory = [] := by
  obtain ⟨done, left⟩ := Action.ends_change_iff.mp cleared
  split at done
  · rename_i found
    rw [found] at left
    subst left
    exact graphsIn_removeEnding done
  · cases done
  · rename_i error other missing
    rw [missing] at left
    have made : (before.makeDirectories context.cwd directory false).workspace = after := by
      cases error with
      | nameTooLong => exact absurd rfl other
      | _ => exact left
    obtain ⟨location, found⟩ := Workspace.find_makeDirectories done
    rw [← made, graphsIn_eq found, List.filter_nil]

/-- All graphs in the directory have been written by now, so none of them refuses to be read. -/
def AllWritten (workspace : Workspace) (cwd : Location) (directory : Path) : Prop :=
  ∀ graph ∈ graphsIn workspace cwd directory, ∃ chart, graph.2 = Workspace.fileOf chart

/-- A graph is put under its name. -/
theorem graphsIn_writeGraph {source : Source} {item : (Node × FunctionReport) × String}
    (graph : isGraph item.2) (all : AllWritten before context.cwd directory)
    (written : (writeGraph context source directory item).Ends before () after) :
    ∃ chart, Mermaid.renderFunction source item.1.1 item.1.2 = .ok chart ∧
      graphsIn after context.cwd directory =
        Ordered.put (graphsIn before context.cwd directory) item.2 (Workspace.fileOf chart) := by
  obtain ⟨chart, _, drawn, stored⟩ := Action.ends_bind_iff.mp written
  obtain ⟨rendered, rfl⟩ := Action.ends_orStop_iff.mp drawn
  obtain ⟨done, rfl⟩ := Action.ends_change_iff.mp stored
  obtain ⟨location, entries, found, -⟩ := Workspace.exists_of_writeFile done
  have now := Workspace.find_writeFile found (ne_up_of_isGraph graph) done
  have fresh : Entry.file (Workspace.overwritten (Ordered.get? entries item.2) chart) =
      Workspace.fileOf chart := by
    cases held : Ordered.get? entries item.2 with
    | none => rfl
    | some entry =>
      have among : (item.2, entry) ∈ graphsIn before context.cwd directory := by
        rw [graphsIn_eq found]
        exact List.mem_filter.mpr ⟨Ordered.mem_of_get? held, graph⟩
      obtain ⟨_, rfl⟩ := all _ among
      rfl
  refine ⟨chart, rendered, ?_⟩
  rw [graphsIn_eq found, graphsIn_eq now, Ordered.filter_put entries graph, fresh]

/-- Graphs are put under their names one after the other. -/
theorem graphsIn_each_writeGraph {source : Source} {items : List ((Node × FunctionReport) × String)}
    (graphs : ∀ item ∈ items, isGraph item.2) (all : AllWritten before context.cwd directory)
    (written : (Action.each (writeGraph context source directory) items).Ends before () after) :
    ∃ charts, List.Forall₂ (fun item chart =>
        Mermaid.renderFunction source item.1.1 item.1.2 = .ok chart) items charts ∧
      graphsIn after context.cwd directory =
        Ordered.putAll (graphsIn before context.cwd directory)
          ((items.map (·.2)).zip (charts.map Workspace.fileOf)) := by
  induction items generalizing before with
  | nil =>
    obtain ⟨-, rfl⟩ := Action.ends_pure_iff.mp written
    exact ⟨[], .nil, rfl⟩
  | cons item rest inductionHypothesis =>
    obtain ⟨_, between, first, others⟩ := Action.ends_bind_iff.mp written
    obtain ⟨chart, drawn, put⟩ := graphsIn_writeGraph (graphs _ List.mem_cons_self) all first
    have still : AllWritten between context.cwd directory := by
      intro graph member
      rw [put] at member
      rcases Ordered.eq_or_mem_of_mem_put member with rfl | old
      · exact ⟨chart, rfl⟩
      · exact all graph old
    obtain ⟨charts, drawings, putAll⟩ :=
      inductionHypothesis (fun item mem => graphs item (List.mem_cons_of_mem _ mem)) still others
    refine ⟨chart :: charts, .cons drawn drawings, ?_⟩
    rw [putAll, put]
    rfl

/-! ### One graph for each function -/

/-- The functions of a source as their graphs are named for them. -/
def namedFunctions (analysis : Analysis) : List (String × Int) :=
  analysis.report.functions.map fun function => (function.name, function.line)

theorem graphNames_eq (analysis : Analysis) :
    graphNames analysis.report =
      (GraphFile.stems [] (namedFunctions analysis)).map (· ++ GraphFile.ending) :=
  GraphFile.names_eq_map_stems [] _

theorem isGraph_of_mem_graphNames {analysis : Analysis} {name : String}
    (member : name ∈ graphNames analysis.report) : isGraph name = true := by
  rw [graphNames_eq] at member
  obtain ⟨stem, -, rfl⟩ := List.mem_map.mp member
  exact isGraph_append_ending stem

theorem length_graphNames (analysis : Analysis) :
    (graphNames analysis.report).length = analysis.functions.length := by
  rw [graphNames_eq, List.length_map, GraphFile.length_stems, namedFunctions, List.length_map]
  exact List.length_map _

/-- Graph files have names of their own exactly if there is no clash. -/
theorem nodup_graphNames_iff (analysis : Analysis) :
    (graphNames analysis.report).Nodup ↔ ¬GraphFile.Clashes (namedFunctions analysis) := by
  rw [graphNames_eq, ← GraphFile.nodup_stems_iff]
  refine List.nodup_map_iff fun first second same => ?_
  exact (String.append_left_inj GraphFile.ending).mp same

theorem nodup_map_text_iff (output : Path) (names : List String) :
    (names.map fun name => ((graphDirectory output).join ⟨.here, [name]⟩).text).Nodup ↔
      names.Nodup := by
  have deep : output.parts ++ ["graphs"] ≠ [] := by simp
  obtain ⟨front, text⟩ := Path.exists_text_concat output.anchor deep
  refine List.nodup_map_iff fun first second same => ?_
  have texts : front ++ "/" ++ first = front ++ "/" ++ second := by
    rw [← text, ← text]
    exact same
  exact (String.append_right_inj _).mp texts

/-- What writing all graphs comes to. -/
theorem graphsIn_writeGraphs {analysis : Analysis} {output : Path} {paths : List String}
    (written : (writeGraphs context analysis (graphDirectory output)).Ends before paths after) :
    paths = (graphNames analysis.report).map (fun name =>
        ((graphDirectory output).join ⟨.here, [name]⟩).text) ∧
      ∃ charts, List.Forall₂ (fun function chart =>
          Mermaid.renderFunction analysis.source function.1 function.2 = .ok chart)
          analysis.functions charts ∧
        graphsIn after context.cwd (graphDirectory output) =
          Ordered.putAll [] ((graphNames analysis.report).zip (charts.map Workspace.fileOf)) := by
  obtain ⟨_, empty, cleared, written⟩ := Action.ends_bind_iff.mp written
  obtain ⟨_, full, stored, written⟩ := Action.ends_bind_iff.mp written
  obtain ⟨_, _, logged, ended⟩ := Action.ends_bind_iff.mp written
  cases Action.ends_log_iff.mp logged
  obtain ⟨rfl, rfl⟩ := Action.ends_pure_iff.mp ended
  have none := graphsIn_clearGraphs cleared
  have all : AllWritten empty context.cwd (graphDirectory output) := by
    rw [AllWritten, none]
    exact List.forall_mem_nil _
  have equal := length_graphNames analysis
  have graphs (item : (Node × FunctionReport) × String)
      (member : item ∈ analysis.functions.zip (graphNames analysis.report)) :
      isGraph item.2 = true :=
    isGraph_of_mem_graphNames (List.of_mem_zip member).2
  obtain ⟨charts, drawn, put⟩ := graphsIn_each_writeGraph graphs all stored
  refine ⟨rfl, charts, ?_, ?_⟩
  · have functions : (analysis.functions.zip (graphNames analysis.report)).map (·.1) =
        analysis.functions :=
      List.map_fst_zip (Nat.le_of_eq equal.symm)
    have each : List.Forall₂ (fun function chart =>
        Mermaid.renderFunction analysis.source function.1 function.2 = .ok chart)
        ((analysis.functions.zip (graphNames analysis.report)).map (·.1)) charts :=
      List.forall₂_map_left_iff.mpr drawn
    rw [functions] at each
    exact each
  · rw [put, none]
    congr 2
    exact List.map_snd_zip (Nat.le_of_eq equal)

/-- The graph files of a source are as many as its functions, each with the graph of its function,
exactly if no two functions clash. -/
theorem graph_for_each_function (context : Context) (analysis : Analysis) (output : Path)
    (before : Workspace) (paths : List String)
    (written : (writeGraphs context analysis (graphDirectory output) before).result = .ok paths) :
    let after := (writeGraphs context analysis (graphDirectory output) before).workspace
    let graphs := graphsIn after context.cwd (graphDirectory output)
    ∃ charts, List.Forall₂ (fun function chart =>
        Mermaid.renderFunction analysis.source function.1 function.2 = .ok chart)
        analysis.functions charts ∧
      paths.length = analysis.functions.length ∧
      (¬GraphFile.Clashes (namedFunctions analysis) → paths.Nodup ∧
        graphs = (graphNames analysis.report).zip (charts.map Workspace.fileOf)) ∧
      (GraphFile.Clashes (namedFunctions analysis) → ¬paths.Nodup ∧
        graphs.length < analysis.functions.length) := by
  obtain ⟨rfl, charts, drawn, put⟩ := graphsIn_writeGraphs (Action.ends_of_result written)
  have equal : (graphNames analysis.report).length = (charts.map Workspace.fileOf).length := by
    rw [length_graphNames, List.length_map, drawn.length_eq]
  have keys : ((graphNames analysis.report).zip (charts.map Workspace.fileOf)).map (·.1) =
      graphNames analysis.report :=
    List.map_fst_zip (Nat.le_of_eq equal)
  have count : ((graphNames analysis.report).zip (charts.map Workspace.fileOf)).length =
      analysis.functions.length := by
    rw [← List.length_map (·.1), keys, length_graphNames]
  refine ⟨charts, drawn, (List.length_map _).trans (length_graphNames analysis), ?_, ?_⟩
  · intro apart
    have unique := (nodup_graphNames_iff analysis).mpr apart
    refine ⟨(nodup_map_text_iff output _).mpr unique, ?_⟩
    rw [put, Ordered.putAll_of_nodup]
    · rfl
    · rw [keys]
      exact unique
  · intro clash
    have again : ¬(graphNames analysis.report).Nodup := fun unique =>
      (nodup_graphNames_iff analysis).mp unique clash
    refine ⟨mt (nodup_map_text_iff output _).mp again, ?_⟩
    rw [put, ← count]
    exact Ordered.length_putAll_lt (by rw [keys]; exact again)

/-- Three functions without a name on one line. -/
def threeOnOneLine : Source :=
  let arrow := Node.named .arrowFunction none [.named (.other "number") (some .body) []]
  { Source.blank with tree := ⟨.named (.other "program") none [arrow, arrow, arrow], false⟩ }

/-- The third function is given the name that the second one has taken with its line, so that one
of the three graphs is lost. -/
theorem graph_for_each_function_threeOnOneLine :
    let context : Context := ⟨⟨⟨["work"]⟩, .unavailable, ⟨2024, 1, 1, 0, 0, 0⟩⟩, false⟩
    let analysis := (threeOnOneLine.analyze none).value
    let output : Path := ⟨.here, ["out"]⟩
    let workspace : Workspace := ⟨.directory [("work", .directory [])]⟩
    let written := writeGraphs context analysis (graphDirectory output) workspace
    written.result = .ok ["out/graphs/anonymous.mermaid", "out/graphs/anonymous_L1.mermaid",
        "out/graphs/anonymous_L1.mermaid"] ∧
      analysis.functions.length = 3 ∧
      (graphsIn written.workspace context.cwd (graphDirectory output)).length < 3 := by
  intro context analysis output workspace written
  have result : written.result = .ok ["out/graphs/anonymous.mermaid",
      "out/graphs/anonymous_L1.mermaid", "out/graphs/anonymous_L1.mermaid"] := by
    decide +kernel
  have count : analysis.functions.length = 3 := by decide +kernel
  obtain ⟨charts, -, -, apart, clash⟩ :=
    graph_for_each_function context analysis output workspace _ result
  by_cases clashes : GraphFile.Clashes (namedFunctions analysis)
  · exact ⟨result, count, count ▸ (clash clashes).2⟩
  · exact absurd (apart clashes).1 (by decide +kernel)

end Command.File

end Tangle
