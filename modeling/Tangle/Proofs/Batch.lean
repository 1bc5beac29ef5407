/-
This file says what comes of scoring the discovered files of a project. Every
discovered file has a language, whichever way its path is spelled, so none is
refused. A file that can be read is scored by its tree alone, function by function;
one that cannot be read is skipped, and the rest is as if it had not been found.
-/

import Tangle.Proofs.Discovery
import Tangle.Proofs.PreOrder
import Tangle.StoredSource

namespace Tangle

/-! ### Functions that reach a bound -/

namespace Node

/-- The cyclomatic score of a function: one, and what the nodes below it add that are in no other
function. A function without a body has the score one. -/
def cyclomaticScore (function : Node) : Nat :=
  if function.body?.isSome then 1 + ((function.descendants true).map points).sum else 1

end Node

/-- Some function outside of imports has at least the given score. -/
def Tree.Reaches (tree : Tree) (bound : Nat) : Prop :=
  ∃ address function, tree.root.nodeAt? address = some function ∧ function.isFunction = true ∧
    (∀ above, above <+: address → ∀ node, tree.root.nodeAt? above = some node →
      node.isImport = false) ∧
    bound ≤ function.cyclomaticScore

theorem Thresholds.classify_eq_error_iff {thresholds : Thresholds} {score : Int} :
    thresholds.classify score = .error ↔ reaches score thresholds.error = true := by
  unfold classify
  split <;> rename_i error
  · exact iff_of_true rfl error
  · refine iff_of_false ?_ error
    split <;> exact Status.noConfusion

namespace Source

variable (source : Source)

theorem scoreFunction_total (thresholds : Option Thresholds) (place : Place) :
    (source.scoreFunction thresholds place).value.1.cyclomatic.total =
      place.node.cyclomaticScore := by
  rw [Node.cyclomaticScore]
  by_cases bodied : place.node.body?.isSome = true
  · rw [source.scoreFunction_cyclomatic thresholds bodied, if_pos bodied, cyclomatic,
      totalCost_flatMap_decisions, List.length_flatMap]
    simp only [length_decisions]
  · rw [if_neg bodied, scoreFunction, Option.not_isSome_iff_eq_none.mp bodied]
    rfl

theorem scoreFunction_status (thresholds : Option Thresholds) (place : Place) :
    (source.scoreFunction thresholds place).value.1.status =
      classify thresholds place.node.cyclomaticScore := by
  rw [← source.scoreFunction_total thresholds]
  unfold scoreFunction
  cases place.node.body? <;> rfl

/-- Some function of a source is over the limit exactly if its tree says so. -/
theorem exists_error_iff {thresholds : Thresholds} {bound : Nat}
    (effective : thresholds.error = some (bound : Int)) :
    (∃ report ∈ (source.analyze (some thresholds)).value.report.functions,
        report.status = .error) ↔ bound ≠ 0 ∧ source.tree.Reaches bound := by
  have nodes : source.functions.map (·.node) =
      (source.tree.root.walk Node.isImport).filter Node.isFunction :=
    source.tree.map_node_functions
  have functions : (∃ report ∈ (source.analyze (some thresholds)).value.report.functions,
      report.status = .error) ↔ ∃ function ∈ source.functions.map (·.node),
        classify (some thresholds) function.cyclomaticScore = .error := by
    rw [Analysis.report, analyze_functions]
    simp only [List.map_map, List.mem_map, Function.comp_apply, exists_exists_and_eq_and,
      scoreFunction_status]
  have reached (function : Node) : classify (some thresholds) function.cyclomaticScore = .error ↔
      bound ≠ 0 ∧ bound ≤ function.cyclomaticScore := by
    rw [classify, Thresholds.classify_eq_error_iff, effective]
    simp [reaches]
  rw [functions, nodes]
  simp only [reached, List.mem_filter, Node.mem_walk_iff, Tree.Reaches]
  constructor
  · rintro ⟨function, ⟨⟨address, found, outside⟩, isFunction⟩, enforced, high⟩
    exact ⟨enforced, address, function, found, isFunction, outside, high⟩
  · rintro ⟨enforced, address, function, found, isFunction, outside, high⟩
    exact ⟨function, ⟨⟨address, found, outside⟩, isFunction⟩, enforced, high⟩

end Source

/-! ### Reading files -/

theorem Source.ofTree_value {path : String} {requested : Option String} {language : Language}
    (known : Language.resolve? requested path = some language) (bytes : List UInt8) (tree : Tree) :
    (ofTree path requested bytes tree).value = .ok ⟨path, language, bytes, tree⟩ := by
  rw [ofTree, known]
  dsimp only
  split <;> rfl

/-- The file of the given name under a directory has a language. -/
def Location.HasLanguage (root : Location) (file : String) : Prop :=
  (Language.detect? (root.path.join (.ofText file)).text).isSome

namespace Workspace

variable (workspace : Workspace)

/-- The file of the given name under a directory. -/
def fileUnder (root : Location) (file : String) : Except AccessError StoredFile :=
  workspace.readFile .top (root.path.join (.ofText file))

/-- The scores of a file under a directory, if it has any. -/
def analysisUnder? (root : Location) (thresholds : Option Thresholds) (file : String) :
    Option Analysis :=
  let path := root.path.join (.ofText file)
  (workspace.analyze .top thresholds path file).value.toOption

/-- The scores of those of several files under a directory that have any. -/
def reportsUnder (root : Location) (thresholds : Option Thresholds) (files : List String) :
    List FileReport :=
  (files.filterMap (workspace.analysisUnder? root thresholds)).map Analysis.report

theorem source_value {cwd : Location} {path : Path} {language : Language}
    (known : Language.detect? path.text = some language) (shown : String) :
    (workspace.source cwd path shown).value =
      ((workspace.readFile cwd path).mapError .unreadable).map fun content =>
        ⟨shown, language, Source.normalize content.bytes, content.tree⟩ := by
  rw [source, known]
  dsimp only
  cases workspace.readFile cwd path with
  | error error => rfl
  | ok content =>
    have named : Language.resolve? (some language.name) shown = some language := by
      cases language <;> rfl
    show (Source.ofTree shown _ _ _).value.mapError _ = _
    rw [Source.ofTree_value named]
    rfl

theorem analyze_value {cwd : Location} {path : Path} {language : Language}
    (known : Language.detect? path.text = some language)
    (thresholds : Option Thresholds) (shown : String) :
    (workspace.analyze cwd thresholds path shown).value =
      ((workspace.readFile cwd path).mapError .unreadable).map fun content =>
        ((⟨shown, language, Source.normalize content.bytes, content.tree⟩ : Source).analyze
          thresholds).value := by
  rw [analyze, Logged.value_bind, workspace.source_value known]
  cases workspace.readFile cwd path <;> rfl

section

variable (root : Location) (thresholds : Option Thresholds)

theorem isSome_analysisUnder? {file : String} (known : root.HasLanguage file) :
    (workspace.analysisUnder? root thresholds file).isSome =
      (workspace.fileUnder root file).isOk := by
  obtain ⟨language, known⟩ := Option.isSome_iff_exists.mp known
  rw [analysisUnder?, workspace.analyze_value known, fileUnder]
  cases workspace.readFile .top (root.path.join (.ofText file)) <;> rfl

theorem analyzeAll_cons_value (file : String) (rest : List String) :
    (workspace.analyzeAll root thresholds (file :: rest)).value =
      match (workspace.analyze .top thresholds (root.path.join (.ofText file))
        file).value with
      | .error (.refused failure) => .error failure
      | .error (.unreadable _) => (workspace.analyzeAll root thresholds rest).value.map
          fun batch => { batch with skipped := file :: batch.skipped }
      | .ok analysis => (workspace.analyzeAll root thresholds rest).value.map
          fun batch => { batch with analyses := analysis :: batch.analyses } := by
  let path := root.path.join (.ofText file)
  refine (Logged.value_bind (workspace.analyze .top thresholds path file) _).trans ?_
  generalize (workspace.analyze _ _ _ _).value = scored
  cases scored with
  | ok analysis => rfl
  | error error => cases error <;> rfl

/-- Scoring a batch keeps the scores of all files that can be read, and names all others. -/
theorem analyzeAll_value {files : List String}
    (known : ∀ file ∈ files, root.HasLanguage file) :
    (workspace.analyzeAll root thresholds files).value =
      .ok ⟨files.filterMap (workspace.analysisUnder? root thresholds),
        files.filter fun file => !(workspace.fileUnder root file).isOk⟩ := by
  induction files with
  | nil => rfl
  | cons file rest inductionHypothesis =>
    have others := inductionHypothesis fun file member => known file (List.mem_cons_of_mem _ member)
    obtain ⟨language, detected⟩ := Option.isSome_iff_exists.mp (known file List.mem_cons_self)
    rw [analyzeAll_cons_value, others, workspace.analyze_value detected, List.filterMap_cons,
      List.filter_cons, analysisUnder?, workspace.analyze_value detected, fileUnder]
    cases workspace.readFile .top (root.path.join (.ofText file)) <;> rfl

/-- Without the files that cannot be read, a batch has the same scores. -/
theorem analyzeAll_filter {files : List String}
    (known : ∀ file ∈ files, root.HasLanguage file) :
    (workspace.analyzeAll root thresholds
        (files.filter fun file => (workspace.fileUnder root file).isOk)).value =
      .ok ⟨files.filterMap (workspace.analysisUnder? root thresholds), []⟩ := by
  have kept : (files.filter fun file => (workspace.fileUnder root file).isOk).filterMap
      (workspace.analysisUnder? root thresholds) =
        files.filterMap (workspace.analysisUnder? root thresholds) := by
    rw [List.filterMap_filter]
    refine List.filterMap_congr fun file member => ?_
    have own := workspace.isSome_analysisUnder? root thresholds (known file member)
    by_cases readable : (workspace.fileUnder root file).isOk = true
    · rw [if_pos readable]
    · rw [if_neg readable, eq_comm, ← Option.not_isSome_iff_eq_none, own]
      exact readable
  have none : (files.filter fun file => (workspace.fileUnder root file).isOk).filter
      (fun file => !(workspace.fileUnder root file).isOk) = [] := by
    rw [List.filter_eq_nil_iff]
    intro file member
    simp [(List.mem_filter.mp member).2]
  rw [workspace.analyzeAll_value root thresholds fun file member =>
    known file (List.mem_of_mem_filter member), kept, none]

end

/-- Some function of a batch is over the limit exactly if the tree of some file that can be read
says so. -/
theorem exists_error_reportsUnder_iff (root : Location) {thresholds : Thresholds} {bound : Nat}
    (effective : thresholds.error = some (bound : Int)) {files : List String}
    (known : ∀ file ∈ files, root.HasLanguage file) :
    (∃ report ∈ workspace.reportsUnder root (some thresholds) files,
        ∃ function ∈ report.functions, function.status = .error) ↔
      bound ≠ 0 ∧ ∃ file ∈ files, ∃ content, workspace.fileUnder root file = .ok content ∧
        content.tree.Reaches bound := by
  constructor
  · rintro ⟨report, among, error⟩
    obtain ⟨analysis, inside, rfl⟩ := List.mem_map.mp among
    obtain ⟨file, member, scored⟩ := List.mem_filterMap.mp inside
    obtain ⟨language, detected⟩ := Option.isSome_iff_exists.mp (known file member)
    rw [analysisUnder?, workspace.analyze_value detected] at scored
    cases read : workspace.readFile .top (root.path.join (.ofText file)) with
    | error error =>
      rw [read] at scored
      cases scored
    | ok content =>
      rw [read] at scored
      cases scored
      obtain ⟨enforced, high⟩ := (Source.exists_error_iff _ effective).mp error
      exact ⟨enforced, file, member, content, read, high⟩
  · rintro ⟨enforced, file, member, content, read, high⟩
    obtain ⟨language, detected⟩ := Option.isSome_iff_exists.mp (known file member)
    let source : Source := ⟨file, language, Source.normalize content.bytes, content.tree⟩
    refine ⟨(source.analyze (some thresholds)).value.report,
      List.mem_map_of_mem (List.mem_filterMap.mpr ⟨file, member, ?_⟩),
      (source.exists_error_iff effective).mpr ⟨enforced, high⟩⟩
    rw [fileUnder] at read
    rw [analysisUnder?, workspace.analyze_value detected, read]
    rfl

end Workspace

/-! ### Discovered files -/

namespace Discovery

/-- Every discovered file has a language. -/
theorem detect?_of_mem_discover {workspace : Workspace} {root : Location} {listing : Listing}
    {excludes : List String} {includeTests : Bool} {files : List String}
    (value : (discover workspace root listing excludes includeTests).value = .ok files)
    {file : String} (member : file ∈ files) : (Language.detect? file).isSome := by
  rw [eq_sorted_of_discover value] at member
  have accepted := (List.mem_filter.mp ((sorted_perm _).mem_iff.mp member)).2
  rw [accepts, isCandidate] at accepted
  simp only [Bool.and_eq_true] at accepted
  exact accepted.1.1.1.2

theorem hasLanguage_of_mem_discover {workspace : Workspace} {root : Location} {listing : Listing}
    {excludes : List String} {includeTests : Bool} {files : List String}
    (value : (discover workspace root listing excludes includeTests).value = .ok files) :
    ∀ file ∈ files, root.HasLanguage file := by
  intro file member
  have known := detect?_of_mem_discover value member
  rw [Location.HasLanguage, Path.detect?_text_join _ known]
  exact known

end Discovery

end Tangle
