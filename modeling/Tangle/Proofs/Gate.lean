/-
This file says when a run fails the gate. Every way through a command leads from the
settings over the files and the scores of their functions to one count, and nothing
that is printed or written in between has a say in it. So a run that can write its
report ends with the exit code of a failed gate exactly if the gate was asked for, the
error threshold is enforced, and some function in a file that can be read reaches it;
otherwise it ends well.
-/

import Tangle.Command
import Tangle.Proofs.Actions
import Tangle.Proofs.Batch
import Tangle.Proofs.Columns
import Tangle.Proofs.GraphFiles
import Tangle.Proofs.SettingsFiles

namespace Tangle

/-! ### Settings -/

namespace Config

/-- The error threshold that settings come to: what is set, or else the default. -/
def Values.errorBound (values : Values) : Nat :=
  ((Ordered.get? values .error).bind id).getD 20

theorem error_overlay (values : Values) : values.overlay.error = some (values.errorBound : Int) := by
  show (values.get? .error <|> defaults.error) = _
  rw [Values.errorBound, Values.get?]
  cases (Ordered.get? values .error).bind id <;> rfl

end Config

/-! ### Verdicts -/

namespace Command

/-- A run ends with the exit code of a failed gate exactly if the gate fails, and well otherwise. -/
def Decides (exitCode : Int) (fails : Prop) : Prop :=
  (exitCode = 5 ↔ fails) ∧ (¬fails → exitCode = 0)

theorem Decides.congr {exitCode : Int} {fails other : Prop} (decides : Decides exitCode fails)
    (same : fails ↔ other) : Decides exitCode other :=
  ⟨decides.1.trans same, fun passes => decides.2 (mt same.mp passes)⟩

theorem countStatus_eq_zero_iff {reports : List FileReport} {status : Status} :
    countStatus reports status = 0 ↔
      ¬∃ report ∈ reports, ∃ function ∈ report.functions, function.status = status := by
  rw [countStatus, List.countP_eq_zero]
  constructor
  · rintro none ⟨report, member, function, inside, same⟩
    exact none function (List.mem_flatMap.mpr ⟨report, member, inside⟩) (decide_eq_true same)
  · intro none function inside same
    obtain ⟨report, member, inside⟩ := List.mem_flatMap.mp inside
    exact none ⟨report, member, function, inside, of_decide_eq_true same⟩

/-- The gate fails if it was asked for and some function is over the limit. -/
theorem decides_keepGate (failOnError : Bool) (reports : List FileReport)
    (thresholds : Thresholds) (workspace : Workspace) :
    Decides (exitCodeOf (keepGate failOnError reports thresholds workspace).result)
      (failOnError = true ∧ ∃ report ∈ reports, ∃ function ∈ report.functions,
        function.status = .error) := by
  have apart : (0 : Int) ≠ 5 := by decide
  cases failOnError with
  | false => exact ⟨iff_of_false apart (fun fails => Bool.false_ne_true fails.1), fun _ => rfl⟩
  | true =>
    show Decides (exitCodeOf (Action.orStop Halt.failed (checkGate reports thresholds)
      workspace).result) _
    rw [checkGate]
    by_cases none : countStatus reports .error = 0
    · have passes := countStatus_eq_zero_iff.mp none
      rw [if_pos none]
      exact ⟨iff_of_false apart fun fails => passes fails.2, fun _ => rfl⟩
    · have fails := not_not.mp (mt countStatus_eq_zero_iff.mpr none)
      rw [if_neg none]
      exact ⟨iff_of_true rfl ⟨rfl, fails⟩, fun passes => absurd ⟨rfl, fails⟩ passes⟩

/-! ### What the commands share -/

/-- A report can be written to a directory. -/
def CanReport (workspace : Workspace) (cwd : Location) (output : Path) : Prop :=
  ∀ page, (workspace.makeDirectories cwd output true).result = .ok () ∧
    ((workspace.makeDirectories cwd output true).workspace.writeFile cwd output reportName
      page).result = .ok ()

variable {context : Context} {workspace : Workspace}

theorem exists_ends_writeReport (context : Context) {output : Path}
    (can : CanReport workspace context.cwd output) (reports : List FileReport) :
    ∃ path after, (writeReport context reports output).Ends workspace path after := by
  obtain ⟨made, written⟩ := can (Html.page reports)
  refine ⟨(output.join ⟨.here, [reportName]⟩).text,
    ((workspace.makeDirectories context.cwd output true).workspace.writeFile context.cwd output
      reportName (Html.page reports)).workspace,
    (Action.ends_change_iff.mpr ⟨made, rfl⟩).bind ?_⟩
  refine (Action.ends_change_iff.mpr ⟨written, rfl⟩).bind ?_
  exact (Action.ends_log_iff.mpr rfl).bind (Action.ends_pure_iff.mpr ⟨rfl, rfl⟩)

theorem ends_loadThresholds {start : Location} {values : Config.Values}
    (loaded : (Config.load Config.FileFault.message workspace start).value = .ok values) :
    (loadThresholds start).Ends workspace values.overlay workspace := by
  refine (Action.ends_workspace_iff.mpr ⟨rfl, rfl⟩).bind ?_
  refine (Action.ends_logged_iff.mpr ⟨Config.thresholds_value loaded, rfl⟩).bind ?_
  refine (Action.ends_orStop_iff.mpr ⟨rfl, rfl⟩).bind ?_
  exact (Action.ends_log_iff.mpr rfl).bind (Action.ends_pure_iff.mpr ⟨rfl, rfl⟩)

theorem tells_printJson (command : String) (summary payload : List (String × Json)) :
    Action.Tells (context.printJson command summary payload) :=
  Action.tells_event _

/-- A table can always be printed. -/
theorem tells_printTable (report : FileReport) : Action.Tells (printTable report) := by
  intro workspace
  obtain ⟨table, laid⟩ := TextTable.exists_functionTable report
  exact (Action.ends_orStop_iff.mpr ⟨laid, rfl⟩).bind (Action.ends_event_iff.mpr rfl)

theorem tells_remarkDiagnostics (report : FileReport) : Action.Tells (remarkDiagnostics report) :=
  Action.tells_each (fun _ => Action.tells_event _) _

theorem tells_announceReport (page : Option String) : Action.Tells (announceReport page) := by
  cases page with
  | none => exact Action.tells_pure
  | some path => exact Action.tells_event _

theorem result_keepGate (failOnError : Bool) (reports : List FileReport) (thresholds : Thresholds)
    (before after : Workspace) :
    (keepGate failOnError reports thresholds before).result =
      (keepGate failOnError reports thresholds after).result := by
  unfold keepGate Action.onlyIf
  cases failOnError with
  | false => rfl
  | true => cases checkGate reports thresholds <;> rfl

/-! ### Projects -/

namespace Project

theorem tells_printFile (report : FileReport) : Action.Tells (printFile report) := by
  refine Action.Tells.onlyIf ?_ _
  refine (Action.tells_event _).bind ?_
  refine (tells_printTable report).bind ?_
  exact (Action.tells_event _).bind (tells_remarkDiagnostics report)

theorem tells_printText (place : String) (found : Nat) (reports : List FileReport)
    (skipped : Nat) (page : Option String) :
    Action.Tells (printText place found reports skipped page) := by
  refine (Action.tells_event _).bind ?_
  refine (Action.tells_each tells_printFile _).bind ?_
  refine (Action.tells_event _).bind ?_
  exact ((Action.tells_event _).onlyIf _).bind (tells_announceReport page)

/-- The directory that a project is scored under. -/
def rootOf (surroundings : Surroundings) (request : ProjectRequest) : Location :=
  surroundings.cwd.resolve (.ofText request.directory)

/-- The run gets as far as scoring and can write its report: there are settings, files are found,
and where there is something to report, the report can be written. -/
structure Prepared (surroundings : Surroundings) (workspace : Workspace)
    (request : ProjectRequest) (values : Config.Values) (files : List String) : Prop where
  loaded : (Config.load Config.FileFault.message workspace
    (rootOf surroundings request)).value = .ok values
  discovered : (Discovery.discover workspace (rootOf surroundings request)
    surroundings.listing (Discovery.defaultExcludes ++ request.excludes)
    request.includeTests).value = .ok files
  reportable : request.html = true →
    (∃ file ∈ files, (workspace.fileUnder (rootOf surroundings request) file).isOk) →
    CanReport workspace surroundings.cwd (.ofText request.outputDir)

variable {surroundings : Surroundings} {request : ProjectRequest} {values : Config.Values}
  {files : List String}

theorem Prepared.known (prepared : Prepared surroundings workspace request values files) :
    ∀ file ∈ files, (rootOf surroundings request).HasLanguage file :=
  Discovery.hasLanguage_of_mem_discover prepared.discovered

theorem Prepared.exists_readable (prepared : Prepared surroundings workspace request values files)
    (more : !(workspace.reportsUnder (rootOf surroundings request)
      (some values.overlay) files).isEmpty) :
    ∃ file ∈ files,
      (workspace.fileUnder (rootOf surroundings request) file).isOk := by
  rw [Bool.not_eq_true', List.isEmpty_eq_false_iff_exists_mem] at more
  obtain ⟨report, member⟩ := more
  obtain ⟨analysis, among, -⟩ := List.mem_map.mp member
  obtain ⟨file, inside, scored⟩ := List.mem_filterMap.mp among
  refine ⟨file, inside, ?_⟩
  rw [← workspace.isSome_analysisUnder? _ (some values.overlay) (prepared.known file inside),
    scored]
  rfl

/-- Whatever is printed, the gate decides in the end. Without files there is nothing to decide. -/
theorem result_print (context : Context) (place : String) (failOnError : Bool)
    (thresholds : Thresholds) {reports : List FileReport} (skipped : List String)
    (page : Option String) (nothing : files = [] → reports = []) (before after : Workspace) :
    ((if context.json then do
        printJson context place thresholds reports skipped page
        keepGate failOnError reports thresholds
      else if files.isEmpty then
        Action.print s!"No JavaScript/TypeScript files found in {place}"
      else do
        printText place files.length reports skipped.length page
        keepGate failOnError reports thresholds : Action Unit) after).result =
      (keepGate failOnError reports thresholds before).result := by
  split
  · refine (Action.result_bind _ (tells_printJson _ _ _ after)).trans ?_
    exact result_keepGate _ _ _ _ _
  · split
    · rename_i empty
      rw [nothing (List.isEmpty_iff.mp empty)]
      cases failOnError <;> rfl
    · refine (Action.result_bind _ (tells_printText _ _ _ _ _ after)).trans ?_
      exact result_keepGate _ _ _ _ _

/-- A run over a project ends as the gate tells, whatever is printed and written before. -/
theorem result_run (prepared : Prepared surroundings workspace request values files)
    (json : Bool) :
    (run ⟨surroundings, json⟩ request workspace).result =
      (keepGate request.failOnError (workspace.reportsUnder
        (rootOf surroundings request) (some values.overlay) files) values.overlay
        workspace).result := by
  have scored := workspace.analyzeAll_value (rootOf surroundings request)
    (some values.overlay) prepared.known
  refine (Action.result_bind _ (Action.ends_workspace_iff.mpr ⟨rfl, rfl⟩)).trans ?_
  refine (Action.result_bind _ (ends_loadThresholds prepared.loaded)).trans ?_
  refine (Action.result_bind _ (Action.ends_logged_iff.mpr ⟨prepared.discovered, rfl⟩)).trans ?_
  refine (Action.result_bind _ (Action.ends_orStop_iff.mpr ⟨rfl, rfl⟩)).trans ?_
  refine (Action.result_bind _ (Action.ends_log_iff.mpr rfl)).trans ?_
  refine (Action.result_bind _ (Action.ends_logged_iff.mpr ⟨scored, rfl⟩)).trans ?_
  refine (Action.result_bind _ (Action.ends_orStop_iff.mpr ⟨rfl, rfl⟩)).trans ?_
  dsimp only
  have nothing : files = [] → workspace.reportsUnder (rootOf surroundings request)
      (some values.overlay) files = [] := by
    rintro rfl
    rfl
  split
  · rename_i wanted
    obtain ⟨html, more⟩ := (Bool.and_eq_true _ _).mp wanted
    obtain ⟨path, after, written⟩ := exists_ends_writeReport ⟨surroundings, json⟩
      (prepared.reportable html (prepared.exists_readable more)) _
    refine (Action.result_bind _ (Action.ends_map some written)).trans ?_
    exact result_print ⟨surroundings, json⟩ _ _ _ _ _ nothing _ _
  · refine (Action.result_bind _ (Action.ends_pure_iff.mpr ⟨rfl, rfl⟩)).trans ?_
    exact result_print ⟨surroundings, json⟩ _ _ _ _ _ nothing _ _

end Project

/-! ### Files -/

theorem ends_needFile (context : Context) {path : Path} {location : Location} {content : StoredFile}
    (found : workspace.find context.cwd path = .ok (location, .file content)) :
    (needFile context path).Ends workspace () workspace := by
  refine (Action.ends_workspace_iff.mpr ⟨rfl, rfl⟩).bind ?_
  rw [found]
  exact Action.tells_pure workspace

theorem ends_analyzeNamed (context : Context) {path : Path} {thresholds : Option Thresholds}
    {analysis : Analysis}
    (scored : (workspace.analyze context.cwd thresholds path
      (path.parts.getLast?.getD "")).value = .ok analysis) :
    (analyzeNamed context thresholds path).Ends workspace analysis workspace := by
  refine (Action.ends_workspace_iff.mpr ⟨rfl, rfl⟩).bind ?_
  exact (Action.ends_logged_iff.mpr ⟨scored, rfl⟩).bind (Action.ends_orStop_iff.mpr ⟨rfl, rfl⟩)

namespace File

theorem tells_printText (report : FileReport) (graphs : List String) (page : Option String) :
    Action.Tells (printText report graphs page) := by
  refine (Action.tells_event _).bind ?_
  refine (tells_printTable report).bind ?_
  refine (tells_remarkDiagnostics report).bind ?_
  refine (Action.tells_each (fun _ => Action.tells_event _) graphs).bind ?_
  exact tells_announceReport page

/-- The run gets as far as scoring and can write its report: the path leads to a file that can be
read and has a language, there are settings, no graphs are asked for, and the report can be
written. -/
structure Prepared (surroundings : Surroundings) (workspace : Workspace) (request : FileRequest)
    (values : Config.Values) (content : StoredFile) : Prop where
  found : ∃ location, workspace.find surroundings.cwd (.ofText request.path) =
    .ok (location, .file content)
  readable : content.readable
  supported : (Language.detect? (Path.ofText request.path).text).isSome
  loaded : (Config.load Config.FileFault.message workspace
    (surroundings.cwd.resolve (.ofText request.path)).parent).value = .ok values
  withoutGraphs : request.graph = false
  reportable : request.html = true →
    CanReport workspace surroundings.cwd (.ofText request.outputDir)

variable {surroundings : Surroundings} {request : FileRequest} {values : Config.Values}
  {content : StoredFile}

/-- Whatever is printed, the gate decides in the end. -/
theorem result_print (context : Context) (report : FileReport) (page : Option String)
    (failOnError : Bool) (thresholds : Thresholds) (before after : Workspace) :
    ((if context.json then do
        printJson context thresholds report [] page
        keepGate failOnError [report] thresholds
      else do
        printText report [] page
        keepGate failOnError [report] thresholds : Action Unit) after).result =
      (keepGate failOnError [report] thresholds before).result := by
  split
  · refine (Action.result_bind _ (tells_printJson _ _ _ after)).trans ?_
    exact result_keepGate _ _ _ _ _
  · refine (Action.result_bind _ (tells_printText _ _ _ after)).trans ?_
    exact result_keepGate _ _ _ _ _

/-- A run over a file ends as the gate tells, whatever is printed and written before. -/
theorem result_run (prepared : Prepared surroundings workspace request values content)
    (json : Bool) :
    ∃ source : Source, source.tree = content.tree ∧
      (run ⟨surroundings, json⟩ request workspace).result =
        (keepGate request.failOnError [(source.analyze (some values.overlay)).value.report]
          values.overlay workspace).result := by
  obtain ⟨location, found⟩ := prepared.found
  obtain ⟨language, known⟩ := Option.isSome_iff_exists.mp prepared.supported
  let source : Source := ⟨(Path.ofText request.path).parts.getLast?.getD "", language,
    Source.normalize content.bytes, content.tree⟩
  have scored : (workspace.analyze surroundings.cwd (some values.overlay)
      (.ofText request.path) source.path).value =
        .ok (source.analyze (some values.overlay)).value := by
    rw [workspace.analyze_value known, Workspace.readFile_of_find found,
      StoredFile.opened_of_readable prepared.readable]
    rfl
  refine ⟨source, rfl, ?_⟩
  refine (Action.result_bind _ (ends_needFile ⟨surroundings, json⟩ found)).trans ?_
  refine (Action.result_bind _ (ends_loadThresholds prepared.loaded)).trans ?_
  refine (Action.result_bind _ (ends_analyzeNamed ⟨surroundings, json⟩ scored)).trans ?_
  dsimp only
  rw [if_neg (by simp [prepared.withoutGraphs])]
  refine (Action.result_bind _ (Action.ends_pure_iff.mpr ⟨rfl, rfl⟩)).trans ?_
  split
  · rename_i html
    obtain ⟨path, after, written⟩ :=
      exists_ends_writeReport ⟨surroundings, json⟩ (prepared.reportable html) _
    refine (Action.result_bind _ (Action.ends_map some written)).trans ?_
    exact result_print ⟨surroundings, json⟩ _ _ _ _ _ _
  · refine (Action.result_bind _ (Action.ends_pure_iff.mpr ⟨rfl, rfl⟩)).trans ?_
    exact result_print ⟨surroundings, json⟩ _ _ _ _ _ _

end File

/-! ### Runs -/

/-- The gate is exact. A run over a project, or one over a file that draws no graphs, that gets as
far as scoring and can write its report fails the gate exactly if that was asked for, the error
threshold is enforced and some function reaches it, and it ends well otherwise. Files of a project
that cannot be read leave the scores of all others as they are. -/
theorem exitCode_gate (surroundings : Surroundings) (workspace : Workspace)
    (arguments : List String) (json verbose : Bool) :
    (∀ request values files, demand (workspace.findText surroundings.cwd) arguments =
        .work json verbose (.project request) →
      Project.Prepared surroundings workspace request values files →
      let root := Project.rootOf surroundings request
      Decides (run surroundings workspace arguments).exitCode
          (request.failOnError = true ∧ values.errorBound ≠ 0 ∧ ∃ file ∈ files, ∃ content,
            workspace.fileUnder root file = .ok content ∧
              content.tree.Reaches values.errorBound) ∧
        ∃ analyses, (workspace.analyzeAll root (some values.overlay) files).value =
            .ok ⟨analyses, files.filter fun file => !(workspace.fileUnder root file).isOk⟩ ∧
          (workspace.analyzeAll root (some values.overlay)
            (files.filter fun file => (workspace.fileUnder root file).isOk)).value =
              .ok ⟨analyses, []⟩) ∧
    ∀ request values content, demand (workspace.findText surroundings.cwd) arguments =
        .work json verbose (.file request) →
      File.Prepared surroundings workspace request values content →
      Decides (run surroundings workspace arguments).exitCode
        (request.failOnError = true ∧ values.errorBound ≠ 0 ∧
          content.tree.Reaches values.errorBound) := by
  constructor
  · intro request values files asked prepared root
    have known := prepared.known
    refine ⟨?_, _, workspace.analyzeAll_value root _ known,
      workspace.analyzeAll_filter root _ known⟩
    rw [run, asked]
    show Decides (exitCodeOf (Project.run ⟨surroundings, json⟩ request workspace).result) _
    rw [Project.result_run prepared json]
    refine (decides_keepGate _ _ _ _).congr (and_congr_right fun _ => ?_)
    exact workspace.exists_error_reportsUnder_iff root (Config.error_overlay values) known
  · intro request values content asked prepared
    rw [run, asked]
    show Decides (exitCodeOf (File.run ⟨surroundings, json⟩ request workspace).result) _
    obtain ⟨source, tree, result⟩ := File.result_run prepared json
    rw [result]
    refine (decides_keepGate _ _ _ _).congr (and_congr_right fun _ => ?_)
    rw [← tree, ← source.exists_error_iff (Config.error_overlay values)]
    simp

/-- A function with a branch. -/
def branchingFunction : Node :=
  .named .functionDeclaration none [.named .statementBlock (some .body)
    [.named .ifStatement none []]]

/-- A source with one function. -/
def branchingFile : StoredFile :=
  { bytes := [], tree := ⟨.named (.other "program") none [branchingFunction], false⟩ }

/-- A source, and a directory that is named like one, two levels below a bound that is set for
them. -/
def guardedProject : Workspace :=
  let settings := "\x7b\"cyclomaticError\": 2\x7d"
  ⟨.directory [
    (".onion-tears.json",
      .file { bytes := Text.Utf8.encode settings.toList, tree := Tree.empty }),
    ("srv", .directory [("work", .directory [
      ("a.js", .file branchingFile), ("b.js", .directory [])])])]⟩

theorem exitCode_gate_guardedProject :
    let work : Location := ⟨["srv", "work"]⟩
    let surroundings : Surroundings := ⟨work, .exited 0 "b.js\na.js\n", ⟨2024, 1, 1, 0, 0, 0⟩⟩
    let whole : ProjectRequest := ⟨".", [], false, "onion-tears", false, true⟩
    let single : FileRequest := ⟨"a.js", false, "onion-tears", false, true⟩
    Project.Prepared surroundings guardedProject whole [(.error, some 2)] ["a.js", "b.js"] ∧
      File.Prepared surroundings guardedProject single [(.error, some 2)] branchingFile ∧
      (run surroundings guardedProject ["project", "--fail-on-error", "--no-html"]).exitCode = 5 ∧
      (run surroundings guardedProject
        ["file", "a.js", "--fail-on-error", "--no-html"]).exitCode = 5 := by
  intro work surroundings whole single
  have raw : (Discovery.rawPaths guardedProject work surroundings.listing).value =
      ["b.js", "a.js"] := by decide +kernel
  have discovered := Discovery.discover_value guardedProject work surroundings.listing raw
    rfl (by decide) Discovery.defaultExcludes false
  have accepted : ["b.js", "a.js"].filter (Discovery.accepts guardedProject work
      Discovery.defaultExcludes false) = ["b.js", "a.js"] := by decide +kernel
  have ordered : ["a.js", "b.js"] = Discovery.sorted ["b.js", "a.js"] :=
    Discovery.eq_sorted_of_perm (by decide) (by decide)
  rw [accepted, ← ordered] at discovered
  have root : Project.rootOf surroundings whole = work := by decide +kernel
  have project : Project.Prepared surroundings guardedProject whole [(.error, some 2)]
      ["a.js", "b.js"] :=
    ⟨by decide +kernel, by rw [root]; exact discovered, fun html => absurd html (by decide)⟩
  have path : Path.ofText "a.js" = ⟨.here, ["a.js"]⟩ := by decide +kernel
  have found : guardedProject.find work ⟨.here, ["a.js"]⟩ =
      .ok (⟨["srv", "work", "a.js"]⟩, .file branchingFile) := by rfl
  have also : guardedProject.find .top ⟨.top, ["srv", "work", "a.js"]⟩ =
      .ok (⟨["srv", "work", "a.js"]⟩, .file branchingFile) := by rfl
  have file : File.Prepared surroundings guardedProject single [(.error, some 2)] branchingFile :=
    ⟨⟨_, path ▸ found⟩, rfl, by decide +kernel, by decide +kernel, rfl,
      fun html => absurd html (by decide)⟩
  have readable : guardedProject.fileUnder work "a.js" = .ok branchingFile := by
    rw [Workspace.fileUnder, path]
    exact Workspace.readFile_of_find also
  have reaches : branchingFile.tree.Reaches 2 := by
    have walked : branchingFunction ∈ branchingFile.tree.root.walk Node.isImport :=
      List.mem_cons_of_mem _ List.mem_cons_self
    obtain ⟨address, there, outside⟩ := Node.mem_walk_iff.mp walked
    exact ⟨address, branchingFunction, there, by decide, outside, by decide⟩
  have fromProject := (exitCode_gate surroundings guardedProject
    ["project", "--fail-on-error", "--no-html"] false false).1 whole _ _ rfl project
  have fromFile := (exitCode_gate surroundings guardedProject
    ["file", "a.js", "--fail-on-error", "--no-html"] false false).2 single _ _ rfl file
  exact ⟨project, file,
    fromProject.1.1.mpr ⟨rfl, by decide, "a.js", by decide, branchingFile, root ▸ readable, reaches⟩,
    fromFile.1.mpr ⟨rfl, by decide, reaches⟩⟩

end Command

end Tangle
