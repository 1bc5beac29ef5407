/-
This file says how often a file is found. What is found is sorted, and nothing is
left out or merged on the way: a path stands in the result as often as a listing
spells it, in whatever way, and each time it is scored and counted. So the result is
strictly increasing exactly if no path that is kept is spelled twice. A walk finds no
file twice, as no directory has two entries of one name; only a backslash in a name can
make two paths look the same. Version control gives no such promise, because it lists a
file that is not merged once for each of its versions.
-/

import Tangle.Proofs.Batch
import Tangle.Report

namespace Tangle

/-! ### Walks -/

namespace Entry

/-- A name that stays as it is when it becomes part of a path. -/
def IsPlain (name : String) : Prop :=
  IsName name ∧ '\\' ∉ name.toList

instance (name : String) : Decidable (IsPlain name) :=
  inferInstanceAs (Decidable (_ ∧ _))

mutual

/-- Each directory has every name once, and all names are plain. -/
def Tidy : Entry → Prop
  | file _ => True
  | directory entries => (entries.map (·.1)).Nodup ∧ AllTidy entries

def AllTidy : List (String × Entry) → Prop
  | [] => True
  | (name, entry) :: rest => IsPlain name ∧ Tidy entry ∧ AllTidy rest

end

variable {cut : String → Bool}

mutual

theorem plain_of_mem_filesFrom (above : List String) (entry : Entry) (tidy : entry.Tidy)
    {found : List String × StoredFile} (member : found ∈ entry.filesFrom cut above) :
    ∃ below, found.1 = above.reverse ++ below ∧ ∀ name ∈ below, IsPlain name := by
  cases entry with
  | file content =>
    rw [filesFrom, List.mem_singleton] at member
    exact ⟨[], by rw [member, List.append_nil], by simp⟩
  | directory entries =>
    rw [filesFrom] at member
    rw [Tidy] at tidy
    obtain ⟨name, _, below, same, plain⟩ := plain_of_mem_filesFromAll above entries tidy.2 member
    exact ⟨name :: below, same, plain⟩

/-- What is below a directory has the name of one of its entries next on the way. -/
theorem plain_of_mem_filesFromAll (above : List String) (entries : List (String × Entry))
    (tidy : AllTidy entries) {found : List String × StoredFile}
    (member : found ∈ filesFromAll cut above entries) :
    ∃ name ∈ entries.map (·.1), ∃ below, found.1 = above.reverse ++ name :: below ∧
      ∀ part ∈ name :: below, IsPlain part := by
  match entries with
  | [] => cases member
  | (name, .file content) :: rest =>
    rw [AllTidy] at tidy
    rw [filesFromAll, List.mem_cons] at member
    rcases member with rfl | member
    · exact ⟨name, List.mem_cons_self, [], List.reverse_cons, by simp [tidy.1]⟩
    · obtain ⟨other, inside, others⟩ := plain_of_mem_filesFromAll above rest tidy.2.2 member
      exact ⟨other, List.mem_cons_of_mem _ inside, others⟩
  | (name, .directory inner) :: rest =>
    rw [AllTidy] at tidy
    rw [filesFromAll, List.mem_append] at member
    rcases member with member | member
    · split at member
      next => cases member
      next =>
        obtain ⟨below, same, plain⟩ :=
          plain_of_mem_filesFrom (name :: above) (.directory inner) tidy.2.1 member
        refine ⟨name, List.mem_cons_self, below, by simpa using same, ?_⟩
        exact List.forall_mem_cons.mpr ⟨tidy.1, plain⟩
    · obtain ⟨other, inside, others⟩ := plain_of_mem_filesFromAll above rest tidy.2.2 member
      exact ⟨other, List.mem_cons_of_mem _ inside, others⟩

end

mutual

/-- No two files are reached by the same names. -/
theorem nodup_filesFrom (above : List String) (entry : Entry) (tidy : entry.Tidy) :
    ((entry.filesFrom cut above).map (·.1)).Nodup := by
  cases entry with
  | file content =>
    rw [filesFrom]
    exact List.nodup_singleton _
  | directory entries =>
    rw [Tidy] at tidy
    rw [filesFrom]
    exact nodup_filesFromAll above entries tidy.1 tidy.2

theorem nodup_filesFromAll (above : List String) (entries : List (String × Entry))
    (unique : (entries.map (·.1)).Nodup) (tidy : AllTidy entries) :
    ((filesFromAll cut above entries).map (·.1)).Nodup := by
  match entries with
  | [] =>
    rw [filesFromAll]
    exact List.nodup_nil
  | (name, .file content) :: rest =>
    rw [AllTidy] at tidy
    obtain ⟨apart, others⟩ := List.nodup_cons.mp unique
    rw [filesFromAll, List.map_cons, List.nodup_cons]
    refine ⟨fun again => ?_, nodup_filesFromAll above rest others tidy.2.2⟩
    obtain ⟨found, member, same⟩ := List.mem_map.mp again
    obtain ⟨other, inside, below, way, -⟩ := plain_of_mem_filesFromAll above rest tidy.2.2 member
    rw [way, List.reverse_cons, List.append_cancel_left_eq] at same
    exact apart ((List.cons.inj same).1 ▸ inside)
  | (name, .directory inner) :: rest =>
    rw [AllTidy] at tidy
    obtain ⟨apart, others⟩ := List.nodup_cons.mp unique
    rw [filesFromAll, List.map_append]
    refine List.Nodup.append ?_ (nodup_filesFromAll above rest others tidy.2.2) ?_
    · split
      next => exact List.nodup_nil
      next => exact nodup_filesFrom (name :: above) (.directory inner) tidy.2.1
    · intro way first second
      obtain ⟨below, same⟩ : ∃ below, way = above.reverse ++ name :: below := by
        split at first
        next => cases first
        next =>
          obtain ⟨found, member, rfl⟩ := List.mem_map.mp first
          obtain ⟨below, same, -⟩ :=
            plain_of_mem_filesFrom (name :: above) (.directory inner) tidy.2.1 member
          exact ⟨below, by simpa using same⟩
      obtain ⟨found, member, rfl⟩ := List.mem_map.mp second
      obtain ⟨other, inside, behind, way, -⟩ :=
        plain_of_mem_filesFromAll above rest tidy.2.2 member
      rw [way, List.append_cancel_left_eq] at same
      exact apart ((List.cons.inj same).1 ▸ inside)

end

end Entry

namespace Discovery

theorem backslash_notMem_intercalate {names : List String}
    (plain : ∀ name ∈ names, Entry.IsPlain name) : '\\' ∉ ("/".intercalate names).toList := by
  rw [String.toList_intercalate]
  intro member
  rcases Text.mem_intercalate member with slash | ⟨letters, among, backslash⟩
  · exact absurd slash (by decide)
  · obtain ⟨name, inside, rfl⟩ := List.mem_map.mp among
    exact (plain name inside).2 backslash

/-- A walk finds every file once, and no path changes when its slashes are turned. -/
theorem nodup_walk {entries : List (String × Entry)} (tidy : (Entry.directory entries).Tidy) :
    ((walk (.directory entries)).map Location.forwardSlashes).Nodup := by
  rw [Entry.Tidy] at tidy
  have shape (found : List String × StoredFile)
      (member : found ∈ Entry.filesFromAll isPruned [] entries) :
      found.1 ≠ [] ∧ ∀ name ∈ found.1, Entry.IsPlain name := by
    obtain ⟨name, -, below, same, plain⟩ :=
      Entry.plain_of_mem_filesFromAll [] entries tidy.2 member
    rw [List.reverse_nil, List.nil_append] at same
    exact same ▸ ⟨List.cons_ne_nil name below, plain⟩
  have kept : (walk (.directory entries)).map Location.forwardSlashes =
      ((Entry.filesFromAll isPruned [] entries).map (·.1)).map "/".intercalate := by
    rw [walk, List.map_map, List.map_map]
    refine List.map_congr_left fun found member => ?_
    exact forwardSlashes_eq_self (backslash_notMem_intercalate (shape found member).2)
  rw [kept]
  refine List.Nodup.map_on ?_ (Entry.nodup_filesFromAll [] entries tidy.1 tidy.2)
  intro names inside others among same
  obtain ⟨found, member, rfl⟩ := List.mem_map.mp inside
  obtain ⟨other, further, rfl⟩ := List.mem_map.mp among
  obtain ⟨nonempty, plain⟩ := shape found member
  obtain ⟨nonempty', plain'⟩ := shape other further
  have pieces := pieces_intercalate nonempty fun name part => (plain name part).1
  rw [same, pieces_intercalate nonempty' fun name part => (plain' name part).1] at pieces
  exact (List.map_injective_iff.mpr (fun _ _ => String.toList_inj.mp) pieces).symm

/-! ### Sorted without repetitions -/

theorem pairwise_lt_iff_nodup {paths : List String} (ordered : paths.Pairwise (· ≤ ·)) :
    paths.Pairwise (· < ·) ↔ paths.Nodup := by
  constructor
  · intro increasing
    refine increasing.imp fun less => ?_
    rintro rfl
    exact String.lt_irrefl _ less
  · intro unique
    refine (ordered.and unique).imp fun both => ?_
    exact String.not_le.mp fun back => both.2 (String.le_antisymm both.1 back)

section

variable {workspace : Workspace} {root : Location} {listing : Listing} {excludes : List String}
  {includeTests : Bool} {files : List String}

theorem count_of_discover
    (found : (discover workspace root listing excludes includeTests).value = .ok files)
    (path : String) :
    files.count path =
      if accepts workspace root excludes includeTests path then
        (rawPaths workspace root listing).value.count path else 0 := by
  rw [eq_sorted_of_discover found, (sorted_perm _).count_eq]
  split
  next accepted => exact List.count_filter accepted
  next refused =>
    exact List.count_eq_zero_of_not_mem fun member => refused (List.mem_filter.mp member).2

end

end Discovery

/-! ### Scores -/

namespace Workspace

variable (workspace : Workspace) (root : Location) (thresholds : Option Thresholds)

/-- The scores of a file go by the path that it was found under. -/
theorem file_of_analysisUnder? {file : String} {analysis : Analysis}
    (known : root.HasLanguage file)
    (scored : workspace.analysisUnder? root thresholds file = some analysis) :
    analysis.report.file = file := by
  obtain ⟨language, detected⟩ := Option.isSome_iff_exists.mp known
  rw [analysisUnder?, workspace.analyze_value detected] at scored
  cases read : workspace.readFile .top (root.path.join (.ofText file)) with
  | error error =>
    rw [read] at scored
    cases scored
  | ok content =>
    rw [read] at scored
    cases scored
    rfl

/-- There is one report for each file that can be read. -/
theorem map_file_reportsUnder {files : List String}
    (known : ∀ file ∈ files, root.HasLanguage file) :
    (workspace.reportsUnder root thresholds files).map (·.file) =
      files.filter fun file => (workspace.fileUnder root file).isOk := by
  induction files with
  | nil => rfl
  | cons file rest inductionHypothesis =>
    have others := inductionHypothesis fun file member => known file (List.mem_cons_of_mem _ member)
    have own := workspace.isSome_analysisUnder? root thresholds (known file List.mem_cons_self)
    rw [reportsUnder] at others ⊢
    rw [List.filter_cons, List.filterMap_cons, ← own]
    cases scored : workspace.analysisUnder? root thresholds file with
    | none => exact others
    | some analysis =>
      show analysis.report.file :: _ = _
      rw [others,
        workspace.file_of_analysisUnder? root thresholds (known file List.mem_cons_self) scored]
      rfl

end Workspace

namespace Discovery

/-- A path is found as often as it is spelled, and found again means scored again. The files are
sorted; they are strictly increasing exactly if every path that is accepted is spelled once at most.
That is so for all walks through tidy directories. Every file that is found has a report of its
own, or is named among those that were skipped, each time that it is found. -/
theorem discovered_as_often_as_spelled {workspace : Workspace} {root : Location}
    {listing : Listing} {excludes : List String} {includeTests : Bool} {files : List String}
    (found : (discover workspace root listing excludes includeTests).value = .ok files) :
    let spelled := (rawPaths workspace root listing).value
    let accepted := accepts workspace root excludes includeTests
    files.Pairwise (· ≤ ·) ∧
    (∀ path, files.count path = if accepted path then spelled.count path else 0) ∧
    (files.Pairwise (· < ·) ↔ ∀ path, accepted path = true → spelled.count path ≤ 1) ∧
    (∀ entries, listing.paths? = none → workspace.entryAt? root = some (.directory entries) →
      (Entry.directory entries).Tidy → files.Pairwise (· < ·)) ∧
    (∀ thresholds, ∃ batch,
      (workspace.analyzeAll root thresholds files).value = .ok batch ∧
      (summarize batch.reports).files + batch.skipped.length = files.length ∧
      ∀ path, (batch.reports.map (·.file)).count path + batch.skipped.count path =
        files.count path) := by
  intro spelled accepted
  have same := eq_sorted_of_discover found
  have ordered : files.Pairwise (· ≤ ·) := same ▸ pairwise_sorted _
  have often := count_of_discover found
  have strict : files.Pairwise (· < ·) ↔ ∀ path, accepted path = true → spelled.count path ≤ 1 := by
    rw [pairwise_lt_iff_nodup ordered, List.nodup_iff_count_le_one]
    refine forall_congr' fun path => ?_
    rw [often]
    split
    next kept => exact ⟨fun once _ => once, fun once => once kept⟩
    next refused => exact iff_of_true (Nat.zero_le 1) fun kept => absurd kept refused
  refine ⟨ordered, often, strict, ?_, ?_⟩
  · intro entries fallback stands tidy
    refine strict.mpr fun path _ => ?_
    have walked : spelled = (walk (.directory entries)).map Location.forwardSlashes :=
      rawPaths_of_paths?_eq_none stands fallback
    rw [walked]
    exact List.nodup_iff_count_le_one.mp (nodup_walk tidy) path
  · intro thresholds
    have known := hasLanguage_of_mem_discover found
    have reported := workspace.map_file_reportsUnder root thresholds known
    -- Each file is either among those that can be read or among the others.
    have split : (files.filter (fun file => (workspace.fileUnder root file).isOk) ++
        files.filter fun file => !(workspace.fileUnder root file).isOk).Perm files :=
      List.filter_append_perm _ files
    refine ⟨_, workspace.analyzeAll_value root thresholds known, ?_, fun path => ?_⟩
    · rw [← split.length_eq, List.length_append, ← reported, List.length_map]
      rfl
    · rw [← split.count_eq, List.count_append, ← reported]
      rfl

/-- One source that version control lists three times, as it does while a file is not merged. -/
theorem discovered_as_often_as_spelled_unmergedFile :
    let content : StoredFile := { bytes := [], tree := Tree.empty }
    let workspace : Workspace := ⟨.directory [("a.js", .file content)]⟩
    let listing := Listing.exited 0 "a.js\na.js\na.js\n"
    (discover workspace .top listing [] false).value = .ok ["a.js", "a.js", "a.js"] ∧
      ¬["a.js", "a.js", "a.js"].Pairwise (· < ·) ∧
      ∃ batch, (workspace.analyzeAll .top none ["a.js", "a.js", "a.js"]).value = .ok batch ∧
        (summarize batch.reports).files + batch.skipped.length = 3 ∧
        (batch.reports.map (·.file)).count "a.js" + batch.skipped.count "a.js" = 3 := by
  intro content workspace listing
  have raw : (rawPaths workspace .top listing).value = ["a.js", "a.js", "a.js"] := by
    decide +kernel
  have found := discover_value workspace .top listing raw rfl (by decide) [] false
  have accepted : ["a.js", "a.js", "a.js"].filter (accepts workspace .top [] false) =
      ["a.js", "a.js", "a.js"] := by decide +kernel
  rw [accepted, ← eq_sorted_of_perm (.refl _) (by decide)] at found
  obtain ⟨-, -, strict, -, reported⟩ := discovered_as_often_as_spelled found
  obtain ⟨batch, scored, total, each⟩ := reported none
  refine ⟨found, fun increasing => ?_, batch, scored, total, each "a.js"⟩
  have once := strict.mp increasing "a.js" (by decide +kernel)
  rw [raw] at once
  exact absurd once (by decide)

end Discovery

end Tangle
