/-
This file follows what a workspace holds through changes. Files are written and
removed, and directories made, in a directory that is there, under a name that no
directory has. Each of these edits the entries of that one directory and keeps all
directories where they are, so every path to a directory leads where it led before,
and a series of changes to one directory is a series of edits of its entries.
-/

import Tangle.Proofs.Callers
import Tangle.Workspace.Change

namespace Tangle

namespace Ordered

variable {κ α : Type} [DecidableEq κ]

theorem mem_of_get? {entries : List (κ × α)} {key : κ} {value : α}
    (found : get? entries key = some value) : (key, value) ∈ entries := by
  obtain ⟨entry, first, rfl⟩ := Option.map_eq_some_iff.mp found
  have same : entry.1 = key := by simpa using List.find?_some first
  exact same ▸ List.mem_of_find?_eq_some first

theorem get?_filter_ne (entries : List (κ × α)) (gone key : κ) :
    get? (entries.filter (·.1 ≠ gone)) key = if key = gone then none else get? entries key := by
  unfold get?
  rw [List.find?_filter]
  by_cases same : key = gone
  · subst same
    rw [if_pos rfl, Option.map_eq_none_iff, List.find?_eq_none]
    intro entry _
    simp
  · rw [if_neg same]
    congr 2
    funext entry
    by_cases meant : entry.1 = key
    · simp [meant, same]
    · simp [meant]

end Ordered

/-! ### Entries -/

namespace Entry

/-- Whether the given names lead to a directory. -/
def LeadsTo (entry : Entry) (names : List String) : Prop :=
  ∃ entries, entry.at? names = some (.directory entries)

/-- Changes the entries of the directory at the end of the given names, if there is one. -/
def edit (change : List (String × Entry) → List (String × Entry)) :
    List String → Entry → Entry
  | _, file content => file content
  | [], directory entries => directory (change entries)
  | name :: rest, directory entries =>
    match Ordered.get? entries name with
    | none => directory entries
    | some below => directory (Ordered.put entries name (edit change rest below))

theorem at?_append (entry : Entry) (names rest : List String) :
    entry.at? (names ++ rest) = (entry.at? names).bind (·.at? rest) := by
  induction names generalizing entry with
  | nil => rfl
  | cons name names inductionHypothesis =>
    rw [List.cons_append, at?, at?]
    cases entry.child? name with
    | none => rfl
    | some below => exact inductionHypothesis below

theorem at?_singleton (entries : List (String × Entry)) (name : String) :
    (directory entries).at? [name] = Ordered.get? entries name := by
  rw [at?, child?]
  cases Ordered.get? entries name <;> rfl

/-- Only directories have something below them. -/
theorem exists_of_at?_cons {entry below : Entry} {name : String} {names : List String}
    (found : entry.at? (name :: names) = some below) :
    ∃ entries inner, entry = .directory entries ∧ Ordered.get? entries name = some inner ∧
      inner.at? names = some below := by
  obtain ⟨inner, child, rest⟩ := Option.bind_eq_some_iff.mp found
  cases entry with
  | file content => cases child
  | directory entries => exact ⟨entries, inner, rfl, child, rest⟩

theorem LeadsTo.exists_eq {entry : Entry} {names : List String} (leads : entry.LeadsTo names) :
    ∃ entries, entry = .directory entries := by
  obtain ⟨entries, found⟩ := leads
  cases names with
  | nil => exact ⟨entries, Option.some.inj found⟩
  | cons name names =>
    obtain ⟨entries, -, same, -⟩ := exists_of_at?_cons found
    exact ⟨entries, same⟩

section

variable {entry : Entry} {way : List String} {entries : List (String × Entry)}

/-- Putting an entry into a directory is an edit of it. -/
theorem insert_eq_edit (stands : entry.at? way = some (.directory entries)) (new : Entry)
    (name : String) :
    entry.insert new (way ++ [name]) = entry.edit (Ordered.put · name new) way := by
  induction way generalizing entry with
  | nil =>
    cases Option.some.inj stands
    rfl
  | cons first rest inductionHypothesis =>
    obtain ⟨outer, inner, rfl, child, below⟩ := exists_of_at?_cons stands
    rw [List.cons_append, insert, edit, child]
    show directory _ = directory _
    rw [Option.getD_some, inductionHypothesis below]

/-- Taking an entry out of a directory is an edit of it. -/
theorem remove_eq_edit (stands : entry.at? way = some (.directory entries)) (name : String) :
    entry.remove (way ++ [name]) = entry.edit (·.filter (·.1 ≠ name)) way := by
  induction way generalizing entry with
  | nil =>
    cases Option.some.inj stands
    rfl
  | cons first rest inductionHypothesis =>
    obtain ⟨outer, inner, rfl, child, below⟩ := exists_of_at?_cons stands
    rw [List.cons_append, remove, edit, if_neg (by simp), child]
    show directory _ = directory _
    rw [inductionHypothesis below]

variable {change : List (String × Entry) → List (String × Entry)}

/-- An edit is seen in the directory that it is made in. -/
theorem at?_edit (stands : entry.at? way = some (.directory entries)) :
    (entry.edit change way).at? way = some (.directory (change entries)) := by
  induction way generalizing entry with
  | nil =>
    cases Option.some.inj stands
    rfl
  | cons first rest inductionHypothesis =>
    obtain ⟨outer, inner, rfl, child, below⟩ := exists_of_at?_cons stands
    rw [edit, child]
    show (Option.bind (Ordered.get? (Ordered.put _ _ _) _) _) = _
    rw [Ordered.get?_put, if_pos rfl]
    exact inductionHypothesis below

/-- An edit that keeps the directories among the entries keeps all directories. -/
theorem LeadsTo.edit (stands : entry.at? way = some (.directory entries))
    (keeps : ∀ name inner, Ordered.get? entries name = some (.directory inner) →
      Ordered.get? (change entries) name = some (.directory inner))
    {names : List String} (leads : entry.LeadsTo names) :
    (entry.edit change way).LeadsTo names := by
  induction way generalizing entry names with
  | nil =>
    cases Option.some.inj stands
    obtain ⟨others, found⟩ := leads
    cases names with
    | nil => exact ⟨_, rfl⟩
    | cons first rest =>
      obtain ⟨_, inner, same, child, below⟩ := exists_of_at?_cons found
      cases same
      obtain ⟨_, rfl⟩ := LeadsTo.exists_eq ⟨others, below⟩
      refine ⟨others, ?_⟩
      show Option.bind (Ordered.get? (change entries) first) _ = _
      rw [keeps first _ child]
      exact below
  | cons first rest inductionHypothesis =>
    obtain ⟨outer, inner, rfl, child, below⟩ := exists_of_at?_cons stands
    obtain ⟨others, found⟩ := leads
    rw [Entry.edit, child]
    cases names with
    | nil => exact ⟨_, rfl⟩
    | cons next names =>
      obtain ⟨_, other, same, following, further⟩ := exists_of_at?_cons found
      cases same
      show ∃ entries, Option.bind (Ordered.get? (Ordered.put _ _ _) next) _ = _
      rw [Ordered.get?_put]
      by_cases along : first = next
      · have same : inner = other := Option.some.inj (child.symm.trans (along ▸ following))
        rw [if_pos along]
        exact inductionHypothesis below ⟨others, same ▸ further⟩
      · rw [if_neg along, following]
        exact ⟨others, further⟩

end

end Entry

namespace StoredFile

variable {content : StoredFile}

theorem opened_of_readable (allowed : content.readable) : content.opened = .ok content :=
  if_pos allowed

theorem opened_of_refused (refused : ¬content.readable) :
    content.opened = .error .permissionDenied :=
  if_neg refused

end StoredFile

/-! ### Places -/

namespace Workspace

variable (workspace : Workspace)

/-- Whether there is a directory at a place. -/
def HasDirectory (location : Location) : Prop :=
  ∃ entries, workspace.entryAt? location = some (.directory entries)

variable {workspace}

theorem step_eq {location : Location} {part : String} (named : part ≠ "..") :
    location.step part = ⟨location.parts ++ [part]⟩ := by
  rw [Location.step, if_neg (by simpa using named)]

/-! ### Following paths -/

theorem follow_nil_eq_ok_iff {location target : Location} {entry : Entry} :
    workspace.follow location [] = .ok (target, entry) ↔
      location = target ∧ workspace.entryAt? location = some entry := by
  rw [follow]
  cases workspace.entryAt? location <;> simp

theorem follow_cons_eq_ok_iff {location : Location} {part : String} {rest : List String}
    {found : Location × Entry} :
    workspace.follow location (part :: rest) = .ok found ↔
      workspace.HasDirectory location ∧ part.utf8ByteSize ≤ longestName ∧
        workspace.follow (location.step part) rest = .ok found := by
  rw [follow, HasDirectory]
  cases workspace.entryAt? location with
  | none => simp
  | some entry =>
    cases entry with
    | file content => simp
    | directory entries =>
      by_cases long : longestName < part.utf8ByteSize
      · simp [long, Nat.not_le.mpr long]
      · simp [long, Nat.not_lt.mp long]

theorem entryAt?_of_follow {location target : Location} {parts : List String} {entry : Entry}
    (found : workspace.follow location parts = .ok (target, entry)) :
    workspace.entryAt? target = some entry := by
  induction parts generalizing location with
  | nil =>
    obtain ⟨rfl, held⟩ := follow_nil_eq_ok_iff.mp found
    exact held
  | cons part rest inductionHypothesis =>
    exact inductionHypothesis (follow_cons_eq_ok_iff.mp found).2.2

theorem follow_append_eq_ok_iff {location : Location} {parts rest : List String}
    {found : Location × Entry} :
    workspace.follow location (parts ++ rest) = .ok found ↔
      ∃ middle entry, workspace.follow location parts = .ok (middle, entry) ∧
        workspace.follow middle rest = .ok found := by
  induction parts generalizing location with
  | nil =>
    rw [List.nil_append]
    constructor
    · intro onward
      -- Whatever is followed from a place, something is there.
      have there : ∃ entry, workspace.entryAt? location = some entry := by
        cases rest with
        | nil => exact ⟨found.2, (follow_nil_eq_ok_iff.mp onward).2⟩
        | cons part rest =>
          obtain ⟨⟨entries, held⟩, -⟩ := follow_cons_eq_ok_iff.mp onward
          exact ⟨_, held⟩
      obtain ⟨entry, held⟩ := there
      exact ⟨location, entry, follow_nil_eq_ok_iff.mpr ⟨rfl, held⟩, onward⟩
    · rintro ⟨middle, entry, first, onward⟩
      obtain ⟨rfl, -⟩ := follow_nil_eq_ok_iff.mp first
      exact onward
  | cons part parts inductionHypothesis =>
    rw [List.cons_append, follow_cons_eq_ok_iff, inductionHypothesis]
    simp only [follow_cons_eq_ok_iff, and_assoc, exists_and_left]

theorem find_eq_ok_iff {cwd : Location} {path : Path} {found : Location × Entry} :
    workspace.find cwd path = .ok found ↔
      path.text.utf8ByteSize ≤ longestPath ∧
        workspace.follow (cwd.start path.anchor) path.parts = .ok found := by
  rw [find]
  by_cases long : longestPath < path.text.utf8ByteSize
  · simp [long, Nat.not_le.mpr long]
  · simp [long, Nat.not_lt.mp long]

theorem readFile_of_find {cwd location : Location} {path : Path} {content : StoredFile}
    (found : workspace.find cwd path = .ok (location, .file content)) :
    workspace.readFile cwd path = content.opened := by
  rw [readFile, found]

/-! ### Edits -/

/-- A change takes no directory away. -/
def KeepsDirectories (before after : Workspace) : Prop :=
  ∀ location, before.HasDirectory location → after.HasDirectory location

namespace KeepsDirectories

variable {before after : Workspace}

/-- Where directories are kept, paths to them lead to the same places. -/
theorem follow (keeps : KeepsDirectories before after) {location target : Location}
    {parts : List String} {entries : List (String × Entry)}
    (found : before.follow location parts = .ok (target, .directory entries)) :
    ∃ others, after.follow location parts = .ok (target, .directory others) := by
  induction parts generalizing location with
  | nil =>
    obtain ⟨rfl, held⟩ := follow_nil_eq_ok_iff.mp found
    obtain ⟨others, still⟩ := keeps location ⟨entries, held⟩
    exact ⟨others, follow_nil_eq_ok_iff.mpr ⟨rfl, still⟩⟩
  | cons part rest inductionHypothesis =>
    obtain ⟨there, short, onward⟩ := follow_cons_eq_ok_iff.mp found
    obtain ⟨others, still⟩ := inductionHypothesis onward
    exact ⟨others, follow_cons_eq_ok_iff.mpr ⟨keeps location there, short, still⟩⟩

theorem find (keeps : KeepsDirectories before after) {cwd target : Location} {path : Path}
    {entries others : List (String × Entry)}
    (found : before.find cwd path = .ok (target, .directory entries))
    (held : after.entryAt? target = some (.directory others)) :
    after.find cwd path = .ok (target, .directory others) := by
  obtain ⟨short, followed⟩ := find_eq_ok_iff.mp found
  obtain ⟨still, onward⟩ := keeps.follow followed
  have same := Option.some.inj ((entryAt?_of_follow onward).symm.trans held)
  rw [same] at onward
  exact find_eq_ok_iff.mpr ⟨short, onward⟩

end KeepsDirectories

/-- The workspace with the entries of the directory at a place changed. -/
def edit (workspace : Workspace) (change : List (String × Entry) → List (String × Entry))
    (location : Location) : Workspace :=
  ⟨workspace.top.edit change location.parts⟩

section

variable {location : Location} {entries : List (String × Entry)}
  (stands : workspace.entryAt? location = some (.directory entries))
include stands

theorem put_eq_edit (new : Entry) (name : String) :
    workspace.put ⟨location.parts ++ [name]⟩ new =
      workspace.edit (Ordered.put · name new) location :=
  congrArg mk (Entry.insert_eq_edit stands new name)

theorem take_eq_edit (name : String) :
    workspace.take ⟨location.parts ++ [name]⟩ =
      workspace.edit (·.filter (·.1 ≠ name)) location :=
  congrArg mk (Entry.remove_eq_edit stands name)

/-- What is at a place one step below a directory. -/
theorem entryAt?_below (name : String) :
    workspace.entryAt? ⟨location.parts ++ [name]⟩ = Ordered.get? entries name := by
  rw [entryAt?] at stands ⊢
  rw [Entry.at?_append, stands, Option.bind_some, Entry.at?_singleton]

variable {change : List (String × Entry) → List (String × Entry)}

theorem entryAt?_edit :
    (workspace.edit change location).entryAt? location = some (.directory (change entries)) :=
  Entry.at?_edit stands

theorem keepsDirectories_edit
    (keeps : ∀ name inner, Ordered.get? entries name = some (.directory inner) →
      Ordered.get? (change entries) name = some (.directory inner)) :
    KeepsDirectories workspace (workspace.edit change location) :=
  fun _ there => Entry.LeadsTo.edit stands keeps there

end

section

variable {cwd location : Location} {path : Path} {entries : List (String × Entry)}
  (found : workspace.find cwd path = .ok (location, .directory entries))
include found

theorem entryAt?_of_find : workspace.entryAt? location = some (.directory entries) :=
  entryAt?_of_follow (find_eq_ok_iff.mp found).2

/-- An edit of the directory that a path leads to is seen at the end of the path. -/
theorem find_edit {change : List (String × Entry) → List (String × Entry)}
    (keeps : ∀ name inner, Ordered.get? entries name = some (.directory inner) →
      Ordered.get? (change entries) name = some (.directory inner)) :
    (workspace.edit change location).find cwd path =
      .ok (location, .directory (change entries)) := by
  have stands := entryAt?_of_find found
  exact (keepsDirectories_edit stands keeps).find found (entryAt?_edit stands)

end

/-! ### Writing and removing files -/

/-- What a file of the given text is stored as, where there was none before. -/
def fileOf (text : String) : Entry :=
  .file (overwritten none text)

/-- A file is only written into a directory, and never in the place of one. -/
theorem exists_of_writeFile {cwd : Location} {directory : Path} {name text : String}
    (done : (workspace.writeFile cwd directory name text).result = .ok ()) :
    ∃ location entries, workspace.find cwd directory = .ok (location, .directory entries) ∧
      (∀ inner, workspace.entryAt? (location.step name) ≠ some (.directory inner)) ∧
      (workspace.writeFile cwd directory name text).workspace =
        workspace.put (location.step name)
          (.file (overwritten (workspace.entryAt? (location.step name)) text)) := by
  unfold writeFile at done ⊢
  dsimp only at done ⊢
  split at done
  · cases done
  · rename_i short
    rw [if_neg short]
    split at done
    · cases done
    · cases done
    · rename_i location entries found
      rw [found]
      split at done
      · cases done
      · rename_i brief
        rw [if_neg brief]
        split at done
        · cases done
        · rename_i free
          exact ⟨location, entries, rfl, free, rfl⟩

/-- Only files are removed. -/
theorem isDirectory_of_removeFiles {location : Location} {items : List (String × Entry)}
    (done : (workspace.removeFiles location items).result = .ok ()) :
    ∀ item ∈ items, item.2.isDirectory = false := by
  induction items generalizing workspace with
  | nil => exact fun item mem => absurd mem List.not_mem_nil
  | cons item rest inductionHypothesis =>
    obtain ⟨name, entry⟩ := item
    cases entry with
    | directory inner => cases done
    | file content => exact List.forall_mem_cons.mpr ⟨rfl, inductionHypothesis done⟩

section

variable {cwd location : Location} {path : Path} {entries : List (String × Entry)}
  (found : workspace.find cwd path = .ok (location, .directory entries))
include found

/-- What is written is seen in the directory that it is written to. -/
theorem find_writeFile {name text : String} (named : name ≠ "..")
    (done : (workspace.writeFile cwd path name text).result = .ok ()) :
    (workspace.writeFile cwd path name text).workspace.find cwd path =
      .ok (location, .directory (Ordered.put entries name
        (.file (overwritten (Ordered.get? entries name) text)))) := by
  obtain ⟨_, _, same, free, written⟩ := exists_of_writeFile done
  cases found.symm.trans same
  have held := entryAt?_of_find found
  rw [step_eq named, entryAt?_below held] at free written
  rw [written, put_eq_edit held]
  refine find_edit found ?_
  intro kept inner there
  have apart : name ≠ kept := by
    rintro rfl
    exact free inner there
  rw [Ordered.get?_put, if_neg apart]
  exact there

/-- Removing files takes the given names out of their directory. -/
theorem find_removeFiles (items : List (String × Entry)) (named : ∀ item ∈ items, item.1 ≠ "..")
    (files : ∀ entry ∈ entries, entry.2.isDirectory → entry.1 ∉ items.map (·.1))
    (done : (workspace.removeFiles location items).result = .ok ()) :
    (workspace.removeFiles location items).workspace.find cwd path =
      .ok (location, .directory (entries.filter (·.1 ∉ items.map (·.1)))) := by
  induction items generalizing workspace entries with
  | nil =>
    have whole : entries.filter (·.1 ∉ ([] : List (String × Entry)).map (·.1)) = entries :=
      List.filter_eq_self.mpr fun entry _ => by simp
    rw [whole]
    exact found
  | cons item rest inductionHypothesis =>
    obtain ⟨name, entry⟩ := item
    cases entry with
    | directory inner => cases done
    | file content =>
      have held := entryAt?_of_find found
      rw [removeFiles, step_eq (named _ List.mem_cons_self), take_eq_edit held] at done ⊢
      have edited : (workspace.edit (·.filter (·.1 ≠ name)) location).find cwd path =
          .ok (location, .directory (entries.filter (·.1 ≠ name))) := by
        refine find_edit found ?_
        intro kept inner there
        have apart : kept ≠ name := by
          rintro rfl
          exact files _ (Ordered.mem_of_get? there) rfl List.mem_cons_self
        rw [Ordered.get?_filter_ne, if_neg apart]
        exact there
      have both : entries.filter (·.1 ∉ ((name, Entry.file content) :: rest).map (·.1)) =
          (entries.filter (·.1 ≠ name)).filter (·.1 ∉ rest.map (·.1)) := by
        rw [List.filter_filter]
        refine List.filter_congr fun entry _ => ?_
        rw [← Bool.decide_and, decide_eq_decide, List.map_cons, List.mem_cons, not_or]
        exact and_comm
      rw [both]
      refine inductionHypothesis edited (fun item mem => named item (List.mem_cons_of_mem _ mem))
        ?_ done
      intro entry mem inner gone
      exact files entry (List.mem_of_mem_filter mem) inner (List.mem_cons_of_mem _ gone)

end

/-! ### Making directories -/

/-- A directory is only made in another one, and where nothing is yet. -/
theorem exists_of_makeDirectory {cwd : Location} {path : Path} {after : Workspace}
    (made : workspace.makeDirectory cwd path = .ok after) :
    ∃ above last location entries, path.parts = above ++ [last] ∧ last ≠ ".." ∧
      last.utf8ByteSize ≤ longestName ∧ path.text.utf8ByteSize ≤ longestPath ∧
      workspace.follow (cwd.start path.anchor) above = .ok (location, .directory entries) ∧
      workspace.entryAt? (location.step last) = none ∧
      after = workspace.put (location.step last) (.directory []) := by
  unfold makeDirectory at made
  split at made
  · cases made
  · rename_i short
    split at made
    · cases made
    · rename_i last ends
      obtain ⟨above, split⟩ := List.getLast?_eq_some_iff.mp ends
      rw [split, List.dropLast_concat] at made
      split at made
      · cases made
      · cases made
      · rename_i location entries way
        dsimp only at made
        split at made
        · cases made
        · rename_i named
          split at made
          · cases made
          · rename_i brief
            split at made
            · cases made
            · rename_i free
              cases made
              exact ⟨above, last, location, entries, split, by simpa using named,
                Nat.not_lt.mp brief, Nat.not_lt.mp short, way, by simpa using free, rfl⟩

/-- A directory that was made is empty, and its path leads to it. -/
theorem find_makeDirectory {cwd : Location} {path : Path} {after : Workspace}
    (made : workspace.makeDirectory cwd path = .ok after) :
    ∃ location, after.find cwd path = .ok (location, .directory []) := by
  obtain ⟨above, last, location, entries, split, named, brief, short, way, free, rfl⟩ :=
    exists_of_makeDirectory made
  have stands := entryAt?_of_follow way
  rw [step_eq named] at free ⊢
  rw [entryAt?_below stands] at free
  rw [put_eq_edit stands]
  have keeps : KeepsDirectories workspace
      (workspace.edit (Ordered.put · last (.directory [])) location) := by
    refine keepsDirectories_edit stands ?_
    intro kept inner there
    have apart : last ≠ kept := by
      rintro rfl
      cases free.symm.trans there
    rw [Ordered.get?_put, if_neg apart]
    exact there
  obtain ⟨others, still⟩ := keeps.follow way
  have arrived : (workspace.edit (Ordered.put · last (.directory [])) location).entryAt?
      ⟨location.parts ++ [last]⟩ = some (.directory []) := by
    rw [entryAt?_below (entryAt?_edit stands), Ordered.get?_put, if_pos rfl]
  refine ⟨⟨location.parts ++ [last]⟩, find_eq_ok_iff.mpr ⟨short, ?_⟩⟩
  rw [split]
  refine follow_append_eq_ok_iff.mpr ⟨location, .directory others, still, ?_⟩
  refine follow_cons_eq_ok_iff.mpr ⟨⟨others, entryAt?_of_follow still⟩, brief, ?_⟩
  rw [step_eq named]
  exact follow_nil_eq_ok_iff.mpr ⟨rfl, arrived⟩

theorem needDirectory_eq_ok {cwd : Location} {path : Path}
    (done : (workspace.needDirectory cwd path false).result = .ok ()) :
    workspace.makeDirectory cwd path = .ok (workspace.needDirectory cwd path false).workspace := by
  unfold needDirectory at done ⊢
  cases made : workspace.makeDirectory cwd path with
  | ok after => rfl
  | error error =>
    rw [made] at done
    simp [refused] at done

/-- Where a directory must not be there yet, it is made in the last step. -/
theorem exists_of_makeWay {cwd : Location} {anchor : Anchor} {names : List String}
    (done : (makeWay cwd anchor false names workspace).result = .ok ()) :
    ∃ before, makeDirectory before cwd ⟨anchor, names.reverse⟩ =
      .ok (makeWay cwd anchor false names workspace).workspace := by
  cases names with
  | nil => exact ⟨workspace, needDirectory_eq_ok done⟩
  | cons last above =>
    unfold makeWay at done ⊢
    dsimp only at done ⊢
    split at done
    · split at done
      · cases done
      · exact ⟨_, needDirectory_eq_ok done⟩
    · exact ⟨workspace, needDirectory_eq_ok done⟩

/-- Directories that were made anew lead to an empty one. -/
theorem find_makeDirectories {cwd : Location} {path : Path}
    (done : (workspace.makeDirectories cwd path false).result = .ok ()) :
    ∃ location, (workspace.makeDirectories cwd path false).workspace.find cwd path =
      .ok (location, .directory []) := by
  obtain ⟨before, made⟩ := exists_of_makeWay done
  rw [List.reverse_reverse] at made
  exact find_makeDirectory made

end Workspace

end Tangle
