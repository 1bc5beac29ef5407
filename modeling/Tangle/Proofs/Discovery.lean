/-
This file compares the two ways of finding the files of a project. A listing names
every file, and what is not wanted is told by the path as a whole. A walk looks at
the names of directories on the way and does not go into those that are hidden or
to be skipped. Once both have passed the same filters and are sorted, the walk has
found what was listed, except for files in hidden directories. The order of a
listing is not seen in the end.
-/

import Tangle.Discovery
import Tangle.Proofs.Paths

namespace Tangle

/-! ### Lines of a listing -/

namespace Text

/-- A line ends at its break. -/
theorem linesOnto_append {text : List Char} (unbroken : text.any isLineBreak = false)
    (line rest : List Char) :
    linesOnto line (text ++ '\n' :: rest) = (line.reverse ++ text) :: linesOnto [] rest := by
  induction text generalizing line with
  | nil => simp [linesOnto, isLineBreak]
  | cons c text inductionHypothesis =>
    rw [List.any_cons, Bool.or_eq_false_iff] at unbroken
    obtain ⟨kept, others⟩ := unbroken
    have other : c ≠ '\r' := by
      rintro rfl
      exact absurd kept (by decide)
    have step : linesOnto line (c :: (text ++ '\n' :: rest)) =
        linesOnto (c :: line) (text ++ '\n' :: rest) := by
      rw [linesOnto, if_neg (by simp [kept])]
      exact fun _ same => absurd same other
    rw [List.cons_append, step, inductionHypothesis others, List.reverse_cons, List.append_assoc,
      List.singleton_append]

theorem trim_eq_self {text : List Char} (starts : text.head?.any isBlank = false)
    (ends : text.getLast?.any isBlank = false) : trim text = text := by
  have front : text.dropWhile isBlank = text := by
    cases text with
    | nil => rfl
    | cons c rest => exact List.dropWhile_cons_of_neg (by simpa using starts)
  have back : text.reverse.dropWhile isBlank = text.reverse := by
    cases letters : text.reverse with
    | nil => rfl
    | cons c rest =>
      rw [← List.head?_reverse, letters] at ends
      exact List.dropWhile_cons_of_neg (by simpa using ends)
  rw [trim, front, trimRight, back, List.reverse_reverse]

end Text

namespace Discovery

/-- A path that a line of a listing shows as it is. -/
@[mk_iff]
structure FitsLine (path : String) : Prop where
  slashes : '\\' ∉ path.toList
  unbroken : path.toList.any Text.isLineBreak = false
  starts : path.toList.head?.any Text.isBlank = false
  ends : path.toList.getLast?.any Text.isBlank = false

instance (path : String) : Decidable (FitsLine path) :=
  decidable_of_iff _ (fitsLine_iff path).symm

/-- The listing that shows the given paths, one to a line. -/
def Listing.ofPaths (paths : List String) : Listing :=
  .exited 0 (String.join (paths.map (· ++ "\n")))

theorem lines_join {paths : List String} (fit : ∀ path ∈ paths, FitsLine path) :
    Text.lines (String.join (paths.map (· ++ "\n"))).toList = paths.map String.toList := by
  induction paths with
  | nil => rfl
  | cons path rest inductionHypothesis =>
    have others := inductionHypothesis fun other member => fit other (List.mem_cons_of_mem _ member)
    rw [Text.lines] at others
    have newline : "\n".toList = ['\n'] := rfl
    rw [Text.lines, List.map_cons, String.join_cons, String.toList_append, String.toList_append,
      List.append_assoc, newline, List.singleton_append,
      Text.linesOnto_append (fit path List.mem_cons_self).unbroken, others]
    rfl

/-- What is listed is read as it was. -/
theorem paths?_ofPaths {paths : List String} (fit : ∀ path ∈ paths, FitsLine path)
    (nonempty : ∀ path ∈ paths, path ≠ "") : (Listing.ofPaths paths).paths? = some paths := by
  have each : ∀ path ∈ paths, (fun line : List Char =>
      if line.isEmpty then none else some (String.ofList line)) (Text.trim path.toList) =
        some path := by
    intro path member
    have fits := fit path member
    rw [Text.trim_eq_self fits.starts fits.ends]
    simp [nonempty path member]
  have whole : (paths.filterMap fun path => (fun line : List Char =>
      if line.isEmpty then none else some (String.ofList line)) (Text.trim path.toList)) =
        paths.filterMap some :=
    List.filterMap_congr each
  rw [Listing.ofPaths, Listing.paths?, if_neg (by decide), lines_join fit, List.map_map,
    List.filterMap_map]
  exact congrArg some (whole.trans List.filterMap_some)

theorem forwardSlashes_eq_self {path : String} (absent : '\\' ∉ path.toList) :
    Location.forwardSlashes path = path := by
  rw [← String.toList_inj, Location.forwardSlashes, String.toList_map]
  refine (List.map_congr_left fun c member => ?_).trans (List.map_id _)
  rw [if_neg]
  · rfl
  · rw [beq_iff_eq]
    rintro rfl
    exact absent member

end Discovery

/-! ### Walking with and without pruning -/

namespace Entry

variable {cut : String → Bool}

mutual

/-- The names of what is below an entry come behind those above it. -/
theorem exists_of_mem_filesFrom (above : List String) (entry : Entry)
    {file : List String × StoredFile} (member : file ∈ entry.filesFrom cut above) :
    ∃ below, file.1 = above.reverse ++ below := by
  cases entry with
  | file content =>
    rw [filesFrom, List.mem_singleton] at member
    exact ⟨[], by rw [member, List.append_nil]⟩
  | directory entries =>
    rw [filesFrom] at member
    obtain ⟨below, -, same⟩ := exists_of_mem_filesFromAll above entries member
    exact ⟨below, same⟩

theorem exists_of_mem_filesFromAll (above : List String) (entries : List (String × Entry))
    {file : List String × StoredFile} (member : file ∈ filesFromAll cut above entries) :
    ∃ below, below ≠ [] ∧ file.1 = above.reverse ++ below := by
  match entries with
  | [] => cases member
  | (name, .file content) :: rest =>
    rw [filesFromAll, List.mem_cons] at member
    rcases member with rfl | member
    · exact ⟨[name], List.cons_ne_nil _ _, List.reverse_cons⟩
    · exact exists_of_mem_filesFromAll above rest member
  | (name, .directory inner) :: rest =>
    rw [filesFromAll, List.mem_append] at member
    rcases member with member | member
    · split at member
      next => cases member
      next =>
        obtain ⟨below, same⟩ := exists_of_mem_filesFrom (name :: above) (.directory inner) member
        exact ⟨name :: below, List.cons_ne_nil _ _, by simpa using same⟩
    · exact exists_of_mem_filesFromAll above rest member

end

mutual

/-- Not going into some directories leaves out what has one of them on its way, and no more. -/
theorem filesFrom_eq_filter (above : List String) (entry : Entry)
    (uncut : ∀ name ∈ above, cut name = false) :
    entry.filesFrom cut above =
      (entry.filesFrom (fun _ => false) above).filter fun file => file.1.dropLast.all (!cut ·) := by
  cases entry with
  | file content =>
    rw [filesFrom, filesFrom, List.filter_cons_of_pos]
    · rfl
    · rw [List.all_eq_true]
      intro name member
      rw [uncut name (List.mem_reverse.mp (List.mem_of_mem_dropLast member))]
      rfl
  | directory entries =>
    rw [filesFrom, filesFrom]
    exact filesFromAll_eq_filter above entries uncut

theorem filesFromAll_eq_filter (above : List String) (entries : List (String × Entry))
    (uncut : ∀ name ∈ above, cut name = false) :
    filesFromAll cut above entries =
      (filesFromAll (fun _ => false) above entries).filter
        fun file => file.1.dropLast.all (!cut ·) := by
  match entries with
  | [] => rw [filesFromAll, filesFromAll, List.filter_nil]
  | (name, .file content) :: rest =>
    rw [filesFromAll, filesFromAll, List.filter_cons_of_pos,
      filesFromAll_eq_filter above rest uncut]
    rw [List.all_eq_true, List.reverse_cons, List.dropLast_concat]
    intro outer member
    rw [uncut outer (List.mem_reverse.mp member)]
    rfl
  | (name, .directory inner) :: rest =>
    rw [filesFromAll, filesFromAll, List.filter_append, filesFromAll_eq_filter above rest uncut,
      if_neg Bool.false_ne_true]
    refine congrArg (· ++ _) ?_
    by_cases isCut : cut name = true
    · rw [if_pos isCut, eq_comm, List.filter_eq_nil_iff]
      intro file member kept
      rw [filesFrom] at member
      obtain ⟨below, nonempty, same⟩ := exists_of_mem_filesFromAll (name :: above) inner member
      rw [same, List.dropLast_append_of_ne_nil nonempty, List.all_eq_true] at kept
      have clash := kept name (by simp)
      rw [isCut] at clash
      cases clash
    · rw [if_neg isCut]
      refine filesFrom_eq_filter (name :: above) (.directory inner) fun outer member => ?_
      rcases List.mem_cons.mp member with rfl | member
      · exact Bool.eq_false_iff.mpr isCut
      · exact uncut outer member

end

/-- The paths of all files below an entry. -/
def paths (top : Entry) : List String :=
  (top.filesFrom (fun _ => false) []).map fun file => "/".intercalate file.1

end Entry

namespace Discovery

/-- Whether a directory on the way is hidden. -/
def isHidden (path : String) : Bool :=
  (Text.pieces '/' path.toList).dropLast.any fun part => part.head? == some '.'

/-- On the way that a path leads, what is pruned is hidden or skipped. -/
theorem all_isPruned_eq {names : List String} (nonempty : names ≠ [])
    (plain : ∀ name ∈ names, IsName name) :
    names.dropLast.all (!isPruned ·) =
      (!isSkipped ("/".intercalate names) && !isHidden ("/".intercalate names)) := by
  rw [isSkipped, isHidden, pieces_intercalate nonempty plain, ← List.map_dropLast, List.any_map,
    List.any_map]
  induction names.dropLast with
  | nil => rfl
  | cons name rest inductionHypothesis =>
    rw [List.all_cons, List.any_cons, List.any_cons, inductionHypothesis]
    simp only [isPruned, Function.comp_apply, String.ofList_toList, Bool.not_or]
    simp only [Bool.and_assoc, Bool.and_left_comm]

/-- A walk finds what is neither skipped nor in a hidden directory. -/
theorem walk_eq_filter {entries : List (String × Entry)}
    (named : ∀ file ∈ (Entry.directory entries).filesFrom (fun _ => false) [],
      ∀ name ∈ file.1, IsName name) :
    walk (.directory entries) =
      (Entry.directory entries).paths.filter fun path => !isSkipped path && !isHidden path := by
  rw [walk, Entry.paths, Entry.filesFrom, List.filter_map,
    Entry.filesFromAll_eq_filter [] entries (by simp)]
  refine congrArg (List.map _) (List.filter_congr fun file member => ?_)
  obtain ⟨below, nonempty, same⟩ := Entry.exists_of_mem_filesFromAll [] entries member
  rw [List.reverse_nil, List.nil_append] at same
  exact all_isPruned_eq (same ▸ nonempty) (named file member)

/-! ### Filters and order -/

section

variable (workspace : Workspace) (root : Location)

theorem keep_value (path : String) :
    (keep workspace root path).value = none ∨ (keep workspace root path).value = some path := by
  rw [keep]
  split
  next => exact .inl rfl
  next => exact .inr rfl
  next =>
    split
    next => exact .inl rfl
    next => exact .inr rfl

/-- Of paths that can be asked about, those are kept that are kept one by one. -/
theorem keepAll_value {paths : List String} (askable : ∀ path ∈ paths, hasNull path = false) :
    (keepAll workspace root paths).value =
      .ok (paths.filter fun path => (keep workspace root path).value.isSome) := by
  induction paths with
  | nil => rfl
  | cons path rest inductionHypothesis =>
    have others := inductionHypothesis fun other member =>
      askable other (List.mem_cons_of_mem _ member)
    rw [keepAll, if_neg (by simp [askable path List.mem_cons_self])]
    show (keepAll workspace root rest).value.map _ = _
    rw [others, Except.map, List.filter_cons]
    rcases keep_value workspace root path with kept | kept
    · rw [kept]
      rfl
    · rw [kept]
      rfl

/-- Paths in the order of their code points. -/
def sorted (paths : List String) : List String :=
  paths.mergeSort fun a b => decide (a ≤ b)

theorem sorted_perm (paths : List String) : (sorted paths).Perm paths :=
  List.mergeSort_perm _ _

theorem pairwise_sorted (paths : List String) : (sorted paths).Pairwise (· ≤ ·) := by
  have trans (a b c : String) (first : decide (a ≤ b) = true) (second : decide (b ≤ c) = true) :
      decide (a ≤ c) = true :=
    decide_eq_true (String.le_trans (of_decide_eq_true first) (of_decide_eq_true second))
  have total (a b : String) : (decide (a ≤ b) || decide (b ≤ a)) = true := by
    simpa using String.le_total a b
  exact (List.pairwise_mergeSort trans total paths).imp of_decide_eq_true

/-- Only one order of some paths is sorted. -/
theorem eq_sorted_of_perm {paths others : List String} (perm : others.Perm paths)
    (ordered : others.Pairwise (· ≤ ·)) : others = sorted paths :=
  List.Perm.eq_of_pairwise (fun _ _ _ _ => String.le_antisymm) ordered (pairwise_sorted paths)
    (perm.trans (sorted_perm paths).symm)

/-- Whether a path passes both filters. -/
def accepts (excludes : List String) (includeTests : Bool) (path : String) : Bool :=
  isCandidate excludes includeTests path && (keep workspace root path).value.isSome

/-- What is found under a directory are the accepted ones of all paths, sorted. -/
theorem discover_value (listing : Listing) {paths : List String}
    (raw : (rawPaths workspace root listing).value = paths)
    (reachable : root.parts.any hasNull = false)
    (askable : ∀ path ∈ paths, hasNull path = false) (excludes : List String)
    (includeTests : Bool) :
    (discover workspace root listing excludes includeTests).value =
      .ok (sorted (paths.filter (accepts workspace root excludes includeTests))) := by
  have accepted : (paths.filter (isCandidate excludes includeTests)).filter
      (fun path => (keep workspace root path).value.isSome) =
      paths.filter (accepts workspace root excludes includeTests) := by
    rw [List.filter_filter]
    exact List.filter_congr fun path _ => Bool.and_comm _ _
  rw [discover, if_neg (by simp [reachable])]
  show (keepAll workspace root (List.filter _ (rawPaths workspace root listing).value)).value.map
    _ = _
  rw [raw, keepAll_value workspace root fun path member =>
    askable path (List.mem_of_mem_filter member), accepted]
  rfl

end

section

variable {workspace : Workspace} {root : Location}

/-- Paths are only kept where all of them can be asked about. -/
theorem askable_of_keepAll {paths kept : List String}
    (value : (keepAll workspace root paths).value = .ok kept) :
    ∀ path ∈ paths, hasNull path = false := by
  induction paths generalizing kept with
  | nil => simp
  | cons path rest inductionHypothesis =>
    rw [keepAll] at value
    split at value
    · cases value
    · rename_i askable
      replace value : (keepAll workspace root rest).value.map
          ((keep workspace root path).value.toList ++ ·) = .ok kept := value
      cases others : (keepAll workspace root rest).value with
      | error null =>
        rw [others] at value
        cases value
      | ok behind =>
        exact List.forall_mem_cons.mpr ⟨Bool.eq_false_iff.mpr askable, inductionHypothesis others⟩

/-- Whenever files are found, they are the accepted ones of all paths, sorted. -/
theorem eq_sorted_of_discover {listing : Listing} {excludes : List String} {includeTests : Bool}
    {files : List String}
    (found : (discover workspace root listing excludes includeTests).value = .ok files) :
    files = sorted ((rawPaths workspace root listing).value.filter
      (accepts workspace root excludes includeTests)) := by
  rw [discover] at found
  split at found
  · cases found
  · replace found : (keepAll workspace root ((rawPaths workspace root listing).value.filter
        (isCandidate excludes includeTests))).value.map sorted = .ok files := found
    cases kept : (keepAll workspace root ((rawPaths workspace root listing).value.filter
        (isCandidate excludes includeTests))).value with
    | error null =>
      rw [kept] at found
      cases found
    | ok paths =>
      have value := keepAll_value workspace root (askable_of_keepAll kept)
      rw [kept, List.filter_filter] at value
      rw [kept] at found
      cases found
      cases value
      refine congrArg sorted (List.filter_congr fun path _ => ?_)
      exact Bool.and_comm _ _

end

theorem rawPaths_ofPaths (workspace : Workspace) (root : Location) {paths : List String}
    (fit : ∀ path ∈ paths, FitsLine path) (nonempty : ∀ path ∈ paths, path ≠ "") :
    (rawPaths workspace root (.ofPaths paths)).value = paths := by
  rw [rawPaths, paths?_ofPaths fit nonempty]
  show paths.map Location.forwardSlashes = paths
  refine (List.map_congr_left fun path member => ?_).trans (List.map_id _)
  exact forwardSlashes_eq_self (fit path member).slashes

theorem rawPaths_of_paths?_eq_none {workspace : Workspace} {root : Location} {top : Entry}
    (stands : workspace.entryAt? root = some top) {listing : Listing}
    (fallback : listing.paths? = none) :
    (rawPaths workspace root listing).value = (walk top).map Location.forwardSlashes := by
  rw [rawPaths, fallback]
  show (((workspace.entryAt? root).map walk).getD []).map Location.forwardSlashes = _
  rw [stands]
  rfl

/-- The two ways of finding files agree up to hidden directories. Where every file below a
directory has a path that fits a line, all listings of these paths lead to the same files, in
whatever order they come; and without a listing those of them are found that are in no hidden
directory. -/
theorem discover_walked_eq_listed {workspace : Workspace} {root : Location}
    {entries : List (String × Entry)}
    (stands : workspace.entryAt? root = some (.directory entries))
    (reachable : root.parts.any hasNull = false)
    (named : ∀ file ∈ (Entry.directory entries).filesFrom (fun _ => false) [],
      ∀ name ∈ file.1, IsName name)
    (fit : ∀ path ∈ (Entry.directory entries).paths, FitsLine path)
    (excludes : List String) (includeTests : Bool) :
    ∃ found : List String,
      (∀ listed : List String, listed.Perm (Entry.directory entries).paths →
        (discover workspace root (.ofPaths listed) excludes includeTests).value = .ok found) ∧
      ∀ listing : Listing, listing.paths? = none →
        (discover workspace root listing excludes includeTests).value =
          .ok (found.filter (!isHidden ·)) := by
  have sound : ∀ path ∈ (Entry.directory entries).paths, path ≠ "" ∧ hasNull path = false := by
    intro path member
    obtain ⟨file, among, rfl⟩ := List.mem_map.mp member
    obtain ⟨below, nonempty, same⟩ :=
      Entry.exists_of_mem_filesFromAll [] entries (by rwa [Entry.filesFrom] at among)
    rw [List.reverse_nil, List.nil_append] at same
    exact ⟨intercalate_ne_empty (same ▸ nonempty) (named file among),
      hasNull_intercalate (named file among)⟩
  let whole := (Entry.directory entries).paths
  let accepted := accepts workspace root excludes includeTests
  refine ⟨sorted (whole.filter accepted), ?_, ?_⟩
  · intro listed order
    have member (path : String) (inside : path ∈ listed) := order.mem_iff.mp inside
    rw [discover_value workspace root _ (rawPaths_ofPaths workspace root
        (fun path inside => fit path (member path inside))
        fun path inside => (sound path (member path inside)).1) reachable
        (fun path inside => (sound path (member path inside)).2)]
    exact congrArg _ (eq_sorted_of_perm ((sorted_perm _).trans (order.filter _))
      (pairwise_sorted _))
  · intro listing fallback
    have walked := walk_eq_filter named
    have kept : (walk (.directory entries)).map Location.forwardSlashes =
        walk (.directory entries) := by
      refine (List.map_congr_left fun path inside => ?_).trans (List.map_id _)
      rw [walked] at inside
      exact forwardSlashes_eq_self (fit path (List.mem_of_mem_filter inside)).slashes
    rw [discover_value workspace root _ (rawPaths_of_paths?_eq_none stands fallback) reachable,
      kept, walked]
    · refine congrArg _ (eq_sorted_of_perm ?_ ((pairwise_sorted _).filter _)).symm
      -- What is skipped by the walk is no candidate, so that only hidden directories matter.
      have same : (whole.filter fun path => !isSkipped path && !isHidden path).filter accepted =
          (whole.filter accepted).filter (!isHidden ·) := by
        rw [List.filter_filter, List.filter_filter]
        refine List.filter_congr fun path _ => ?_
        cases skipped : isSkipped path <;>
          simp [accepted, accepts, isCandidate, skipped, Bool.and_comm]
      rw [same]
      exact (sorted_perm _).filter _
    · intro path inside
      rw [kept, walked] at inside
      exact (sound path (List.mem_of_mem_filter inside)).2

/-- A file in a hidden directory, one that is to be found, and one that is generated. -/
def hiddenFiles : List (String × Entry) :=
  let file := Entry.file { bytes := [], tree := Tree.empty }
  [(".cache", .directory [("a.js", file)]),
   ("src", .directory [("b.ts", file), ("dist", .directory [("c.js", file)])])]

theorem discover_walked_eq_listed_hiddenFiles :
    let workspace : Workspace := ⟨.directory [("work", .directory hiddenFiles)]⟩
    let listed := ["src/dist/c.js", "src/b.ts", ".cache/a.js"]
    workspace.entryAt? ⟨["work"]⟩ = some (.directory hiddenFiles) ∧
    (∀ file ∈ (Entry.directory hiddenFiles).filesFrom (fun _ => false) [],
      ∀ name ∈ file.1, IsName name) ∧
    (∀ path ∈ (Entry.directory hiddenFiles).paths, FitsLine path) ∧
    listed.Perm (Entry.directory hiddenFiles).paths ∧
    ∃ found : List String,
      (discover workspace ⟨["work"]⟩ (.ofPaths listed) [] false).value = .ok found ∧
      (discover workspace ⟨["work"]⟩ .unavailable [] false).value =
        .ok (found.filter (!isHidden ·)) := by
  intro workspace listed
  have named : ∀ file ∈ (Entry.directory hiddenFiles).filesFrom (fun _ => false) [],
      ∀ name ∈ file.1, IsName name := by decide
  have fit : ∀ path ∈ (Entry.directory hiddenFiles).paths, FitsLine path := by decide
  have order : listed.Perm (Entry.directory hiddenFiles).paths := by decide
  obtain ⟨found, fromListing, fromWalk⟩ := @discover_walked_eq_listed workspace ⟨["work"]⟩
    hiddenFiles rfl rfl named fit [] false
  exact ⟨rfl, named, fit, order, found, fromListing listed order, fromWalk .unavailable rfl⟩

end Discovery

end Tangle
