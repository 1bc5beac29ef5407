/-
This file shows that the text of a tree of callers tells the tree. The text has a
line for each function in pre-order, and the margin of a line is made of blocks,
one for each step up from the root: blank under the last of some siblings, with a
bar under the others. Names do not begin like a margin and do not hold the mark
between a name and its file, so every line gives back its depth, its name and its
file, and the depths give back the shape.
-/

import Tangle.Proofs.Chart
import Tangle.Proofs.FileOrder

namespace Tangle

namespace CallerTree

/-! ### Addresses -/

/-- The function at an address, which numbers the callers on the way up to it. -/
def at? (tree : CallerTree) : List Nat → Option CallerTree
  | [] => some tree
  | number :: rest => tree.callers[number]?.bind (at? · rest)

mutual

/-- A function and all its callers in pre-order, with their addresses. -/
def spots : CallerTree → List (List Nat × CallerTree)
  | ⟨name, file, callers⟩ => ([], ⟨name, file, callers⟩) :: spotsFrom 0 callers

/-- The spots of callers from the one with the given number on. -/
def spotsFrom (number : Nat) : List CallerTree → List (List Nat × CallerTree)
  | [] => []
  | caller :: rest =>
    (spots caller).map (fun spot => (number :: spot.1, spot.2)) ++ spotsFrom (number + 1) rest

end

/-- Nothing stands behind the function at this address among its siblings. -/
def IsLast (tree : CallerTree) (address : List Nat) : Prop :=
  tree.at? (address.dropLast ++ [address.getLastD 0 + 1]) = none

instance (tree : CallerTree) (address : List Nat) : Decidable (tree.IsLast address) :=
  inferInstanceAs (Decidable (_ = none))

theorem spotsFrom_eq (number : Nat) (callers : List CallerTree) :
    spotsFrom number callers = (callers.zipIdx number).flatMap fun caller =>
      caller.1.spots.map fun spot => (caller.2 :: spot.1, spot.2) := by
  induction callers generalizing number with
  | nil => rfl
  | cons caller rest inductionHypothesis =>
    rw [spotsFrom, inductionHypothesis, List.zipIdx_cons, List.flatMap_cons]

theorem spots_eq (tree : CallerTree) :
    tree.spots = ([], tree) :: tree.callers.zipIdx.flatMap fun caller =>
      caller.1.spots.map fun spot => (caller.2 :: spot.1, spot.2) := by
  obtain ⟨name, file, callers⟩ := tree
  rw [spots, spotsFrom_eq]

theorem mem_spots_iff {tree node : CallerTree} {address : List Nat} :
    (address, node) ∈ tree.spots ↔ tree.at? address = some node := by
  induction tree using CallerTree.induction generalizing address with
  | step tree inductionHypothesis =>
    rw [spots_eq, List.mem_cons, List.mem_flatMap]
    cases address with
    | nil => simp [at?, eq_comm]
    | cons number rest =>
      rw [at?, Option.bind_eq_some_iff]
      constructor
      · rintro (same | ⟨⟨caller, place⟩, among, inside⟩)
        · cases same
        · obtain ⟨spot, below, same⟩ := List.mem_map.mp inside
          cases same
          have found := List.mem_zipIdx_iff_getElem?.mp among
          exact ⟨caller, found, (inductionHypothesis caller (List.mem_of_getElem? found)).mp below⟩
      · rintro ⟨caller, found, below⟩
        refine .inr ⟨(caller, number), List.mem_zipIdx_iff_getElem?.mpr found, ?_⟩
        refine List.mem_map.mpr ⟨(rest, node), ?_, rfl⟩
        exact (inductionHypothesis caller (List.mem_of_getElem? found)).mpr below

/-- Pre-order is the order of addresses. -/
theorem pairwise_spots (tree : CallerTree) : tree.spots.Pairwise fun one two => one.1 < two.1 := by
  induction tree using CallerTree.induction with
  | step tree inductionHypothesis =>
    have numbers : tree.callers.zipIdx.Pairwise fun first second => first.2 < second.2 := by
      rw [← List.pairwise_map, List.zipIdx_map_snd]
      exact List.pairwise_lt_range'
    rw [spots_eq, List.pairwise_cons, List.pairwise_flatMap]
    refine ⟨?_, ?_, numbers.imp ?_⟩
    · intro spot member
      obtain ⟨_, _, inside⟩ := List.mem_flatMap.mp member
      obtain ⟨_, _, rfl⟩ := List.mem_map.mp inside
      exact List.nil_lt_cons _ _
    · rintro ⟨caller, number⟩ among
      have found := List.mem_zipIdx_iff_getElem?.mp among
      rw [List.pairwise_map]
      refine (inductionHypothesis caller (List.mem_of_getElem? found)).imp fun before => ?_
      exact List.cons_lt_cons_iff.mpr (.inr ⟨rfl, before⟩)
    · rintro ⟨first, number⟩ ⟨second, other⟩ before one here two there
      obtain ⟨_, _, rfl⟩ := List.mem_map.mp here
      obtain ⟨_, _, rfl⟩ := List.mem_map.mp there
      exact List.cons_lt_cons_iff.mpr (.inl before)

/-! ### Lines -/

/-- A block of the margin: blank under the last of some siblings, with a bar under the others. -/
def block (last : Bool) : String :=
  if last then "    " else "│   "

/-- The margin of the line of the function at an address: a block for each step on the way to it. -/
def margin (tree : CallerTree) (address : List Nat) : List Char :=
  (List.range address.length).flatMap fun depth =>
    (block (tree.IsLast (address.take (depth + 1)))).toList

/-- The line of a function without its margin. -/
def title (showFile : String → String) (node : CallerTree) : List Char :=
  node.name.toList ++ "() [".toList ++ (showFile node.file).toList ++ [']']

theorem toList_render (showFile : String → String) (indent : String) (tree : CallerTree) :
    (render showFile indent tree).toList = indent.toList ++
      (tree.title showFile ++ '\n' :: (renderAll showFile indent tree.callers).toList) := by
  obtain ⟨name, file, callers⟩ := tree
  have ending : "]\n".toList = [']', '\n'] := rfl
  rw [render, title, String.toList_append, String.toList_append, String.toList_append,
    String.toList_append, String.toList_append, ending]
  simp only [List.append_assoc, List.cons_append, List.nil_append]

theorem toList_renderAll_cons (showFile : String → String) (indent : String) (caller : CallerTree)
    (rest : List CallerTree) :
    (renderAll showFile indent (caller :: rest)).toList =
      (render showFile (indent ++ block rest.isEmpty) caller).toList ++
        (renderAll showFile indent rest).toList := by
  rw [renderAll, String.toList_append]
  rfl

/-- A caller is the last one if its number is. -/
theorem renderAll_eq (showFile : String → String) (indent : String) (number : Nat)
    (callers : List CallerTree) :
    (renderAll showFile indent callers).toList =
      (callers.zipIdx number).flatMap fun caller =>
        (render showFile
          (indent ++ block (caller.2 + 1 = number + callers.length)) caller.1).toList := by
  induction callers generalizing number with
  | nil => rfl
  | cons caller rest inductionHypothesis =>
    have last : rest.isEmpty = decide (number + 1 = number + (caller :: rest).length) := by
      cases rest <;> simp
    have count : number + (caller :: rest).length = number + 1 + rest.length := by
      rw [List.length_cons]
      omega
    rw [toList_renderAll_cons, last, inductionHypothesis (number + 1), List.zipIdx_cons,
      List.flatMap_cons, count]

theorem isLast_singleton_iff {tree : CallerTree} {number : Nat}
    (inside : number < tree.callers.length) :
    tree.IsLast [number] ↔ number + 1 = tree.callers.length := by
  have step : tree.at? [number + 1] = tree.callers[number + 1]? := by
    rw [at?]
    simp [at?]
  rw [IsLast, List.dropLast_singleton, List.nil_append, List.getLastD_cons, List.getLastD_nil, step,
    List.getElem?_eq_none_iff]
  omega

theorem isLast_cons_iff {tree caller : CallerTree} {number : Nat}
    (found : tree.callers[number]? = some caller) {address : List Nat} (more : address ≠ []) :
    tree.IsLast (number :: address) ↔ caller.IsLast address := by
  obtain ⟨next, rest, rfl⟩ := List.exists_cons_of_ne_nil more
  rw [IsLast, List.dropLast_cons_of_ne_nil more, List.cons_append, at?, found, Option.bind_some,
    IsLast, List.getLastD_cons, List.getLastD_cons, List.getLastD_cons]

/-- The first block is that of the caller next to the root, the others are seen from there. -/
theorem margin_cons {tree caller : CallerTree} {number : Nat}
    (found : tree.callers[number]? = some caller) (address : List Nat) :
    tree.margin (number :: address) =
      (block (number + 1 = tree.callers.length)).toList ++ caller.margin address := by
  obtain ⟨inside, -⟩ := List.getElem?_eq_some_iff.mp found
  rw [margin, margin, List.length_cons, List.range_succ_eq_map, List.flatMap_cons,
    List.flatMap_map]
  refine congrArg₂ (· ++ ·) ?_ ?_
  · simp only [List.take_succ_cons, List.take_zero, isLast_singleton_iff inside]
  · refine List.flatMap_congr fun depth among => ?_
    have more : address.take (depth + 1) ≠ [] := by
      have filled := List.length_pos_of_ne_nil (List.ne_nil_of_mem among)
      rw [List.length_range] at filled
      simp [List.ne_nil_of_length_pos filled]
    simp only [Nat.succ_eq_add_one, List.take_succ_cons, isLast_cons_iff found more]

/-- The text of a tree: a line for each function in pre-order. -/
theorem toList_render_eq_flatMap (showFile : String → String) (indent : String)
    (tree : CallerTree) :
    (render showFile indent tree).toList = tree.spots.flatMap fun spot =>
      indent.toList ++ (tree.margin spot.1 ++ (spot.2.title showFile ++ ['\n'])) := by
  induction tree using CallerTree.induction generalizing indent with
  | step tree inductionHypothesis =>
    have below : (renderAll showFile indent tree.callers).toList =
        (tree.callers.zipIdx.flatMap fun caller =>
          caller.1.spots.map fun spot => (caller.2 :: spot.1, spot.2)).flatMap fun spot =>
            indent.toList ++ (tree.margin spot.1 ++ (spot.2.title showFile ++ ['\n'])) := by
      rw [renderAll_eq showFile indent 0, List.flatMap_assoc]
      refine List.flatMap_congr fun ⟨caller, number⟩ among => ?_
      have found := List.mem_zipIdx_iff_getElem?.mp among
      rw [inductionHypothesis caller (List.mem_of_getElem? found), List.flatMap_map]
      simp only [margin_cons found, String.toList_append, List.append_assoc, Nat.zero_add]
    rw [toList_render, below, spots_eq, List.flatMap_cons]
    simp [margin]

/-! ### Trees that can be told -/

mutual

/-- The tree with its files shown. -/
def shown (showFile : String → String) : CallerTree → CallerTree
  | ⟨name, file, callers⟩ => ⟨name, showFile file, shownAll showFile callers⟩

def shownAll (showFile : String → String) : List CallerTree → List CallerTree
  | [] => []
  | caller :: rest => shown showFile caller :: shownAll showFile rest

end

theorem shownAll_eq_map (showFile : String → String) (callers : List CallerTree) :
    shownAll showFile callers = callers.map (shown showFile) := by
  induction callers with
  | nil => rfl
  | cons caller rest inductionHypothesis => rw [shownAll, inductionHypothesis, List.map_cons]

theorem shown_eq (showFile : String → String) (tree : CallerTree) :
    tree.shown showFile =
      ⟨tree.name, showFile tree.file, tree.callers.map (shown showFile)⟩ := by
  obtain ⟨name, file, callers⟩ := tree
  rw [shown, shownAll_eq_map]

mutual

/-- What is printed is the tree with its files shown. -/
theorem render_shown (showFile : String → String) (indent : String) : (tree : CallerTree) →
    render id indent (tree.shown showFile) = render showFile indent tree
  | ⟨name, file, callers⟩ => by
    rw [shown, render, render, renderAll_shownAll showFile indent callers, id]

theorem renderAll_shownAll (showFile : String → String) (indent : String) :
    (callers : List CallerTree) →
    renderAll id indent (shownAll showFile callers) = renderAll showFile indent callers
  | [] => rfl
  | caller :: rest => by
    have same : (shownAll showFile rest).isEmpty = rest.isEmpty := by cases rest <;> rfl
    rw [shownAll, renderAll, renderAll, same, render_shown showFile _ caller,
      renderAll_shownAll showFile indent rest]

end

/-- The characters of margins. -/
def isMargin (c : Char) : Bool :=
  c == ' ' || c == '│'

/-- A line from which name and file can be read: the name does not go on the margin, holds no line
break and does not hold what stands between a name and its file; and the file is shown on one
line. -/
structure Legible (showFile : String → String) (node : CallerTree) : Prop where
  start : ∀ c ∈ node.name.toList.head?, isMargin c = false
  unbroken : '\n' ∉ node.name.toList
  unmarked : ¬ "() [".toList <:+: node.name.toList
  file : '\n' ∉ (showFile node.file).toList

instance (showFile : String → String) (node : CallerTree) : Decidable (node.Legible showFile) :=
  decidable_of_iff
    (node.name.toList.head?.all (!isMargin ·) = true ∧ '\n' ∉ node.name.toList ∧
      ¬ "() [".toList <:+: node.name.toList ∧ '\n' ∉ (showFile node.file).toList)
    ⟨fun ⟨start, unbroken, unmarked, file⟩ =>
        ⟨by simpa [Option.all_eq_true] using start, unbroken, unmarked, file⟩,
      fun ⟨start, unbroken, unmarked, file⟩ =>
        ⟨by simpa [Option.all_eq_true] using start, unbroken, unmarked, file⟩⟩

/-- A name ends where the first mark begins, as no mark overlaps another one. -/
theorem mark_append_inj {name other rest behind : List Char}
    (unmarked : ¬ "() [".toList <:+: name) (clean : ¬ "() [".toList <:+: other) :
    name ++ ("() [".toList ++ rest) = other ++ ("() [".toList ++ behind) ↔
      name = other ∧ rest = behind := by
  have mark : "() [".toList = ['(', ')', ' ', '['] := rfl
  have nothing {name more rest behind : List Char} (clean : ¬ "() [".toList <:+: name ++ more)
      (same : "() [".toList ++ rest = more ++ ("() [".toList ++ behind)) : more = [] := by
    rw [mark] at same clean
    match more with
    | [] => rfl
    | [_] => simp at same
    | [_, _] => simp at same
    | [_, _, _] => simp at same
    | first :: second :: third :: fourth :: tail =>
      simp only [List.cons_append, List.nil_append, List.cons.injEq] at same
      obtain ⟨rfl, rfl, rfl, rfl, -⟩ := same
      exact absurd ⟨name, tail, by simp⟩ clean
  constructor
  · intro same
    rcases List.append_eq_append_iff.mp same with ⟨more, rfl, tail⟩ | ⟨more, rfl, tail⟩
    · obtain rfl := nothing clean tail
      exact ⟨(List.append_nil name).symm, List.append_cancel_left tail⟩
    · obtain rfl := nothing unmarked tail
      exact ⟨List.append_nil other, (List.append_cancel_left tail).symm⟩
  · rintro ⟨rfl, rfl⟩
    rfl

variable {showFile : String → String}

theorem title_inj {node other : CallerTree} (legible : node.Legible showFile)
    (clear : other.Legible showFile) :
    node.title showFile = other.title showFile ↔
      node.name = other.name ∧ showFile node.file = showFile other.file := by
  simp only [title, List.append_assoc]
  rw [mark_append_inj legible.unmarked clear.unmarked, List.append_cancel_right_eq,
    String.toList_inj, String.toList_inj]

theorem newline_notMem_title {node : CallerTree} (legible : node.Legible showFile) :
    '\n' ∉ node.title showFile := by
  have mark : "() [".toList = ['(', ')', ' ', '['] := rfl
  simp [title, mark, legible.unbroken, legible.file]

/-- A title does not go on the margin. -/
theorem isMargin_of_mem_head?_title {node : CallerTree} (legible : node.Legible showFile)
    (rest : List Char) : ∀ c ∈ (node.title showFile ++ rest).head?, isMargin c = false := by
  have mark : "() [".toList = ['(', ')', ' ', '['] := rfl
  intro c first
  cases start : node.name.toList with
  | nil =>
    rw [title, start, mark] at first
    obtain rfl : '(' = c := by simpa using first
    rfl
  | cons letter _ =>
    rw [title, start] at first
    obtain rfl : letter = c := by simpa using first
    exact legible.start letter (by rw [start]; rfl)

/-- The first line of a tree gives back its margin, its name and its file. -/
theorem line_append_inj {indent edge rest behind : List Char} {node other : CallerTree}
    (blank : ∀ c ∈ indent, isMargin c = true) (empty : ∀ c ∈ edge, isMargin c = true)
    (legible : node.Legible showFile) (clear : other.Legible showFile) :
    indent ++ (node.title showFile ++ '\n' :: rest) =
        edge ++ (other.title showFile ++ '\n' :: behind) ↔
      indent = edge ∧ (node.name = other.name ∧ showFile node.file = showFile other.file) ∧
        rest = behind := by
  have unbroken {node : CallerTree} (legible : node.Legible showFile) :
      ∀ c ∈ node.title showFile, (c != '\n') = true := by
    intro c member
    exact bne_iff_ne.mpr fun same => newline_notMem_title legible (same ▸ member)
  have ends (text : List Char) : ∀ c ∈ ('\n' :: text).head?, (c != '\n') = false := by
    rintro _ ⟨⟩
    rfl
  rw [append_inj_of_stop blank empty (isMargin_of_mem_head?_title legible _)
      (isMargin_of_mem_head?_title clear _),
    append_inj_of_stop (unbroken legible) (unbroken clear) (ends _) (ends _),
    title_inj legible clear, List.cons.injEq, and_iff_right rfl]

/-! ### Reading a tree back -/

/-- Every line of the tree can be read. -/
def Readable (showFile : String → String) (tree : CallerTree) : Prop :=
  ∀ spot ∈ tree.spots, spot.2.Legible showFile

instance (showFile : String → String) (tree : CallerTree) : Decidable (tree.Readable showFile) :=
  inferInstanceAs (Decidable (∀ spot ∈ tree.spots, spot.2.Legible showFile))

theorem readable_iff {tree : CallerTree} :
    tree.Readable showFile ↔
      tree.Legible showFile ∧ ∀ caller ∈ tree.callers, caller.Readable showFile := by
  rw [Readable, spots_eq, List.forall_mem_cons]
  refine and_congr_right fun _ =>
    ⟨fun all caller member spot inside => ?_, fun all spot among => ?_⟩
  · obtain ⟨number, found⟩ := List.getElem?_of_mem member
    exact all (number :: spot.1, spot.2) (List.mem_flatMap.mpr ⟨(caller, number),
      List.mem_zipIdx_iff_getElem?.mpr found, List.mem_map_of_mem inside⟩)
  · obtain ⟨⟨caller, number⟩, listed, inside⟩ := List.mem_flatMap.mp among
    obtain ⟨below, member, rfl⟩ := List.mem_map.mp inside
    have found := List.mem_zipIdx_iff_getElem?.mp listed
    exact all caller (List.mem_of_getElem? found) below member

/-- How wide the margin is with which a text begins. -/
def marginWidth (text : List Char) : Nat :=
  (text.takeWhile isMargin).length

/-- A text that is nothing but margin. -/
def IsBlank (indent : String) : Prop :=
  ∀ c ∈ indent.toList, isMargin c = true

theorem IsBlank.append_block {indent : String} (blank : IsBlank indent) (last : Bool) :
    IsBlank (indent ++ block last) := by
  have joint : ∀ c ∈ (block last).toList, isMargin c = true := by
    cases last <;> simp [block, isMargin]
  rw [IsBlank, String.toList_append, List.forall_mem_append]
  exact ⟨blank, joint⟩

theorem length_append_block (indent : String) (last : Bool) :
    (indent ++ block last).toList.length = indent.toList.length + 4 := by
  rw [String.toList_append, List.length_append]
  cases last <;> rfl

theorem marginWidth_render {indent : String} {tree : CallerTree} (blank : IsBlank indent)
    (legible : tree.Legible showFile) (rest : List Char) :
    marginWidth ((render showFile indent tree).toList ++ rest) = indent.toList.length := by
  rw [toList_render, List.append_assoc, List.append_assoc, marginWidth,
    List.takeWhile_append_of_pos blank]
  have start := isMargin_of_mem_head?_title legible
    ('\n' :: (renderAll showFile indent tree.callers).toList ++ rest)
  cases heading : tree.title showFile ++
      ('\n' :: (renderAll showFile indent tree.callers).toList ++ rest) with
  | nil => simp
  | cons first behind =>
    rw [heading] at start
    rw [List.takeWhile_cons_of_neg (by simp [start first rfl]), List.append_nil]

theorem marginWidth_renderAll_cons {indent : String} {caller : CallerTree}
    (blank : IsBlank indent) (readable : caller.Readable showFile) (callers : List CallerTree)
    (rest : List Char) :
    marginWidth ((renderAll showFile indent (caller :: callers)).toList ++ rest) =
      indent.toList.length + 4 := by
  rw [toList_renderAll_cons, List.append_assoc,
    marginWidth_render (blank.append_block _) (readable_iff.mp readable).1, length_append_block]

/-- Behind a caller comes its next sibling, or what stands behind all of them. -/
theorem marginWidth_renderAll_le {indent : String} (blank : IsBlank indent)
    {callers : List CallerTree} (readable : ∀ caller ∈ callers, caller.Readable showFile)
    {rest : List Char} (left : marginWidth rest ≤ indent.toList.length) :
    marginWidth ((renderAll showFile indent callers).toList ++ rest) ≤
      indent.toList.length + 4 := by
  cases callers with
  | nil => exact left.trans (Nat.le_add_right _ _)
  | cons caller others =>
    exact (marginWidth_renderAll_cons blank (readable caller List.mem_cons_self) others rest).le

mutual

/-- A tree can be told from what stands behind it, as long as that begins no further right. -/
theorem render_append_inj : (tree other : CallerTree) → {indent margin : String} →
    {rest behind : List Char} → tree.Readable showFile → other.Readable showFile →
    IsBlank indent → IsBlank margin → indent.toList.length = margin.toList.length →
    marginWidth rest ≤ indent.toList.length → marginWidth behind ≤ indent.toList.length →
    (render showFile indent tree).toList ++ rest = (render showFile margin other).toList ++ behind →
    tree.shown showFile = other.shown showFile ∧ rest = behind
  | ⟨name, file, callers⟩, ⟨twin, place, others⟩, indent, margin, rest, behind, readable, clear,
      blank, empty, wide, left, back, same => by
    obtain ⟨legible, below⟩ := readable_iff.mp readable
    obtain ⟨plain, above⟩ := readable_iff.mp clear
    rw [toList_render, toList_render, List.append_assoc, List.append_assoc, List.append_assoc,
      List.append_assoc, List.cons_append, List.cons_append,
      line_append_inj blank empty legible plain] at same
    obtain ⟨indents, ⟨names, files⟩, later⟩ := same
    obtain rfl := String.toList_inj.mp indents
    obtain ⟨forests, rests⟩ := renderAll_append_inj callers others below above blank left back later
    rw [shown_eq, shown_eq]
    exact ⟨congr (congr (congrArg mk names) files) forests, rests⟩

/-- The same for the callers of a function, where what stands behind them begins further left. -/
theorem renderAll_append_inj : (callers others : List CallerTree) → {indent : String} →
    {rest behind : List Char} → (∀ caller ∈ callers, caller.Readable showFile) →
    (∀ other ∈ others, other.Readable showFile) → IsBlank indent →
    marginWidth rest ≤ indent.toList.length → marginWidth behind ≤ indent.toList.length →
    (renderAll showFile indent callers).toList ++ rest =
      (renderAll showFile indent others).toList ++ behind →
    callers.map (shown showFile) = others.map (shown showFile) ∧ rest = behind
  | [], [], _, _, _, _, _, _, _, _, same => ⟨rfl, same⟩
  | [], other :: others, indent, rest, behind, _, clear, blank, left, _, same => by
    have wide := marginWidth_renderAll_cons blank (clear other List.mem_cons_self) others behind
    rw [← same] at wide
    exact absurd (wide ▸ left : _ ≤ indent.toList.length) (by omega)
  | caller :: callers, [], indent, rest, behind, readable, _, blank, _, back, same => by
    have wide := marginWidth_renderAll_cons blank (readable caller List.mem_cons_self) callers rest
    rw [same] at wide
    exact absurd (wide ▸ back : _ ≤ indent.toList.length) (by omega)
  | caller :: callers, other :: others, indent, rest, behind, readable, clear, blank, left, back,
      same => by
    obtain ⟨first, later⟩ := List.forall_mem_cons.mp readable
    obtain ⟨second, further⟩ := List.forall_mem_cons.mp clear
    rw [toList_renderAll_cons, toList_renderAll_cons, List.append_assoc, List.append_assoc] at same
    obtain ⟨trees, rests⟩ := render_append_inj caller other first second (blank.append_block _)
      (blank.append_block _) (by rw [length_append_block, length_append_block])
      (by rw [length_append_block]; exact marginWidth_renderAll_le blank later left)
      (by rw [length_append_block]; exact marginWidth_renderAll_le blank further back) same
    obtain ⟨forests, ends⟩ :=
      renderAll_append_inj callers others later further blank left back rests
    rw [List.map_cons, List.map_cons, trees, forests]
    exact ⟨rfl, ends⟩

end

theorem newline_notMem_margin (tree : CallerTree) (address : List Nat) :
    '\n' ∉ tree.margin address := by
  have clean (last : Bool) : '\n' ∉ (block last).toList := by cases last <;> simp [block]
  rw [margin, List.mem_flatMap]
  rintro ⟨depth, -, inside⟩
  exact clean _ inside

/-- A text falls back into the lines of its functions, with nothing behind the last of them. -/
theorem splitOn_render {tree : CallerTree} (readable : tree.Readable showFile) :
    (render showFile "" tree).toList.splitOn '\n' =
      tree.spots.map (fun spot => tree.margin spot.1 ++ spot.2.title showFile) ++ [[]] := by
  have joined (lines : List (List Char)) :
      lines.flatMap (· ++ ['\n']) = ['\n'].intercalate (lines ++ [[]]) := by
    induction lines with
    | nil => rfl
    | cons line rest inductionHypothesis =>
      rw [List.flatMap_cons, inductionHypothesis, List.cons_append,
        List.intercalate_cons_of_ne_nil (by simp), List.append_assoc]
  have whole : (render showFile "" tree).toList = ['\n'].intercalate
      (tree.spots.map (fun spot => tree.margin spot.1 ++ spot.2.title showFile) ++ [[]]) := by
    rw [toList_render_eq_flatMap, ← joined, List.flatMap_map]
    simp
  have unbroken : ∀ line ∈ tree.spots.map (fun spot =>
      tree.margin spot.1 ++ spot.2.title showFile) ++ [[]], '\n' ∉ line := by
    rw [List.forall_mem_append, List.forall_mem_map, List.forall_mem_singleton]
    refine ⟨fun spot member => ?_, List.not_mem_nil⟩
    rw [List.mem_append, not_or]
    exact ⟨newline_notMem_margin tree spot.1, newline_notMem_title (readable spot member)⟩
  rw [whole, List.splitOn_intercalate _ unbroken (by simp)]

end CallerTree

/-- The texts of two trees are the same exactly if the trees have the same shape, the same names
and the same files as shown. A text has a line for each function, in the order of the addresses,
with a margin of one block for each step on the way to the function. -/
theorem callerText_tells_tree {showFile : String → String} {tree other : CallerTree}
    (readable : tree.Readable showFile) (clear : other.Readable showFile) :
    (CallerTree.render showFile "" tree = CallerTree.render showFile "" other ↔
      tree.shown showFile = other.shown showFile) ∧
    (CallerTree.render showFile "" tree).toList.splitOn '\n' =
      tree.spots.map (fun spot => tree.margin spot.1 ++ spot.2.title showFile) ++ [[]] ∧
    (∀ address node, (address, node) ∈ tree.spots ↔ tree.at? address = some node) ∧
    tree.spots.Pairwise fun one two => one.1 < two.1 := by
  have apart : CallerTree.render showFile "" tree = CallerTree.render showFile "" other ↔
      tree.shown showFile = other.shown showFile := by
    have blank : CallerTree.IsBlank "" := fun _ member => absurd member List.not_mem_nil
    constructor
    · intro same
      have texts := congrArg (String.toList · ++ []) same
      exact (CallerTree.render_append_inj tree other readable clear blank blank rfl
        (Nat.zero_le _) (Nat.zero_le _) texts).1
    · intro same
      rw [← CallerTree.render_shown, same, CallerTree.render_shown]
  exact ⟨apart, CallerTree.splitOn_render readable, fun _ _ => CallerTree.mem_spots_iff,
    tree.pairwise_spots⟩

/-- Two callers beside each other, one of which has a caller without a name. -/
def forkedCallers : CallerTree :=
  ⟨"low", "a.js", [⟨"mid()", "a.js", [⟨"", "b.js", []⟩]⟩, ⟨"top [", "c.js", []⟩]⟩

/-- The same functions one above the other. -/
def stackedCallers : CallerTree :=
  ⟨"low", "a.js", [⟨"mid()", "a.js", [⟨"", "b.js", [⟨"top [", "c.js", []⟩]⟩]⟩]⟩

theorem callerText_tells_tree_forkedCallers :
    forkedCallers.Readable id ∧ stackedCallers.Readable id ∧
      CallerTree.render id "" forkedCallers ≠ CallerTree.render id "" stackedCallers ∧
      ((CallerTree.render id "" forkedCallers).toList.splitOn '\n').map String.ofList =
        ["low() [a.js]", "│   mid()() [a.js]", "│       () [b.js]", "    top [() [c.js]", ""] := by
  have readable : forkedCallers.Readable id := by decide +kernel
  have clear : stackedCallers.Readable id := by decide +kernel
  obtain ⟨apart, lines, _⟩ := callerText_tells_tree readable clear
  refine ⟨readable, clear, fun same => ?_, ?_⟩
  · have callers := congrArg (·.callers.length) (apart.mp same)
    exact absurd callers (by decide)
  · rw [lines]
    decide +kernel

end Tangle
