/-
This file says when the graph files of a source have names of their own. A function
takes its own name for its file; when that is taken, its line is added, and nobody
asks whether the longer name is taken as well. So two files get the same name when
two functions that had to add their lines stand on the same line, or when some
function happens to be called what an earlier one would be called with its line.
There is no other way.
-/

import Tangle.GraphFile
import Tangle.Proofs.Chart

namespace Tangle.GraphFile

/-! ### Names that are taken -/

/-- The name of a function with its line, which it takes when its own name is taken. -/
def marked (function : String × Int) : String :=
  base function.1 ++ "_L" ++ toString function.2

/-- The names that functions take, one after the other: a function takes its own name, unless it is
taken already, and with its line otherwise. -/
inductive Taken : List (String × Int) → String → Prop
  | own {functions : List (String × Int)} {function : String × Int} (member : function ∈ functions) :
      Taken functions (base function.1)
  | withLine {before after : List (String × Int)} {function : String × Int}
      (earlier : Taken before (base function.1)) :
      Taken (before ++ function :: after) (marked function)

/-- Two functions get the same name: both had to add the line that they share, or the one that
comes first is called what the other one is called with its line. -/
def Clashes (functions : List (String × Int)) : Prop :=
  ∃ before first between second after,
    functions = before ++ first :: (between ++ second :: after) ∧
      (Taken before (base first.1) ∧ base first.1 = base second.1 ∧ first.2 = second.2 ∨
        Taken (before ++ first :: between) (base second.1) ∧ base first.1 = marked second)

/-! ### The names one after the other -/

/-- The names for several functions without their ending. -/
def stems (used : List String) : List (String × Int) → List String
  | [] => []
  | function :: rest =>
    let name := stem used function.1 function.2
    name :: stems (take used name) rest

theorem names_eq_map_stems (used : List String) (functions : List (String × Int)) :
    (names used functions).1 = (stems used functions).map (· ++ ending) := by
  induction functions generalizing used with
  | nil => rfl
  | cons function rest inductionHypothesis =>
    rw [names, stems, List.map_cons, ← inductionHypothesis]

theorem length_stems (used : List String) (functions : List (String × Int)) :
    (stems used functions).length = functions.length := by
  induction functions generalizing used with
  | nil => rfl
  | cons function rest inductionHypothesis => exact congrArg (· + 1) (inductionHypothesis _)

theorem mem_take_iff {used : List String} {name other : String} :
    other ∈ take used name ↔ other ∈ used ∨ other = name := by
  rw [take]
  by_cases known : used.contains name = true
  · rw [if_pos known]
    refine ⟨.inl, ?_⟩
    rintro (member | rfl)
    · exact member
    · exact List.contains_iff_mem.mp known
  · rw [if_neg known, List.mem_append, List.mem_singleton]

/-- The last of several functions is named by the names taken before it. -/
theorem stems_concat (used : List String) (before : List (String × Int))
    (function : String × Int) :
    stems used (before ++ [function]) = stems used before ++
      [if base function.1 ∈ used ∨ base function.1 ∈ stems used before then marked function
        else base function.1] := by
  induction before generalizing used with
  | nil => simp [stems, stem, marked]
  | cons first rest inductionHypothesis =>
    rw [List.cons_append, stems, inductionHypothesis, stems, List.cons_append]
    simp only [mem_take_iff, List.mem_cons, or_assoc]

/-- Something in a list with another item at its end is that item, or stands before it. -/
theorem concat_eq_append_cons {α : Type} {before front behind : List α} {last item : α}
    (same : before ++ [last] = front ++ item :: behind) :
    (behind = [] ∧ before = front ∧ last = item) ∨
      ∃ between, behind = between ++ [last] ∧ before = front ++ item :: between := by
  rcases behind.eq_nil_or_concat' with rfl | ⟨between, final, rfl⟩
  · obtain ⟨fronts, items⟩ := List.append_inj' same rfl
    exact .inl ⟨rfl, fronts, (List.cons.inj items).1⟩
  · rw [← List.cons_append, ← List.append_assoc] at same
    obtain ⟨fronts, items⟩ := List.append_inj' same rfl
    exact .inr ⟨between, by rw [(List.cons.inj items).1], fronts⟩

theorem taken_concat {before : List (String × Int)} {function : String × Int} {name : String} :
    Taken (before ++ [function]) name ↔ Taken before name ∨ base function.1 = name ∨
      Taken before (base function.1) ∧ marked function = name := by
  constructor
  · intro taken
    generalize functions : before ++ [function] = all at taken
    cases taken with
    | own member =>
      rw [← functions, List.mem_append, List.mem_singleton] at member
      rcases member with member | rfl
      · exact .inl (.own member)
      · exact .inr (.inl rfl)
    | @withLine earlier later other taken =>
      rcases concat_eq_append_cons functions with ⟨-, rfl, rfl⟩ | ⟨between, -, rfl⟩
      · exact .inr (.inr ⟨taken, rfl⟩)
      · exact .inl (.withLine taken)
  · rintro (taken | rfl | ⟨taken, rfl⟩)
    · cases taken with
      | own member => exact .own (List.mem_append_left _ member)
      | withLine earlier =>
        rw [List.append_assoc, List.cons_append]
        exact .withLine earlier
    · exact .own (by simp)
    · exact .withLine taken

/-- A name is given to one of the functions exactly if it is taken by them. -/
theorem mem_stems_iff {functions : List (String × Int)} {name : String} :
    name ∈ stems [] functions ↔ Taken functions name := by
  induction functions using List.reverseRecOn generalizing name with
  | nil =>
    refine ⟨fun member => absurd member List.not_mem_nil, fun taken => ?_⟩
    generalize nothing : [] = all at taken
    cases taken with
    | own member => exact absurd (nothing ▸ member) List.not_mem_nil
    | withLine => exact absurd nothing (by simp)
  | append_singleton before function inductionHypothesis =>
    rw [stems_concat, List.mem_append, List.mem_singleton, taken_concat, inductionHypothesis]
    by_cases taken : Taken before (base function.1)
    · rw [if_pos (.inr (inductionHypothesis.mpr taken))]
      constructor
      · rintro (old | rfl)
        · exact .inl old
        · exact .inr (.inr ⟨taken, rfl⟩)
      · rintro (old | rfl | ⟨-, rfl⟩)
        · exact .inl old
        · exact .inl taken
        · exact .inr rfl
    · rw [if_neg (by simpa [inductionHypothesis] using taken)]
      constructor
      · rintro (old | rfl)
        · exact .inl old
        · exact .inr (.inl rfl)
      · rintro (old | rfl | ⟨old, -⟩)
        · exact .inl old
        · exact .inr rfl
        · exact absurd old taken

/-- A name with a line tells the name and the line. -/
theorem marked_inj {first second : String × Int} :
    marked first = marked second ↔ base first.1 = base second.1 ∧ first.2 = second.2 := by
  constructor
  · intro same
    have letters (function : String × Int) : (marked function).toList =
        ((base function.1).toList ++ ['_']) ++ 'L' :: (toString function.2).toList := by
      simp [marked]
    have plain (number : Int) : 'L' ∉ (toString number).toList := fun member =>
      absurd (Mermaid.isNumeral_of_mem member) (by decide)
    have line (function : String × Int) :
        Text.afterLast 'L' (marked function).toList = (toString function.2).toList := by
      rw [letters, Text.afterLast_append_cons, Text.afterLast_eq_self (plain _)]
    have lines : first.2 = second.2 := by
      rw [← Mermaid.toString_inj, ← String.toList_inj, ← line, ← line, same]
    have bases := congrArg String.toList same
    rw [letters, letters, lines] at bases
    exact ⟨String.toList_inj.mp (List.append_cancel_right (List.append_cancel_right bases)), lines⟩
  · rintro ⟨bases, lines⟩
    rw [marked, marked, bases, lines]

/-! ### Clashes -/

theorem clashes_concat {before : List (String × Int)} {function : String × Int} :
    Clashes (before ++ [function]) ↔
      Clashes before ∨ Taken before (base function.1) ∧ Taken before (marked function) := by
  constructor
  · rintro ⟨front, first, between, second, after, same, clash⟩
    rw [← List.cons_append, ← List.append_assoc] at same
    rcases concat_eq_append_cons same with ⟨rfl, rfl, rfl⟩ | ⟨rest, rfl, rfl⟩
    · refine .inr ?_
      rcases clash with ⟨taken, bases, lines⟩ | ⟨taken, bases⟩
      · have member : first ∈ front ++ first :: between := by simp
        exact ⟨bases ▸ .own member, marked_inj.mpr ⟨bases, lines⟩ ▸ .withLine taken⟩
      · have member : first ∈ front ++ first :: between := by simp
        exact ⟨taken, bases ▸ .own member⟩
    · exact .inl ⟨front, first, between, second, rest, by simp, clash⟩
  · rintro (⟨front, first, between, second, after, rfl, clash⟩ | ⟨taken, again⟩)
    · exact ⟨front, first, between, second, after ++ [function], by simp, clash⟩
    · generalize name : marked function = other at again
      cases again with
      | own member =>
        obtain ⟨front, between, rfl⟩ := List.append_of_mem member
        exact ⟨front, _, between, function, [], by simp, .inr ⟨taken, name.symm⟩⟩
      | @withLine front between first earlier =>
        obtain ⟨bases, lines⟩ := marked_inj.mp name.symm
        exact ⟨front, first, between, function, [], by simp, .inl ⟨earlier, bases, lines⟩⟩

/-- Functions get names of their own exactly if there is no clash. -/
theorem nodup_stems_iff (functions : List (String × Int)) :
    (stems [] functions).Nodup ↔ ¬Clashes functions := by
  induction functions using List.reverseRecOn with
  | nil => simp [stems, Clashes]
  | append_singleton before function inductionHypothesis =>
    rw [stems_concat, List.nodup_append_comm, List.singleton_append, List.nodup_cons,
      inductionHypothesis, clashes_concat, not_or, and_comm, mem_stems_iff]
    by_cases taken : Taken before (base function.1)
    · rw [if_pos (.inr (mem_stems_iff.mpr taken))]
      simp [taken]
    · rw [if_neg (by simpa [mem_stems_iff] using taken)]
      simp [taken]

end Tangle.GraphFile
