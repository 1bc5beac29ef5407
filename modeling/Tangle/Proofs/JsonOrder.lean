/-
This file is about the order in which the members of objects are written down. Two
values that differ in nothing else, at any depth, have one and the same sorted form,
provided that no object has a key twice; and sorting a value changes nothing else.
-/

import Tangle.Json.Writer
import Mathlib.Data.List.Lex
import Mathlib.Data.List.Nodup

namespace Tangle

/-! ### Keys -/

namespace Text.CodePoint

/-- Keys are compared by the numbers of their code points. -/
theorem lexLe_iff {first second : List CodePoint} :
    lexLe first second ↔ first.map value ≤ second.map value := by
  induction first generalizing second with
  | nil => simp [lexLe, ← not_lt]
  | cons point rest inductionHypothesis =>
    cases second with
    | nil => simp [lexLe, ← not_lt]
    | cons other behind =>
      simp only [← not_lt] at inductionHypothesis
      rw [lexLe, List.map_cons, List.map_cons, ← not_lt, List.cons_lt_cons_iff]
      split_ifs with less more
      · simp [less.ne', less.le]
      · simp [more]
      · simp [Nat.le_antisymm (Nat.not_lt.mp less) (Nat.not_lt.mp more), inductionHypothesis]

/-- Code points of which none is a surrogate that stands alone. -/
def IsText (points : List CodePoint) : Prop :=
  ∃ text : List Char, points = text.map scalar

theorem IsText.eq_of_map_value {first second : List CodePoint} (here : IsText first)
    (there : IsText second) (same : first.map value = second.map value) : first = second := by
  obtain ⟨text, rfl⟩ := here
  obtain ⟨other, rfl⟩ := there
  have injective : Function.Injective (value ∘ scalar) := fun _ _ => Char.toNat_inj.mp
  rw [List.map_map, List.map_map] at same
  rw [injective.list_map same]

end Text.CodePoint

namespace Json

open Text (CodePoint)

/-! ### Values that differ in the order of members -/

/-- A value without fractions and exponents, without surrogates that stand alone, and with each key
once in an object. -/
inductive Plain : Json → Prop where
  | null : Plain .null
  | bool (value : Bool) : Plain (.bool value)
  | int (value : Int) : Plain (.int value)
  | str {text : List CodePoint} (scalar : CodePoint.IsText text) : Plain (.str text)
  | arr {items : List Json} (each : ∀ item ∈ items, Plain item) : Plain (.arr items)
  | obj {members : List (List CodePoint × Json)} (unique : (members.map (·.1)).Nodup)
      (keys : ∀ member ∈ members, CodePoint.IsText member.1)
      (values : ∀ member ∈ members, Plain member.2) : Plain (.obj members)

/-- The second value is the first one with the members of its objects, at whatever depth, in
another order. -/
inductive Reordered : Json → Json → Prop where
  | refl (json : Json) : Reordered json json
  | trans {first second third : Json} :
      Reordered first second → Reordered second third → Reordered first third
  | moved {members others : List (List CodePoint × Json)} :
      members.Perm others → Reordered (.obj members) (.obj others)
  | item {value other : Json} (before behind : List Json) :
      Reordered value other →
        Reordered (.arr (before ++ value :: behind)) (.arr (before ++ other :: behind))
  | member {value other : Json} (before behind : List (List CodePoint × Json))
      (key : List CodePoint) : Reordered value other →
        Reordered (.obj (before ++ (key, value) :: behind)) (.obj (before ++ (key, other) :: behind))

/-- The number stands somewhere in the value. -/
inductive Holds (number : Int) : Json → Prop where
  | here : Holds number (.int number)
  | item {items : List Json} {item : Json} :
      item ∈ items → Holds number item → Holds number (.arr items)
  | member {members : List (List CodePoint × Json)} {member : List CodePoint × Json} :
      member ∈ members → Holds number member.2 → Holds number (.obj members)

theorem holds_arr_iff {number : Int} {items : List Json} :
    Holds number (.arr items) ↔ ∃ item ∈ items, Holds number item := by
  constructor
  · rintro (_ | ⟨inside, holds⟩)
    exact ⟨_, inside, holds⟩
  · rintro ⟨item, inside, holds⟩
    exact .item inside holds

theorem holds_obj_iff {number : Int} {members : List (List CodePoint × Json)} :
    Holds number (.obj members) ↔ ∃ member ∈ members, Holds number member.2 := by
  constructor
  · rintro (_ | _ | ⟨inside, holds⟩)
    exact ⟨_, inside, holds⟩
  · rintro ⟨member, inside, holds⟩
    exact .member inside holds

namespace Reordered

variable {json other : Json} (same : json.Reordered other)
include same

theorem plain (plain : json.Plain) : other.Plain := by
  induction same with
  | refl => exact plain
  | trans _ _ first second => exact second (first plain)
  | moved perm =>
    cases plain with
    | obj unique keys values =>
      exact .obj ((perm.map _).nodup_iff.mp unique)
        (fun member inside => keys member (perm.mem_iff.mpr inside))
        (fun member inside => values member (perm.mem_iff.mpr inside))
  | item before behind _ inductionHypothesis =>
    cases plain with
    | arr each =>
      rw [List.forall_mem_append, List.forall_mem_cons] at each
      refine .arr ?_
      rw [List.forall_mem_append, List.forall_mem_cons]
      exact ⟨each.1, inductionHypothesis each.2.1, each.2.2⟩
  | member before behind key _ inductionHypothesis =>
    cases plain with
    | obj unique keys values =>
      rw [List.forall_mem_append, List.forall_mem_cons] at keys values
      refine .obj (by simpa using unique) ?_ ?_
      · rw [List.forall_mem_append, List.forall_mem_cons]
        exact keys
      · rw [List.forall_mem_append, List.forall_mem_cons]
        exact ⟨values.1, inductionHypothesis values.2.1, values.2.2⟩

theorem holds_iff {number : Int} : Holds number json ↔ Holds number other := by
  induction same with
  | refl => exact Iff.rfl
  | trans _ _ first second => exact first.trans second
  | moved perm => simp only [holds_obj_iff, perm.mem_iff]
  | item before behind _ inductionHypothesis =>
    simp only [holds_arr_iff, List.mem_append, List.mem_cons, or_and_right, exists_or,
      exists_eq_left, inductionHypothesis]
  | member before behind key _ inductionHypothesis =>
    simp only [holds_obj_iff, List.mem_append, List.mem_cons, or_and_right, exists_or,
      exists_eq_left, inductionHypothesis]

end Reordered

/-! ### Sorting -/

theorem sortedItems_eq_map (items : List Json) : sortedItems items = items.map sorted := by
  induction items with
  | nil => rw [sortedItems, List.map_nil]
  | cons item rest inductionHypothesis => rw [sortedItems, inductionHypothesis, List.map_cons]

theorem sortedMembers_eq_map (members : List (List CodePoint × Json)) :
    sortedMembers members = members.map fun member => (member.1, member.2.sorted) := by
  induction members with
  | nil => rw [sortedMembers, List.map_nil]
  | cons member rest inductionHypothesis =>
    rw [sortedMembers, inductionHypothesis, List.map_cons]

theorem reordered_arr_map {change : Json → Json} {items : List Json}
    (each : ∀ item ∈ items, item.Reordered (change item)) (before : List Json) :
    (arr (before ++ items)).Reordered (.arr (before ++ items.map change)) := by
  induction items generalizing before with
  | nil => exact .refl _
  | cons item rest inductionHypothesis =>
    obtain ⟨here, behind⟩ := List.forall_mem_cons.mp each
    have next := inductionHypothesis behind (before ++ [change item])
    rw [List.append_assoc, List.append_assoc] at next
    exact .trans (.item before rest here) next

theorem reordered_obj_map {change : Json → Json} {members : List (List CodePoint × Json)}
    (each : ∀ member ∈ members, member.2.Reordered (change member.2))
    (before : List (List CodePoint × Json)) :
    (obj (before ++ members)).Reordered
      (.obj (before ++ members.map fun member => (member.1, change member.2))) := by
  induction members generalizing before with
  | nil => exact .refl _
  | cons member rest inductionHypothesis =>
    obtain ⟨here, behind⟩ := List.forall_mem_cons.mp each
    have next := inductionHypothesis behind (before ++ [(member.1, change member.2)])
    rw [List.append_assoc, List.append_assoc] at next
    exact .trans (.member before rest member.1 here) next

/-- Sorting a value only moves members. -/
theorem Plain.reordered_sorted {json : Json} (plain : json.Plain) : json.Reordered json.sorted := by
  induction plain with
  | null | bool | int | str => exact .refl _
  | arr _ inductionHypothesis =>
    rw [sorted, sortedItems_eq_map]
    exact reordered_arr_map inductionHypothesis []
  | obj _ _ _ inductionHypothesis =>
    rw [sorted, sortedMembers_eq_map]
    exact .trans (reordered_obj_map inductionHypothesis []) (.moved (List.mergeSort_perm _ _).symm)

theorem pairwise_mergeSort_lexLe (members : List (List CodePoint × Json)) :
    (members.mergeSort fun a b => CodePoint.lexLe a.1 b.1).Pairwise fun a b =>
      a.1.map CodePoint.value ≤ b.1.map CodePoint.value := by
  refine (List.pairwise_mergeSort ?_ ?_ members).imp CodePoint.lexLe_iff.mp
  · intro first second third
    simp only [CodePoint.lexLe_iff]
    exact le_trans
  · intro first second
    rw [Bool.or_eq_true, CodePoint.lexLe_iff, CodePoint.lexLe_iff]
    exact le_total _ _

/-- Members with keys of their own have one sorted order. -/
theorem mergeSort_eq_of_perm {members others : List (List CodePoint × Json)}
    (perm : members.Perm others) (unique : (members.map (·.1)).Nodup)
    (keys : ∀ member ∈ members, CodePoint.IsText member.1) :
    (members.mergeSort fun a b => CodePoint.lexLe a.1 b.1) =
      others.mergeSort fun a b => CodePoint.lexLe a.1 b.1 := by
  refine List.Perm.eq_of_pairwise ?_ (pairwise_mergeSort_lexLe members)
    (pairwise_mergeSort_lexLe others)
    ((List.mergeSort_perm _ _).trans (perm.trans (List.mergeSort_perm _ _).symm))
  intro first second here there less more
  rw [List.mem_mergeSort] at here there
  have held : second ∈ members := perm.mem_iff.mpr there
  have key := (keys first here).eq_of_map_value (keys second held) (le_antisymm less more)
  exact List.inj_on_of_nodup_map unique here held key

/-- The order of the members leaves no trace in the sorted form. -/
theorem Reordered.sorted_eq {json other : Json} (same : json.Reordered other)
    (plain : json.Plain) : json.sorted = other.sorted := by
  induction same with
  | refl => rfl
  | trans first _ one two => exact (one plain).trans (two (first.plain plain))
  | moved perm =>
    cases plain with
    | obj unique keys values =>
      rw [sorted, sorted, sortedMembers_eq_map, sortedMembers_eq_map]
      refine congrArg obj (mergeSort_eq_of_perm (perm.map _) ?_ ?_)
      · rwa [List.map_map]
      · exact List.forall_mem_map.mpr keys
  | item before behind _ inductionHypothesis =>
    cases plain with
    | arr each =>
      have inside := inductionHypothesis (each _ (List.mem_append_right _ List.mem_cons_self))
      rw [sorted, sorted, sortedItems_eq_map, sortedItems_eq_map, List.map_append, List.map_append,
        List.map_cons, List.map_cons, inside]
  | member before behind key _ inductionHypothesis =>
    cases plain with
    | obj unique keys values =>
      have inside := inductionHypothesis (values _ (List.mem_append_right _ List.mem_cons_self))
      rw [sorted, sorted, sortedMembers_eq_map, sortedMembers_eq_map, List.map_append,
        List.map_append, List.map_cons, List.map_cons, inside]

end Json

end Tangle
