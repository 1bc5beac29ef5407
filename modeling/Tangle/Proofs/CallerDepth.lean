/-
This file says what the depth limit does to a tree of callers. A higher limit only
adds levels: below the lower limit, both trees hold the same functions in the same
order. And from some limit on nothing is added any more. On every way from the root
each name stands once, and only functions of the table are gone on from, so no way
gets higher than the table has functions.
-/

import Tangle.Proofs.CallerPaths

namespace Tangle.CallerTree

/-- The tree up to a number of levels above its root. -/
def cut : (levels : Nat) → CallerTree → CallerTree
  | 0, tree => ⟨tree.name, tree.file, []⟩
  | levels + 1, tree => ⟨tree.name, tree.file, tree.callers.map (cut levels)⟩

/-! ### One level -/

variable (table : CallTable) (graph : CallGraph)

/-- The file that is shown for a name. -/
def fileOf (name : String) : String :=
  ((Ordered.get? table name).map (·.file)).getD unknownFile

/-- The callers that are grown above a name: those of a function in the table that do not stand on
the way to it. -/
def grown (path : List String) (name : String) : List String :=
  if name ∈ table.names then (graph.callersOf name).filter (· ∉ name :: path) else []

theorem grow_zero (path : List String) (name : String) :
    grow table graph 0 path name = ⟨name, fileOf table name, []⟩ := by
  rw [grow, fileOf]
  cases Ordered.get? table name <;> rfl

theorem grow_succ (depth : Nat) (path : List String) (name : String) :
    grow table graph (depth + 1) path name =
      ⟨name, fileOf table name,
        (grown table graph path name).map (grow table graph depth (name :: path))⟩ := by
  rw [grow, fileOf, grown]
  have defined := CallTable.get?_isSome_iff table name
  cases found : Ordered.get? table name with
  | none =>
    rw [found] at defined
    rw [if_neg fun known => Bool.false_ne_true (defined.mpr known)]
    rfl
  | some definition =>
    rw [found] at defined
    rw [if_pos (defined.mp rfl)]
    simp

variable {table graph}

/-- What is grown above a name keeps the way without repetitions and in the table. -/
theorem onward_of_mem_grown {path : List String} {name caller : String}
    (fresh : (name :: path).Nodup) (known : path ⊆ table.names)
    (member : caller ∈ grown table graph path name) :
    (caller :: name :: path).Nodup ∧ name :: path ⊆ table.names := by
  rw [grown] at member
  split at member
  next defined =>
    have new := of_decide_eq_true (List.mem_filter.mp member).2
    exact ⟨List.nodup_cons.mpr ⟨new, fresh⟩, List.cons_subset.mpr ⟨defined, known⟩⟩
  next => cases member

/-! ### Whole trees -/

/-- The lower tree is the higher one up to its limit. -/
theorem cut_grow {less more : Nat} (le : less ≤ more) (path : List String) (name : String) :
    (grow table graph more path name).cut less = grow table graph less path name := by
  induction less generalizing more path name with
  | zero =>
    rw [cut, grow_zero]
    cases more with
    | zero => rw [grow_zero]
    | succ more => rw [grow_succ]
  | succ less inductionHypothesis =>
    obtain ⟨more, rfl⟩ := Nat.exists_eq_add_of_lt le
    rw [grow_succ, grow_succ, cut, List.map_map]
    congr 1
    refine List.map_congr_left fun caller _ => ?_
    exact inductionHypothesis (Nat.le_add_right less more) (name :: path) caller

/-- Where the way and the levels that are left have room for the whole table, one level more adds
nothing. -/
theorem grow_succ_eq_grow {depth : Nat} {path : List String} {name : String}
    (room : table.length ≤ depth + path.length) (fresh : (name :: path).Nodup)
    (known : path ⊆ table.names) :
    grow table graph (depth + 1) path name = grow table graph depth path name := by
  induction depth generalizing path name with
  | zero =>
    have nothing : grown table graph path name = [] := by
      rw [List.eq_nil_iff_forall_not_mem]
      intro caller member
      have inside := (onward_of_mem_grown fresh known member).2
      -- The way to a caller would be longer than the table.
      have bound := List.Nodup.length_le_of_subset fresh inside
      rw [CallTable.names, List.length_map, List.length_cons] at bound
      omega
    rw [grow_succ, grow_zero, nothing, List.map_nil]
  | succ depth inductionHypothesis =>
    rw [grow_succ, grow_succ _ _ depth]
    congr 1
    refine List.map_congr_left fun caller member => ?_
    obtain ⟨onward, inside⟩ := onward_of_mem_grown fresh known member
    exact inductionHypothesis (by rw [List.length_cons]; omega) onward inside

theorem grow_eq_of_length_le {depth : Nat} (enough : table.length ≤ depth) (name : String) :
    grow table graph depth [] name = grow table graph table.length [] name := by
  induction depth, enough using Nat.le_induction with
  | base => rfl
  | succ depth enough inductionHypothesis =>
    rw [grow_succ_eq_grow enough (List.nodup_singleton name) (List.nil_subset _),
      inductionHypothesis]

end CallerTree

/-- Deepening only adds levels, and none from the size of the table on. The graph need not be that
of the table. -/
theorem ofTable_deepened (table : CallTable) (graph : CallGraph) (target : String) :
    (∀ limit higher : Int, limit ≤ higher →
      CallerTree.ofTable table graph target limit =
        (CallerTree.ofTable table graph target higher).cut limit.toNat) ∧
    ∀ limit : Int, table.length ≤ limit →
      CallerTree.ofTable table graph target limit =
        CallerTree.ofTable table graph target table.length := by
  constructor
  · intro limit higher le
    exact (CallerTree.cut_grow (Int.toNat_le_toNat le) [] target).symm
  · intro limit enough
    exact CallerTree.grow_eq_of_length_le (by omega) target

/-- Above the first level the callers of callers are cut off; three levels are enough for three
functions, though two of them call each other. -/
theorem ofTable_deepened_mutualCalls :
    let graph := CallGraph.ofTable mutualCalls
    let tree := CallerTree.ofTable mutualCalls graph "ping"
    tree 1 = (tree 20).cut 1 ∧ (tree 1).paths = [["ping", "pong"], ["ping", "main"]] ∧
      (tree 20).paths = [["ping", "pong", "main"], ["ping", "main"]] ∧ tree 20 = tree 3 := by
  intro graph tree
  have deepened := ofTable_deepened mutualCalls graph "ping"
  exact ⟨deepened.1 1 20 (by decide), by decide, by decide, deepened.2 20 (by decide)⟩

end Tangle
