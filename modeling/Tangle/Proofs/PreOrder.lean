/-
This file says what the walks over a tree meet, and in which order. A walk is written
as a recursion that leaves out whole subtrees. What it meets can be told without one:
a node is met if nothing on the way down to it is cut off, and nodes are met in the
order of their addresses. Addresses are compared like words, so that a node comes
before all that is below it, and that before all that is to the right.

The same walks can be taken without recursion, in a loop with a stack of the nodes
that are still to be looked at. Each round of the loop takes one node off the stack
and puts its children on it, so that what has been met and what is still ahead make
up the whole walk all the time.
-/

import Tangle.Proofs.Ownership

namespace Tangle

/-! ### The way to an address -/

namespace Node

/-- The nodes on the way to an address, from the root to what stands there. -/
def way (root : Node) (address : List Nat) : List Node :=
  address.inits.filterMap root.nodeAt?

theorem way_nil (root : Node) : root.way [] = [root] := rfl

theorem mem_way_iff {root passed : Node} {address : List Nat} :
    passed ∈ root.way address ↔ ∃ above, above <+: address ∧ root.nodeAt? above = some passed := by
  rw [way, List.mem_filterMap]
  simp only [List.mem_inits]

theorem mem_way_self (root : Node) (address : List Nat) : root ∈ root.way address :=
  mem_way_iff.mpr ⟨[], List.nil_prefix, rfl⟩

theorem way_cons {root child : Node} {number : Nat} (found : root.children[number]? = some child)
    (rest : List Nat) : root.way (number :: rest) = root :: child.way rest := by
  simp [way, nodeAt?, found, List.filterMap_map, Function.comp_def]

/-- A node as it is met on the way to its address. -/
def placeAt? (root : Node) (address : List Nat) : Option Place :=
  (root.nodeAt? address).map (⟨·, (root.way address).dropLast.reverse⟩)

end Node

/-! ### What walks meet -/

theorem Place.walkAll_eq_flatMap (cut : Node → Bool) (ancestors : List Node) (nodes : List Node) :
    walkAll cut ancestors nodes = nodes.flatMap (walk cut ancestors) := by
  induction nodes with
  | nil => rfl
  | cons node rest inductionHypothesis => rw [walkAll, inductionHypothesis, List.flatMap_cons]

namespace Node

variable (cut : Node → Bool)

/-- The spots to which there is a way without anything that is cut off. -/
def clearSpots (root : Node) : List Spot :=
  root.spots.filter fun spot => ∀ passed ∈ root.way spot.address, cut passed = false

/-- The spots below the root to which there is such a way from the root on. -/
def clearSpotsBelow (root : Node) : List Spot :=
  root.spots.filter fun spot =>
    spot.address ≠ [] ∧ ∀ passed ∈ (root.way spot.address).tail, cut passed = false

variable {cut}

theorem clearSpotsBelow_eq (root : Node) :
    root.clearSpotsBelow cut =
      root.children.zipIdx.flatMap fun child => (child.1.clearSpots cut).map (.under child.2) := by
  rw [clearSpotsBelow, filter_spots, List.filter_cons_of_neg (by simp), List.filter_nil,
    List.nil_append]
  refine List.flatMap_congr fun child among => ?_
  have found := List.mem_zipIdx_iff_getElem?.mp among
  simp [clearSpots, Function.comp_def, Spot.under, way_cons found]

theorem clearSpots_of_cut {root : Node} (isCut : cut root = true) : root.clearSpots cut = [] := by
  rw [clearSpots, List.filter_eq_nil_iff]
  intro spot _ clear
  rw [of_decide_eq_true clear root (root.mem_way_self _)] at isCut
  cases isCut

theorem clearSpots_of_not_cut {root : Node} (uncut : cut root ≠ true) :
    root.clearSpots cut = ⟨[], root⟩ :: root.clearSpotsBelow cut := by
  rw [clearSpotsBelow_eq, clearSpots, filter_spots,
    List.filter_cons_of_pos (by simpa [way_nil] using uncut), List.filter_nil,
    List.singleton_append]
  refine congrArg (_ :: ·) (List.flatMap_congr fun child among => ?_)
  have found := List.mem_zipIdx_iff_getElem?.mp among
  simp [clearSpots, Function.comp_def, Spot.under, way_cons found, uncut]

end Node

namespace Place

variable {cut : Node → Bool} {ancestors : List Node} {node : Node}

theorem walk_of_cut (isCut : cut node = true) : walk cut ancestors node = [] := by
  cases node
  rw [walk, if_pos isCut]

theorem walk_of_not_cut (uncut : cut node ≠ true) :
    walk cut ancestors node =
      ⟨node, ancestors⟩ :: node.children.flatMap (walk cut (node :: ancestors)) := by
  cases node
  rw [walk, if_neg uncut, walkAll_eq_flatMap]

/-- A walk meets the places to which there is a clear way. -/
theorem walk_eq_map (cut : Node → Bool) (ancestors : List Node) (root : Node) :
    walk cut ancestors root = (root.clearSpots cut).map fun spot =>
      ⟨spot.node, (root.way spot.address).dropLast.reverse ++ ancestors⟩ := by
  induction root using Node.induction generalizing ancestors with
  | step root inductionHypothesis =>
    by_cases isCut : cut root = true
    · rw [walk_of_cut isCut, Node.clearSpots_of_cut isCut, List.map_nil]
    · rw [walk_of_not_cut isCut, Node.clearSpots_of_not_cut isCut, Node.clearSpotsBelow_eq,
        List.map_cons, List.map_flatMap, ← flatMap_zipIdx_fst root.children]
      refine congrArg (_ :: ·) (List.flatMap_congr fun child among => ?_)
      have found := List.mem_zipIdx_iff_getElem?.mp among
      rw [inductionHypothesis child.1 (List.mem_of_getElem? found), List.map_map]
      refine List.map_congr_left fun spot _ => ?_
      have deep := List.ne_nil_of_mem (child.1.mem_way_self spot.address)
      simp [Spot.under, Node.way_cons found, List.dropLast_cons_of_ne_nil deep]

end Place

namespace Node

theorem walk_eq_map (cut : Node → Bool) (root : Node) :
    root.walk cut = (root.clearSpots cut).map (·.node) := by
  rw [← Place.map_node_walk cut [], Place.walk_eq_map, List.map_map]
  rfl

/-- The nodes of a walk are those that can be reached without passing one that is cut off. -/
theorem mem_walk_iff {cut : Node → Bool} {root below : Node} :
    below ∈ root.walk cut ↔ ∃ address, root.nodeAt? address = some below ∧
      ∀ above, above <+: address → ∀ node, root.nodeAt? above = some node → cut node = false := by
  rw [walk_eq_map, List.mem_map]
  constructor
  · rintro ⟨spot, member, rfl⟩
    obtain ⟨listed, clear⟩ := List.mem_filter.mp member
    refine ⟨spot.address, mem_spots_iff.mp listed, fun above front node found => ?_⟩
    exact of_decide_eq_true clear node (mem_way_iff.mpr ⟨above, front, found⟩)
  · rintro ⟨address, found, uncut⟩
    refine ⟨⟨address, below⟩, List.mem_filter.mpr ⟨mem_spots_iff.mpr found, ?_⟩, rfl⟩
    refine decide_eq_true fun passed member => ?_
    obtain ⟨above, front, reached⟩ := mem_way_iff.mp member
    exact uncut above front passed reached

/-- A walk below a node meets what there is a clear way to from the node on. -/
theorem walkAll_children_eq_map (cut : Node → Bool) (root : Node) :
    walkAll cut root.children = (root.clearSpotsBelow cut).map (·.node) := by
  rw [walkAll_eq_flatMap, clearSpotsBelow_eq, List.map_flatMap, ← flatMap_zipIdx_fst root.children]
  refine List.flatMap_congr fun child _ => ?_
  rw [walk_eq_map, List.map_map]
  rfl

/-- A walk that stops nowhere gets to everything below a node. -/
theorem mem_descendants_false_iff {node below : Node} :
    below ∈ node.descendants false ↔
      ∃ address, address ≠ [] ∧ node.nodeAt? address = some below := by
  rw [descendants, walkAll_children_eq_map, List.mem_map]
  constructor
  · rintro ⟨spot, member, rfl⟩
    obtain ⟨listed, chosen⟩ := List.mem_filter.mp member
    exact ⟨spot.address, (of_decide_eq_true chosen).1, mem_spots_iff.mp listed⟩
  · rintro ⟨address, deep, found⟩
    refine ⟨⟨address, below⟩, List.mem_filter.mpr ⟨mem_spots_iff.mpr found, ?_⟩, rfl⟩
    exact decide_eq_true ⟨deep, fun _ _ => rfl⟩

end Node

/-! ### Walks without recursion -/

/-- A walk under way: the nodes that are still to be looked at, the next one last, and the nodes
that have been met. -/
structure Sweep where
  stack : List Node
  met : List Node

namespace Sweep

variable (cut keep : Node → Bool)

/-- Takes a node off the stack. Unless it is cut off, it is met if it is wanted, and its children
are put on the stack, the first of them last. -/
def step (sweep : Sweep) : Option Sweep :=
  sweep.stack.getLast?.map fun node =>
    if cut node then ⟨sweep.stack.dropLast, sweep.met⟩
    else ⟨sweep.stack.dropLast ++ node.children.reverse, sweep.met ++ [node].filter keep⟩

/-- What is wanted on and below the stack. -/
def ahead (sweep : Sweep) : List Node :=
  (Node.walkAll cut sweep.stack.reverse).filter keep

/-- The number of nodes on and below the stack. -/
def size (sweep : Sweep) : Nat :=
  (Node.walkAll (fun _ => false) sweep.stack.reverse).length

variable {cut keep} {sweep next : Sweep}

theorem step_cases (stepped : sweep.step cut keep = some next) :
    ∃ node rest, sweep.stack = rest ++ [node] ∧
      (cut node = true ∧ next = ⟨rest, sweep.met⟩ ∨
        cut node ≠ true ∧
          next = ⟨rest ++ node.children.reverse, sweep.met ++ [node].filter keep⟩) := by
  obtain ⟨node, last, rfl⟩ := Option.map_eq_some_iff.mp stepped
  obtain ⟨rest, parted⟩ := List.getLast?_eq_some_iff.mp last
  refine ⟨node, rest, parted, ?_⟩
  rw [parted, List.dropLast_concat]
  by_cases isCut : cut node = true
  · exact .inl ⟨isCut, if_pos isCut⟩
  · exact .inr ⟨isCut, if_neg isCut⟩

theorem stack_eq_nil_of_step (stopped : sweep.step cut keep = none) : sweep.stack = [] :=
  List.getLast?_eq_none_iff.mp (Option.map_eq_none_iff.mp stopped)

theorem walkAll_reverse_append (cut : Node → Bool) (rest nodes : List Node) :
    Node.walkAll cut (rest ++ nodes.reverse).reverse =
      Node.walkAll cut nodes ++ Node.walkAll cut rest.reverse := by
  simp only [Node.walkAll_eq_flatMap, List.reverse_append, List.reverse_reverse,
    List.flatMap_append]

/-- The walk of what is on the top of the stack comes first. -/
theorem walkAll_reverse_concat (cut : Node → Bool) (rest : List Node) (node : Node) :
    Node.walkAll cut (rest ++ [node]).reverse = node.walk cut ++ Node.walkAll cut rest.reverse := by
  rw [List.reverse_concat, Node.walkAll]

/-- With each step there is less on and below the stack. -/
theorem size_lt_of_step (stepped : sweep.step cut keep = some next) : next.size < sweep.size := by
  obtain ⟨node, rest, parted, taken⟩ := step_cases stepped
  have whole := @Node.walk_of_not_cut (fun _ => false) node Bool.false_ne_true
  have before : sweep.size =
      (Node.walkAll (fun _ => false) node.children).length + 1 +
        (Node.walkAll (fun _ => false) rest.reverse).length := by
    rw [size, parted, walkAll_reverse_concat, whole, List.length_append, List.length_cons,
      Node.walkAll_eq_flatMap _ node.children]
  obtain ⟨-, rfl⟩ | ⟨-, rfl⟩ := taken
  · rw [before, size]
    dsimp only
    omega
  · rw [before, size, walkAll_reverse_append, List.length_append]
    omega

/-- What has been met and what is ahead stay the same when put together. -/
theorem met_append_ahead_of_step (stepped : sweep.step cut keep = some next) :
    next.met ++ next.ahead cut keep = sweep.met ++ sweep.ahead cut keep := by
  obtain ⟨node, rest, parted, taken⟩ := step_cases stepped
  rw [ahead, ahead, parted, walkAll_reverse_concat]
  obtain ⟨isCut, rfl⟩ | ⟨uncut, rfl⟩ := taken
  · rw [Node.walk_of_cut isCut, List.nil_append]
  · rw [walkAll_reverse_append, Node.walk_of_not_cut uncut, ← Node.walkAll_eq_flatMap,
      List.append_assoc, List.cons_append, ← List.filter_append, List.singleton_append]

variable (cut keep)

/-- Goes on until the stack is empty. -/
def run (sweep : Sweep) : List Node :=
  match _ : sweep.step cut keep with
  | none => sweep.met
  | some next => next.run
termination_by sweep.size
decreasing_by exact size_lt_of_step ‹_›

theorem run_eq (sweep : Sweep) : sweep.run cut keep = sweep.met ++ sweep.ahead cut keep := by
  fun_induction run cut keep sweep with
  | case1 sweep stopped =>
    rw [ahead, stack_eq_nil_of_step stopped]
    exact (List.append_nil _).symm
  | case2 sweep next stepped inductionHypothesis =>
    rw [inductionHypothesis, met_append_ahead_of_step stepped]

end Sweep

/-! ### The walks of the analyses -/

/-- The items are what is seen at the addresses with which a condition holds, each of these
addresses once and in pre-order. -/
def InPreOrder {α : Type} (seen? : List Nat → Option α) (condition : List Nat → Prop)
    (items : List α) : Prop :=
  ∃ addresses : List (List Nat), addresses.Pairwise (· < ·) ∧
    (∀ address, address ∈ addresses ↔ condition address) ∧
    items.map some = addresses.map seen?

theorem Node.inPreOrder_filter_spots {α : Type} {root : Node} {chosen : Spot → Bool}
    {seen : Spot → α} {seen? : List Nat → Option α} {condition : List Nat → Prop}
    (shown : ∀ spot ∈ root.spots, seen? spot.address = some (seen spot))
    (same : ∀ address, condition address ↔
      ∃ node, root.nodeAt? address = some node ∧ chosen ⟨address, node⟩ = true) :
    InPreOrder seen? condition ((root.spots.filter chosen).map seen) := by
  refine ⟨(root.spots.filter chosen).map (·.address), ?_, fun address => ?_, ?_⟩
  · rw [List.pairwise_map]
    exact root.pairwise_spots.sublist List.filter_sublist
  · rw [same, List.mem_map]
    constructor
    · rintro ⟨⟨_, node⟩, member, rfl⟩
      obtain ⟨inside, among⟩ := List.mem_filter.mp member
      exact ⟨node, mem_spots_iff.mp inside, among⟩
    · rintro ⟨node, found, among⟩
      exact ⟨⟨address, node⟩, List.mem_filter.mpr ⟨mem_spots_iff.mpr found, among⟩, rfl⟩
  · rw [List.map_map, List.map_map]
    refine List.map_congr_left fun spot member => ?_
    exact (shown spot (List.mem_filter.mp member).1).symm

theorem Node.descendants_inPreOrder (node : Node) (stop : Bool) :
    InPreOrder node.nodeAt?
      (fun address => address ≠ [] ∧ (node.nodeAt? address).isSome ∧
        (stop = true → ∀ passed ∈ (node.way address).tail, passed.isFunction = false))
      (node.descendants stop) := by
  rw [descendants, walkAll_children_eq_map]
  refine inPreOrder_filter_spots (fun spot member => mem_spots_iff.mp member) fun address => ?_
  rw [Option.isSome_iff_exists]
  cases stop with
  | false => simp [and_comm]
  | true => simp [and_left_comm]

theorem Tree.functions_inPreOrder (tree : Tree) :
    InPreOrder tree.root.placeAt?
      (fun address => ∃ function ∈ tree.root.nodeAt? address, function.isFunction = true ∧
        ∀ passed ∈ tree.root.way address, passed.isImport = false)
      tree.functions := by
  rw [functions, Place.walk_eq_map, List.filter_map, Node.clearSpots, List.filter_filter]
  refine Node.inPreOrder_filter_spots (fun spot member => ?_) fun address => ?_
  · rw [Node.placeAt?, Node.mem_spots_iff.mp member, List.append_nil]
    rfl
  · simp only [Bool.and_eq_true, Function.comp_apply, decide_eq_true_eq]
    rfl

/-- The walk below a node gets to all that is below it, in pre-order; told to stop at functions, it
leaves out what has a function on the way to it or is one. The functions of a tree are those that
neither are imports nor stand in one, in pre-order, and each comes with its ancestors. Both walks are
the recursive one with some nodes cut off, and both can be taken in a loop with a stack. -/
theorem walks_inPreOrder (tree : Tree) :
    (∀ (node : Node) (stop : Bool),
      let cut (below : Node) : Bool := stop && below.isFunction
      InPreOrder node.nodeAt?
        (fun address => address ≠ [] ∧ (node.nodeAt? address).isSome ∧
          (stop = true → ∀ passed ∈ (node.way address).tail, passed.isFunction = false))
        (node.descendants stop) ∧
      node.descendants stop = node.children.flatMap (Node.walk cut) ∧
      node.descendants stop = Sweep.run cut (fun _ => true) ⟨node.children.reverse, []⟩) ∧
    InPreOrder tree.root.placeAt?
      (fun address => ∃ function ∈ tree.root.nodeAt? address, function.isFunction = true ∧
        ∀ passed ∈ tree.root.way address, passed.isImport = false)
      tree.functions ∧
    tree.functions.map (·.node) = (tree.root.walk Node.isImport).filter Node.isFunction ∧
    tree.functions.map (·.node) = Sweep.run Node.isImport Node.isFunction ⟨[tree.root], []⟩ := by
  refine ⟨fun node stop => ⟨node.descendants_inPreOrder stop, Node.walkAll_eq_flatMap _ _, ?_⟩,
    tree.functions_inPreOrder, tree.map_node_functions, ?_⟩
  · rw [Sweep.run_eq, Sweep.ahead, List.reverse_reverse, List.filter_true, List.nil_append]
    rfl
  · rw [Sweep.run_eq, Sweep.ahead, tree.map_node_functions, List.reverse_singleton,
      Node.walkAll_eq_flatMap, List.flatMap_singleton, List.nil_append]

end Tangle
