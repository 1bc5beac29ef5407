/-
This file shows that the functions of a source share out its decisions. Everything
in a tree has an address, and what stands in functions is owned by the innermost
one. The walk that finds functions goes into them, and the walk that scores one
stops at those in it; each function is scored by exactly what it owns. So the
scores of all functions together count each decision in a function once.
-/

import Tangle.Proofs.McCabe

namespace Tangle

/-! ### Numbered items -/

section

variable {α β : Type}

theorem flatMap_zipIdx_fst (items : List α) (step : α → List β) :
    (items.zipIdx.flatMap fun numbered => step numbered.1) = items.flatMap step := by
  rw [← List.flatMap_map Prod.fst step, List.zipIdx_map_fst]

/-- Where a step leaves all items but one alone, only that one is left. -/
theorem flatMap_zipIdx_eq_of_getElem? {items : List α} {item : α} {place : Nat}
    (found : items[place]? = some item) (start : Nat) {step : α × Nat → List β}
    (others : ∀ other number, number ≠ start + place → step (other, number) = []) :
    (items.zipIdx start).flatMap step = step (item, start + place) := by
  induction items generalizing place start with
  | nil => cases found
  | cons first rest inductionHypothesis =>
    rw [List.zipIdx_cons, List.flatMap_cons]
    cases place with
    | zero =>
      cases found
      have behind : (rest.zipIdx (start + 1)).flatMap step = [] := by
        rw [List.flatMap_eq_nil_iff]
        intro numbered member
        have later := List.le_snd_of_mem_zipIdx member
        exact others numbered.1 numbered.2 (by omega)
      rw [behind, List.append_nil]
      rfl
    | succ place =>
      rw [others first start (by omega), List.nil_append,
        inductionHypothesis found (start + 1) fun other number apart =>
          others other number (by omega), Nat.add_right_comm, Nat.add_assoc]

end

namespace Node

/-- What holds of every node whose children it holds of holds of all nodes. -/
theorem induction {motive : Node → Prop}
    (step : ∀ node : Node, (∀ child ∈ node.children, motive child) → motive node) (node : Node) :
    motive node :=
  step node fun child _ => induction step child
termination_by node
decreasing_by
  have smaller := List.sizeOf_lt_of_mem ‹child ∈ node.children›
  cases node
  simp only [mk.sizeOf_spec] at smaller ⊢
  omega

section

variable {cut : Node → Bool} {node : Node}

theorem walk_of_cut (isCut : cut node = true) : node.walk cut = [] := by
  cases node
  rw [walk, if_pos isCut]

theorem walk_of_not_cut (uncut : cut node ≠ true) :
    node.walk cut = node :: node.children.flatMap (walk cut) := by
  cases node
  rw [walk, if_neg uncut, walkAll_eq_flatMap]

end

/-! ### Addresses -/

/-- The node at an address, which numbers the children on the way down to it. -/
def nodeAt? (node : Node) : List Nat → Option Node
  | [] => some node
  | number :: rest => node.children[number]?.bind (nodeAt? · rest)

end Node

/-- A node with its address below some other node. -/
structure Spot where
  address : List Nat
  node : Node

/-- The spot seen from the parent of the node below which it stands. -/
def Spot.under (number : Nat) (spot : Spot) : Spot :=
  ⟨number :: spot.address, spot.node⟩

namespace Node

mutual

/-- A node and all below it in pre-order, with their addresses. -/
def spots : Node → List Spot
  | ⟨tag, children⟩ => ⟨[], ⟨tag, children⟩⟩ :: spotsFrom 0 children

/-- The spots below the children from the one with the given number on. -/
def spotsFrom (number : Nat) : List Node → List Spot
  | [] => []
  | node :: rest => (spots node).map (.under number) ++ spotsFrom (number + 1) rest

end

theorem spotsFrom_eq (number : Nat) (nodes : List Node) :
    spotsFrom number nodes =
      (nodes.zipIdx number).flatMap fun child => child.1.spots.map (.under child.2) := by
  induction nodes generalizing number with
  | nil => rfl
  | cons node rest inductionHypothesis =>
    rw [spotsFrom, inductionHypothesis, List.zipIdx_cons, List.flatMap_cons]

theorem spots_eq (node : Node) :
    node.spots = ⟨[], node⟩ ::
      node.children.zipIdx.flatMap fun child => child.1.spots.map (.under child.2) := by
  obtain ⟨tag, children⟩ := node
  rw [spots, spotsFrom_eq]

/-- The spots of a tree are its addresses with the nodes at them. -/
theorem mem_spots_iff {root : Node} {spot : Spot} :
    spot ∈ root.spots ↔ root.nodeAt? spot.address = some spot.node := by
  induction root using Node.induction generalizing spot with
  | step root inductionHypothesis =>
    obtain ⟨address, node⟩ := spot
    rw [spots_eq, List.mem_cons, List.mem_flatMap]
    cases address with
    | nil => simp [nodeAt?, Spot.under, eq_comm]
    | cons number rest =>
      rw [nodeAt?, Option.bind_eq_some_iff]
      constructor
      · rintro (same | ⟨⟨child, place⟩, among, inside⟩)
        · cases same
        · obtain ⟨spot, below, same⟩ := List.mem_map.mp inside
          cases same
          have found := List.mem_zipIdx_iff_getElem?.mp among
          exact ⟨child, found, (inductionHypothesis child (List.mem_of_getElem? found)).mp below⟩
      · rintro ⟨child, found, below⟩
        refine .inr ⟨(child, number), List.mem_zipIdx_iff_getElem?.mpr found, ?_⟩
        refine List.mem_map.mpr ⟨⟨rest, node⟩, ?_, rfl⟩
        exact (inductionHypothesis child (List.mem_of_getElem? found)).mpr below

/-- Pre-order is the order of addresses. -/
theorem pairwise_spots (root : Node) : root.spots.Pairwise (·.address < ·.address) := by
  induction root using Node.induction with
  | step root inductionHypothesis =>
    have numbers : root.children.zipIdx.Pairwise fun first second => first.2 < second.2 := by
      rw [← List.pairwise_map, List.zipIdx_map_snd]
      exact List.pairwise_lt_range'
    rw [spots_eq, List.pairwise_cons, List.pairwise_flatMap]
    refine ⟨?_, ?_, numbers.imp ?_⟩
    · intro spot member
      obtain ⟨_, _, inside⟩ := List.mem_flatMap.mp member
      obtain ⟨_, _, rfl⟩ := List.mem_map.mp inside
      exact List.nil_lt_cons _ _
    · rintro ⟨child, number⟩ among
      have found := List.mem_zipIdx_iff_getElem?.mp among
      rw [List.pairwise_map]
      refine (inductionHypothesis child (List.mem_of_getElem? found)).imp fun before => ?_
      exact List.cons_lt_cons_iff.mpr (.inr ⟨rfl, before⟩)
    · rintro ⟨first, number⟩ ⟨second, other⟩ before one here two there
      obtain ⟨_, _, rfl⟩ := List.mem_map.mp here
      obtain ⟨_, _, rfl⟩ := List.mem_map.mp there
      exact List.cons_lt_cons_iff.mpr (.inl before)

/-- No address is listed twice. -/
theorem nodup_map_address_spots (root : Node) : (root.spots.map (·.address)).Nodup := by
  rw [List.Nodup, List.pairwise_map]
  refine root.pairwise_spots.imp ?_
  intro first second before same
  exact List.lt_irrefl _ (same ▸ before)

theorem map_node_spots (root : Node) : root.spots.map (·.node) = root.walk fun _ => false := by
  induction root using Node.induction with
  | step root inductionHypothesis =>
    rw [spots_eq, List.map_cons, List.map_flatMap, walk_of_not_cut Bool.false_ne_true,
      ← flatMap_zipIdx_fst root.children]
    refine congrArg (_ :: ·) (List.flatMap_congr fun numbered among => ?_)
    have found := List.mem_zipIdx_iff_getElem?.mp among
    rw [List.map_map, ← inductionHypothesis numbered.1 (List.mem_of_getElem? found)]
    rfl

/-- Spots are chosen child by child. -/
theorem filter_spots (root : Node) (chosen : Spot → Bool) :
    root.spots.filter chosen = [⟨[], root⟩].filter chosen ++
      root.children.zipIdx.flatMap fun child =>
        (child.1.spots.filter (chosen ∘ .under child.2)).map (.under child.2) := by
  rw [spots_eq, ← List.singleton_append, List.filter_append, List.filter_flatMap]
  simp only [List.filter_map]

theorem flatMap_filter_spots {β : Type} (root : Node) (chosen : Spot → Bool)
    (step : Spot → List β) :
    (root.spots.filter chosen).flatMap step = ([⟨[], root⟩].filter chosen).flatMap step ++
      root.children.zipIdx.flatMap fun child =>
        (child.1.spots.filter (chosen ∘ .under child.2)).flatMap (step ∘ .under child.2) := by
  rw [filter_spots, List.flatMap_append, List.flatMap_assoc]
  simp only [List.flatMap_map, Function.comp_def]

/-! ### Owners -/

/-- The address of the innermost function around an address. -/
def owner? (root : Node) (address : List Nat) : Option (List Nat) :=
  address.inits.dropLast.reverse.find? fun around => (root.nodeAt? around).any isFunction

theorem owner?_nil (root : Node) : root.owner? [] = none := rfl

/-- The owner of something below the child with the given number, whose owner below that child is
known. -/
def ownerVia (root : Node) (number : Nat) (below : Option (List Nat)) : Option (List Nat) :=
  (below.map (number :: ·)).or (if root.isFunction then some [] else none)

section

variable {root : Node} {number : Nat} {below : Option (List Nat)}

theorem owner?_cons {child : Node} (found : root.children[number]? = some child)
    (rest : List Nat) :
    root.owner? (number :: rest) = root.ownerVia number (child.owner? rest) := by
  have nonempty : rest.inits.map (number :: ·) ≠ [] := by
    rw [ne_eq, List.map_eq_nil_iff]
    exact List.ne_nil_of_length_pos (by simp)
  have inside : (fun around => (root.nodeAt? around).any isFunction) ∘ (number :: ·) =
      fun around => (child.nodeAt? around).any isFunction := by
    funext around
    rw [Function.comp_apply, nodeAt?, found, Option.bind_some]
  -- The longest way up comes first, so that the root itself is the last to be asked.
  rw [owner?, List.inits_cons, List.dropLast_cons_of_ne_nil nonempty, List.reverse_cons,
    List.find?_append, ← List.map_dropLast, ← List.map_reverse, List.find?_map, inside,
    List.find?_singleton]
  rfl

theorem ownerVia_ne_none (isFunction : root.isFunction = true) :
    root.ownerVia number below ≠ none := by
  rw [ownerVia, if_pos isFunction]
  cases below <;> simp

theorem ownerVia_eq_none_iff (visible : root.isFunction ≠ true) :
    root.ownerVia number below = none ↔ below = none := by
  rw [ownerVia, if_neg visible, Option.or_none, Option.map_eq_none_iff]

theorem ownerVia_eq_nil_iff (isFunction : root.isFunction = true) :
    root.ownerVia number below = some [] ↔ below = none := by
  rw [ownerVia, if_pos isFunction]
  cases below <;> simp

theorem ownerVia_eq_cons_iff {other : Nat} {address : List Nat} :
    root.ownerVia number below = some (other :: address) ↔
      number = other ∧ below = some address := by
  rw [ownerVia]
  cases below with
  | none => split <;> simp
  | some inside => simp

end

/-- The spots with the given owner in pre-order. -/
def ownedBy (root : Node) (owner : Option (List Nat)) : List Spot :=
  root.spots.filter (root.owner? ·.address = owner)

section Owned

variable {β : Type} (step : Node → List β) {root child : Node}

/-- What is gathered from the spots with the given owner is gathered child by child. -/
theorem flatMap_ownedBy (root : Node) (owner : Option (List Nat)) :
    (root.ownedBy owner).flatMap (step ·.node) =
      (if owner = none then step root else []) ++ root.children.zipIdx.flatMap fun child =>
        (child.1.spots.filter fun spot =>
          root.ownerVia child.2 (child.1.owner? spot.address) = owner).flatMap (step ·.node) := by
  have top : ([⟨[], root⟩] : List Spot).filter (root.owner? ·.address = owner) =
      if owner = none then [⟨[], root⟩] else [] := by
    rw [List.filter_cons, owner?_nil, List.filter_nil]
    by_cases unowned : owner = none
    · rw [unowned]
      rfl
    · rw [if_neg unowned, if_neg (by simpa using Ne.symm unowned)]
  rw [ownedBy, flatMap_filter_spots, top]
  congr 1
  · split
    · rw [List.flatMap_singleton]
    · rfl
  · refine List.flatMap_congr fun child among => ?_
    have found := List.mem_zipIdx_iff_getElem?.mp among
    simp only [Function.comp_def, Spot.under, owner?_cons found]

theorem flatMap_ownedBy_none_of_isFunction (isFunction : root.isFunction = true) :
    (root.ownedBy none).flatMap (step ·.node) = step root := by
  have nothing : (root.children.zipIdx.flatMap fun child => (child.1.spots.filter fun spot =>
      root.ownerVia child.2 (child.1.owner? spot.address) = none).flatMap (step ·.node)) = [] := by
    simp [ownerVia_ne_none isFunction]
  rw [flatMap_ownedBy, if_pos rfl, nothing, List.append_nil]

theorem flatMap_ownedBy_none (visible : root.isFunction ≠ true) :
    (root.ownedBy none).flatMap (step ·.node) =
      step root ++
        root.children.flatMap fun child => (child.ownedBy none).flatMap (step ·.node) := by
  rw [flatMap_ownedBy, if_pos rfl, ← flatMap_zipIdx_fst root.children]
  simp only [ownerVia_eq_none_iff visible]
  rfl

theorem flatMap_ownedBy_nil (isFunction : root.isFunction = true) :
    (root.ownedBy (some [])).flatMap (step ·.node) =
      root.children.flatMap fun child => (child.ownedBy none).flatMap (step ·.node) := by
  rw [flatMap_ownedBy, if_neg (Option.some_ne_none _), List.nil_append,
    ← flatMap_zipIdx_fst root.children]
  simp only [ownerVia_eq_nil_iff isFunction]
  rfl

theorem flatMap_ownedBy_cons {number : Nat} (found : root.children[number]? = some child)
    (address : List Nat) :
    (root.ownedBy (some (number :: address))).flatMap (step ·.node) =
      (child.ownedBy (some address)).flatMap (step ·.node) := by
  rw [flatMap_ownedBy, if_neg (Option.some_ne_none _), List.nil_append,
    flatMap_zipIdx_eq_of_getElem? found 0]
  · simp only [ownerVia_eq_cons_iff, Nat.zero_add, true_and]
    rfl
  · intro other place apart
    have other : place ≠ number := by omega
    simp [ownerVia_eq_cons_iff, other]

/-- What no function in a tree owns is what a walk that stops at functions meets, the functions
apart. -/
theorem flatMap_ownedBy_none_eq (idle : ∀ node, node.isFunction = true → step node = [])
    (root : Node) :
    (root.ownedBy none).flatMap (step ·.node) = (root.walk isFunction).flatMap step := by
  induction root using Node.induction with
  | step root inductionHypothesis =>
    by_cases function : root.isFunction = true
    · rw [walk_of_cut function, flatMap_ownedBy_none_of_isFunction step function, idle _ function]
      rfl
    · rw [walk_of_not_cut function, flatMap_ownedBy_none step function, List.flatMap_cons,
        List.flatMap_assoc, List.flatMap_congr inductionHypothesis]

/-- What a function owns is what a walk below it that stops at functions meets, the functions
apart. -/
theorem flatMap_ownedBy_some_eq (idle : ∀ node, node.isFunction = true → step node = [])
    {function : Node} {address : List Nat} (found : root.nodeAt? address = some function)
    (isFunction : function.isFunction = true) :
    (root.ownedBy (some address)).flatMap (step ·.node) =
      (function.descendants true).flatMap step := by
  induction address generalizing root with
  | nil =>
    cases found
    rw [flatMap_ownedBy_nil step isFunction, descendants_eq_walkAll, walkAll_eq_flatMap,
      List.flatMap_assoc]
    exact List.flatMap_congr fun child _ => flatMap_ownedBy_none_eq step idle child
  | cons number rest inductionHypothesis =>
    obtain ⟨child, next, below⟩ := Option.bind_eq_some_iff.mp found
    rw [flatMap_ownedBy_cons step next, inductionHypothesis below]

end Owned

theorem exists_function_of_owner? {root : Node} {address owner : List Nat}
    (owned : root.owner? address = some owner) :
    ∃ function, root.nodeAt? owner = some function ∧ function.isFunction = true := by
  unfold owner? at owned
  have inside := List.find?_some owned
  exact (Option.any_eq_true _ _).mp inside

/-! ### Functions -/

/-- The functions of a tree with their addresses, in pre-order. -/
def functionSpots (root : Node) : List Spot :=
  root.spots.filter (·.node.isFunction)

theorem mem_functionSpots_iff {root : Node} {spot : Spot} :
    spot ∈ root.functionSpots ↔
      root.nodeAt? spot.address = some spot.node ∧ spot.node.isFunction = true := by
  rw [functionSpots, List.mem_filter, mem_spots_iff]

/-- Skipping imports loses no function where none stands in an import. -/
theorem filter_walk_isImport {root : Node}
    (imports : ∀ node ∈ root.walk fun _ => false, node.isImport = true →
      ∀ below ∈ node.walk fun _ => false, below.isFunction = false) :
    (root.walk isImport).filter isFunction = (root.walk fun _ => false).filter isFunction := by
  induction root using Node.induction with
  | step root inductionHypothesis =>
    have whole := @walk_of_not_cut (fun _ => false) root Bool.false_ne_true
    by_cases isImport : root.isImport = true
    · rw [walk_of_cut isImport, List.filter_nil, eq_comm, List.filter_eq_nil_iff]
      intro below member
      rw [imports root (whole ▸ List.mem_cons_self) isImport below member]
      exact Bool.false_ne_true
    · have below : ∀ child ∈ root.children, (child.walk Node.isImport).filter isFunction =
          (child.walk fun _ => false).filter isFunction := by
        intro child member
        refine inductionHypothesis child member fun node inside => imports node ?_
        rw [whole]
        exact List.mem_cons_of_mem _ (List.mem_flatMap.mpr ⟨child, member, inside⟩)
      rw [whole, walk_of_not_cut isImport, List.filter_cons, List.filter_cons, List.filter_flatMap,
        List.filter_flatMap, List.flatMap_congr below]

end Node

namespace Place

mutual

theorem map_node_walk (cut : Node → Bool) (ancestors : List Node) : (node : Node) →
    (walk cut ancestors node).map (·.node) = node.walk cut
  | ⟨tag, children⟩ => by
    rw [walk, Node.walk]
    split
    next => rfl
    next => rw [List.map_cons, map_node_walkAll]

theorem map_node_walkAll (cut : Node → Bool) (ancestors : List Node) : (nodes : List Node) →
    (walkAll cut ancestors nodes).map (·.node) = Node.walkAll cut nodes
  | [] => rfl
  | node :: rest => by
    rw [walkAll, Node.walkAll, List.map_append, map_node_walk, map_node_walkAll]

end

end Place

/-! ### Points -/

/-- What a node adds to the cyclomatic score of the function around it. -/
def Node.points (node : Node) : Nat :=
  match node.kind with
  | .ifStatement | .whileStatement | .doStatement | .forStatement | .forInStatement
  | .ternaryExpression | .catchClause => 1
  | .binaryExpression =>
    if (node.child? .operator).any fun token => token.kind = .logicalAnd ∨ token.kind = .logicalOr
    then 1 else 0
  | .switchStatement => node.caseClauses.length
  | _ => 0

theorem Node.points_of_decision? {node : Node} {construct : Construct}
    (decides : node.decision? = some construct) : node.points = 1 := by
  unfold decision? at decides
  split at decides
  iterate 7 next kind => rw [points, kind]
  next => cases decides

theorem Node.points_of_shortcut? {node : Node} (kind : node.kind = .binaryExpression) :
    node.points = match node.shortcut? with
      | some (.and, _) | some (.or, _) => 1
      | _ => 0 := by
  rw [points, shortcut?, kind]
  cases node.child? .operator with
  | none => rfl
  | some token =>
    cases sign : token.kind
    all_goals simp [sign, Shortcut.ofKind?]

theorem length_decisions (source : Source) (node : Node) :
    (source.decisions node).length = node.points := by
  rw [Source.decisions]
  cases decides : node.decision? with
  | some construct => exact (Node.points_of_decision? decides).symm
  | none =>
    dsimp only
    by_cases switch : node.kind = .switchStatement
    · rw [if_pos (beq_iff_eq.mpr switch), List.length_map, Node.points, switch]
    · rw [if_neg (by simpa using switch)]
      by_cases binary : node.kind = .binaryExpression
      · rw [Node.points_of_shortcut? binary]
        rcases node.shortcut? with _ | ⟨shortcut, token⟩
        · rfl
        · cases shortcut <;> rfl
      · rw [Node.shortcut?, if_neg (by simpa using binary), Node.points]
        unfold Node.decision? at decides
        split at decides
        case h_5 => split at decides <;> cases decides
        all_goals simp_all

theorem decisions_of_isFunction (source : Source) {node : Node}
    (isFunction : node.isFunction = true) : source.decisions node = [] := by
  rw [← List.length_eq_zero_iff, length_decisions, Node.points]
  rw [Node.isFunction, Bool.and_eq_true] at isFunction
  split <;> simp_all [Kind.isFunction]

/-! ### Results -/

theorem Tree.map_node_functions (tree : Tree) :
    tree.functions.map (·.node) = (tree.root.walk Node.isImport).filter Node.isFunction := by
  rw [← Place.map_node_walk Node.isImport [], List.filter_map]
  rfl

namespace Source

variable (source : Source) (thresholds : Option Thresholds)

theorem analyze_functions :
    (source.analyze thresholds).value.functions = source.functions.map fun place =>
      (place.node, (source.scoreFunction thresholds place).value.1) := by
  rw [← List.zip_map']
  show List.zip _ (List.map _ (List.map _ _)) = _
  rw [List.map_map]
  rfl

theorem scoreFunction_cyclomatic {place : Place} (bodied : place.node.body?.isSome) :
    (source.scoreFunction thresholds place).value.1.cyclomatic = source.cyclomatic place.node := by
  obtain ⟨body, found⟩ := Option.isSome_iff_exists.mp bodied
  rw [scoreFunction, found]
  rfl

theorem map_node_functions
    (imports : ∀ node ∈ source.tree.root.walk fun _ => false, node.isImport = true →
      ∀ below ∈ node.walk fun _ => false, below.isFunction = false) :
    source.functions.map (·.node) = source.tree.root.functionSpots.map (·.node) := by
  have kept : source.tree.root.functionSpots.map (·.node) =
      (source.tree.root.spots.map (·.node)).filter Node.isFunction := by
    rw [List.filter_map]
    rfl
  rw [kept, Node.map_node_spots, ← Node.filter_walk_isImport imports]
  exact source.tree.map_node_functions

/-- There is one result for each function, in pre-order. -/
theorem analyze_scored
    (bodies : ∀ node ∈ source.tree.root.walk fun _ => false,
      node.isFunction = true → node.body?.isSome)
    (imports : ∀ node ∈ source.tree.root.walk fun _ => false, node.isImport = true →
      ∀ below ∈ node.walk fun _ => false, below.isFunction = false) :
    List.Forall₂ (fun function result => function ∈ source.tree.root.functionSpots ∧
        result.1 = function.node ∧ result.2.cyclomatic = source.cyclomatic function.node)
      source.tree.root.functionSpots (source.analyze thresholds).value.functions := by
  have nodes := source.map_node_functions imports
  rw [eq_comm, ← List.forall₂_eq_eq_eq, List.forall₂_map_left_iff, List.forall₂_map_right_iff]
    at nodes
  have each := (List.forall₂_and_left _ _).mpr ⟨fun _ member => member, nodes⟩
  rw [analyze_functions, List.forall₂_map_right_iff]
  refine each.imp fun function place ⟨member, same⟩ => ⟨member, same.symm, ?_⟩
  obtain ⟨listed, isFunction⟩ := List.mem_filter.mp member
  have walked : function.node ∈ source.tree.root.walk fun _ => false := by
    rw [← Node.map_node_spots]
    exact List.mem_map_of_mem listed
  rw [same]
  exact source.scoreFunction_cyclomatic thresholds (same ▸ bodies function.node walked isFunction)

/-- A function is scored by what it owns. -/
theorem cyclomatic_contributors {root : Node} {function : Spot}
    (member : function ∈ root.functionSpots) :
    (source.cyclomatic function.node).contributors =
      (root.ownedBy (some function.address)).flatMap (source.decisions ·.node) := by
  obtain ⟨found, isFunction⟩ := Node.mem_functionSpots_iff.mp member
  exact (Node.flatMap_ownedBy_some_eq source.decisions
    (fun _ => decisions_of_isFunction source) found isFunction).symm

theorem cyclomatic_total {root : Node} {function : Spot}
    (member : function ∈ root.functionSpots) :
    (source.cyclomatic function.node).total =
      1 + ((root.ownedBy (some function.address)).map (·.node.points)).sum := by
  have total : (source.cyclomatic function.node).total =
      1 + (source.cyclomatic function.node).contributors.length := by
    rw [cyclomatic, totalCost_flatMap_decisions]
  rw [total, source.cyclomatic_contributors member, List.length_flatMap]
  simp only [length_decisions]

end Source

/-! ### Sharing out -/

/-- Grouping items by their owners loses none and repeats none. -/
theorem flatMap_filter_perm {α κ : Type} [DecidableEq κ] {keys : List κ} (distinct : keys.Nodup)
    (owner : α → Option κ) (items : List α) :
    (keys.flatMap fun key => items.filter (owner · = some key)).Perm
      (items.filter fun item => ∃ key ∈ keys, owner item = some key) := by
  induction keys with
  | nil => simp
  | cons key rest inductionHypothesis =>
    obtain ⟨fresh, others⟩ := List.nodup_cons.mp distinct
    have parted := List.filter_append_perm (owner · = some key)
      (items.filter fun item => ∃ other ∈ key :: rest, owner item = some other)
    have first : (items.filter fun item => ∃ other ∈ key :: rest, owner item = some other).filter
        (owner · = some key) = items.filter (owner · = some key) := by
      rw [List.filter_filter]
      refine List.filter_congr fun item _ => ?_
      by_cases own : owner item = some key <;> simp [own]
    have behind : (items.filter fun item => ∃ other ∈ key :: rest, owner item = some other).filter
        (fun item => !decide (owner item = some key)) =
        items.filter fun item => ∃ other ∈ rest, owner item = some other := by
      rw [List.filter_filter]
      refine List.filter_congr fun item _ => ?_
      by_cases own : owner item = some key <;> simp [own, fresh]
    rw [first, behind] at parted
    rw [List.flatMap_cons]
    exact ((inductionHypothesis others).append_left _).trans parted

namespace Node

/-- The functions of a tree own everything in functions, each spot once. -/
theorem flatMap_functionSpots_perm (root : Node) :
    (root.functionSpots.flatMap fun function => root.ownedBy (some function.address)).Perm
      (root.spots.filter fun spot => (root.owner? spot.address).isSome) := by
  have distinct : (root.functionSpots.map (·.address)).Nodup :=
    root.nodup_map_address_spots.sublist (List.filter_sublist.map _)
  have owned : root.spots.filter (fun spot : Spot => decide (∃ address ∈
      root.functionSpots.map Spot.address, root.owner? spot.address = some address)) =
      root.spots.filter fun spot => (root.owner? spot.address).isSome := by
    refine List.filter_congr fun spot _ => ?_
    cases owner : root.owner? spot.address with
    | none => simp
    | some address =>
      obtain ⟨function, found, isFunction⟩ := exists_function_of_owner? owner
      have member : (⟨address, function⟩ : Spot) ∈ root.functionSpots :=
        mem_functionSpots_iff.mpr ⟨found, isFunction⟩
      exact decide_eq_true ⟨address, List.mem_map_of_mem member, rfl⟩
  have grouped := flatMap_filter_perm distinct (root.owner? ·.address) root.spots
  rw [owned, List.flatMap_map] at grouped
  exact grouped

end Node

/-- In a tree whose functions all have bodies and none of whose imports holds a function, there is
one result for each function, in pre-order. It is made up of what the nodes that the function owns
add, and together the results hold the points of every node in a function once. -/
theorem analyze_owned (source : Source) (thresholds : Option Thresholds)
    (bodies : ∀ node ∈ source.tree.root.walk fun _ => false,
      node.isFunction = true → node.body?.isSome)
    (imports : ∀ node ∈ source.tree.root.walk fun _ => false, node.isImport = true →
      ∀ below ∈ node.walk fun _ => false, below.isFunction = false) :
    List.Forall₂ (fun function result => result.1 = function.node ∧
        result.2.cyclomatic.contributors =
          (source.tree.root.ownedBy (some function.address)).flatMap (source.decisions ·.node) ∧
        result.2.cyclomatic.total =
          1 + ((source.tree.root.ownedBy (some function.address)).map (·.node.points)).sum)
      source.tree.root.functionSpots (source.analyze thresholds).value.functions ∧
    ((source.analyze thresholds).value.functions.map fun result =>
        (result.2.cyclomatic.total : Int) - 1).sum =
      ((source.tree.root.spots.filter fun spot =>
        (source.tree.root.owner? spot.address).isSome).map (·.node.points)).sum := by
  have scored := source.analyze_scored thresholds bodies imports
  constructor
  · refine scored.imp fun function result ⟨member, same, score⟩ => ⟨same, ?_, ?_⟩
    · rw [score, source.cyclomatic_contributors member]
    · rw [score, source.cyclomatic_total member]
  · have shares := map_eq_of_forall₂ (scored.imp fun function result ⟨member, _, score⟩ => by
      show (result.2.cyclomatic.total : Int) - 1 =
        (((source.tree.root.ownedBy (some function.address)).map (·.node.points)).sum : Nat)
      rw [score, source.cyclomatic_total member]
      omega)
    have whole := (source.tree.root.flatMap_functionSpots_perm.map (·.node.points)).sum_eq
    rw [List.map_flatMap, List.flatMap_def, List.sum_flatten, List.map_map] at whole
    rw [shares, ← whole, Nat.cast_list_sum, List.map_map]
    rfl

/-- A loop beside a function that has another as the default of a parameter and a method in its
body. -/
def nestedFunctions : Node :=
  .named (.other "program") none [
    .named .importStatement none [.identifier none],
    .named .whileStatement none [.conjunction (some .condition)],
    .named .functionDeclaration none [
      .named (.other "formal_parameters") none
        [.named .arrowFunction none [.conjunction (some .body)]],
      .named .statementBlock (some .body) [
        .named .ifStatement none [.conjunction (some .condition)],
        .named (.other "class_body") none [.named .methodDefinition none [
          .named .statementBlock (some .body) [.named .switchStatement none [
            .named (.other "switch_body") (some .body)
              [.named .switchCase none [], .named .switchCase none []]]]]]]]]

theorem analyze_owned_nestedFunctions :
    let source : Source := ⟨"", .javascript, [], ⟨nestedFunctions, false⟩⟩
    (∀ node ∈ nestedFunctions.walk fun _ => false, node.isFunction = true → node.body?.isSome) ∧
    (∀ node ∈ nestedFunctions.walk fun _ => false, node.isImport = true →
      ∀ below ∈ node.walk fun _ => false, below.isFunction = false) ∧
    nestedFunctions.functionSpots.map (·.address) = [[2], [2, 0, 0], [2, 1, 1, 0]] ∧
    nestedFunctions.owner? [2, 1, 1, 0, 0, 0] = some [2, 1, 1, 0] ∧
    ((source.analyze none).value.functions.map fun result =>
      (result.2.cyclomatic.total : Int) - 1).sum = 5 :=
  ⟨by decide, by decide, by decide, by decide,
    (analyze_owned ⟨"", .javascript, [], ⟨nestedFunctions, false⟩⟩ none (by decide)
      (by decide)).2.trans (by decide)⟩

end Tangle
