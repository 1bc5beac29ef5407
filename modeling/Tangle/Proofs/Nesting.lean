/-
This file reads the cognitive score off the addresses in a tree. The score is found
by going down with a counter that grows below every structure. What the counter
says on arrival can also be said by looking back up: it is the number of structures
on the way, from the scored node to the one that is charged. So the cost of a
structure depends only on what stands around it, and structures that stand in one
another cost one, two, three and so on.
-/

import Tangle.Proofs.NestedFunctions

namespace Tangle

/-! ### What is charged -/

/-- The kinds that cost the more the deeper they stand. -/
def Kind.isStructure : Kind → Bool
  | .ifStatement | .forStatement | .forInStatement | .whileStatement | .doStatement
  | .ternaryExpression | .catchClause | .switchStatement => true
  | _ => false

namespace Node

/-- Whether a node is a binary expression with a short-circuit operator. -/
def isLogical (node : Node) : Bool :=
  node.kind == .binaryExpression && (node.child? .operator).any fun token =>
    token.kind = .logicalAnd ∨ token.kind = .logicalOr ∨ token.kind = .coalesce

/-- Whether a node costs anything. -/
def isCharged (node : Node) : Bool :=
  node.kind.isStructure || node.isLogical

/-- The structures on the way to an address, strictly between the root and what stands there. -/
def nestingAt (root : Node) (address : List Nat) : Nat :=
  address.inits.countP fun around =>
    around ≠ [] ∧ around ≠ address ∧ (root.nodeAt? around).any (·.kind.isStructure)

/-- What a spot costs: a structure one more than there are structures around it, all else one. -/
def charge (root : Node) (spot : Spot) : Nat :=
  if spot.node.kind.isStructure then 1 + root.nestingAt spot.address else 1

/-- Whether an address is one of those below the root that are neither in a function nor that of
one. The root itself does not count, so that it may be a function. -/
def IsOwn (root : Node) (address : List Nat) : Prop :=
  address ≠ [] ∧ ∀ around ∈ address.inits, around ≠ [] →
    (root.nodeAt? around).any isFunction = false

instance (root : Node) (address : List Nat) : Decidable (root.IsOwn address) :=
  inferInstanceAs (Decidable (_ ∧ _))

/-- What is charged to a node, in pre-order. -/
def chargedSpots (root : Node) : List Spot :=
  root.spots.filter fun spot => root.IsOwn spot.address ∧ spot.node.isCharged

/-- What a charged node is shown as, and the node that it is found at. -/
def mark? (node : Node) : Option (Construct × Node) :=
  match node.nesting? with
  | some construct => some (construct, node)
  | none => node.shortcut?.map fun found => (.logical found.1, found.2)

section

variable {node : Node}

theorem isSome_nesting? : node.nesting?.isSome = node.kind.isStructure := by
  rw [nesting?, decision?]
  cases node.kind
  case forInStatement =>
    rw [if_neg (by decide)]
    dsimp only
    split <;> rfl
  all_goals rfl

theorem isSome_shortcut? : node.shortcut?.isSome = node.isLogical := by
  rw [shortcut?, isLogical]
  by_cases binary : node.kind = .binaryExpression
  · rw [if_pos (beq_iff_eq.mpr binary), binary, beq_self_eq_true, Bool.true_and]
    cases node.child? .operator with
    | none => rfl
    | some token => cases sign : token.kind <;> simp [sign, Shortcut.ofKind?]
  · rw [if_neg (by simpa using binary), beq_eq_false_iff_ne.mpr binary]
    rfl

theorem isSome_mark? : node.mark?.isSome = node.isCharged := by
  rw [mark?, isCharged, ← isSome_nesting?, ← isSome_shortcut?]
  cases node.nesting? with
  | some construct => rfl
  | none => exact Option.isSome_map

end

end Node

/-- A node is charged as it is marked, with the counter for a structure and with one otherwise. -/
theorem Source.charges_eq (source : Source) (depth : Nat) (node : Node) :
    source.charges depth node = (node.mark?.map fun mark => source.contributor mark.1
      (if node.kind.isStructure then 1 + depth else 1) mark.2 node).toList := by
  rw [charges, Node.mark?, ← Node.isSome_nesting?]
  cases node.nesting? with
  | some construct => rfl
  | none =>
    rcases node.shortcut? with _ | ⟨shortcut, token⟩
    · rfl
    · rfl

/-! ### Looking back up -/

namespace Node

/-- Whether there is no function on the way to an address, from the root on. -/
def IsOpen (root : Node) (address : List Nat) : Prop :=
  ∀ around ∈ address.inits, (root.nodeAt? around).any isFunction = false

instance (root : Node) (address : List Nat) : Decidable (root.IsOpen address) :=
  inferInstanceAs (Decidable (∀ _ ∈ _, _))

/-- The structures on the way to an address, from the root on. -/
def depthAt (root : Node) (address : List Nat) : Nat :=
  address.inits.countP fun around =>
    around ≠ address ∧ (root.nodeAt? around).any (·.kind.isStructure)

theorem isOpen_nil {root : Node} : root.IsOpen [] ↔ root.isFunction = false := by
  simp [IsOpen, nodeAt?]

theorem depthAt_nil (root : Node) : root.depthAt [] = 0 := rfl

section

variable {root child : Node} {number : Nat}

theorem nodeAt?_cons (found : root.children[number]? = some child) (rest : List Nat) :
    root.nodeAt? (number :: rest) = child.nodeAt? rest := by
  rw [nodeAt?, found, Option.bind_some]

theorem isOwn_cons (found : root.children[number]? = some child) (rest : List Nat) :
    root.IsOwn (number :: rest) ↔ child.IsOpen rest := by
  simp [IsOwn, IsOpen, nodeAt?_cons found]

theorem isOpen_cons (found : root.children[number]? = some child) (rest : List Nat) :
    root.IsOpen (number :: rest) ↔ root.isFunction = false ∧ child.IsOpen rest := by
  rw [← isOpen_nil]
  simp [IsOpen, nodeAt?_cons found]

theorem nestingAt_cons (found : root.children[number]? = some child) (rest : List Nat) :
    root.nestingAt (number :: rest) = child.depthAt rest := by
  simp [nestingAt, depthAt, List.countP_map, Function.comp_def, nodeAt?_cons found]

theorem depthAt_cons (found : root.children[number]? = some child) (rest : List Nat) :
    root.depthAt (number :: rest) = root.kind.isStructure.toNat + child.depthAt rest := by
  have top : (root.nodeAt? []).any (·.kind.isStructure) = root.kind.isStructure := rfl
  rw [depthAt, List.inits_cons, List.countP_cons, List.countP_map, top, Nat.add_comm]
  simp [depthAt, Function.comp_def, nodeAt?_cons found, Bool.toNat]

end

end Node

namespace Source

variable (source : Source)

/-- What the counter says on arrival at a node is what it said at the start and the structures on
the way there. -/
theorem burden_eq_flatMap (depth : Nat) (node : Node) :
    source.burden depth node =
      (node.spots.filter fun spot => node.IsOpen spot.address).flatMap fun spot =>
        source.charges (depth + node.depthAt spot.address) spot.node := by
  induction node using Node.induction generalizing depth with
  | step node inductionHypothesis =>
    by_cases function : node.isFunction = true
    · rw [burden_of_isFunction source depth function, List.filter_eq_nil_iff.mpr]
      · rfl
      · rintro ⟨address, below⟩ - reached
        have top := of_decide_eq_true reached [] (by simp)
        rw [Node.nodeAt?, Option.any_some, function] at top
        cases top
    · have visible := Bool.eq_false_iff.mpr function
      have top : ([⟨[], node⟩] : List Spot).filter (fun spot => node.IsOpen spot.address) =
          [⟨[], node⟩] :=
        List.filter_cons_of_pos (decide_eq_true (Node.isOpen_nil.mpr visible))
      rw [source.burden_of_not_isFunction depth function, burdenAll_eq_flatMap,
        Node.flatMap_filter_spots, top, List.flatMap_singleton, Node.depthAt_nil, Nat.add_zero,
        ← flatMap_zipIdx_fst node.children]
      refine congrArg (_ ++ ·) (List.flatMap_congr ?_)
      rintro ⟨child, number⟩ among
      have found := List.mem_zipIdx_iff_getElem?.mp among
      rw [inductionHypothesis child (List.mem_of_getElem? found)]
      simp only [Function.comp_def, Spot.under, Node.isOpen_cons found, visible, true_and,
        Node.depthAt_cons found, depthBelow, Node.isSome_nesting?]
      cases node.kind.isStructure
      · simp
      · simp [Nat.add_assoc]

/-- What is charged to a node is what its own spots cost by the structures around them. -/
theorem cognitive_contributors_eq (node : Node) :
    (source.cognitive node).contributors =
      (node.spots.filter fun spot => node.IsOwn spot.address).flatMap fun spot =>
        source.charges (node.nestingAt spot.address) spot.node := by
  have top : ([⟨[], node⟩] : List Spot).filter (fun spot => node.IsOwn spot.address) = [] :=
    List.filter_cons_of_neg (by simp [Node.IsOwn])
  rw [cognitive, burdenAll_eq_flatMap, Node.flatMap_filter_spots, top, List.flatMap_nil,
    List.nil_append, ← flatMap_zipIdx_fst node.children]
  refine List.flatMap_congr ?_
  rintro ⟨child, number⟩ among
  have found := List.mem_zipIdx_iff_getElem?.mp among
  rw [source.burden_eq_flatMap]
  simp only [Function.comp_def, Spot.under, Node.isOwn_cons found, Node.nestingAt_cons found,
    Nat.zero_add]

/-- There is one contributor for each charged spot, in pre-order, with the cost of the spot. -/
theorem cognitive_charged (node : Node) :
    List.Forall₂ (fun spot contributor => ∃ construct anchor,
        spot.node.mark? = some (construct, anchor) ∧
        contributor = source.contributor construct (node.charge spot) anchor spot.node)
      node.chargedSpots (source.cognitive node).contributors := by
  rw [cognitive_contributors_eq, Node.chargedSpots]
  induction node.spots with
  | nil => exact .nil
  | cons spot rest inductionHypothesis =>
    rw [List.filter_cons, List.filter_cons]
    by_cases own : node.IsOwn spot.address
    · rw [if_pos (decide_eq_true own), List.flatMap_cons, source.charges_eq,
        ← Node.isSome_mark?]
      cases mark : spot.node.mark? with
      | none => simpa [own] using inductionHypothesis
      | some found =>
        rw [if_pos (by simpa using own)]
        refine .cons ⟨found.1, found.2, mark, ?_⟩ inductionHypothesis
        rfl
    · rw [if_neg (by simp [own]), if_neg (by simp [own])]
      exact inductionHypothesis

end Source

/-! ### Structures in one another -/

namespace Node

/-- All that is charged to a node are so many structures, each of which stands in the one before
it. -/
structure Stacked (root : Node) (count : Nat) : Prop where
  structures : ∀ spot ∈ root.chargedSpots, spot.node.kind.isStructure = true
  nested : root.chargedSpots.Pairwise fun outer inner => outer.address <+: inner.address
  length : root.chargedSpots.length = count

theorem mem_chargedSpots_iff {root : Node} {spot : Spot} :
    spot ∈ root.chargedSpots ↔ root.nodeAt? spot.address = some spot.node ∧
      root.IsOwn spot.address ∧ spot.node.isCharged = true := by
  rw [chargedSpots, List.mem_filter, mem_spots_iff, decide_eq_true_iff]

theorem nodup_inits (address : List Nat) : address.inits.Nodup := by
  induction address with
  | nil => simp
  | cons number rest inductionHypothesis =>
    rw [List.inits_cons, List.nodup_cons]
    exact ⟨by simp, inductionHypothesis.map List.cons_injective⟩

/-- What stands around one of the own spots of a node is an own spot, too. -/
theorem IsOwn.of_prefix {root : Node} {address around : List Nat} (own : root.IsOwn address)
    (above : around <+: address) (nonempty : around ≠ []) : root.IsOwn around := by
  refine ⟨nonempty, fun further member => own.2 further ?_⟩
  rw [List.mem_inits] at member ⊢
  exact member.trans above

/-- Around a structure of a stack are those before it. -/
theorem Stacked.nestingAt_eq {root : Node} {count : Nat} (stacked : root.Stacked count)
    {before after : List Spot} {spot : Spot}
    (parted : root.chargedSpots = before ++ spot :: after) :
    root.nestingAt spot.address = before.length := by
  have distinct : (root.chargedSpots.map (·.address)).Nodup :=
    root.nodup_map_address_spots.sublist (List.filter_sublist.map _)
  have nested := stacked.nested
  rw [parted, List.map_append, List.map_cons, List.nodup_append] at distinct
  rw [parted, List.pairwise_append, List.pairwise_cons] at nested
  obtain ⟨-, ⟨within, -⟩, across⟩ := nested
  have here : spot ∈ root.chargedSpots := by simp [parted]
  have own := (mem_chargedSpots_iff.mp here).2.1
  -- Both lists have each address once, so it is enough that they hold the same ones.
  have same : (spot.address.inits.filter fun around => around ≠ [] ∧ around ≠ spot.address ∧
      (root.nodeAt? around).any (·.kind.isStructure)).Perm (before.map (·.address)) := by
    rw [List.perm_ext_iff_of_nodup ((nodup_inits _).filter _) distinct.1]
    intro around
    rw [List.mem_filter, List.mem_inits, List.mem_map, decide_eq_true_iff]
    constructor
    · rintro ⟨above, nonempty, apart, inside⟩
      obtain ⟨node, found, structured⟩ := (Option.any_eq_true _ _).mp inside
      have charged : (⟨around, node⟩ : Spot) ∈ root.chargedSpots :=
        mem_chargedSpots_iff.mpr
          ⟨found, own.of_prefix above nonempty, by rw [isCharged, structured, Bool.true_or]⟩
      rw [parted, List.mem_append, List.mem_cons] at charged
      rcases charged with early | rfl | late
      · exact ⟨_, early, rfl⟩
      · exact absurd rfl apart
      · exact absurd (above.eq_of_length_le (within _ late).length_le) apart
    · rintro ⟨outer, early, rfl⟩
      have member : outer ∈ root.chargedSpots := by simp [parted, early]
      have charged := mem_chargedSpots_iff.mp member
      refine ⟨across _ early _ List.mem_cons_self, charged.2.1.1, ?_, ?_⟩
      · exact distinct.2.2 _ (List.mem_map_of_mem early) _ List.mem_cons_self
      · rw [charged.1, Option.any_some, stacked.structures _ member]
  rw [nestingAt, List.countP_eq_length_filter, same.length_eq, List.length_map]

/-- The structures of a stack cost one, two, three and so on. -/
theorem Stacked.map_charge {root : Node} {count : Nat} (stacked : root.Stacked count) :
    root.chargedSpots.map root.charge = (List.range count).map (1 + ·) := by
  refine List.ext_getElem (by simp [stacked.length]) fun place inside _ => ?_
  rw [List.length_map] at inside
  have parted : root.chargedSpots = root.chargedSpots.take place ++
      root.chargedSpots[place] :: root.chargedSpots.drop (place + 1) := by
    rw [List.getElem_cons_drop, List.take_append_drop]
  rw [List.getElem_map, List.getElem_map, List.getElem_range, charge,
    if_pos (stacked.structures _ (List.getElem_mem inside)), stacked.nestingAt_eq parted,
    List.length_take, Nat.min_eq_left inside.le]

end Node

theorem sum_map_range_succ (count : Nat) :
    ((List.range count).map (1 + ·)).sum = count * (count + 1) / 2 := by
  have doubled : ((List.range count).map (1 + ·)).sum * 2 = count * (count + 1) := by
    induction count with
    | zero => rfl
    | succ count inductionHypothesis =>
      rw [List.range_succ, List.map_append, List.sum_append, Nat.add_mul, inductionHypothesis,
        List.map_singleton, List.sum_singleton]
      ring
  rw [← doubled, Nat.mul_div_cancel _ Nat.two_pos]

theorem totalCost_eq_sum (contributors : List Contributor) :
    totalCost contributors = (contributors.map (·.cost)).sum := by
  rw [totalCost, List.sum_eq_foldr, List.foldr_map]

/-- The cognitive score of a node charges its own structures and short-circuit operators, in
pre-order: an operator costs one, and a structure one more than there are structures between the
node and it. The score is the sum of these costs, so that structures each of which stands in the one
before it, with nothing else that is charged, score as much as the numbers up to their count. -/
theorem cognitive_nested (source : Source) (node : Node) :
    List.Forall₂ (fun spot contributor => ∃ construct anchor,
        spot.node.mark? = some (construct, anchor) ∧
        contributor = source.contributor construct (node.charge spot) anchor spot.node)
      node.chargedSpots (source.cognitive node).contributors ∧
    (source.cognitive node).total = (node.chargedSpots.map node.charge).sum ∧
    ∀ count, node.Stacked count → (source.cognitive node).total = count * (count + 1) / 2 := by
  have charged := source.cognitive_charged node
  have costs : (source.cognitive node).contributors.map (·.cost) =
      node.chargedSpots.map node.charge := by
    refine map_eq_of_forall₂ (charged.imp ?_)
    rintro spot contributor ⟨construct, anchor, -, rfl⟩
    rfl
  have total : (source.cognitive node).total = (node.chargedSpots.map node.charge).sum := by
    rw [← costs, ← totalCost_eq_sum]
    rfl
  refine ⟨charged, total, fun count stacked => ?_⟩
  rw [total, stacked.map_charge, sum_map_range_succ]

/-- A function with a loop in a clause of a switch in the `else` of a conditional. A function that
is called in the loop has a conditional of its own. -/
def stackedStructures : Node :=
  .named .functionDeclaration none [.named .statementBlock (some .body) [
    .named .ifStatement none [
      .identifier (some .condition),
      .named (.other "else_clause") (some .alternative) [.named .switchStatement none [
        .named (.other "switch_body") (some .body) [.named .switchCase none [
          .named .forInStatement none [
            .named .arrowFunction none [.named .ifStatement (some .body) []]]]]]]]]]

theorem cognitive_nested_stackedStructures :
    stackedStructures.Stacked 3 ∧ (Source.blank.cognitive stackedStructures).total = 6 := by
  have stacked : stackedStructures.Stacked 3 := ⟨by decide, by decide, by decide⟩
  exact ⟨stacked, (cognitive_nested Source.blank stackedStructures).2.2 3 stacked⟩

end Tangle
