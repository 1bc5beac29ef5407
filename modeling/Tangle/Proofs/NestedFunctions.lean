/-
This file shows that a function is scored and drawn without a look into the
functions in it. Three traversals stop at nested functions, each in its own way,
and constructs look past the nodes that they visit: for the label of a condition,
for the statements of a block, for the clauses of a switch. So the argument goes
by a relation that says what all of them see of a tree. Two trees are the same
outside functions when they differ in what functions hold only, the few functions
apart that stand where a construct looks into its child whatever that child is.
-/

import Tangle.Proofs.Constructs
import Tangle.Proofs.Ownership

namespace Tangle

/-! ### Lists compared item by item -/

section

variable {α β γ : Type} {related : α → β → Prop} {items : List α} {others : List β}

theorem forall₂_filter {keep : α → Bool} {retain : β → Bool}
    (same : ∀ item other, related item other → keep item = retain other)
    (each : List.Forall₂ related items others) :
    List.Forall₂ related (items.filter keep) (others.filter retain) :=
  List.rel_filter (fun item other pair => Bool.eq_iff_iff.mp (same item other pair)) each

theorem rel_head? (each : List.Forall₂ related items others) :
    Option.Rel related items.head? others.head? := by
  cases each with
  | nil => exact .none
  | cons first _ => exact .some first

theorem rel_find? {keep : α → Bool} {retain : β → Bool}
    (same : ∀ item other, related item other → keep item = retain other)
    (each : List.Forall₂ related items others) :
    Option.Rel related (items.find? keep) (others.find? retain) := by
  rw [← List.head?_filter, ← List.head?_filter]
  exact rel_head? (forall₂_filter same each)

theorem map_eq_of_rel {item : Option α} {other : Option β} {view : α → γ} {image : β → γ}
    (pair : Option.Rel related item other)
    (same : ∀ one two, related one two → view one = image two) :
    item.map view = other.map image := by
  cases pair with
  | none => rfl
  | some pair => exact congrArg some (same _ _ pair)

theorem flatMap_eq_of_forall₂ {view : α → List γ} {image : β → List γ}
    (each : List.Forall₂ related items others)
    (same : ∀ item ∈ items, ∀ other, related item other → view item = image other) :
    items.flatMap view = others.flatMap image := by
  have views : others.map image = items.map view := map_eq_of_forall₂
    (forall₂_imp_of_mem each fun item member other pair => (same item member other pair).symm)
  rw [List.flatMap_def, List.flatMap_def, views]

theorem mapM_eq_of_forall₂ {view : α → Except NodeError γ} {image : β → Except NodeError γ}
    (each : List.Forall₂ related items others)
    (same : ∀ item other, related item other → view item = image other) :
    items.mapM view = others.mapM image := by
  induction each with
  | nil => rfl
  | cons first _ inductionHypothesis =>
    rw [List.mapM_cons, List.mapM_cons, same _ _ first, inductionHypothesis]

/-- A change to one item leaves the others as they are. -/
theorem forall₂_modify {related : α → α → Prop} {items : List α} {change : α → α} {number : Nat}
    (kept : ∀ item, related item item)
    (changed : ∀ item ∈ items[number]?, related item (change item)) :
    List.Forall₂ related items (items.modify number change) := by
  induction items generalizing number with
  | nil => rw [List.modify_nil]; exact .nil
  | cons item rest inductionHypothesis =>
    cases number with
    | zero =>
      rw [List.modify_zero_cons]
      exact .cons (changed item rfl) (List.forall₂_same.mpr fun other _ => kept other)
    | succ number =>
      rw [List.modify_succ_cons]
      exact .cons (kept item) (inductionHypothesis changed)

end

/-! ### Trees that are the same outside functions -/

/-- The field in which a construct looks into its child even where that is a function. -/
def Kind.peeksAt? : Kind → Option Field
  | .switchStatement => some .body
  | .ifStatement => some .alternative
  | .tryStatement => some .handler
  | _ => none

namespace Node

/-- The child with the given number is the body of a switch, the alternative of a conditional or the
handler of a guarded block. -/
def Peeks (node : Node) (number : Nat) : Prop :=
  ∃ field ∈ node.kind.peeksAt?,
    node.children.findIdx? (·.tag.field == some field) = some number

instance (node : Node) (number : Nat) : Decidable (node.Peeks number) :=
  inferInstanceAs (Decidable (∃ field ∈ node.kind.peeksAt?, _))

/-- Two nodes are the same but for what is in functions. -/
inductive SameOutside : Node → Node → Prop where
  | intro {node other : Node} (tag : node.tag = other.tag)
    (children : node.isFunction = false →
      List.Forall₂ SameOutside node.children other.children)
    (peeked : node.isFunction = false → ∀ number, node.Peeks number →
      ∀ child ∈ node.children[number]?, ∀ twin ∈ other.children[number]?,
        List.Forall₂ SameOutside child.children twin.children) : SameOutside node other

/-- Two nodes have children that are the same outside functions. The nodes themselves may be
functions. -/
structure SameInside (node other : Node) : Prop where
  tag : node.tag = other.tag
  children : List.Forall₂ SameOutside node.children other.children

theorem SameOutside.refl (node : Node) : node.SameOutside node := by
  -- The induction carries the children along, as a construct may look past its child.
  have below : node.SameOutside node ∧ ∀ child ∈ node.children, child.SameOutside child := by
    induction node using Node.induction with
    | step node inductionHypothesis =>
      have children : ∀ child ∈ node.children, child.SameOutside child :=
        fun child member => (inductionHypothesis child member).1
      refine ⟨.intro rfl (fun _ => List.forall₂_same.mpr children) ?_, children⟩
      intro _ number _ child found twin also
      cases found.symm.trans also
      exact List.forall₂_same.mpr (inductionHypothesis child (List.mem_of_getElem? found)).2
  exact below.1

/-! ### Other children for a function -/

/-- The node with other children for what stands at an address. -/
def replaceChildren (children : List Node) : (address : List Nat) → Node → Node
  | [], node => ⟨node.tag, children⟩
  | number :: rest, node => ⟨node.tag, node.children.modify number (replaceChildren children rest)⟩

/-- A change to one child that is not seen there is not seen from above. -/
theorem same_modify {node : Node} {number : Nat} {change : Node → Node}
    (outside : ∀ child ∈ node.children[number]?, child.SameOutside (change child))
    (inside : node.Peeks number →
      ∀ child ∈ node.children[number]?, child.SameInside (change child)) :
    node.SameInside ⟨node.tag, node.children.modify number change⟩ ∧
      node.SameOutside ⟨node.tag, node.children.modify number change⟩ := by
  have children := forall₂_modify SameOutside.refl outside
  refine ⟨⟨rfl, children⟩, .intro rfl (fun _ => children) ?_⟩
  intro _ place peeks child found twin also
  rw [List.getElem?_modify, found] at also
  by_cases here : number = place
  · subst here
    have changed : change child = twin := by simpa using also
    exact changed ▸ (inside peeks child found).children
  · have kept : child = twin := by simpa [here] using also
    exact kept ▸ List.forall₂_same.mpr fun below _ => .refl below

/-- Other children for a nested function are not seen from outside it. -/
theorem replaceChildren_same {node around function : Node} {address : List Nat} {number : Nat}
    (stands : node.nodeAt? address = some around)
    (found : around.children[number]? = some function) (isFunction : function.isFunction = true)
    (unpeeked : ¬around.Peeks number) (children : List Node) :
    node.SameInside (node.replaceChildren children (address ++ [number])) ∧
      node.SameOutside (node.replaceChildren children (address ++ [number])) := by
  induction address generalizing node with
  | nil =>
    cases stands
    refine same_modify (fun child here => ?_) fun peeks => absurd peeks unpeeked
    cases found.symm.trans here
    have hidden {seen : Prop} (visible : function.isFunction = false) : seen := by
      rw [isFunction] at visible
      cases visible
    exact .intro rfl hidden hidden
  | cons place rest inductionHypothesis =>
    obtain ⟨next, here, stands⟩ := Option.bind_eq_some_iff.mp stands
    have same := inductionHypothesis stands
    refine same_modify (fun child also => ?_) fun _ child also => ?_
    · cases here.symm.trans also
      exact same.2
    · cases here.symm.trans also
      exact same.1

/-! ### What is seen of a node -/

section

variable {node twin : Node}

theorem SameOutside.tag_eq (same : node.SameOutside twin) : node.tag = twin.tag := by
  cases same with
  | intro tag _ _ => exact tag

theorem isFunction_congr (tag : node.tag = twin.tag) : node.isFunction = twin.isFunction := by
  rw [isFunction, isFunction, isNamed, isNamed, kind, kind, tag]

theorem SameOutside.isFunction_eq (same : node.SameOutside twin) :
    node.isFunction = twin.isFunction :=
  isFunction_congr same.tag_eq

theorem SameOutside.inside (same : node.SameOutside twin) (visible : node.isFunction = false) :
    node.SameInside twin := by
  cases same with
  | intro tag children _ => exact ⟨tag, children visible⟩

theorem SameInside.kind_eq (same : node.SameInside twin) : node.kind = twin.kind :=
  congrArg Tag.kind same.tag

theorem SameInside.child? (same : node.SameInside twin) (field : Field) :
    Option.Rel SameOutside (node.child? field) (twin.child? field) :=
  rel_find? (fun _ _ pair => by rw [pair.tag_eq]) same.children

theorem SameInside.namedChildren (same : node.SameInside twin) :
    List.Forall₂ SameOutside node.namedChildren twin.namedChildren :=
  forall₂_filter (fun _ _ pair => by rw [isNamed, pair.tag_eq]; rfl) same.children

theorem SameInside.kind_child? (same : node.SameInside twin) (field : Field) :
    (node.child? field).map kind = (twin.child? field).map kind :=
  map_eq_of_rel (same.child? field) fun _ _ pair => congrArg Tag.kind pair.tag_eq

/-- A construct that looks into a child finds children that are the same outside functions. -/
theorem SameOutside.peeked (same : node.SameOutside twin) (visible : node.isFunction = false)
    {field : Field} (peeks : field ∈ node.kind.peeksAt?) :
    Option.Rel SameInside (node.child? field) (twin.child? field) := by
  have inside := same.inside visible
  have tags : node.children.map (·.tag) = twin.children.map (·.tag) :=
    (map_eq_of_forall₂ (inside.children.imp fun _ _ pair => pair.tag_eq.symm)).symm
  have index : twin.children.findIdx? (·.tag.field == some field) =
      node.children.findIdx? (·.tag.field == some field) := by
    have mapped := congrArg (List.findIdx? (·.field == some field)) tags
    rw [List.findIdx?_map, List.findIdx?_map] at mapped
    exact mapped.symm
  rw [child?, child?, List.find?_eq_bind_findIdx?_getElem?, List.find?_eq_bind_findIdx?_getElem?,
    index]
  cases found : node.children.findIdx? (·.tag.field == some field) with
  | none => exact .none
  | some number =>
    obtain ⟨bound, _⟩ := List.findIdx?_eq_some_iff_getElem.mp found
    have also : number < twin.children.length := inside.children.length_eq ▸ bound
    rw [Option.bind_some, Option.bind_some, List.getElem?_eq_getElem bound,
      List.getElem?_eq_getElem also]
    cases same with
    | intro _ _ peeked =>
      exact .some ⟨(inside.children.get bound also).tag_eq, peeked visible number
        ⟨field, peeks, found⟩ _ (List.getElem?_eq_getElem bound) _
        (List.getElem?_eq_getElem also)⟩

end

end Node

/-! ### Scores -/

namespace Node

variable {node twin : Node}

theorem SameInside.decision?_eq (same : node.SameInside twin) :
    node.decision? = twin.decision? := by
  rw [decision?, decision?, same.kind_eq, same.kind_child? .operator]

theorem SameInside.nesting?_eq (same : node.SameInside twin) : node.nesting? = twin.nesting? := by
  rw [nesting?, nesting?, same.kind_eq, same.decision?_eq]

/-- The same operator is found, and its tokens say the same of themselves. -/
theorem SameInside.shortcut? (same : node.SameInside twin) :
    Option.Rel (fun one two => one.1 = two.1 ∧ one.2.tag = two.2.tag)
      node.shortcut? twin.shortcut? := by
  rw [Node.shortcut?, Node.shortcut?, same.kind_eq]
  split
  · have operator := same.child? .operator
    generalize node.child? .operator = token, twin.child? .operator = sign at operator
    cases operator with
    | none => exact .none
    | @some token sign pair =>
      have kind : token.kind = sign.kind := congrArg Tag.kind pair.tag_eq
      rw [Option.bind_some, Option.bind_some, kind]
      cases Shortcut.ofKind? sign.kind with
      | none => exact .none
      | some shortcut => exact .some ⟨rfl, pair.tag_eq⟩
  · exact .none

/-- A switch looks into its body, and the clauses that it finds there say the same of
themselves. -/
theorem SameOutside.caseClauses (same : node.SameOutside twin) (visible : node.isFunction = false)
    (switch : node.kind = .switchStatement) :
    List.Forall₂ (fun clause other => clause.tag = other.tag)
      node.caseClauses twin.caseClauses := by
  have body := same.peeked visible (show .body ∈ node.kind.peeksAt? by rw [switch]; rfl)
  rw [Node.caseClauses, Node.caseClauses]
  generalize node.child? .body = held, twin.child? .body = other at body
  cases body with
  | none => exact .nil
  | some inside =>
    refine .imp (fun _ _ pair => pair.tag_eq) (forall₂_filter ?_ inside.namedChildren)
    intro clause other pair
    rw [kind, pair.tag_eq]
    rfl

end Node

namespace Source

section

variable {source other : Source} {node twin : Node}

theorem text_congr (bytes : source.bytes = other.bytes) (tag : node.tag = twin.tag) :
    source.text node = other.text twin := by
  rw [text, text, bytes, tag]

/-- A contributor shows what its nodes say of themselves. -/
theorem contributor_congr (bytes : source.bytes = other.bytes) {construct : Construct} {cost : Nat}
    {anchor place : Node} (here : anchor.tag = place.tag) (tag : node.tag = twin.tag) :
    source.contributor construct cost anchor node =
      other.contributor construct cost place twin := by
  rw [contributor, contributor, position, position, text_congr bytes tag, bytes, here]

theorem decisions_congr (bytes : source.bytes = other.bytes) (same : node.SameOutside twin)
    (visible : node.isFunction = false) : source.decisions node = other.decisions twin := by
  have inside := same.inside visible
  rw [decisions, decisions, inside.decision?_eq, ← inside.kind_eq]
  cases twin.decision? with
  | some construct => exact congrArg ([·]) (contributor_congr bytes same.tag_eq same.tag_eq)
  | none =>
    dsimp only
    split
    next switch =>
      refine (map_eq_of_forall₂ ((same.caseClauses visible (beq_iff_eq.mp switch)).imp ?_)).symm
      exact fun clause other tag => (contributor_congr bytes tag tag).symm
    next =>
      have shortcut := inside.shortcut?
      generalize node.shortcut? = found, twin.shortcut? = also at shortcut
      cases shortcut with
      | none => rfl
      | @some one two pair =>
        obtain ⟨sign, token⟩ := one
        obtain ⟨_, place⟩ := two
        obtain ⟨rfl, tag⟩ := pair
        have shown (construct : Construct) := @contributor_congr _ _ _ _ bytes construct 1 _ _ tag
          same.tag_eq
        cases sign with
        | coalesce => rfl
        | and => exact congrArg ([·]) (shown _)
        | or => exact congrArg ([·]) (shown _)

theorem charges_congr (bytes : source.bytes = other.bytes) (same : node.SameInside twin)
    (depth : Nat) : source.charges depth node = other.charges depth twin := by
  rw [charges, charges, same.nesting?_eq]
  cases twin.nesting? with
  | some construct => exact congrArg ([·]) (contributor_congr bytes same.tag same.tag)
  | none =>
    have shortcut := same.shortcut?
    dsimp only
    generalize node.shortcut? = found, twin.shortcut? = also at shortcut
    cases shortcut with
    | none => rfl
    | @some one two pair =>
      obtain ⟨sign, token⟩ := one
      obtain ⟨_, place⟩ := two
      obtain ⟨rfl, tag⟩ := pair
      exact congrArg ([·]) (contributor_congr bytes tag same.tag)

theorem flatMap_decisions_congr (bytes : source.bytes = other.bytes)
    (same : node.SameOutside twin) :
    (node.walk Node.isFunction).flatMap source.decisions =
      (twin.walk Node.isFunction).flatMap other.decisions := by
  induction node using Node.induction generalizing twin with
  | step node inductionHypothesis =>
    by_cases function : node.isFunction = true
    · rw [Node.walk_of_cut function, Node.walk_of_cut (same.isFunction_eq ▸ function)]
      rfl
    · have visible := Bool.eq_false_iff.mpr function
      rw [Node.walk_of_not_cut function, Node.walk_of_not_cut (same.isFunction_eq ▸ function),
        List.flatMap_cons, List.flatMap_cons, decisions_congr bytes same visible,
        List.flatMap_assoc, List.flatMap_assoc,
        flatMap_eq_of_forall₂ (same.inside visible).children fun child member _ pair =>
          inductionHypothesis child member pair]

theorem burdenAll_eq_flatMap (source : Source) (depth : Nat) (nodes : List Node) :
    source.burdenAll depth nodes = nodes.flatMap (source.burden depth) := by
  induction nodes with
  | nil => rfl
  | cons node rest inductionHypothesis => rw [burdenAll, inductionHypothesis, List.flatMap_cons]

theorem burden_of_isFunction (source : Source) (depth : Nat) (function : node.isFunction = true) :
    source.burden depth node = [] := by
  cases node
  rw [burden]
  exact if_pos function

theorem burden_congr (bytes : source.bytes = other.bytes) (same : node.SameOutside twin)
    (depth : Nat) : source.burden depth node = other.burden depth twin := by
  induction node using Node.induction generalizing twin depth with
  | step node inductionHypothesis =>
    by_cases function : node.isFunction = true
    · rw [burden_of_isFunction source depth function,
        burden_of_isFunction other depth (same.isFunction_eq ▸ function)]
    · have inside := same.inside (Bool.eq_false_iff.mpr function)
      rw [burden_of_not_isFunction source depth function,
        burden_of_not_isFunction other depth (same.isFunction_eq ▸ function),
        charges_congr bytes inside, depthBelow, depthBelow, inside.nesting?_eq,
        burdenAll_eq_flatMap, burdenAll_eq_flatMap,
        flatMap_eq_of_forall₂ inside.children fun child member _ pair =>
          inductionHypothesis child member pair _]

/-- Nodes whose children are the same outside functions have the same cyclomatic score. -/
theorem cyclomatic_congr (bytes : source.bytes = other.bytes) (same : node.SameInside twin) :
    source.cyclomatic node = other.cyclomatic twin := by
  have contributors : (node.descendants true).flatMap source.decisions =
      (twin.descendants true).flatMap other.decisions := by
    rw [Node.descendants_eq_walkAll, Node.descendants_eq_walkAll, Node.walkAll_eq_flatMap,
      Node.walkAll_eq_flatMap, List.flatMap_assoc, List.flatMap_assoc]
    exact flatMap_eq_of_forall₂ same.children fun _ _ _ pair => flatMap_decisions_congr bytes pair
  rw [cyclomatic, cyclomatic, contributors]

/-- Nodes whose children are the same outside functions have the same cognitive score. -/
theorem cognitive_congr (bytes : source.bytes = other.bytes) (same : node.SameInside twin) :
    source.cognitive node = other.cognitive twin := by
  have contributors : source.burdenAll 0 node.children = other.burdenAll 0 twin.children := by
    rw [burdenAll_eq_flatMap, burdenAll_eq_flatMap]
    exact flatMap_eq_of_forall₂ same.children fun _ _ _ pair => burden_congr bytes pair 0
  rw [cognitive, cognitive, contributors]

end

end Source

/-! ### Outlines -/

namespace Outline

/-- Two outlines have the same flow, and where their nodes are no functions the same goes for all in
them. -/
inductive Agrees : Outline → Outline → Prop where
  | intro {outline other : Outline} (tag : outline.node.tag = other.node.tag)
    (flow : outline.flow = other.flow)
    (inner : outline.node.isFunction = false → outline.inner = other.inner)
    (parts : outline.node.isFunction = false → List.Forall₂ Agrees outline.parts other.parts) :
    Agrees outline other

/-- Two outlines have the same inner flow and parts that agree. Their nodes may be functions. -/
structure AgreesInside (outline other : Outline) : Prop where
  tag : outline.node.tag = other.node.tag
  inner : outline.inner = other.inner
  parts : List.Forall₂ Agrees outline.parts other.parts

variable {outline other : Outline}

theorem Agrees.tag_eq (agrees : outline.Agrees other) : outline.node.tag = other.node.tag := by
  cases agrees with
  | intro tag _ _ _ => exact tag

theorem Agrees.flow_eq (agrees : outline.Agrees other) : outline.flow = other.flow := by
  cases agrees with
  | intro _ flow _ _ => exact flow

theorem Agrees.kind_eq (agrees : outline.Agrees other) : outline.node.kind = other.node.kind :=
  congrArg Tag.kind agrees.tag_eq

theorem Agrees.inside (agrees : outline.Agrees other) (visible : outline.node.isFunction = false) :
    outline.AgreesInside other := by
  cases agrees with
  | intro tag _ inner parts => exact ⟨tag, inner visible, parts visible⟩

namespace AgreesInside

variable (agrees : outline.AgreesInside other)
include agrees

theorem part? (field : Field) : Option.Rel Agrees (outline.part? field) (other.part? field) :=
  rel_find? (fun _ _ pair => by rw [pair.tag_eq]) agrees.parts

theorem partsAt (field : Field) :
    List.Forall₂ Agrees (outline.partsAt field) (other.partsAt field) :=
  forall₂_filter (fun _ _ pair => by rw [pair.tag_eq]) agrees.parts

theorem namedParts : List.Forall₂ Agrees outline.namedParts other.namedParts :=
  forall₂_filter (fun _ _ pair => congrArg Tag.named pair.tag_eq) agrees.parts

theorem contents : List.Forall₂ Agrees outline.contents other.contents :=
  forall₂_filter (fun _ _ pair => by rw [pair.kind_eq]) agrees.namedParts

end AgreesInside

theorem Agrees.statements (agrees : outline.Agrees other) :
    List.Forall₂ Agrees outline.statements other.statements := by
  rw [Outline.statements, Outline.statements, ← agrees.kind_eq]
  split
  next block =>
    have visible : outline.node.isFunction = false :=
      Node.isFunction_of_isFrame (by rw [beq_iff_eq.mp block]; rfl)
    exact (agrees.inside visible).contents
  next => exact .cons agrees .nil

theorem flowOf_congr {part twin : Option Outline} (agree : Option.Rel Agrees part twin) :
    flowOf part = flowOf twin := by
  cases agree with
  | none => rfl
  | some agrees => exact agrees.flow_eq

theorem flowOfAll_congr {outlines others : List Outline}
    (agree : List.Forall₂ Agrees outlines others) : flowOfAll outlines = flowOfAll others := by
  rw [flowOfAll, flowOfAll, mapM_eq_of_forall₂ agree fun _ _ agrees => agrees.flow_eq]

section

variable {source twin : Source}

theorem labelOf_congr (bytes : source.bytes = twin.bytes) (tag : outline.node.tag = other.node.tag)
    (limit : Int) : labelOf source outline.node limit = labelOf twin other.node limit := by
  rw [labelOf, labelOf, Source.text_congr bytes tag]

theorem conditionLabel_congr (bytes : source.bytes = twin.bytes) {condition test : Option Outline}
    (agree : Option.Rel Agrees condition test) (limit : Int) :
    conditionLabel source condition limit = conditionLabel twin test limit := by
  cases agree with
  | none => rfl
  | @some outline other agrees =>
    have own := labelOf_congr bytes agrees.tag_eq limit
    rw [conditionLabel, conditionLabel, ← agrees.kind_eq]
    split
    next wrapped =>
      have visible : outline.node.isFunction = false :=
        Node.isFunction_of_isFrame (by rw [beq_iff_eq.mp wrapped]; rfl)
      have inside := rel_head? (agrees.inside visible).contents
      generalize outline.contents.head? = first, other.contents.head? = also at inside
      cases inside with
      | none => exact own
      | some pair => exact labelOf_congr bytes pair.tag_eq limit
    next => exact own

theorem branch_congr (bytes : source.bytes = twin.bytes) {body rest : Option Outline}
    (agree : Option.Rel Agrees body rest) (fallback : String) :
    branch source body fallback = branch twin rest fallback := by
  have statements : List.Forall₂ Agrees ((body.map statements).getD [])
      ((rest.map statements).getD []) := by
    cases agree with
    | none => exact .nil
    | some agrees => exact agrees.statements
  rw [branch, branch]
  generalize (body.map Outline.statements).getD [] = all,
    (rest.map Outline.statements).getD [] = also at statements
  cases statements with
  | nil => rfl
  | @cons first second behind others pair pairs =>
    dsimp only
    rw [← pair.kind_eq, labelOf_congr bytes pair.tag_eq, labelOf_congr bytes pair.tag_eq]
    split
    next terminal =>
      have visible := Node.isFunction_of_isFrame (Kind.isFrame_of_isTerminal terminal)
      rw [(pair.inside visible).inner, flowOfAll_congr pairs]
    next => rw [flowOfAll_congr (.cons pair pairs)]

/-! ### Constructs -/

theorem conditional_congr (bytes : source.bytes = twin.bytes) (agrees : outline.AgreesInside other)
    (alternative : Option.Rel AgreesInside (outline.part? .alternative)
      (other.part? .alternative)) :
    outline.conditional source = other.conditional twin := by
  have follows : Option.Rel Agrees ((outline.part? .alternative).bind (·.contents.head?))
      ((other.part? .alternative).bind (·.contents.head?)) := by
    generalize outline.part? .alternative = one, other.part? .alternative = two at alternative
    cases alternative with
    | none => exact .none
    | some inside => exact rel_head? inside.contents
  rw [conditional, conditional, flowOf_congr (agrees.part? .condition),
    conditionLabel_congr bytes (agrees.part? .condition),
    branch_congr bytes (agrees.part? .consequence)]
  generalize (outline.part? .alternative).bind (·.contents.head?) = one,
    (other.part? .alternative).bind (·.contents.head?) = two at follows
  cases follows with
  | none => rfl
  | some pair => simp only [pair.kind_eq, pair.flow_eq, branch_congr bytes (.some pair)]

theorem loop_congr (bytes : source.bytes = twin.bytes) (agrees : outline.AgreesInside other) :
    outline.loop source = other.loop twin := by
  have isBody {part also : Outline} (pair : part.Agrees also) :
      (outline.part? .body).any (·.node.sameSpan part.node) =
        (other.part? .body).any (·.node.sameSpan also.node) := by
    have body := agrees.part? .body
    generalize outline.part? .body = one, other.part? .body = two at body
    cases body with
    | none => rfl
    | some same =>
      rw [Option.any_some, Option.any_some, Node.sameSpan, Node.sameSpan, same.kind_eq, same.tag_eq,
        pair.kind_eq, pair.tag_eq]
  have head := forall₂_filter (fun _ _ pair => congrArg (!·) (isBody pair)) agrees.namedParts
  rw [loop, loop, labelOf_congr bytes agrees.tag]
  dsimp only
  rw [flowOfAll_congr head, flowOf_congr (agrees.part? .body)]

theorem clause_congr (bytes : source.bytes = twin.bytes) (agrees : outline.AgreesInside other) :
    outline.clause source = other.clause twin := by
  have value := agrees.part? .value
  rw [clause, clause, flowOf_congr value, flowOfAll_congr (agrees.partsAt .body)]
  generalize outline.part? .value = one, other.part? .value = two at value
  cases value with
  | none => rfl
  | some pair => simp only [labelOf_congr bytes pair.tag_eq]

theorem clauses_agree
    (body : Option.Rel AgreesInside (outline.part? .body) (other.part? .body)) :
    List.Forall₂ AgreesInside outline.clauses other.clauses := by
  rw [clauses, clauses]
  generalize outline.part? .body = one, other.part? .body = two at body
  cases body with
  | none => exact .nil
  | @some one two inside =>
    have clauses : List.Forall₂ Agrees (one.namedParts.filter isClause)
        (two.namedParts.filter isClause) :=
      forall₂_filter (fun _ _ pair => by rw [isClause, isClause, pair.kind_eq]) inside.namedParts
    refine forall₂_imp_of_mem clauses fun part member _ pair => ?_
    have kind : part.node.isClause = true := (List.mem_filter.mp member).2
    exact pair.inside (Node.isFunction_of_isFrame (Node.isFrame_of_isClause kind))

theorem switch_congr (bytes : source.bytes = twin.bytes) (agrees : outline.AgreesInside other)
    (body : Option.Rel AgreesInside (outline.part? .body) (other.part? .body)) :
    outline.switch source = other.switch twin := by
  rw [switch, switch, flowOf_congr (agrees.part? .value),
    conditionLabel_congr bytes (agrees.part? .value),
    mapM_eq_of_forall₂ (clauses_agree body) fun _ _ => clause_congr bytes]

theorem ternary_congr (bytes : source.bytes = twin.bytes) (agrees : outline.AgreesInside other) :
    outline.ternary source = other.ternary twin := by
  have condition := agrees.part? .condition
  rw [ternary, ternary, flowOf_congr (agrees.part? .consequence),
    flowOf_congr (agrees.part? .alternative)]
  generalize outline.part? .condition = one, other.part? .condition = two at condition
  cases condition with
  | none => rfl
  | some pair => simp only [pair.flow_eq, labelOf_congr bytes pair.tag_eq]

theorem rescue_congr (bytes : source.bytes = twin.bytes) {handler rest : Option Outline}
    (agree : Option.Rel AgreesInside handler rest) : rescue source handler = rescue twin rest := by
  cases agree with
  | none => rfl
  | @some handler rest inside =>
    have parameter := inside.part? .parameter
    rw [rescue, rescue, branch_congr bytes (inside.part? .body)]
    generalize handler.part? .parameter = one, rest.part? .parameter = two at parameter
    cases parameter with
    | none => rfl
    | some pair => simp only [labelOf_congr bytes pair.tag_eq]

theorem attempt_congr (bytes : source.bytes = twin.bytes) (agrees : outline.AgreesInside other)
    (handler : Option.Rel AgreesInside (outline.part? .handler) (other.part? .handler)) :
    outline.attempt source = other.attempt twin := by
  rw [attempt, attempt, flowOf_congr (agrees.part? .body), rescue_congr bytes handler,
    flowOf_congr (agrees.part? .finalizer)]

theorem terminal_congr (bytes : source.bytes = twin.bytes) (agrees : outline.AgreesInside other) :
    outline.terminal source = other.terminal twin := by
  rw [terminal, terminal, agrees.inner, labelOf_congr bytes agrees.tag]

theorem operation_congr (agrees : outline.AgreesInside other) :
    outline.operation = other.operation := by
  have operator := agrees.part? .operator
  rw [operation, operation, agrees.inner, flowOf_congr (agrees.part? .left),
    flowOf_congr (agrees.part? .right)]
  generalize outline.part? .operator = one, other.part? .operator = two at operator
  cases operator with
  | none => rfl
  | some pair => rw [Option.bind_some, Option.bind_some, pair.kind_eq]

/-- A construct sees no more of its parts than that they agree, apart from the one that it looks
into. -/
theorem construct_congr (bytes : source.bytes = twin.bytes) (agrees : outline.AgreesInside other)
    (peeked : outline.node.isFunction = false → ∀ field ∈ outline.node.kind.peeksAt?,
      Option.Rel AgreesInside (outline.part? field) (other.part? field)) :
    outline.construct source = other.construct twin := by
  have kind : outline.node.kind = other.node.kind := congrArg Tag.kind agrees.tag
  rw [construct, construct, ← Node.isFunction_congr agrees.tag, ← kind]
  split
  next => rfl
  next visible =>
    have opened (field : Field) (peeks : field ∈ outline.node.kind.peeksAt?) :=
      peeked (Bool.eq_false_iff.mpr visible) field peeks
    split
    next conditional =>
      exact conditional_congr bytes agrees (opened .alternative (by rw [conditional]; rfl))
    iterate 4 next => exact loop_congr bytes agrees
    next switch => exact switch_congr bytes agrees (opened .body (by rw [switch]; rfl))
    next => exact ternary_congr bytes agrees
    next guarded => exact attempt_congr bytes agrees (opened .handler (by rw [guarded]; rfl))
    iterate 4 next => exact terminal_congr bytes agrees
    next => exact operation_congr agrees
    next => exact agrees.inner

/-! ### Whole trees -/

/-- Outlines of nodes that are the same outside functions agree. -/
theorem ofNode_agrees (bytes : source.bytes = twin.bytes) (node : Node) :
    (∀ also, node.SameOutside also → (ofNode source node).Agrees (ofNode twin also)) ∧
      ∀ also, node.SameInside also → (ofNode source node).AgreesInside (ofNode twin also) := by
  -- Both at once: a construct looks into one of its children even where that is a function.
  induction node using Node.induction with
  | step node inductionHypothesis =>
    have inside (also : Node) (same : node.SameInside also) :
        (ofNode source node).AgreesInside (ofNode twin also) := by
      have parts : List.Forall₂ Agrees (ofNode source node).parts (ofNode twin also).parts := by
        rw [ofNode_parts, ofNode_parts, List.forall₂_map_left_iff, List.forall₂_map_right_iff]
        exact forall₂_imp_of_mem same.children fun child member _ pair =>
          (inductionHypothesis child member).1 _ pair
      have named : List.Forall₂ Agrees (ofNode source node).namedParts
          (ofNode twin also).namedParts :=
        forall₂_filter (fun _ _ pair => congrArg Tag.named pair.tag_eq) parts
      refine ⟨?_, ?_, parts⟩
      · rw [ofNode_node, ofNode_node, same.tag]
      · rw [ofNode_inner, ofNode_inner, ← ofNode_namedParts, ← ofNode_namedParts,
          flowOfAll_congr named]
    refine ⟨fun also same => ?_, inside⟩
    have tag : (ofNode source node).node.tag = (ofNode twin also).node.tag := by
      rw [ofNode_node, ofNode_node, same.tag_eq]
    by_cases function : node.isFunction = true
    · have flow : (ofNode source node).flow = (ofNode twin also).flow := by
        rw [ofNode_flow, ofNode_flow, construct, construct, ofNode_node, ofNode_node,
          if_pos function, if_pos (same.isFunction_eq ▸ function)]
      have hidden {seen : Prop} (visible : (ofNode source node).node.isFunction = false) :
          seen := by
        rw [ofNode_node, function] at visible
        cases visible
      exact .intro tag flow hidden hidden
    · have visible := Bool.eq_false_iff.mpr function
      have agrees := inside also (same.inside visible)
      have peeked (field : Field) (peeks : field ∈ node.kind.peeksAt?) :
          Option.Rel AgreesInside ((ofNode source node).part? field)
            ((ofNode twin also).part? field) := by
        have found := same.peeked visible peeks
        have below : ∀ child ∈ node.child? field, child ∈ node.children :=
          fun _ => List.mem_of_find?_eq_some
        rw [ofNode_part?, ofNode_part?]
        generalize node.child? field = one, also.child? field = two at found below
        cases found with
        | none => exact .none
        | some pair => exact .some ((inductionHypothesis _ (below _ rfl)).2 _ pair)
      refine .intro tag ?_ (fun _ => agrees.inner) fun _ => agrees.parts
      rw [ofNode_flow, ofNode_flow]
      refine construct_congr bytes agrees fun _ field peeks => peeked field ?_
      rwa [ofNode_node] at peeks

end

end Outline

/-- Functions whose children are the same outside functions have the same control flow graph. -/
theorem Source.flowGraph_congr {source other : Source} (bytes : source.bytes = other.bytes)
    {node twin : Node} (same : node.SameInside twin) :
    source.flowGraph node = other.flowGraph twin := by
  rw [flowGraph, flowGraph, ((Outline.ofNode_agrees bytes node).2 twin same).inner,
    Node.isFunction_congr same.tag, same.kind_eq]

/-- A function in another one may hold anything: neither the scores nor the graph of the function
around it depend on what is in it. The nested function may stand anywhere but where a construct
looks into its child whatever that is. -/
theorem nestedFunction_unseen {source other : Source} (bytes : source.bytes = other.bytes)
    {function around nested : Node} {address : List Nat} {number : Nat}
    (stands : function.nodeAt? address = some around)
    (found : around.children[number]? = some nested) (isFunction : nested.isFunction = true)
    (unpeeked : ¬around.Peeks number) (children : List Node) :
    let changed := function.replaceChildren children (address ++ [number])
    source.cyclomatic function = other.cyclomatic changed ∧
    source.cognitive function = other.cognitive changed ∧
    source.flowGraph function = other.flowGraph changed := by
  intro changed
  have same : function.SameInside changed :=
    (Node.replaceChildren_same stands found isFunction unpeeked children).1
  exact ⟨Source.cyclomatic_congr bytes same, Source.cognitive_congr bytes same,
    Source.flowGraph_congr bytes same⟩

/-- A function that follows `else` and calls nothing. -/
def elseCallback : Node :=
  .named .arrowFunction none [.identifier none]

/-- The alternative of a conditional is looked into, but not what the function in it holds. -/
def elseClause : Node :=
  .named (.other "else_clause") (some .alternative) [elseCallback]

/-- A conditional with functions for its condition and its first branch and after `else`. -/
def callbacks : Node :=
  .named .functionDeclaration none [.named .statementBlock (some .body) [.named .ifStatement none [
    .named .parenthesizedExpression (some .condition) [.named .function none []],
    .named .arrowFunction (some .consequence) [.conjunction none], elseClause]]]

/-- A ternary without a condition could not be drawn if it was seen. -/
theorem nestedFunction_unseen_elseCallback :
    let changed := callbacks.replaceChildren [.named .ternaryExpression none []] [0, 0, 2, 0]
    let source : Source := { Source.blank with tree := ⟨changed, false⟩ }
    callbacks.nodeAt? [0, 0, 2] = some elseClause ∧ elseClause.children[0]? = some elseCallback ∧
    elseCallback.isFunction = true ∧ ¬elseClause.Peeks 0 ∧
    Source.blank.cyclomatic callbacks = source.cyclomatic changed ∧
    Source.blank.cognitive callbacks = source.cognitive changed ∧
    Source.blank.flowGraph callbacks = source.flowGraph changed :=
  ⟨rfl, rfl, by decide, by decide, @nestedFunction_unseen Source.blank _ rfl callbacks elseClause
    elseCallback [0, 0, 2] 0 rfl rfl (by decide) (by decide) [.named .ternaryExpression none []]⟩

end Tangle
