/-
This file says which trees are shaped as the grammar shapes them. Outlining looks
for the parts of a construct in certain fields and does not see what stands
elsewhere, while scoring sees everything. Where trees keep to the grammar the two
get to the same decisions, with one exception: the head of a catch clause is not
outlined.
-/

import Tangle.Score
import Mathlib

namespace Tangle

/-- The loops. -/
def Kind.isLoop : Kind → Bool
  | .whileStatement | .doStatement | .forStatement | .forInStatement => true
  | _ => false

/-- The kinds of nodes that neither decide anything nor hide what is below them. -/
def Kind.isFrame : Kind → Bool
  | .ifStatement | .whileStatement | .doStatement | .forStatement | .forInStatement
  | .ternaryExpression | .catchClause | .switchStatement | .binaryExpression => false
  | kind => !kind.isFunction

namespace Node

/-! ### Decisions -/

/-- Whether a node is a binary expression with the operator `&&` or `||`. -/
def isShortcut (node : Node) : Bool :=
  match node.shortcut? with
  | some (.and, _) | some (.or, _) => true
  | _ => false

/-- Whether a node decides what runs next. -/
def isDecision (node : Node) : Bool :=
  node.decision?.isSome || node.kind == .switchStatement || node.isShortcut

/-- The named children other than comments. -/
def contents (node : Node) : List Node :=
  node.namedChildren.filter (·.kind != .comment)

theorem mem_children_of_mem_contents {node child : Node} (member : child ∈ node.contents) :
    child ∈ node.children :=
  (List.mem_filter.mp (List.mem_filter.mp member).1).1

def isClause (node : Node) : Bool :=
  node.kind == .switchCase || node.kind == .switchDefault

/-- The clauses of a switch, its `default` among them. -/
def clauses (node : Node) : List Node :=
  match node.child? .body with
  | some body => body.namedChildren.filter isClause
  | none => []

/-- The weight of a node by itself: that of the decision that it is drawn as. -/
def weight (choice : Nat → Nat) (node : Node) : Nat :=
  if node.kind = .switchStatement then choice node.clauses.length
  else if node.isDecision then 1 else 0

/-! ### The grammar's shape -/

/-- The fields in which a construct keeps its parts. Other nodes are threaded child by child, and of
a catch clause only the body is. -/
def fields (node : Node) : List Field :=
  match node.kind with
  | .ifStatement | .ternaryExpression => [.condition, .consequence, .alternative]
  | .tryStatement => [.body, .handler, .finalizer]
  | .switchStatement | .switchCase | .switchDefault => [.value, .body]
  | .binaryExpression => if node.isShortcut then [.left, .operator, .right] else []
  | _ => []

/-- A node with its children is shaped as the grammar has it. -/
@[mk_iff]
structure Shaped (node : Node) : Prop where
  /-- Tokens and comments are leaves. -/
  leaves : ∀ child ∈ node.children,
    child.isNamed = false ∨ child.kind = .comment → child.children = []
  /-- No decision is a token. -/
  tokens : ∀ child ∈ node.children, child.isNamed = false → child.isDecision = false
  /-- The parts of a construct stand in its fields. -/
  placed : node.fields ≠ [] → ∀ child ∈ node.contents, ∃ field ∈ node.fields,
    child.tag.field = some field
  /-- No field is taken twice, but a clause may hold several statements. -/
  single : ∀ field ∈ node.fields, ¬(node.isClause ∧ field = .body) →
    (node.childrenAt field).length ≤ 1
  /-- A ternary has a condition. -/
  conditioned : node.kind = .ternaryExpression → (node.child? .condition).isSome
  /-- What follows `else` is a clause with one statement. -/
  alternative : node.kind = .ifStatement → ∀ other ∈ node.child? .alternative,
    other.kind = .other "else_clause" ∧ other.contents.length = 1
  /-- The body of a switch holds clauses only. -/
  switchBody : node.kind = .switchStatement → ∀ body ∈ node.child? .body,
    body.kind = .other "switch_body" ∧ ∀ child ∈ body.contents, child.isClause
  /-- A handler is a catch clause. -/
  handler : node.kind = .tryStatement → ∀ handler ∈ node.child? .handler,
    handler.kind = .catchClause
  /-- A catch clause is a handler. -/
  handles : ∀ child ∈ node.children, child.kind = .catchClause →
    node.kind = .tryStatement ∧ child.tag.field = some .handler
  /-- A catch clause has no second body. -/
  caught : node.kind = .catchClause → (node.childrenAt .body).length ≤ 1
  /-- The operator of a shortcut is a leaf. -/
  operator : node.isShortcut → ∀ token ∈ node.child? .operator, token.children = []
  /-- The body of a loop shares kind and span with no other child. -/
  loopBody : node.kind.isLoop → ∀ body ∈ node.child? .body,
    (node.children.filter body.sameSpan).length = 1

instance (node : Node) : Decidable node.Shaped :=
  decidable_of_iff _ (shaped_iff node).symm

/-! ### What outlining gets to -/

mutual

/-- A node and all below it in pre-order, without nested functions and without the heads of catch
clauses. -/
def drawn : Node → List Node
  | ⟨tag, children⟩ =>
    if isFunction ⟨tag, children⟩ then []
    else ⟨tag, children⟩ :: drawnAll (tag.kind == .catchClause) children

/-- What is drawn of several nodes; of the children of a catch clause only its body is. -/
def drawnAll (caught : Bool) : List Node → List Node
  | [] => []
  | node :: rest =>
    (if caught && node.tag.field != some .body then [] else drawn node) ++ drawnAll caught rest

end

theorem drawnAll_false (nodes : List Node) : drawnAll false nodes = nodes.flatMap drawn := by
  induction nodes with
  | nil => rfl
  | cons node rest inductionHypothesis =>
    rw [drawnAll, inductionHypothesis, List.flatMap_cons]
    rfl

theorem drawnAll_true (nodes : List Node) :
    drawnAll true nodes = (nodes.filter (·.tag.field == some .body)).flatMap drawn := by
  induction nodes with
  | nil => rfl
  | cons node rest inductionHypothesis =>
    rw [drawnAll, inductionHypothesis, List.filter_cons]
    by_cases body : node.tag.field = some .body <;> simp [body]

/-- The weight of all that is drawn of a node. -/
def load (choice : Nat → Nat) (node : Node) : Nat :=
  (node.drawn.map (weight choice)).sum

/-- The weight of all that is drawn of the children. -/
def loadBelow (choice : Nat → Nat) (node : Node) : Nat :=
  (node.children.map (load choice)).sum

/-- The weight of all that is drawn of the child in a field. -/
def loadAt (choice : Nat → Nat) (node : Node) (field : Field) : Nat :=
  ((node.child? field).map (load choice)).getD 0

section Load

variable {choice : Nat → Nat} {node : Node}

theorem sum_map_weight_flatMap_drawn (choice : Nat → Nat) (nodes : List Node) :
    ((nodes.flatMap drawn).map (weight choice)).sum = (nodes.map (load choice)).sum := by
  induction nodes with
  | nil => rfl
  | cons node rest inductionHypothesis =>
    rw [List.flatMap_cons, List.map_append, List.sum_append, inductionHypothesis, List.map_cons,
      List.sum_cons, load]

theorem load_of_isFunction (function : node.isFunction = true) : node.load choice = 0 := by
  obtain ⟨tag, children⟩ := node
  rw [load, drawn, if_pos function]
  rfl

theorem load_of_ne_catchClause (visible : node.isFunction = false)
    (uncaught : node.kind ≠ .catchClause) :
    node.load choice = node.weight choice + node.loadBelow choice := by
  obtain ⟨tag, children⟩ := node
  have free : (tag.kind == .catchClause) = false := beq_eq_false_iff_ne.mpr uncaught
  rw [load, drawn, if_neg (Bool.eq_false_iff.mp visible), free, drawnAll_false, List.map_cons,
    List.sum_cons, sum_map_weight_flatMap_drawn, loadBelow]

theorem load_of_catchClause (caught : node.kind = .catchClause) :
    node.load choice = 1 + ((node.childrenAt .body).map (load choice)).sum := by
  obtain ⟨tag, children⟩ := node
  have visible : isFunction ⟨tag, children⟩ ≠ true := by simp [isFunction, caught, Kind.isFunction]
  have one : weight choice ⟨tag, children⟩ = 1 := by
    simp [weight, isDecision, decision?, caught]
  have held : (tag.kind == .catchClause) = true := beq_iff_eq.mpr caught
  rw [load, drawn, if_neg visible, held, drawnAll_true, List.map_cons, List.sum_cons,
    sum_map_weight_flatMap_drawn, one, childrenAt]

theorem weight_of_decision? (decides : node.decision?.isSome) : node.weight choice = 1 := by
  have other : node.kind ≠ .switchStatement := by
    intro kind
    simp [decision?, kind] at decides
  rw [weight, if_neg other, isDecision, decides]
  rfl

theorem weight_of_isLoop (loop : node.kind.isLoop = true) : node.weight choice = 1 := by
  refine weight_of_decision? ?_
  unfold Kind.isLoop at loop
  split at loop
  iterate 3 next kind => rw [decision?, kind]; rfl
  next kind =>
    simp only [decision?, kind]
    split <;> rfl
  next => cases loop

theorem weight_of_not_isDecision (plain : node.isDecision = false) : node.weight choice = 0 := by
  have other : node.kind ≠ .switchStatement := by
    rintro kind
    simp [isDecision, kind] at plain
  rw [weight, if_neg other, if_neg (Bool.eq_false_iff.mp plain)]

theorem isFunction_of_isFrame (frame : node.kind.isFrame = true) : node.isFunction = false := by
  unfold Kind.isFrame at frame
  split at frame <;> simp_all [isFunction]

theorem isFrame_of_isClause (isClause : node.isClause = true) : node.kind.isFrame = true := by
  have kind : node.kind = .switchCase ∨ node.kind = .switchDefault := by
    simpa [Node.isClause] using isClause
  rcases kind with kind | kind <;> rw [kind] <;> rfl

/-- A frame only holds what is below it. -/
theorem load_of_isFrame (frame : node.kind.isFrame = true) :
    node.load choice = node.loadBelow choice := by
  have visible := isFunction_of_isFrame frame
  have uncaught : node.kind ≠ .catchClause := by
    intro caught
    simp [caught, Kind.isFrame] at frame
  have plain : node.isDecision = false := by
    unfold Kind.isFrame at frame
    split at frame <;> simp_all [isDecision, decision?, isShortcut, shortcut?]
  rw [load_of_ne_catchClause visible uncaught, weight_of_not_isDecision plain, Nat.zero_add]

end Load

/-! ### Loads in a shaped tree -/

/-- The load of a field that is taken once. -/
theorem sum_childrenAt {choice : Nat → Nat} {node : Node} {field : Field}
    (single : (node.childrenAt field).length ≤ 1) :
    ((node.childrenAt field).map (load choice)).sum = node.loadAt choice field := by
  rw [loadAt, child?, ← List.head?_filter, ← childrenAt]
  cases held : node.childrenAt field with
  | nil => rfl
  | cons first rest =>
    rw [held, List.length_cons] at single
    have alone : rest = [] := List.length_eq_zero_iff.mp (by omega)
    rw [alone, List.map_singleton, List.sum_singleton]
    rfl

theorem nodup_fields (node : Node) : node.fields.Nodup := by
  unfold fields
  split <;> try decide
  split <;> decide

/-- Nothing is lost by leaving out what has no load. -/
theorem sum_map_filter_of_eq_zero {α : Type} (load : α → Nat) (keep : α → Bool) (items : List α)
    (idle : ∀ item ∈ items, keep item = false → load item = 0) :
    ((items.filter keep).map load).sum = (items.map load).sum := by
  induction items with
  | nil => rfl
  | cons item rest inductionHypothesis =>
    have others := inductionHypothesis fun other member =>
      idle other (List.mem_cons_of_mem _ member)
    cases kept : keep item with
    | true => rw [List.filter_cons_of_pos kept, List.map_cons, List.map_cons, List.sum_cons,
        List.sum_cons, others]
    | false => rw [List.filter_cons_of_neg (Bool.eq_false_iff.mp kept), others, List.map_cons,
        List.sum_cons, idle item List.mem_cons_self kept, Nat.zero_add]

/-- The load of all children is that of the fields together, where every child with a load stands in
one of them. -/
theorem sum_map_eq_sum_fields (load : Node → Nat) (fields : List Field) (unique : fields.Nodup)
    (children : List Node) (placed : ∀ child ∈ children, load child = 0 ∨
      ∃ field ∈ fields, child.tag.field = some field) :
    (children.map load).sum = (fields.map fun field =>
      ((children.filter (·.tag.field == some field)).map load).sum).sum := by
  induction children with
  | nil => simp
  | cons child rest inductionHypothesis =>
    have others := inductionHypothesis fun other member =>
      placed other (List.mem_cons_of_mem _ member)
    have own : (fields.map fun field =>
        if child.tag.field == some field then load child else 0).sum = load child := by
      obtain unplaced | ⟨field, member, here⟩ := placed child List.mem_cons_self
      · simp [unplaced]
      · rw [List.sum_map_eq_nsmul_single field, List.count_eq_one_of_mem unique member]
        · simp [here]
        · intro other different _
          rw [here, if_neg]
          simpa using Ne.symm different
    rw [List.map_cons, List.sum_cons, others]
    conv_lhs => rw [← own]
    rw [← List.sum_map_add]
    refine congrArg List.sum (List.map_congr_left fun field _ => ?_)
    rw [List.filter_cons]
    split <;> simp

namespace Shaped

variable {node child : Node} {choice : Nat → Nat}

/-- Tokens and comments have no load. -/
theorem load_eq_zero (shaped : node.Shaped) (member : child ∈ node.children)
    (blank : child.isNamed = false ∨ child.kind = .comment) : child.load choice = 0 := by
  have plain : child.isDecision = false := by
    obtain token | comment := blank
    · exact shaped.tokens child member token
    · simp [isDecision, decision?, isShortcut, shortcut?, comment]
  have uncaught : child.kind ≠ .catchClause := by
    intro caught
    simp [isDecision, decision?, caught] at plain
  have visible : child.isFunction = false := by
    obtain token | comment := blank
    · simp [isFunction, token]
    · simp [isFunction, comment, Kind.isFunction]
  rw [load_of_ne_catchClause visible uncaught, loadBelow, shaped.leaves child member blank,
    weight_of_not_isDecision plain]
  rfl

theorem sum_namedChildren (shaped : node.Shaped) :
    (node.namedChildren.map (load choice)).sum = node.loadBelow choice :=
  sum_map_filter_of_eq_zero _ _ _ fun _ member token => shaped.load_eq_zero member (.inl token)

theorem sum_contents (shaped : node.Shaped) :
    (node.contents.map (load choice)).sum = node.loadBelow choice := by
  rw [← shaped.sum_namedChildren]
  refine sum_map_filter_of_eq_zero _ _ _ fun child member comment => ?_
  exact shaped.load_eq_zero (List.mem_filter.mp member).1 (.inr (by simpa using comment))

/-- The load of a construct's children is that of its fields. -/
theorem sum_fields (shaped : node.Shaped) (construct : node.fields ≠ []) :
    node.loadBelow choice =
      (node.fields.map fun field => ((node.childrenAt field).map (load choice)).sum).sum := by
  refine sum_map_eq_sum_fields _ _ node.nodup_fields _ fun child member => ?_
  by_cases content : child ∈ node.contents
  · exact .inr (shaped.placed construct child content)
  · refine .inl (shaped.load_eq_zero member ?_)
    simp only [contents, namedChildren, List.mem_filter, member, true_and, bne_iff_ne] at content
    by_cases token : child.isNamed = false
    · exact .inl token
    · exact .inr (by simpa [token] using content)

/-- The load of the children of a construct other than a clause, field by field. -/
theorem sum_loadAt (shaped : node.Shaped) {first : Field} {rest : List Field}
    (fields : node.fields = first :: rest) (other : node.isClause = false) :
    node.loadBelow choice = ((first :: rest).map (node.loadAt choice)).sum := by
  rw [shaped.sum_fields (by rw [fields]; exact List.cons_ne_nil _ _), fields]
  refine congrArg List.sum (List.map_congr_left fun field own => ?_)
  refine sum_childrenAt (shaped.single field (fields ▸ own) fun clause => ?_)
  exact Bool.eq_false_iff.mp other clause.1

/-- The body of a switch holds nothing but its clauses and comments. -/
theorem clauses_eq_contents (shaped : node.Shaped) (kind : node.kind = .switchStatement)
    {body : Node} (found : node.child? .body = some body) : node.clauses = body.contents := by
  rw [clauses, found]
  refine List.filter_congr fun child named => ?_
  by_cases comment : child.kind = .comment
  · simp [isClause, comment]
  · have content : child ∈ body.contents :=
      List.mem_filter.mpr ⟨named, bne_iff_ne.mpr comment⟩
    rw [(shaped.switchBody kind body found).2 child content, bne_iff_ne.mpr comment]

end Shaped

end Node

end Tangle
