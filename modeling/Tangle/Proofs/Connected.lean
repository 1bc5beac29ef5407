/-
This file shows that the graph of a flow hangs together: every vertex lies on a
way from the entry to the exit.

The way a drawing proceeds carries the argument. In a sketch there is no exit yet;
what takes its place is the list of open ends. Every vertex is reached from the
entry, and from every vertex some open end is reached. A move may only give up an
open end by leading it somewhere from where another open end is reached.
-/

import Tangle.Proofs.Sketch

namespace Tangle

/-! ### Ways through a graph -/

namespace Graph

/-- An edge leads from one vertex to the other. -/
def Leads (graph : Graph) (source target : Int) : Prop :=
  ∃ edge ∈ graph.edges, edge.source = source ∧ edge.target = target

/-- A way leads from one vertex to the other. -/
def Reaches (graph : Graph) : Int → Int → Prop :=
  Relation.ReflTransGen graph.Leads

theorem Reaches.mono {graph larger : Graph} (kept : graph.edges ⊆ larger.edges)
    {source target : Int} (way : graph.Reaches source target) : larger.Reaches source target :=
  Relation.ReflTransGen.mono
    (fun _ _ ⟨edge, member, joins⟩ => ⟨edge, kept member, joins⟩) source target way

/-- A number that a vertex has when vertices are numbered by their places. -/
def Has (graph : Graph) (id : Int) : Prop :=
  0 ≤ id ∧ id < graph.next

theorem edges_subset_attach (graph : Graph) (ends : List OpenEnd) (label : String)
    (kind : VertexKind) : graph.edges ⊆ (graph.attach ends label kind).edges :=
  List.subset_append_left _ _

/-- An open end that is attached leads to the new vertex. -/
theorem reaches_attach (graph : Graph) {ends : List OpenEnd} (label : String) (kind : VertexKind)
    {loose : OpenEnd} (member : loose ∈ ends) :
    (graph.attach ends label kind).Reaches loose.vertex graph.next :=
  .single ⟨loose.edgeTo graph.next,
    List.mem_append_right _ (List.mem_map_of_mem member), rfl, rfl⟩

theorem has_attach_iff (graph : Graph) (ends : List OpenEnd) (label : String) (kind : VertexKind)
    (id : Int) : (graph.attach ends label kind).Has id ↔ graph.Has id ∨ id = graph.next := by
  have counted : 0 ≤ graph.next := Int.natCast_nonneg _
  rw [Has, Has, next_attach]
  omega

/-! ### Vertices in their places -/

/-- The vertices are numbered by their places; the first is an entry, and no other one is an entry
or an exit. -/
structure Begun (graph : Graph) : Prop where
  numbered : graph.vertices.map (·.id) = (List.range graph.vertices.length).map Int.ofNat
  entrance : ∃ first inner, graph.vertices = first :: inner ∧ first.kind = .entry ∧
    ∀ vertex ∈ inner, vertex.kind = .decision ∨ vertex.kind = .statement

theorem numbered_attach {graph : Graph}
    (numbered : graph.vertices.map (·.id) = (List.range graph.vertices.length).map Int.ofNat)
    (ends : List OpenEnd) (label : String) (kind : VertexKind) :
    (graph.attach ends label kind).vertices.map (·.id) =
      (List.range (graph.attach ends label kind).vertices.length).map Int.ofNat := by
  simp only [attach, List.map_append, numbered, List.length_append, List.length_singleton,
    List.range_succ]
  rfl

theorem Begun.attach {graph : Graph} (begun : graph.Begun) (ends : List OpenEnd) (label : String)
    {kind : VertexKind} (inside : kind = .decision ∨ kind = .statement) :
    (graph.attach ends label kind).Begun := by
  refine ⟨numbered_attach begun.numbered ends label kind, ?_⟩
  obtain ⟨first, inner, split, isEntry, others⟩ := begun.entrance
  refine ⟨first, inner ++ [⟨graph.next, label, kind⟩], ?_, isEntry, ?_⟩
  · rw [Graph.attach, split, List.cons_append]
  · intro vertex member
    rcases List.mem_append.mp member with old | new
    · exact others vertex old
    · rw [List.mem_singleton.mp new]
      exact inside

end Graph

/-- The vertices of a sketch stay in their places. -/
theorem Sketch.Step.begun {before after : Sketch} (move : Step before after)
    (begun : before.graph.Begun) : after.graph.Begun := by
  cases move with
  | reorder _ => exact begun
  | join label first more others => exact begun.attach _ _ (.inr rfl)
  | fork label start group others => exact begun.attach _ _ (.inl rfl)
  | @again graph body decision others =>
    have relinked : (graph.addEdge body decision (some "continue")).Begun :=
      ⟨begun.numbered, begun.entrance⟩
    exact relinked.attach _ _ (.inr rfl)

/-! ### Sketches that hang together -/

namespace Sketch

/-- Every vertex is reached from the entry and reaches an open end. The entry is left by edges only,
and only an end without a label may still be open there. -/
structure Connected (sketch : Sketch) : Prop where
  joined : ∀ edge ∈ sketch.graph.edges,
    sketch.graph.Has edge.source ∧ sketch.graph.Has edge.target ∧ edge.target ≠ 0
  opened : ∀ loose ∈ sketch.ends,
    sketch.graph.Has loose.vertex ∧ (loose.label ≠ none → loose.vertex ≠ 0)
  entered : ∀ id, sketch.graph.Has id → sketch.graph.Reaches 0 id
  left : ∀ id, sketch.graph.Has id → ∃ loose ∈ sketch.ends, sketch.graph.Reaches id loose.vertex

/-- Leading some open ends to a new vertex keeps a sketch connected, as long as the new vertex is
left open. -/
theorem Connected.attach {graph : Graph} {first : OpenEnd} {more others : List OpenEnd}
    (connected : Connected ⟨graph, (first :: more) ++ others⟩) (label : String)
    (kind : VertexKind) {labels : List (Option String)} (leaves : labels ≠ []) :
    Connected ⟨graph.attach (first :: more) label kind, endsAt graph.next labels ++ others⟩ := by
  obtain ⟨joined, opened, entered, left⟩ := connected
  have kept := graph.edges_subset_attach (first :: more) label kind
  have firstHas : graph.Has first.vertex := (opened first List.mem_cons_self).1
  have notEntry : graph.next ≠ 0 := by
    obtain ⟨_, _⟩ := firstHas
    omega
  constructor
  · intro edge member
    simp only [Graph.has_attach_iff]
    rcases List.mem_append.mp member with old | new
    · obtain ⟨source, target, inner⟩ := joined edge old
      exact ⟨.inl source, .inl target, inner⟩
    · obtain ⟨loose, closed, rfl⟩ := List.mem_map.mp new
      exact ⟨.inl (opened loose (List.mem_append_left _ closed)).1, .inr rfl, notEntry⟩
  · intro loose member
    simp only [Graph.has_attach_iff]
    rcases List.mem_append.mp member with new | old
    · obtain ⟨_, _, rfl⟩ := List.mem_map.mp new
      exact ⟨.inr rfl, fun _ => notEntry⟩
    · obtain ⟨has, inner⟩ := opened loose (List.mem_append_right _ old)
      exact ⟨.inl has, inner⟩
  · intro id has
    rcases (graph.has_attach_iff _ _ _ _).mp has with old | rfl
    · exact (entered id old).mono kept
    · exact ((entered _ firstHas).mono kept).trans
        (graph.reaches_attach label kind List.mem_cons_self)
  · intro id has
    obtain ⟨edge, member⟩ := List.exists_mem_of_ne_nil labels leaves
    have new : (⟨graph.next, edge⟩ : OpenEnd) ∈ endsAt graph.next labels ++ others :=
      List.mem_append_left _ (List.mem_map_of_mem member)
    rcases (graph.has_attach_iff _ _ _ _).mp has with old | rfl
    · obtain ⟨loose, member, way⟩ := left id old
      rcases List.mem_append.mp member with closed | stays
      · exact ⟨_, new, (way.mono kept).trans (graph.reaches_attach label kind closed)⟩
      · exact ⟨loose, List.mem_append_right _ stays, way.mono kept⟩
    · exact ⟨_, new, .refl⟩

/-- Leading an open end back to a vertex that is left open keeps a sketch connected. -/
theorem Connected.addEdge {graph : Graph} {back target : OpenEnd} {others : List OpenEnd}
    (connected : Connected ⟨graph, back :: target :: others⟩) (notEntry : target.vertex ≠ 0)
    (label : Option String) :
    Connected ⟨graph.addEdge back.vertex target.vertex label, target :: others⟩ := by
  obtain ⟨joined, opened, entered, left⟩ := connected
  have kept : graph.edges ⊆ (graph.addEdge back.vertex target.vertex label).edges :=
    List.subset_append_left _ _
  constructor
  · intro edge member
    rcases List.mem_append.mp member with old | new
    · exact joined edge old
    · rw [List.mem_singleton.mp new]
      exact ⟨(opened back (by simp)).1, (opened target (by simp)).1, notEntry⟩
  · intro loose member
    exact opened loose (List.mem_cons_of_mem _ member)
  · intro id has
    exact (entered id has).mono kept
  · intro id has
    obtain ⟨loose, member, way⟩ := left id has
    rcases List.mem_cons.mp member with rfl | stays
    · refine ⟨target, List.mem_cons_self, (way.mono kept).tail ?_⟩
      exact ⟨_, List.mem_append_right _ List.mem_cons_self, rfl, rfl⟩
    · exact ⟨loose, stays, way.mono kept⟩

theorem Step.connected {before after : Sketch} (move : Step before after)
    (connected : before.Connected) : after.Connected := by
  cases move with
  | reorder same =>
    obtain ⟨joined, opened, entered, left⟩ := connected
    refine ⟨joined, fun loose member => opened loose (same.mem_iff.mpr member), entered, ?_⟩
    intro id has
    obtain ⟨loose, member, way⟩ := left id has
    exact ⟨loose, same.mem_iff.mp member, way⟩
  | join label first more others =>
    exact connected.attach label .statement (List.cons_ne_nil none [])
  | @fork graph label start labels group others =>
    refine @Connected.attach graph start [] others connected label .decision labels ?_
    cases group <;> exact List.cons_ne_nil _ _
  | @again graph body decision others =>
    have notEntry : decision ≠ 0 :=
      (connected.opened ⟨decision, some "false"⟩ (by simp)).2 (Option.some_ne_none _)
    have relinked := connected.addEdge notEntry (some "continue")
    exact @Connected.attach _ ⟨decision, some "false"⟩ [] others relinked "loop exit" .statement _
      (List.cons_ne_nil none [])

end Sketch

/-! ### The whole graph -/

/-- A graph whose vertices are numbered by their places, of which the first is the only entry and
the last the only exit, and all of which lie on a way from the one to the other. -/
structure Graph.WellFormed (graph : Graph) : Prop where
  numbered : graph.vertices.map (·.id) = (List.range graph.vertices.length).map Int.ofNat
  bounded : ∃ first inner last, graph.vertices = first :: (inner ++ [last]) ∧
    first.kind = .entry ∧ last.kind = .exit ∧
    ∀ vertex ∈ inner, vertex.kind = .decision ∨ vertex.kind = .statement
  joined : ∀ edge ∈ graph.edges,
    edge.source ∈ graph.vertices.map (·.id) ∧ edge.target ∈ graph.vertices.map (·.id)
  unentered : graph.incoming 0 = []
  unleft : graph.outgoing (graph.next - 1) = []
  between : ∀ vertex ∈ graph.vertices,
    graph.Reaches 0 vertex.id ∧ graph.Reaches vertex.id (graph.next - 1)

theorem Graph.mem_ids_iff {graph : Graph}
    (numbered : graph.vertices.map (·.id) = (List.range graph.vertices.length).map Int.ofNat)
    (id : Int) : id ∈ graph.vertices.map (·.id) ↔ graph.Has id := by
  rw [numbered, Has, next, List.mem_map]
  constructor
  · rintro ⟨place, member, rfl⟩
    have bound := List.mem_range.mp member
    exact ⟨Int.natCast_nonneg place, Int.ofNat_lt.mpr bound⟩
  · rintro ⟨nonnegative, bound⟩
    obtain ⟨place, rfl⟩ := Int.eq_ofNat_of_zero_le nonnegative
    exact ⟨place, List.mem_range.mpr (Int.ofNat_lt.mp bound), rfl⟩

/-- A connected sketch with one open end becomes a well-formed graph when that end is led to an
exit. -/
theorem Sketch.Connected.wellFormed {graph : Graph} {last : OpenEnd} (begun : graph.Begun)
    (connected : Connected ⟨graph, [last]⟩) (label : String) :
    (graph.attach [last] label .exit).WellFormed := by
  have whole := @Connected.attach graph last [] [] connected label .exit _
    (List.cons_ne_nil none [])
  have numbered := Graph.numbered_attach begun.numbered [last] label .exit
  have lastId : (graph.attach [last] label .exit).next - 1 = graph.next := by
    rw [Graph.next_attach]
    omega
  refine ⟨numbered, ?_, ?_, ?_, ?_, ?_⟩
  · obtain ⟨first, inner, split, isEntry, others⟩ := begun.entrance
    refine ⟨first, inner, ⟨graph.next, label, .exit⟩, ?_, isEntry, rfl, others⟩
    rw [Graph.attach, split, List.cons_append]
  · intro edge member
    rw [Graph.mem_ids_iff numbered, Graph.mem_ids_iff numbered]
    exact ⟨(whole.joined edge member).1, (whole.joined edge member).2.1⟩
  · rw [Graph.incoming, List.filter_eq_nil_iff]
    intro edge member
    simpa using (whole.joined edge member).2.2
  · rw [Graph.outgoing, List.filter_eq_nil_iff, lastId]
    intro edge member
    have before : edge.source < graph.next := by
      rcases List.mem_append.mp member with old | new
      · exact (connected.joined edge old).1.2
      · obtain ⟨loose, closed, rfl⟩ := List.mem_map.mp new
        exact (connected.opened loose closed).1.2
    simpa using Int.ne_of_lt before
  · intro vertex member
    have has := (Graph.mem_ids_iff numbered _).mp (List.mem_map_of_mem member)
    obtain ⟨loose, only, way⟩ := whole.left vertex.id has
    rw [List.mem_singleton.mp only] at way
    rw [lastId]
    exact ⟨whole.entered vertex.id has, way⟩

theorem Sketch.initial_begun : Sketch.initial.graph.Begun :=
  ⟨rfl, ⟨0, "ENTRY", .entry⟩, [], rfl, rfl, fun _ member => absurd member List.not_mem_nil⟩

theorem Sketch.initial_connected : Sketch.initial.Connected := by
  have alone (id : Int) (has : Sketch.initial.graph.Has id) : id = 0 := by
    obtain ⟨lower, upper⟩ := has
    simp only [Sketch.initial, Graph.next, List.length_singleton] at upper
    omega
  refine ⟨fun _ member => absurd member List.not_mem_nil, ?_, ?_, ?_⟩
  · intro loose member
    rw [List.mem_singleton.mp member]
    exact ⟨⟨Int.le_refl 0, by decide⟩, fun labelled => absurd rfl labelled⟩
  · intro id has
    exact alone id has ▸ .refl
  · intro id has
    exact ⟨⟨0, none⟩, List.mem_singleton_self _, alone id has ▸ .refl⟩

/-- The graph of any flow is well formed. -/
theorem Flow.graph_wellFormed (flow : Flow) : flow.graph.WellFormed := by
  obtain ⟨graph, last, run, drawn⟩ := flow.graph_run
  have begun := run.keeps (·.graph.Begun) (fun _ _ => Sketch.Step.begun) Sketch.initial_begun
  have connected :=
    run.keeps Sketch.Connected (fun _ _ => Sketch.Step.connected) Sketch.initial_connected
  rw [drawn]
  exact connected.wellFormed begun "EXIT"

end Tangle
