/-
This file says who calls a name, read off the sources alone. On the way there, a
table keeps the first place and the last value of every name, a graph keeps each
edge once, and callers are found against the direction of the edges. What comes
out of it is simple: a name is a caller when its last definition holds a call, and
callers stand in the order in which they are first defined.

A name can be looked up in a source, too, without a table. The last section shows that
this leads to the same function.
-/

import Tangle.Proofs.CallerPaths
import Tangle.Proofs.PreOrder

namespace Tangle

/-! ### Tables that are written again and again -/

/-- What is left of a list without repetitions stands in the order of its first places. -/
theorem pairwise_idxOf_distinct {α : Type} [DecidableEq α] (items : List α) :
    (distinct items).Pairwise fun first second => items.idxOf first < items.idxOf second := by
  induction items with
  | nil => exact .nil
  | cons head rest inductionHypothesis =>
    have later {item : α} (other : item ≠ head) :
        (head :: rest).idxOf item = rest.idxOf item + 1 :=
      List.idxOf_cons_ne rest (Ne.symm other)
    have kept {item : α} (member : item ∈ (distinct rest).filter (· ≠ head)) : item ≠ head :=
      of_decide_eq_true (List.mem_filter.mp member).2
    rw [distinct, List.pairwise_cons]
    constructor
    · intro item member
      rw [List.idxOf_cons_self, later (kept member)]
      exact Nat.succ_pos _
    · refine (inductionHypothesis.sublist List.filter_sublist).imp_of_mem ?_
      intro first second here there before
      rw [later (kept here), later (kept there)]
      exact Nat.succ_lt_succ before

namespace Ordered

variable {κ α : Type} [DecidableEq κ]

/-- New keys come behind the old ones, each once. -/
theorem keys_putAll (entries news : List (κ × α)) :
    (putAll entries news).map (·.1) =
      entries.map (·.1) ++ (distinct (news.map (·.1))).filter (· ∉ entries.map (·.1)) := by
  induction news generalizing entries with
  | nil => exact (List.append_nil _).symm
  | cons new rest inductionHypothesis =>
    have next : putAll entries (new :: rest) = putAll (put entries new.1 new.2) rest := rfl
    rw [next, inductionHypothesis, keys_put, List.map_cons, distinct, List.filter_cons,
      List.filter_filter]
    by_cases known : new.1 ∈ entries.map (·.1)
    · rw [if_pos known, if_neg (by simpa using known)]
      refine congrArg _ (List.filter_congr fun key _ => ?_)
      by_cases same : key = new.1
      · simp [same, known]
      · simp [same]
    · rw [if_neg known, if_pos (by simpa using known), List.append_assoc, List.singleton_append]
      refine congrArg (_ ++ _ :: ·) (List.filter_congr fun key _ => ?_)
      rw [Bool.eq_iff_iff]
      simp [and_comm]

theorem get?_put (entries : List (κ × α)) (key other : κ) (value : α) :
    get? (put entries key value) other =
      if key = other then some value else get? entries other := by
  induction entries with
  | nil =>
    rw [put, get?, List.find?_cons]
    by_cases same : key = other <;> simp [same, get?]
  | cons entry rest inductionHypothesis =>
    obtain ⟨first, held⟩ := entry
    unfold get? at inductionHypothesis ⊢
    rw [put]
    by_cases same : first = key
    · rw [if_pos same, List.find?_cons, List.find?_cons, same]
      by_cases found : key = other <;> simp [found]
    · rw [if_neg same, List.find?_cons, List.find?_cons]
      by_cases found : first = other
      · simp [found, show key ≠ other from fun equal => same (found.trans equal.symm)]
      · simp [found, inductionHypothesis]

/-- A key has the value that was last written to it. -/
theorem get?_putAll (entries news : List (κ × α)) (key : κ) :
    get? (putAll entries news) key =
      ((news.filter (·.1 = key)).getLast?.map (·.2)).or (get? entries key) := by
  induction news generalizing entries with
  | nil => rfl
  | cons new rest inductionHypothesis =>
    have next : putAll entries (new :: rest) = putAll (put entries new.1 new.2) rest := rfl
    rw [next, inductionHypothesis, get?_put, List.filter_cons]
    by_cases same : new.1 = key
    · rw [if_pos same, if_pos (decide_eq_true same), List.getLast?_cons]
      cases (rest.filter (·.1 = key)).getLast? <;> rfl
    · rw [if_neg same, if_neg (by simpa using same)]

/-- In a table that has each key once, looking up finds what is there. -/
theorem get?_eq_some_iff {entries : List (κ × α)} (unique : (entries.map (·.1)).Nodup) {key : κ}
    {value : α} : get? entries key = some value ↔ (key, value) ∈ entries := by
  rw [get?, Option.map_eq_some_iff]
  constructor
  · rintro ⟨⟨other, _⟩, found, rfl⟩
    have same : other = key := by simpa using List.find?_some found
    exact same ▸ List.mem_of_find?_eq_some found
  · intro member
    obtain ⟨entry, found⟩ := Option.isSome_iff_exists.mp
      (List.find?_isSome.mpr ⟨(key, value), member, decide_eq_true rfl⟩ :
        (entries.find? (·.1 = key)).isSome)
    have same : entry.1 = key := by simpa using List.find?_some found
    have equal := List.inj_on_of_nodup_map unique (List.mem_of_find?_eq_some found) member same
    exact ⟨entry, found, congrArg Prod.snd equal⟩

end Ordered

/-! ### Functions and calls, as they stand in the sources -/

/-- A function with the source that defines it. -/
structure SourceFunction where
  source : Source
  place : Place

namespace SourceFunction

def name (function : SourceFunction) : String :=
  function.place.name function.source

/-- What a table holds of a function. -/
def definition (function : SourceFunction) : Definition :=
  ⟨function.source.path, function.place.node, function.source.callees function.place.node⟩

/-- A call of the name stands in the function, however deep and in whatever nested function. -/
def Calls (function : SourceFunction) (name : String) : Prop :=
  ∃ address call, address ≠ [] ∧ function.place.node.nodeAt? address = some call ∧
    call.kind = .callExpression ∧ function.source.callee? call = some name

end SourceFunction

/-- The functions of several sources: source by source, in pre-order. -/
def functionsOf (sources : List Source) : List SourceFunction :=
  sources.flatMap fun source => source.functions.map (⟨source, ·⟩)

/-- The last function with the given name. -/
def lastFunction? (sources : List Source) (name : String) : Option SourceFunction :=
  ((functionsOf sources).filter (·.name = name)).getLast?

theorem SourceFunction.mem_callees_iff {function : SourceFunction} {name : String} :
    name ∈ function.definition.callees ↔ function.Calls name := by
  rw [definition, Source.callees, mem_distinct, List.mem_filterMap]
  constructor
  · rintro ⟨call, member, named⟩
    obtain ⟨inside, kind⟩ := List.mem_filter.mp member
    obtain ⟨address, below, found⟩ := Node.mem_descendants_false_iff.mp inside
    exact ⟨address, call, below, found, beq_iff_eq.mp kind, named⟩
  · rintro ⟨address, call, below, found, kind, named⟩
    have inside := Node.mem_descendants_false_iff.mpr ⟨address, below, found⟩
    exact ⟨call, List.mem_filter.mpr ⟨inside, beq_iff_eq.mpr kind⟩, named⟩

/-! ### The table of the sources -/

namespace CallTable

theorem flatMap_definitions (sources : List Source) :
    sources.flatMap definitions =
      (functionsOf sources).map fun function => (function.name, function.definition) := by
  rw [functionsOf, List.map_flatMap]
  simp only [List.map_map]
  rfl

/-- The names of a table stand in the order in which they are first defined. -/
theorem names_ofSources (sources : List Source) :
    (ofSources sources).names = distinct ((functionsOf sources).map (·.name)) := by
  rw [names, ofSources, Ordered.keys_putAll, flatMap_definitions, List.map_map]
  simp [Function.comp_def]

/-- A name stands for its last definition. -/
theorem get?_ofSources (sources : List Source) (name : String) :
    Ordered.get? (ofSources sources) name = (lastFunction? sources name).map (·.definition) := by
  have nothing : Ordered.get? ([] : CallTable) name = none := rfl
  rw [ofSources, Ordered.get?_putAll, nothing, Option.or_none, flatMap_definitions, List.filter_map,
    List.getLast?_map, Option.map_map]
  rfl

end CallTable

/-- A name is a caller when what the table holds under it has the callee. -/
theorem CallGraph.mem_callersOf_iff {table : CallTable} (unique : table.names.Nodup)
    {caller name : String} : caller ∈ (ofTable table).callersOf name ↔
      ∃ definition, Ordered.get? table caller = some definition ∧ name ∈ definition.callees := by
  simp only [Ordered.get?_eq_some_iff unique]
  rw [callersOf_ofTable, List.mem_map]
  constructor
  · rintro ⟨⟨_, definition⟩, member, rfl⟩
    obtain ⟨held, calls⟩ := List.mem_filter.mp member
    exact ⟨definition, held, of_decide_eq_true calls⟩
  · rintro ⟨definition, held, calls⟩
    exact ⟨_, List.mem_filter.mpr ⟨held, decide_eq_true calls⟩, rfl⟩

theorem Source.function?_eq (source : Source) (name : String) :
    source.function? name = (source.functions.filter (·.name source = name)).getLast? := by
  rw [List.getLast?_filter, function?]
  rfl

/-- The last function with a name is found in the last source in which the name is found. -/
theorem lastFunction?_eq_findSome? (sources : List Source) (name : String) :
    lastFunction? sources name = sources.reverse.findSome? fun source =>
      (source.function? name).map (⟨source, ·⟩) := by
  rw [lastFunction?, functionsOf, List.filter_flatMap, List.getLast?_flatMap]
  congr 1
  funext source
  rw [List.filter_map, List.getLast?_map, source.function?_eq]
  rfl

/-- Looking a name up in a source and in a table of sources comes to the same. In the table of one
source it leads to the same function, and to none where the table lacks the name. In the table of
several sources it leads to the function that is found in the last source in which there is one. -/
theorem get?_ofSources_iff_function? (sources : List Source) (name : String) :
    (∀ source : Source,
      let table := CallTable.ofSources [source]
      (Ordered.get? table name).map (·.node) = (source.function? name).map (·.node) ∧
      (source.function? name = none ↔ name ∉ table.names)) ∧
    ∀ definition, Ordered.get? (CallTable.ofSources sources) name = some definition ↔
      ∃ (before : List Source) (source : Source) (behind : List Source) (place : Place),
        sources = before ++ source :: behind ∧
        source.function? name = some place ∧
        (∀ later ∈ behind, later.function? name = none) ∧
        definition = ⟨source.path, place.node, source.callees place.node⟩ := by
  constructor
  · intro source table
    have found : Ordered.get? table name =
        (source.function? name).map fun place => SourceFunction.definition ⟨source, place⟩ := by
      rw [CallTable.get?_ofSources, lastFunction?_eq_findSome?, List.reverse_singleton,
        List.findSome?_singleton, Option.map_map]
      rfl
    constructor
    · rw [found, Option.map_map]
      rfl
    · rw [← CallTable.get?_isSome_iff, found, Option.isSome_map, Option.not_isSome_iff_eq_none]
  · intro definition
    rw [CallTable.get?_ofSources, lastFunction?_eq_findSome?, Option.map_eq_some_iff]
    constructor
    · rintro ⟨function, last, rfl⟩
      obtain ⟨behind, source, before, parted, here, absent⟩ := List.findSome?_eq_some_iff.mp last
      obtain ⟨place, found, rfl⟩ := Option.map_eq_some_iff.mp here
      refine ⟨before.reverse, source, behind.reverse, place, ?_, found, fun later member => ?_, rfl⟩
      · rw [← sources.reverse_reverse, parted]
        simp
      · exact Option.map_eq_none_iff.mp (absent later (List.mem_reverse.mp member))
    · rintro ⟨before, source, behind, place, rfl, found, absent, rfl⟩
      refine ⟨⟨source, place⟩, List.findSome?_eq_some_iff.mpr ?_, rfl⟩
      refine ⟨behind.reverse, source, before.reverse, by simp, by rw [found]; rfl, ?_⟩
      intro later member
      rw [absent later (List.mem_reverse.mp member)]
      rfl

end Tangle
