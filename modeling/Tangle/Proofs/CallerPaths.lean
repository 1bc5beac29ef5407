/-
This file says what the tree of callers holds. Its ways from the root are the
chains of callers in which no name comes twice and which nothing could be added
to, each of them once. A chain ends for one of two reasons: it has reached the
depth limit, or all callers of its last name stand on it already. So the tree is
finite on cyclic call graphs too, whatever the limit is.
-/

import Tangle.Calls.CallerTree
import Mathlib.Data.List.Chain
import Mathlib.Data.List.Nodup

namespace Tangle

/-! ### Lists without repetitions -/

section Distinct

variable {α : Type} [DecidableEq α]

theorem mem_distinct {item : α} {items : List α} : item ∈ distinct items ↔ item ∈ items := by
  induction items with
  | nil => rfl
  | cons head rest inductionHypothesis =>
    rw [distinct, List.mem_cons, List.mem_cons, List.mem_filter, inductionHypothesis,
      decide_eq_true_iff]
    by_cases same : item = head <;> simp [same]

theorem nodup_distinct (items : List α) : (distinct items).Nodup := by
  induction items with
  | nil => exact List.nodup_nil
  | cons head rest inductionHypothesis =>
    rw [distinct, List.nodup_cons]
    exact ⟨by simp, inductionHypothesis.filter _⟩

/-- An item stands at most once in a list without repetitions. -/
theorem filter_distinct_eq (item : α) (items : List α) :
    (distinct items).filter (· = item) = if item ∈ items then [item] else [] := by
  rw [List.filter_eq, (nodup_distinct items).count]
  simp only [mem_distinct]
  split <;> rfl

end Distinct

/-! ### Tables and their call graphs -/

section Ordered

variable {κ α : Type} [DecidableEq κ]

/-- A key that is written again keeps its place, a new one comes last. -/
theorem Ordered.keys_put (entries : List (κ × α)) (key : κ) (value : α) :
    (put entries key value).map (·.1) =
      if key ∈ entries.map (·.1) then entries.map (·.1) else entries.map (·.1) ++ [key] := by
  induction entries with
  | nil => rfl
  | cons entry rest inductionHypothesis =>
    obtain ⟨other, held⟩ := entry
    rw [put]
    by_cases same : other = key
    · simp [same]
    · rw [if_neg same, List.map_cons, inductionHypothesis, List.map_cons]
      by_cases known : key ∈ rest.map (·.1)
      · rw [if_pos known, if_pos (List.mem_cons_of_mem _ known)]
      · rw [if_neg known, if_neg (by simp [Ne.symm same, known]), List.cons_append]

theorem Ordered.nodup_keys_putAll {entries : List (κ × α)} (unique : (entries.map (·.1)).Nodup)
    (news : List (κ × α)) : ((putAll entries news).map (·.1)).Nodup := by
  induction news generalizing entries with
  | nil => exact unique
  | cons new rest inductionHypothesis =>
    refine inductionHypothesis ?_
    rw [keys_put]
    split
    next => exact unique
    next fresh => exact unique.append (List.nodup_singleton _) (List.disjoint_singleton.mpr fresh)

theorem Ordered.put_of_notMem {entries : List (κ × α)} {key : κ} (fresh : key ∉ entries.map (·.1))
    (value : α) : put entries key value = entries ++ [(key, value)] := by
  induction entries with
  | nil => rfl
  | cons entry rest inductionHypothesis =>
    rw [List.map_cons, List.mem_cons, not_or] at fresh
    rw [put, if_neg (Ne.symm fresh.1), inductionHypothesis fresh.2, List.cons_append]

/-- Under keys of their own, all values are kept. -/
theorem Ordered.putAll_of_nodup {entries news : List (κ × α)}
    (unique : (entries.map (·.1) ++ news.map (·.1)).Nodup) :
    putAll entries news = entries ++ news := by
  induction news generalizing entries with
  | nil => exact (List.append_nil entries).symm
  | cons new rest inductionHypothesis =>
    have fresh : new.1 ∉ entries.map (·.1) := fun member =>
      (List.disjoint_of_nodup_append unique) member List.mem_cons_self
    have next : putAll entries (new :: rest) = putAll (put entries new.1 new.2) rest := rfl
    rw [next, put_of_notMem fresh, inductionHypothesis, List.append_assoc, List.singleton_append]
    simpa using unique

end Ordered

namespace CallTable

/-- The names that a table defines. -/
def names (table : CallTable) : List String :=
  table.map (·.1)

/-- A table that is read off sources has each name once. -/
theorem nodup_names_ofSources (sources : List Source) : (ofSources sources).names.Nodup :=
  @Ordered.nodup_keys_putAll _ _ _ [] List.nodup_nil (sources.flatMap definitions)

theorem get?_isSome_iff (table : CallTable) (name : String) :
    (Ordered.get? table name).isSome ↔ name ∈ table.names := by
  rw [Ordered.get?, Option.isSome_map, List.find?_isSome, names, List.mem_map]
  simp

end CallTable

/-- The callers of a name are those definitions in the table that call it, in table order. -/
theorem CallGraph.callersOf_ofTable (table : CallTable) (name : String) :
    (CallGraph.ofTable table).callersOf name =
      (table.filter (fun entry => name ∈ entry.2.callees)).map (·.1) := by
  simp only [callersOf, ofTable]
  induction table with
  | nil => rfl
  | cons entry rest inductionHypothesis =>
    obtain ⟨caller, definition⟩ := entry
    have own : (((distinct definition.callees).map (caller, ·)).filter (·.2 = name)).map (·.1) =
        if name ∈ definition.callees then [caller] else [] := by
      rw [List.filter_map]
      simp only [Function.comp_def, filter_distinct_eq]
      split <;> rfl
    rw [List.flatMap_cons, List.filter_append, List.map_append, inductionHypothesis, own,
      List.filter_cons]
    by_cases calls : name ∈ definition.callees <;> simp [calls]

theorem CallGraph.mem_names_of_mem_callersOf {table : CallTable} {name caller : String}
    (calls : caller ∈ (CallGraph.ofTable table).callersOf name) : caller ∈ table.names := by
  rw [callersOf_ofTable] at calls
  obtain ⟨entry, member, rfl⟩ := List.mem_map.mp calls
  exact List.mem_map_of_mem (List.mem_filter.mp member).1

theorem CallGraph.nodup_callersOf {table : CallTable} (unique : table.names.Nodup)
    (name : String) : ((CallGraph.ofTable table).callersOf name).Nodup := by
  rw [callersOf_ofTable]
  exact unique.sublist (List.filter_sublist.map _)

/-! ### Chains of callers -/

/-- A chain of callers above a function, of which the first names are given already: the callers
behind them are at most as many as the limit says, no name comes twice, each name is called by the
next one, and the chain goes as far as it can. -/
structure CallGraph.Chain (graph : CallGraph) (limit : Nat) (passed : List String) (name : String)
    (callers : List String) : Prop where
  short : callers.length ≤ limit
  apart : (passed ++ name :: callers).Nodup
  linked : (name :: callers).IsChain fun callee caller => caller ∈ graph.callersOf callee
  ended : callers.length = limit ∨
    ∀ caller ∈ graph.callersOf ((name :: callers).getLast (List.cons_ne_nil _ _)),
      caller ∈ passed ++ name :: callers

namespace CallGraph

variable {graph : CallGraph} {limit : Nat} {passed : List String} {name : String}

theorem chain_zero_iff {callers : List String} (fresh : (passed ++ [name]).Nodup) :
    graph.Chain 0 passed name callers ↔ callers = [] := by
  constructor
  · rintro ⟨short, _, _, _⟩
    exact List.length_eq_zero_iff.mp (Nat.le_zero.mp short)
  · rintro rfl
    exact ⟨Nat.le_refl 0, fresh, .singleton _, .inl rfl⟩

/-- A chain ends below its limit where every further caller stands on it. -/
theorem chain_nil_iff (fresh : (passed ++ [name]).Nodup) :
    graph.Chain (limit + 1) passed name [] ↔
      ∀ caller ∈ graph.callersOf name, caller ∈ passed ++ [name] := by
  constructor
  · rintro ⟨_, _, _, full | ended⟩
    · exact absurd full (Nat.succ_ne_zero limit).symm
    · exact ended
  · intro ended
    exact ⟨Nat.zero_le _, fresh, .singleton _, .inr ended⟩

/-- A chain goes on with a caller that does not stand on it yet. -/
theorem chain_cons_iff {caller : String} {callers : List String} :
    graph.Chain (limit + 1) passed name (caller :: callers) ↔
      caller ∈ graph.callersOf name ∧ graph.Chain limit (passed ++ [name]) caller callers := by
  have whole : passed ++ name :: caller :: callers = (passed ++ [name]) ++ caller :: callers :=
    List.append_cons passed name (caller :: callers)
  constructor
  · rintro ⟨short, apart, linked, ended⟩
    obtain ⟨calls, linked⟩ := List.isChain_cons_cons.mp linked
    refine ⟨calls, Nat.le_of_succ_le_succ short, whole ▸ apart, linked, ?_⟩
    exact ended.imp Nat.succ.inj fun all => by rwa [← whole]
  · rintro ⟨calls, short, apart, linked, ended⟩
    refine ⟨Nat.succ_le_succ short, whole ▸ apart, List.isChain_cons_cons.mpr ⟨calls, linked⟩, ?_⟩
    exact ended.imp (congrArg Nat.succ) fun all => by rwa [whole]

/-- A chain above a function of the table stays in the table, so it is no longer than that. -/
theorem Chain.length_le {table : CallTable} {callers : List String}
    (chain : (ofTable table).Chain limit [] name callers) (defined : name ∈ table.names) :
    (name :: callers).length ≤ table.length := by
  have known : ∀ other ∈ name :: callers, other ∈ table.names :=
    chain.linked.induction (· ∈ table.names) _
      (fun _ _ calls _ => mem_names_of_mem_callersOf calls) fun _ => defined
  have bound := List.Nodup.length_le_of_subset chain.apart known
  rwa [CallTable.names, List.length_map] at bound

end CallGraph

/-! ### The ways of a tree -/

namespace CallerTree

theorem pathsAll_eq_flatMap (trees : List CallerTree) : pathsAll trees = trees.flatMap paths := by
  induction trees with
  | nil => rfl
  | cons tree rest inductionHypothesis =>
    rw [pathsAll, inductionHypothesis, List.flatMap_cons]

theorem paths_eq (tree : CallerTree) :
    tree.paths =
      if tree.callers = [] then [[tree.name]]
      else (tree.callers.flatMap paths).map (tree.name :: ·) := by
  obtain ⟨name, file, callers⟩ := tree
  cases callers with
  | nil => rfl
  | cons caller rest => rw [paths, pathsAll_eq_flatMap, if_neg (List.cons_ne_nil _ _)]

theorem mem_paths_iff (tree : CallerTree) (names : List String) :
    names ∈ tree.paths ↔ tree.callers = [] ∧ names = [tree.name] ∨
      ∃ caller ∈ tree.callers, ∃ rest ∈ caller.paths, names = tree.name :: rest := by
  rw [paths_eq]
  split
  next empty => simp [empty]
  next filled =>
    simp only [List.mem_map, List.mem_flatMap, filled, false_and, false_or]
    constructor
    · rintro ⟨rest, ⟨caller, member, way⟩, rfl⟩
      exact ⟨caller, member, rest, way, rfl⟩
    · rintro ⟨caller, member, rest, way, rfl⟩
      exact ⟨rest, ⟨caller, member, way⟩, rfl⟩

/-- Every way starts at the root. -/
theorem head?_of_mem_paths {tree : CallerTree} {names : List String} (way : names ∈ tree.paths) :
    names.head? = some tree.name := by
  obtain ⟨_, rfl⟩ | ⟨_, _, _, _, rfl⟩ := (mem_paths_iff tree names).mp way <;> rfl

/-- No way comes twice where every caller has other ways and another name. -/
theorem nodup_paths {tree : CallerTree} (each : ∀ caller ∈ tree.callers, caller.paths.Nodup)
    (apart : (tree.callers.map (·.name)).Nodup) : tree.paths.Nodup := by
  rw [paths_eq]
  split
  next => exact List.nodup_singleton _
  next =>
    refine List.Nodup.map (fun _ _ same => (List.cons.inj same).2) ?_
    refine List.nodup_flatMap.mpr ⟨each, (List.pairwise_map.mp apart).imp fun differ => ?_⟩
    intro names first second
    have same := (head?_of_mem_paths first).symm.trans (head?_of_mem_paths second)
    exact differ (Option.some.inj same)

/-! ### Growing -/

variable {table : CallTable} {name : String}

theorem name_grow (graph : CallGraph) (depth : Nat) (path : List String) :
    (grow table graph depth path name).name = name := by
  cases depth <;> rw [grow] <;> split <;> rfl

theorem callers_grow_zero (graph : CallGraph) (path : List String) :
    (grow table graph 0 path name).callers = [] := by
  rw [grow]
  split <;> rfl

/-- The callers of a function that are grown: those that do not stand on the way to it. -/
theorem callers_grow_succ (graph : CallGraph) (depth : Nat) (passed : List String)
    (defined : name ∈ table.names) :
    (grow table graph (depth + 1) passed.reverse name).callers =
      ((graph.callersOf name).filter (· ∉ passed ++ [name])).map
        (grow table graph depth (passed ++ [name]).reverse) := by
  obtain ⟨definition, found⟩ :=
    Option.isSome_iff_exists.mp ((CallTable.get?_isSome_iff table name).mpr defined)
  rw [grow, found, List.reverse_append]
  simp [or_comm]

/-- The ways of a grown tree are the chains above its root. -/
theorem mem_paths_grow_iff (depth : Nat) (passed : List String) (defined : name ∈ table.names)
    (fresh : (passed ++ [name]).Nodup) (names : List String) :
    names ∈ (grow table (CallGraph.ofTable table) depth passed.reverse name).paths ↔
      ∃ callers, names = name :: callers ∧
        (CallGraph.ofTable table).Chain depth passed name callers := by
  induction depth generalizing passed name names with
  | zero =>
    rw [mem_paths_iff, callers_grow_zero, name_grow]
    simp [CallGraph.chain_zero_iff fresh]
  | succ depth inductionHypothesis =>
    rw [mem_paths_iff, callers_grow_succ _ _ _ defined, name_grow]
    constructor
    · rintro (⟨empty, rfl⟩ | ⟨_, member, rest, way, rfl⟩)
      · refine ⟨[], rfl, (CallGraph.chain_nil_iff fresh).mpr fun caller calls => ?_⟩
        have passedOver := List.filter_eq_nil_iff.mp (List.map_eq_nil_iff.mp empty) caller calls
        by_contra new
        exact passedOver (decide_eq_true new)
      · obtain ⟨caller, chosen, rfl⟩ := List.mem_map.mp member
        obtain ⟨calls, new⟩ := List.mem_filter.mp chosen
        have known := CallGraph.mem_names_of_mem_callersOf calls
        have apart : (passed ++ [name] ++ [caller]).Nodup :=
          fresh.append (List.nodup_singleton caller)
            (List.disjoint_singleton.mpr (of_decide_eq_true new))
        obtain ⟨callers, rfl, chain⟩ := (inductionHypothesis _ known apart rest).mp way
        exact ⟨caller :: callers, rfl, CallGraph.chain_cons_iff.mpr ⟨calls, chain⟩⟩
    · rintro ⟨callers, rfl, chain⟩
      cases callers with
      | nil =>
        have stands := (CallGraph.chain_nil_iff fresh).mp chain
        refine .inl ⟨List.map_eq_nil_iff.mpr (List.filter_eq_nil_iff.mpr ?_), rfl⟩
        exact fun caller calls new => of_decide_eq_true new (stands caller calls)
      | cons caller callers =>
        obtain ⟨calls, chain⟩ := CallGraph.chain_cons_iff.mp chain
        have known := CallGraph.mem_names_of_mem_callersOf calls
        have apart : (passed ++ [name] ++ [caller]).Nodup :=
          chain.apart.sublist (List.Sublist.append_left (List.singleton_sublist.mpr
            List.mem_cons_self) _)
        have new : caller ∉ passed ++ [name] :=
          fun old => (List.disjoint_of_nodup_append apart) old (List.mem_singleton_self caller)
        refine .inr ⟨_, List.mem_map_of_mem (List.mem_filter.mpr ⟨calls, decide_eq_true new⟩),
          caller :: callers, ?_, rfl⟩
        exact (inductionHypothesis _ known apart _).mpr ⟨callers, rfl, chain⟩

/-- No way comes twice, as no caller is listed twice. -/
theorem nodup_paths_grow (unique : table.names.Nodup) (depth : Nat) (passed : List String)
    (defined : name ∈ table.names) :
    (grow table (CallGraph.ofTable table) depth passed.reverse name).paths.Nodup := by
  induction depth generalizing passed name with
  | zero =>
    rw [paths_eq, if_pos (callers_grow_zero _ _)]
    exact List.nodup_singleton _
  | succ depth inductionHypothesis =>
    apply nodup_paths
    · rw [callers_grow_succ _ _ _ defined]
      intro _ member
      obtain ⟨caller, chosen, rfl⟩ := List.mem_map.mp member
      have known := CallGraph.mem_names_of_mem_callersOf (List.mem_filter.mp chosen).1
      exact inductionHypothesis _ known
    · rw [callers_grow_succ _ _ _ defined, List.map_map]
      simp only [Function.comp_def, name_grow, List.map_id']
      exact (CallGraph.nodup_callersOf unique name).filter _

theorem grow_of_notMem (graph : CallGraph) (depth : Nat) (path : List String)
    (undefined : name ∉ table.names) :
    grow table graph depth path name = ⟨name, unknownFile, []⟩ := by
  have absent : Ordered.get? table name = none := by
    rw [← Option.not_isSome_iff_eq_none, CallTable.get?_isSome_iff]
    exact undefined
  cases depth <;> rw [grow, absent]

end CallerTree

/-- The ways of a tree of callers are exactly the chains that cannot be continued, each once, and
they are no longer than the table, so that growing ends on cycles too. A name that is not in the
table stands alone. The one thing asked of the table is that it has each name once, as those have
that are read off sources. -/
theorem paths_ofTable (table : CallTable) (unique : table.names.Nodup) (target : String)
    (limit : Int) :
    let graph := CallGraph.ofTable table
    let tree := CallerTree.ofTable table graph target limit
    (target ∈ table.names →
      tree.paths.Nodup ∧
      (∀ path, path ∈ tree.paths ↔
        ∃ callers, path = target :: callers ∧ graph.Chain limit.toNat [] target callers) ∧
      ∀ path ∈ tree.paths, path.length ≤ table.length) ∧
    (target ∉ table.names → tree.paths = [[target]] ∧ tree.file = "unknown") := by
  intro graph tree
  refine ⟨fun defined => ?_, fun undefined => ?_⟩
  · have exactly := CallerTree.mem_paths_grow_iff limit.toNat [] defined
      (List.nodup_singleton target)
    refine ⟨CallerTree.nodup_paths_grow unique limit.toNat [] defined, exactly, fun path way => ?_⟩
    obtain ⟨callers, rfl, chain⟩ := (exactly path).mp way
    exact chain.length_le defined
  · have alone : tree = ⟨target, CallerTree.unknownFile, []⟩ :=
      CallerTree.grow_of_notMem graph limit.toNat [] undefined
    rw [alone]
    exact ⟨rfl, rfl⟩

/-- Two functions that call each other, and one that calls both and itself. -/
def mutualCalls : CallTable :=
  let node : Node := ⟨⟨0, .function, true, false, 0, 0, none⟩, []⟩
  [("ping", ⟨"a.js", node, ["pong"]⟩), ("pong", ⟨"a.js", node, ["ping"]⟩),
   ("main", ⟨"b.js", node, ["ping", "pong", "main"]⟩)]

theorem paths_ofTable_mutualCalls :
    let graph := CallGraph.ofTable mutualCalls
    let tree := CallerTree.ofTable mutualCalls graph "ping" 20
    mutualCalls.names.Nodup ∧ "ping" ∈ mutualCalls.names ∧
      tree.paths.Nodup ∧
      (∀ path, path ∈ tree.paths ↔
        ∃ callers, path = "ping" :: callers ∧ graph.Chain 20 [] "ping" callers) ∧
      ∀ path ∈ tree.paths, path.length ≤ 3 :=
  ⟨by decide, by decide, (paths_ofTable mutualCalls (by decide) "ping" 20).1 (by decide)⟩

example : (CallerTree.ofTable mutualCalls (CallGraph.ofTable mutualCalls) "ping" 20).paths =
    [["ping", "pong", "main"], ["ping", "main"]] := by decide

end Tangle
