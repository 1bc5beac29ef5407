/-
This file shows that the order of files does not matter where names are
unambiguous. Putting the files into another order moves the entries of the table
and the edges of the graph, and with them the callers at every level of a tree.
As long as no name is defined in two files, nothing else is moved: the table holds
the same entries, so that two trees over the same function differ in the order of
siblings only.
-/

import Tangle.Proofs.Callers

namespace Tangle

/-! ### Tables -/

/-- Of lists that are the same where they hold anything, one behind the other, the last item is the
last item of any of them. -/
theorem getLast?_flatMap_eq_some_iff {α β : Type} {items : List α} {part : α → List β} {last : β}
    (agree : ∀ first ∈ items, ∀ second ∈ items, part first ≠ [] → part second ≠ [] →
      part first = part second) :
    (items.flatMap part).getLast? = some last ↔
      ∃ item ∈ items, (part item).getLast? = some last := by
  have held {item : α} {found : β} (here : (part item).getLast? = some found) : part item ≠ [] := by
    intro empty
    rw [empty] at here
    cases here
  induction items generalizing last with
  | nil => simp
  | cons head rest inductionHypothesis =>
    have behind (last : β) : (rest.flatMap part).getLast? = some last ↔
        ∃ item ∈ rest, (part item).getLast? = some last :=
      inductionHypothesis fun first here second there =>
        agree first (List.mem_cons_of_mem _ here) second (List.mem_cons_of_mem _ there)
    rw [List.flatMap_cons, List.getLast?_append, List.exists_mem_cons_iff, ← behind]
    cases final : (rest.flatMap part).getLast? with
    | none => simp
    | some other =>
      refine ⟨.inr, ?_⟩
      rintro (here | there)
      · -- Both the head and what is behind it hold something, so they hold the same.
        obtain ⟨item, member, found⟩ := (behind other).mp final
        rw [agree head List.mem_cons_self item (List.mem_cons_of_mem _ member) (held here)
          (held found), found] at here
        exact here
      · exact there

/-- The names of the functions of a source. -/
def Source.names (source : Source) : List String :=
  source.functions.map (·.name source)

/-- No name is defined in two different sources. -/
def Unambiguous (sources : List Source) : Prop :=
  ∀ first ∈ sources, ∀ second ∈ sources, ∀ name ∈ first.names, name ∈ second.names → first = second

/-- Where names are unambiguous, the last function with a name is the last one in its source. -/
theorem lastFunction?_eq_some_iff {sources : List Source} (unambiguous : Unambiguous sources)
    {name : String} {function : SourceFunction} :
    lastFunction? sources name = some function ↔
      ∃ source ∈ sources, lastFunction? [source] name = some function := by
  have alone (source : Source) : functionsOf [source] = source.functions.map (⟨source, ·⟩) :=
    List.flatMap_singleton _ _
  have named {source : Source} (found : (functionsOf [source]).filter (·.name = name) ≠ []) :
      name ∈ source.names := by
    obtain ⟨function, member⟩ := List.exists_mem_of_ne_nil _ found
    obtain ⟨here, same⟩ := List.mem_filter.mp member
    rw [alone] at here
    obtain ⟨place, inside, rfl⟩ := List.mem_map.mp here
    exact List.mem_map.mpr ⟨place, inside, of_decide_eq_true same⟩
  have parted : (functionsOf sources).filter (·.name = name) =
      sources.flatMap fun source => (functionsOf [source]).filter (·.name = name) := by
    rw [functionsOf, List.filter_flatMap]
    simp only [alone]
  rw [lastFunction?, parted]
  refine getLast?_flatMap_eq_some_iff fun first here second there one two => ?_
  rw [unambiguous first here second there name (named one) (named two)]

namespace CallTable

variable {sources others : List Source}

theorem get?_ofSources_of_perm (same : sources.Perm others) (unambiguous : Unambiguous sources)
    (name : String) :
    Ordered.get? (ofSources sources) name = Ordered.get? (ofSources others) name := by
  have also : Unambiguous others := fun first here second there =>
    unambiguous first (same.mem_iff.mpr here) second (same.mem_iff.mpr there)
  rw [get?_ofSources, get?_ofSources]
  refine congrArg _ (Option.ext fun function => ?_)
  rw [lastFunction?_eq_some_iff unambiguous, lastFunction?_eq_some_iff also]
  exact exists_congr fun source => and_congr_left' same.mem_iff

/-- Sources in another order give the same entries in another order. -/
theorem ofSources_perm (same : sources.Perm others) (unambiguous : Unambiguous sources) :
    (ofSources sources).Perm (ofSources others) := by
  have first := nodup_names_ofSources sources
  have second := nodup_names_ofSources others
  refine (List.perm_ext_iff_of_nodup first.of_map second.of_map).mpr fun entry => ?_
  obtain ⟨name, definition⟩ := entry
  rw [← Ordered.get?_eq_some_iff first, ← Ordered.get?_eq_some_iff second,
    get?_ofSources_of_perm same unambiguous]

end CallTable

theorem CallGraph.callersOf_perm {table other : CallTable} (same : table.Perm other)
    (name : String) : ((ofTable table).callersOf name).Perm ((ofTable other).callersOf name) := by
  rw [callersOf_ofTable, callersOf_ofTable]
  exact (same.filter _).map _

/-! ### Trees -/

namespace CallerTree

/-- Two trees are the same up to the order of siblings, at every level. -/
inductive Alike : CallerTree → CallerTree → Prop where
  | intro {name file : String} {callers moved others : List CallerTree}
    (order : callers.Perm moved) (each : List.Forall₂ Alike moved others) :
    Alike ⟨name, file, callers⟩ ⟨name, file, others⟩

/-- What holds of every tree whose callers it holds of holds of all trees. -/
theorem induction {motive : CallerTree → Prop}
    (step : ∀ tree : CallerTree, (∀ caller ∈ tree.callers, motive caller) → motive tree)
    (tree : CallerTree) : motive tree :=
  step tree fun caller _ => induction step caller
termination_by tree
decreasing_by
  have smaller := List.sizeOf_lt_of_mem ‹caller ∈ tree.callers›
  cases tree
  simp only [mk.sizeOf_spec] at smaller ⊢
  omega

/-- Trees that are alike have the same ways. -/
theorem Alike.paths_perm {tree other : CallerTree} (alike : tree.Alike other) :
    tree.paths.Perm other.paths := by
  induction tree using CallerTree.induction generalizing other with
  | step tree inductionHypothesis =>
    obtain @⟨name, file, callers, moved, others, order, each⟩ := alike
    have empty : callers = [] ↔ others = [] := by
      rw [← List.length_eq_zero_iff, ← List.length_eq_zero_iff, order.length_eq, each.length_eq]
    have below : (callers.flatMap paths).Perm (others.flatMap paths) := by
      refine (order.flatMap_right paths).trans ?_
      rw [List.flatMap_def, List.flatMap_def]
      refine List.Perm.flatten_congr ?_
      rw [List.forall₂_map_left_iff, List.forall₂_map_right_iff]
      refine forall₂_imp_of_mem each fun caller member _ alike => ?_
      exact inductionHypothesis caller (order.mem_iff.mpr member) alike
    rw [paths_eq, paths_eq]
    simp only [empty]
    split
    · exact .refl _
    · exact below.map _

/-- Tables that hold the same under every name, and graphs with the same callers, grow trees that
are alike. -/
theorem grow_alike {table other : CallTable} {graph moved : CallGraph}
    (held : ∀ name, Ordered.get? table name = Ordered.get? other name)
    (callers : ∀ name, (graph.callersOf name).Perm (moved.callersOf name)) (depth : Nat)
    (path : List String) (name : String) :
    (grow table graph depth path name).Alike (grow other moved depth path name) := by
  induction depth generalizing path name with
  | zero =>
    rw [grow, grow, held]
    split <;> exact .intro (.refl _) .nil
  | succ depth inductionHypothesis =>
    rw [grow, grow, held]
    split
    next => exact .intro (.refl _) .nil
    next definition _ =>
      refine .intro (((callers name).filter _).map _) ?_
      rw [List.forall₂_map_left_iff, List.forall₂_map_right_iff, List.forall₂_same]
      exact fun caller _ => inductionHypothesis (name :: path) caller

/-! ### Files -/

/-- The source that an input is read as, if its type is supported. -/
def Input.source? (input : Input) : Option Source :=
  (Source.ofTree input.path none input.bytes input.tree).value.toOption

/-- The names of the functions that an input defines. An input that is passed over defines none. -/
def Input.names (input : Input) : List String :=
  (input.source?.map Source.names).getD []

theorem readable_value (inputs : List Input) :
    (readable inputs).value = inputs.filterMap Input.source? := by
  change (inputs.map _).filterMap id = _
  rw [List.filterMap_map]
  refine List.filterMap_congr fun input _ => ?_
  simp only [Function.comp_apply, id, bind, Input.source?]
  cases (Source.ofTree input.path none input.bytes input.tree).value <;> rfl

end CallerTree

/-- The tree of callers across files does not depend on the order of the files, as long as no name
is defined in two different files: trees are the same up to the order of siblings, and have the
same ways. -/
theorem across_reordered {inputs others : List CallerTree.Input} (same : inputs.Perm others)
    (unambiguous : ∀ first ∈ inputs, ∀ second ∈ inputs, ∀ name ∈ first.names,
      name ∈ second.names → first = second) (target : String) (limit : Int) :
    let tree := (CallerTree.across inputs target limit).value
    let other := (CallerTree.across others target limit).value
    tree.Alike other ∧ tree.paths.Perm other.paths := by
  intro tree other
  have moved : (CallerTree.readable inputs).value.Perm (CallerTree.readable others).value := by
    rw [CallerTree.readable_value, CallerTree.readable_value]
    exact same.filterMap _
  have apart : Unambiguous (CallerTree.readable inputs).value := by
    intro first here second there name one two
    rw [CallerTree.readable_value, List.mem_filterMap] at here there
    obtain ⟨input, member, read⟩ := here
    obtain ⟨twin, among, also⟩ := there
    have equal := unambiguous input member twin among name
      (by rwa [CallerTree.Input.names, read]) (by rwa [CallerTree.Input.names, also])
    rw [equal, also] at read
    exact (Option.some.inj read).symm
  have alike : tree.Alike other :=
    CallerTree.grow_alike (CallTable.get?_ofSources_of_perm moved apart)
      (CallGraph.callersOf_perm (CallTable.ofSources_perm moved apart)) limit.toNat [] target
  exact ⟨alike, alike.paths_perm⟩

/-- A file with one function: its first letter is the name, the others are what the function
calls. -/
def letterFile (path : String) (letters : List UInt8) : CallerTree.Input :=
  let node (kind : Kind) (field : Option Field) (start stop : Nat) (children : List Node) : Node :=
    ⟨⟨0, kind, true, false, start, stop, field⟩, children⟩
  let identifier (field : Field) (start : Nat) : Node :=
    node (.other "identifier") (some field) start (start + 1) []
  let calls := (List.range' 1 (letters.length - 1)).map fun start =>
    node .callExpression none start (start + 1) [identifier .function start]
  let function := node .functionDeclaration none 0 letters.length (identifier .name 0 :: calls)
  ⟨path, letters, ⟨node (.other "program") none 0 letters.length [function], false⟩⟩

/-- `m` and `t` call `l`, and `t` calls `m`, too. -/
theorem across_reordered_letterFiles :
    let low := letterFile "low.js" [0x6C]
    let middle := letterFile "middle.js" [0x6D, 0x6C]
    let top := letterFile "top.ts" [0x74, 0x6C, 0x6D]
    let tree := (CallerTree.across [low, middle, top] "l" 10).value
    let other := (CallerTree.across [top, middle, low] "l" 10).value
    tree.paths = [["l", "m", "t"], ["l", "t"]] ∧ other.paths = [["l", "t"], ["l", "m", "t"]] ∧
    tree.Alike other ∧ tree.paths.Perm other.paths := by
  intro low middle top tree other
  have first : low.names = ["l"] := by decide +kernel
  have second : middle.names = ["m"] := by decide +kernel
  have third : top.names = ["t"] := by decide +kernel
  have reversed : [low, middle, top].Perm [top, middle, low] := (List.reverse_perm _).symm
  have apart : ∀ one ∈ [low, middle, top], ∀ two ∈ [low, middle, top], ∀ name ∈ one.names,
      name ∈ two.names → one = two := by
    simp [first, second, third]
  exact ⟨by decide +kernel, by decide +kernel, across_reordered reversed apart "l" 10⟩

end Tangle
