/-
This file counts the lines of a table of functions. Of all that a row holds, only
the name of the function comes from the source as it stands there, and it is not
cut at a line end: what a function is bound to may go over several lines, and so
does its row then. The table has one line for each function exactly if no name is
broken. A name can be broken only where the node that it is taken from covers a
line end, so declarations and bindings that keep to one line keep to one row.
-/

import Tangle.Proofs.Columns
import Tangle.Proofs.Ownership
import Tangle.Proofs.TextBytes

namespace Tangle

/-! ### Line ends in decoded text -/

namespace Text.Utf8

theorem newline_mem_of_mem_decodeLossy {bytes : List UInt8}
    (member : '\n' ∈ decodeLossy bytes) : Source.newline ∈ bytes := by
  obtain ⟨part, inside, same⟩ := List.mem_map.mp member
  have read : part = some '\n' := by
    cases part with
    | none => exact absurd same (by decide)
    | some c => rw [← same]; rfl
  exact (infix_of_mem_parts (read ▸ inside)).subset (by decide)

end Text.Utf8

/-! ### Names -/

theorem mem_of_mem_stripQuotes {c : Char} {text : List Char} (member : c ∈ stripQuotes text) :
    c ∈ text := by
  unfold stripQuotes at member
  split at member
  · dsimp only at member
    split at member
    · exact List.mem_cons_of_mem _ (List.mem_of_mem_dropLast member)
    · exact member
  · exact member

theorem Text.mem_of_mem_trim {c : Char} {text : List Char} (member : c ∈ trim text) : c ∈ text := by
  rw [trim, trimRight, List.mem_reverse] at member
  have inside := (List.dropWhile_suffix _).subset member
  exact (List.dropWhile_suffix _).subset (List.mem_reverse.mp inside)

/-- The bytes that a node covers. -/
def Source.span (source : Source) (node : Node) : List UInt8 :=
  (source.bytes.drop node.tag.start).take (node.tag.stop - node.tag.start)

namespace Place

/-- A function may take its name from its own name and from what it is bound to. -/
def Names (place : Place) (node : Node) : Prop :=
  place.node.child? .name = some node ∨ place.binder?.bind Node.bindingTarget? = some node

theorem exists_of_bindingName? {source : Source} {place : Place} {name : List Char}
    (bound : place.bindingName? source = some name) :
    ∃ node, place.Names node ∧ ∀ c ∈ name, c ∈ source.text node := by
  obtain ⟨target, found, named⟩ := Option.bind_eq_some_iff.mp bound
  dsimp only at named
  split at named
  · cases named
  · obtain rfl := Option.some.inj named
    exact ⟨target, .inr found, fun c member => Text.mem_of_mem_trim (mem_of_mem_stripQuotes member)⟩

/-- A name holds nothing but what a node that names the function covers, or it is made up. -/
theorem exists_of_nameChars (source : Source) (place : Place) :
    place.nameChars source = anonymous ∨
      ∃ node, place.Names node ∧ ∀ c ∈ place.nameChars source, c ∈ source.text node := by
  rw [nameChars]
  split
  next own found =>
    split
    · exact .inr ⟨own, .inl found, fun _ member => member⟩
    · cases bound : place.bindingName? source with
      | none => exact .inr ⟨own, .inl found, fun _ member => member⟩
      | some name => exact .inr (exists_of_bindingName? bound)
  · cases bound : place.bindingName? source with
    | none => exact .inl rfl
    | some name => exact .inr (exists_of_bindingName? bound)

/-- A name is broken only where the node that it is taken from covers a line end. -/
theorem exists_newline_of_mem_nameChars {source : Source} {place : Place}
    (broken : '\n' ∈ place.nameChars source) :
    ∃ node, place.Names node ∧ Source.newline ∈ source.span node := by
  obtain made | ⟨node, names, inside⟩ := place.exists_of_nameChars source
  · rw [made] at broken
    exact absurd broken (by decide)
  · exact ⟨node, names, Text.Utf8.newline_mem_of_mem_decodeLossy (inside _ broken)⟩

end Place

/-! ### Rows -/

namespace Text

theorem solid_of_forall {text : List Char} (dark : ∀ c ∈ text, isBlank c = false) : Solid text :=
  fun c last => dark c (List.mem_of_getLast? last)

theorem isBlank_of_isNumeral {c : Char} (numeral : Mermaid.isNumeral c = true) :
    isBlank c = false := by
  rw [Mermaid.isNumeral, Bool.or_eq_true, beq_iff_eq] at numeral
  obtain digit | rfl := numeral
  · have bounds : 48 ≤ c.toNat ∧ c.toNat ≤ 57 := by
      simpa [Char.isDigit, UInt32.le_iff_toNat_le] using digit
    simp [isBlank]
    omega
  · rfl

end Text

namespace TextTable

theorem solid_toString (number : Int) : Text.Solid (toString number).toList :=
  Text.solid_of_forall fun _ member => Text.isBlank_of_isNumeral (Mermaid.isNumeral_of_mem member)

theorem newline_notMem_toString (number : Int) : '\n' ∉ (toString number).toList :=
  fun member => absurd (Mermaid.isNumeral_of_mem member) (by decide)

/-- No cell of a row ends in a blank, whatever the function is called. -/
theorem solid_functionRow (file : String) (function : FunctionReport) :
    ∀ cell ∈ (functionRow file function).map String.toList, Text.Solid cell := by
  have marker : Text.Solid (statusMarker function.status.name).toList := by
    cases function.status <;> decide
  have name : Text.Solid (function.name ++ "()").toList := by
    rw [String.toList_append]
    exact Text.Solid.append (by decide) (by decide) _
  have place : Text.Solid (location file (some function.line)).toList := by
    rw [location, String.append_assoc, String.toList_append, String.toList_append]
    refine Text.Solid.append (Text.solid_of_forall ?_) (List.cons_ne_nil ':' _) _
    refine List.forall_mem_cons.mpr ⟨rfl, fun c member => ?_⟩
    exact Text.isBlank_of_isNumeral (Mermaid.isNumeral_of_mem member)
  rw [functionRow, List.forall_mem_map]
  simp only [List.forall_mem_cons]
  exact ⟨marker, solid_toString function.cyclomatic.total, solid_toString function.cognitive.total,
    name, place, by simp⟩

/-- A row is broken where the name of the function is. -/
theorem breaks_functionRow {file : String} (path : '\n' ∉ file.toList) (function : FunctionReport) :
    breaks ((functionRow file function).map String.toList) = function.name.toList.count '\n' := by
  have marker : (statusMarker function.status.name).toList.count '\n' = 0 := by
    cases function.status <;> decide
  have number (value : Int) : (toString value).toList.count '\n' = 0 :=
    List.count_eq_zero.mpr (newline_notMem_toString value)
  have name : (function.name ++ "()").toList.count '\n' = function.name.toList.count '\n' := by
    rw [String.toList_append, List.count_append]
    rfl
  have place : (location file (some function.line)).toList.count '\n' = 0 := by
    rw [location, String.toList_append, String.toList_append, List.count_append, List.count_append,
      number, List.count_eq_zero.mpr path]
    rfl
  have cyclomatic : (toString function.cyclomatic.total).toList.count '\n' = 0 :=
    number function.cyclomatic.total
  have cognitive : (toString function.cognitive.total).toList.count '\n' = 0 :=
    number function.cognitive.total
  rw [breaks, functionRow]
  simp only [List.map_cons, List.map_nil, List.sum_cons, List.sum_nil, marker, cyclomatic,
    cognitive, name, place, Nat.zero_add, Nat.add_zero]

/-- The rows of the table of functions. -/
def functionRows (report : FileReport) : List (List (List Char)) :=
  report.functions.map fun function => (functionRow report.file function).map String.toList

theorem fits_functionRows {report : FileReport} (filled : report.functions ≠ []) :
    Fits (functionHeaders.map String.toList) (functionRows report) where
  filled := by simpa [functionRows] using filled
  full := List.forall_mem_map.mpr fun _ _ => by simp [functionRow, functionHeaders]
  solid := List.forall_mem_map.mpr fun function _ => solid_functionRow report.file function

end TextTable

namespace Source

variable (source : Source) (thresholds : Option Thresholds)

theorem scoreFunction_name (place : Place) :
    (source.scoreFunction thresholds place).value.1.name = place.name source := by
  unfold scoreFunction
  cases place.node.body? <;> rfl

theorem report_functions :
    (source.analyze thresholds).value.report.functions =
      source.functions.map fun place => (source.scoreFunction thresholds place).value.1 := by
  rw [Analysis.report, source.analyze_functions, List.map_map]
  rfl

end Source

open TextTable in
/-- There is a table of the functions of a source. It has a line for each of them and two more, and
a further one for each line end in a name. So it has one line for each function exactly if no name
is broken, and a name is broken only where the node that it is taken from covers a line end. -/
theorem functionTable_lines (source : Source) (thresholds : Option Thresholds)
    (filled : (source.analyze thresholds).value.report.functions ≠ [])
    (path : '\n' ∉ source.path.toList) :
    let report := (source.analyze thresholds).value.report
    ∃ table, functionTable report = .ok table ∧
      let lines := table.splitOn '\n'
      report.functions.length = source.functions.length ∧
      lines.length = report.functions.length + 2 +
        (source.functions.map fun place => (place.nameChars source).count '\n').sum ∧
      (lines.length = report.functions.length + 2 ↔
        ∀ place ∈ source.functions, '\n' ∉ place.nameChars source) ∧
      ∀ place ∈ source.functions, '\n' ∈ place.nameChars source →
        ∃ node, place.Names node ∧ Source.newline ∈ source.span node := by
  intro report
  have file : report.file = source.path := rfl
  have fits := fits_functionRows filled
  have functions := source.report_functions thresholds
  have names : (functionRows report).map breaks =
      source.functions.map fun place => (place.nameChars source).count '\n' := by
    rw [functionRows, List.map_map, functions, List.map_map]
    refine List.map_congr_left fun place _ => ?_
    rw [Function.comp_apply, Function.comp_apply, file, breaks_functionRow path,
      source.scoreFunction_name, Place.name, String.toList_ofList]
  have counted : ((layOut (functionHeaders.map String.toList) (functionRows report)).splitOn
      '\n').length = report.functions.length + 2 +
        (source.functions.map fun place => (place.nameChars source).count '\n').sum := by
    have headers : breaks (functionHeaders.map String.toList) = 0 := by decide
    have total := fits.length_splitOn_layOut
    rwa [headers, names, functionRows, List.length_map] at total
  refine ⟨_, fits.render_eq_ok, by rw [functions, List.length_map], counted, ?_,
    fun place _ => Place.exists_newline_of_mem_nameChars⟩
  rw [counted, Nat.add_eq_left, List.sum_eq_zero_iff, List.forall_mem_map]
  exact forall₂_congr fun _ _ => List.count_eq_zero

/-- An arrow function that is assigned to a property, which is written on a line of its own. -/
def brokenTarget : Source :=
  let node (kind : Kind) (start stop : Nat) (field : Option Field) (children : List Node) : Node :=
    ⟨⟨0, kind, true, false, start, stop, field⟩, children⟩
  let target := node (.other "member_expression") 0 14 (some .left) []
  let body := node (.other "number") 23 24 (some .body) []
  let arrow := node .arrowFunction 17 24 (some .right) [body]
  let statement := node (.other "expression_statement") 0 25 none
    [node .assignmentExpression 0 24 none [target, arrow]]
  { path := "a.js"
    language := .javascript
    bytes := "app\n  .handler = () => 1;\n".toList.map fun c => UInt8.ofNat c.toNat
    tree := ⟨node (.other "program") 0 26 none [statement], false⟩ }

open TextTable in
/-- One function takes two lines of the table. -/
theorem functionTable_lines_brokenTarget :
    let report := (brokenTarget.analyze none).value.report
    report.functions.length = 1 ∧ '\n' ∉ brokenTarget.path.toList ∧
      ∃ table, functionTable report = .ok table ∧ (table.splitOn '\n').length = 4 := by
  intro report
  have one : report.functions.length = 1 := by
    rw [brokenTarget.report_functions, List.length_map]
    decide +kernel
  have path : '\n' ∉ brokenTarget.path.toList := by decide +kernel
  have filled : report.functions ≠ [] := by
    rw [← List.length_pos_iff, one]
    decide
  have breaks : (brokenTarget.functions.map fun place =>
      (place.nameChars brokenTarget).count '\n').sum = 1 := by decide +kernel
  obtain ⟨table, laid, -, lines, -⟩ := functionTable_lines brokenTarget none filled path
  exact ⟨one, path, table, laid, lines.trans (by rw [one, breaks])⟩

end Tangle
