/-
This file reads values back from their text. A value is written into the text in front
of whatever comes next, and read off it again, with the members of each object in the
order in which they were written; since they are sorted before that, the order that they
had leaves no trace. The reader counts down as it goes, and twice the length of a text is
always enough for it.

Not every value has a text: one number with too many digits keeps it from being written.
-/

import Tangle.Config
import Tangle.Proofs.CallerPaths
import Tangle.Proofs.JsonParts
import Tangle.Proofs.TextBytes

namespace Tangle

namespace Json

open Text (CodePoint)

/-! ### What is read back -/

/-- Wherever the value is written, it is read back. -/
def Legible (json : Json) : Prop :=
  ∀ depth behind fuel, Follows behind → 2 * (renderBefore depth behind json).length < fuel →
    readValue fuel (renderBefore depth behind json) = .ok (json, behind)

theorem Legible.of_succ {json : Json} (reads : ∀ depth behind fuel, Follows behind →
      2 * (renderBefore depth behind json).length ≤ fuel →
        readValue (fuel + 1) (renderBefore depth behind json) = .ok (json, behind)) :
    json.Legible := by
  intro depth behind fuel follows enough
  obtain ⟨fuel, rfl⟩ := Nat.exists_eq_add_one_of_ne_zero (Nat.ne_zero_of_lt enough)
  exact reads depth behind fuel follows (Nat.le_of_lt_succ enough)

theorem skipSpace_of_dark {first : Char} (dark : isSpace first = false) (rest : List Char) :
    skipSpace (first :: rest) = first :: rest :=
  List.dropWhile_cons_of_neg (by simp [dark])

theorem skipSpace_colon (rest : List Char) : skipSpace (':' :: rest) = ':' :: rest :=
  rfl

theorem skipSpace_blank (rest : List Char) : skipSpace (' ' :: rest) = skipSpace rest :=
  rfl

theorem skipSpace_newLine (depth : Nat) (rest : List Char) :
    skipSpace (newLine depth ++ rest) = skipSpace rest := by
  refine List.dropWhile_append_of_pos (List.forall_mem_cons.mpr ⟨rfl, fun c member => ?_⟩)
  rw [List.eq_of_mem_replicate member]
  rfl

theorem Shown.skipSpace_eq {depth : Nat} {json : Json} {first : Char} {rest : List Char}
    (shown : Shown depth json first rest) (behind : List Char) :
    skipSpace (renderBefore depth behind json) = renderBefore depth behind json := by
  rw [shown.before, List.cons_append, skipSpace_of_dark shown.dark]

/-! ### Arrays -/

/-- The inside of an array that holds something, up to its closing bracket, and the text behind. -/
def arrayInside (depth : Nat) (behind : List Char) (item : Json) (items : List Json) : List Char :=
  renderBefore (depth + 1) (renderItems (depth + 1) (newLine depth ++ ']' :: behind) items) item

section

variable {fuel : Nat} {text behind rest : List Char} {item : Json}

theorem readItems_last (read : readValue fuel text = .ok (item, behind))
    (closed : skipSpace behind = ']' :: rest) :
    readItems (fuel + 1) text = .ok ([item], rest) := by
  rw [readItems]
  simp only [read, closed]

theorem readItems_more (read : readValue fuel text = .ok (item, behind))
    (comma : skipSpace behind = ',' :: rest) :
    readItems (fuel + 1) text =
      (readItems fuel (skipSpace rest)).map fun others => (item :: others.1, others.2) := by
  rw [readItems]
  simp only [read, comma]
  cases readItems fuel (skipSpace rest) <;> rfl

end

theorem follows_renderItems (depth : Nat) (behind : List Char) (items : List Json) :
    Follows (renderItems (depth + 1) (newLine depth ++ ']' :: behind) items) := by
  cases items with
  | nil =>
    rintro c ⟨⟩
    exact .inr rfl
  | cons item items =>
    rintro c ⟨⟩
    exact .inl rfl

/-- The items of an array are read back, by recursion on those behind the first. -/
theorem readItems_arrayInside {item : Json} {items : List Json} {depth : Nat}
    (legible : ∀ each ∈ item :: items, Legible each)
    (shown : ∀ each ∈ item :: items, ∃ first rest, Shown (depth + 1) each first rest)
    (behind : List Char) {fuel : Nat}
    (enough : 2 * (arrayInside depth behind item items).length + 1 < fuel) :
    readItems fuel (arrayInside depth behind item items) = .ok (item :: items, behind) := by
  obtain ⟨fuel, rfl⟩ := Nat.exists_eq_add_one_of_ne_zero (Nat.ne_zero_of_lt enough)
  have follows := follows_renderItems depth behind items
  have read :=
    legible item List.mem_cons_self (depth + 1) _ fuel follows (Nat.succ_lt_succ_iff.mp enough)
  cases items with
  | nil =>
    have closed : skipSpace (renderItems (depth + 1) (newLine depth ++ ']' :: behind) []) =
        ']' :: behind := by
      rw [renderItems_nil, skipSpace_newLine]
      rfl
    rw [arrayInside, readItems_last read closed]
  | cons next items =>
    obtain ⟨first, rest, here⟩ := shown item List.mem_cons_self
    obtain ⟨_, _, there⟩ := shown next (List.mem_cons_of_mem _ List.mem_cons_self)
    have comma :
        skipSpace (renderItems (depth + 1) (newLine depth ++ ']' :: behind) (next :: items)) =
          ',' :: (newLine (depth + 1) ++ arrayInside depth behind next items) :=
      rfl
    -- The comma and the first character of the item pay for the step to the next one.
    have less : 2 * (arrayInside depth behind next items).length + 1 < fuel := by
      rw [arrayInside, here.before, renderItems_cons, ← arrayInside] at enough
      simp only [List.length_append, List.length_cons] at enough
      omega
    have inside : skipSpace (arrayInside depth behind next items) =
        arrayInside depth behind next items := there.skipSpace_eq _
    have others := readItems_arrayInside
      (fun each member => legible each (List.mem_cons_of_mem _ member))
      (fun each member => shown each (List.mem_cons_of_mem _ member)) behind less
    rw [arrayInside, readItems_more read comma, skipSpace_newLine, inside, others]
    rfl
termination_by items

/-! ### Objects -/

/-- The inside of an object that holds something, up to its closing brace, and the text behind. -/
def objectInside (depth : Nat) (behind : List Char) (member : List CodePoint × Json)
    (members : List (List CodePoint × Json)) : List Char :=
  renderString member.1 ++ ':' :: ' ' :: renderBefore (depth + 1)
    (renderMembers (depth + 1) (newLine depth ++ '\x7d' :: behind) members) member.2

section

variable {fuel : Nat} {inner behind rest : List Char} {key : List CodePoint} {value : Json}
  (scalar : CodePoint.IsText key) (dark : skipSpace inner = inner)
include scalar dark

theorem readMembers_last (read : readValue fuel inner = .ok (value, behind))
    (closed : skipSpace behind = '\x7d' :: rest) :
    readMembers (fuel + 1) (renderString key ++ ':' :: ' ' :: inner) = .ok ([(key, value)], rest) := by
  rw [renderString_append, readMembers]
  simp only [readString_render scalar, skipSpace_colon, skipSpace_blank, dark, read, closed]

theorem readMembers_more (read : readValue fuel inner = .ok (value, behind))
    (comma : skipSpace behind = ',' :: rest) :
    readMembers (fuel + 1) (renderString key ++ ':' :: ' ' :: inner) =
      (readMembers fuel (skipSpace rest)).map fun others => ((key, value) :: others.1, others.2) := by
  rw [renderString_append, readMembers]
  simp only [readString_render scalar, skipSpace_colon, skipSpace_blank, dark, read, comma]
  cases readMembers fuel (skipSpace rest) <;> rfl

end

theorem follows_renderMembers (depth : Nat) (behind : List Char)
    (members : List (List CodePoint × Json)) :
    Follows (renderMembers (depth + 1) (newLine depth ++ '\x7d' :: behind) members) := by
  cases members with
  | nil =>
    rintro c ⟨⟩
    exact .inr rfl
  | cons member members =>
    rintro c ⟨⟩
    exact .inl rfl

/-- The members of an object are read back, in the order in which they stand. -/
theorem readMembers_objectInside {member : List CodePoint × Json}
    {members : List (List CodePoint × Json)} {depth : Nat}
    (keys : ∀ each ∈ member :: members, CodePoint.IsText each.1)
    (legible : ∀ each ∈ member :: members, Legible each.2)
    (shown : ∀ each ∈ member :: members, ∃ first rest, Shown (depth + 1) each.2 first rest)
    (behind : List Char) {fuel : Nat}
    (enough : 2 * (objectInside depth behind member members).length + 1 < fuel) :
    readMembers fuel (objectInside depth behind member members) =
      .ok (member :: members, behind) := by
  obtain ⟨fuel, rfl⟩ := Nat.exists_eq_add_one_of_ne_zero (Nat.ne_zero_of_lt enough)
  obtain ⟨first, rest, here⟩ := shown member List.mem_cons_self
  have key := keys member List.mem_cons_self
  have follows := follows_renderMembers depth behind members
  have dark := here.skipSpace_eq
    (renderMembers (depth + 1) (newLine depth ++ '\x7d' :: behind) members)
  have size : 2 * (renderBefore (depth + 1)
      (renderMembers (depth + 1) (newLine depth ++ '\x7d' :: behind) members) member.2).length <
      fuel := by
    rw [objectInside] at enough
    simp only [List.length_append, List.length_cons] at enough
    omega
  have read := legible member List.mem_cons_self (depth + 1) _ fuel follows size
  cases members with
  | nil =>
    have closed : skipSpace (renderMembers (depth + 1) (newLine depth ++ '\x7d' :: behind) []) =
        '\x7d' :: behind := by
      rw [renderMembers_nil, skipSpace_newLine]
      rfl
    rw [objectInside, readMembers_last key dark read closed]
  | cons next members =>
    have comma :
        skipSpace (renderMembers (depth + 1) (newLine depth ++ '\x7d' :: behind) (next :: members)) =
          ',' :: (newLine (depth + 1) ++ objectInside depth behind next members) := by
      rw [renderMembers_cons, List.append_assoc]
      rfl
    have less : 2 * (objectInside depth behind next members).length + 1 < fuel := by
      rw [here.before, renderMembers_cons, List.append_assoc, ← objectInside] at size
      simp only [List.length_append, List.length_cons] at size
      omega
    have inside : skipSpace (objectInside depth behind next members) =
        objectInside depth behind next members := rfl
    have others := readMembers_objectInside
      (fun each member => keys each (List.mem_cons_of_mem _ member))
      (fun each member => legible each (List.mem_cons_of_mem _ member))
      (fun each member => shown each (List.mem_cons_of_mem _ member)) behind less
    rw [objectInside, readMembers_more key dark read comma, skipSpace_newLine, inside, others]
    rfl
termination_by members

/-! ### Values -/

theorem readValue_numeral (fuel : Nat) (value : Int) (behind : List Char) :
    readValue (fuel + 1) (Text.numeral value ++ behind) =
      readPlain (Text.numeral value ++ behind) := by
  obtain ⟨digit, rest, isDigit, shown | shown⟩ := exists_digit_numeral value
  · rw [shown, List.cons_append, readValue]
    all_goals
      rintro _ ⟨⟩
      exact ne_of_isDigit isDigit rfl rfl
  · rw [shown]
    rfl

theorem renderBefore_arr (depth : Nat) (behind : List Char) (item : Json) (items : List Json) :
    renderBefore depth behind (.arr (item :: items)) =
      '[' :: (newLine (depth + 1) ++ arrayInside depth behind item items) :=
  rfl

theorem readValue_array {depth : Nat} {item : Json} {first : Char} {rest : List Char}
    (shown : Shown (depth + 1) item first rest) (fuel : Nat) (behind : List Char)
    (items : List Json) :
    readValue (fuel + 1) ('[' :: (newLine (depth + 1) ++ arrayInside depth behind item items)) =
      (readItems fuel (arrayInside depth behind item items)).map fun read =>
        (.arr read.1, read.2) := by
  have inside : skipSpace (newLine (depth + 1) ++ arrayInside depth behind item items) =
      arrayInside depth behind item items := by
    rw [skipSpace_newLine, arrayInside, shown.skipSpace_eq]
  rw [readValue, inside]
  split
  next closed =>
    rw [arrayInside, shown.before] at closed
    exact absurd (List.cons.inj closed).1 shown.opening
  next => cases readItems fuel (arrayInside depth behind item items) <;> rfl

theorem renderBefore_obj (depth : Nat) (behind : List Char) (member : List CodePoint × Json)
    (members : List (List CodePoint × Json)) :
    renderBefore depth behind (.obj (member :: members)) =
      '\x7b' :: (newLine (depth + 1) ++ objectInside depth behind member members) := by
  rw [renderBefore_obj_cons, List.append_assoc]
  rfl

theorem readValue_object (fuel depth : Nat) (behind : List Char) (member : List CodePoint × Json)
    (members : List (List CodePoint × Json)) :
    readValue (fuel + 1)
        ('\x7b' :: (newLine (depth + 1) ++ objectInside depth behind member members)) =
      (readMembers fuel (objectInside depth behind member members)).map fun read =>
        (.obj (Ordered.putAll [] read.1), read.2) := by
  have inside : skipSpace (newLine (depth + 1) ++ objectInside depth behind member members) =
      objectInside depth behind member members := by
    rw [skipSpace_newLine]
    rfl
  rw [readValue, inside]
  split
  next closed =>
    rw [objectInside, renderString_append] at closed
    exact absurd (List.cons.inj closed).1 (by decide)
  next => cases readMembers fuel (objectInside depth behind member members) <;> rfl

/-- A short value is read back from in front of a comma, the end of a line or nothing. -/
theorem Plain.legible {json : Json} (plain : json.Plain) (short : json.Short) : json.Legible := by
  induction plain with
  | null => exact .of_succ fun _ _ _ _ _ => rfl
  | bool value =>
    refine .of_succ fun depth behind fuel follows enough => ?_
    cases value <;> rfl
  | int value =>
    refine .of_succ fun depth behind fuel follows enough => ?_
    rw [renderBefore_int, readValue_numeral, readPlain_numeral (short_int_iff.mp short) follows]
  | str scalar =>
    refine .of_succ fun depth behind fuel follows enough => ?_
    rw [renderBefore_str, renderString_append, readValue]
    simp only [readString_render scalar]
  | @arr items plain inductionHypothesis =>
    have legible := fun each member =>
      inductionHypothesis each member (short_arr_iff.mp short each member)
    refine .of_succ fun depth behind fuel follows enough => ?_
    cases items with
    | nil => rfl
    | cons item items =>
      have shown := fun each member => (plain each member).exists_shown (depth + 1)
      obtain ⟨first, rest, here⟩ := shown item List.mem_cons_self
      rw [renderBefore_arr] at enough ⊢
      have less : 2 * (arrayInside depth behind item items).length + 1 < fuel := by
        simp only [newLine, List.length_append, List.length_cons] at enough
        omega
      rw [readValue_array here, readItems_arrayInside legible shown behind less]
      rfl
  | @obj members unique keys values inductionHypothesis =>
    have legible := fun each member =>
      inductionHypothesis each member (short_obj_iff.mp short each member)
    refine .of_succ fun depth behind fuel follows enough => ?_
    cases members with
    | nil => rfl
    | cons member members =>
      have shown := fun each inside => (values each inside).exists_shown (depth + 1)
      rw [renderBefore_obj] at enough ⊢
      have less : 2 * (objectInside depth behind member members).length + 1 < fuel := by
        simp only [newLine, List.length_append, List.length_cons] at enough
        omega
      have apart : (([] : List (List CodePoint × Json)).map (·.1) ++
          (member :: members).map (·.1)).Nodup := unique
      have put : Ordered.putAll [] (member :: members) = member :: members :=
        Ordered.putAll_of_nodup apart
      rw [readValue_object, readMembers_objectInside keys legible shown behind less]
      show Except.ok (Json.obj (Ordered.putAll [] _), behind) = _
      rw [put]

/-- A short value that is written as it stands is read as it stands. -/
theorem Plain.parse_render {json : Json} (plain : json.Plain) (short : json.Short) :
    parse json.render = .ok json := by
  obtain ⟨first, rest, shown⟩ := plain.exists_shown 0
  have follows : Follows [] := by
    rintro _ ⟨⟩
  have read := plain.legible short 0 [] (2 * json.render.length + 1) follows (Nat.lt_succ_self _)
  have start := shown.skipSpace_eq []
  -- A byte order mark is refused, but it is not among the characters that can be seen.
  have mark : (json.render.head? == some (Char.ofNat 0xFEFF)) = false := by
    rw [render_eq, shown.before, beq_eq_false_iff_ne]
    rintro ⟨⟩
    exact absurd (shown.clean _ List.mem_cons_self) (by decide)
  rw [render_eq] at read
  rw [parse, mark, if_neg Bool.false_ne_true, render_eq, start, read]
  rfl

/-! ### Texts -/

theorem short_sorted_iff {json : Json} (plain : json.Plain) : json.sorted.Short ↔ json.Short :=
  forall_congr' fun _ => by rw [plain.reordered_sorted.holds_iff]

/-- A value has a text exactly if it is short, and then it is the one without a limit. -/
theorem Plain.provided_text? {json : Json} (plain : json.Plain) :
    Provided json.Short json.text json.text? := by
  rw [← short_sorted_iff plain]
  exact (json.sorted.limited 0 []).map String.ofList

theorem Plain.clean_text {json : Json} (plain : json.Plain) : Clean json.text.toList := by
  obtain ⟨first, rest, shown⟩ := (plain.reordered_sorted.plain plain).exists_shown 0
  rw [text, String.toList_ofList, render_eq, shown.before, List.append_nil]
  exact shown.clean

/-- The text of a value is read as its sorted form. -/
theorem Plain.parse_text {json : Json} (plain : json.Plain) (short : json.Short) :
    parse json.text.toList = .ok json.sorted := by
  rw [text, String.toList_ofList]
  exact (plain.reordered_sorted.plain plain).parse_render ((short_sorted_iff plain).mpr short)

/-- A file that holds a text and may be read. -/
def stored (text : String) (tree : Tree) : StoredFile :=
  { bytes := Text.Utf8.encode text.toList, tree }

theorem Plain.readJson_stored {json back : Json} (plain : json.Plain)
    (parsed : parse json.text.toList = .ok back) (path : String) (tree : Tree) :
    Config.readJson path (stored json.text tree) = .ok (.ok back) := by
  have unbroken : Text.unifyBreaks json.text.toList = json.text.toList :=
    Text.unifyBreaks_of_notMem fun member => absurd (plain.clean_text _ member) (by decide)
  have opened : (stored json.text tree).opened = .ok (stored json.text tree) := rfl
  rw [Config.readJson, opened]
  dsimp only
  rw [stored, Text.Utf8.decode?_encode]
  dsimp only
  rw [unbroken, Config.readValue, parsed]

/-- A value has no text exactly if some number in it has too many digits. Otherwise its text holds
only line ends and characters that can be seen, and it is read back from a file, in some order of
members. The order of members at any depth makes no difference. -/
theorem text_reads_back {json : Json} (plain : json.Plain) :
    (json.text? = none ↔
      ∃ number, json.Holds number ∧ Text.longestNumeral < Text.digitCount number) ∧
    (∀ text, json.text? = some text →
      (∀ c ∈ text.toList, c = '\n' ∨ ' ' ≤ c ∧ c ≤ '~') ∧
      ∃ back, json.Reordered back ∧ parse text.toList = .ok back ∧
        ∀ path tree, Config.readJson path (stored text tree) = .ok (.ok back)) ∧
    ∀ other, json.Reordered other → other.text? = json.text? := by
  refine ⟨?_, fun text written => ?_, fun other same => ?_⟩
  · rw [← not_short_iff]
    obtain ⟨short, written⟩ | ⟨long, failed⟩ := plain.provided_text?
    · exact iff_of_false (by rw [written]; simp) (not_not_intro short)
    · exact iff_of_true failed long
  · obtain ⟨short, made⟩ | ⟨-, failed⟩ := plain.provided_text?
    · cases made.symm.trans written
      have parsed := plain.parse_text short
      exact ⟨plain.clean_text, json.sorted, plain.reordered_sorted, parsed,
        plain.readJson_stored parsed⟩
    · cases failed.symm.trans written
  · rw [text?, text?, same.sorted_eq plain]

theorem isText_ofString (text : String) : CodePoint.IsText (CodePoint.ofString text) :=
  ⟨text.toList, rfl⟩

/-- A value with much to escape and two keys that are not in order. -/
def unsorted : Json :=
  .obj [(CodePoint.ofString "é\n", .arr [.int (-120), .str (CodePoint.ofString "😀\x7f\""), .obj []]),
    (CodePoint.ofString "a", .arr [])]

theorem unsorted_plain : unsorted.Plain := by
  refine .obj (by decide) ?_ ?_
  · simp [isText_ofString]
  · rintro member (_ | ⟨_, _ | ⟨_, ⟨⟩⟩⟩)
    · refine .arr ?_
      rintro item (_ | ⟨_, _ | ⟨_, _ | ⟨_, ⟨⟩⟩⟩⟩)
      · exact .int _
      · exact .str (isText_ofString _)
      · exact .obj .nil (List.forall_mem_nil _) (List.forall_mem_nil _)
    · exact .arr (List.forall_mem_nil _)

theorem unsorted_short : unsorted.Short := by
  have few : Text.digitCount (-120) ≤ Text.longestNumeral := by decide
  have text : Short (.str (CodePoint.ofString "😀\x7f\"")) := by
    rintro _ ⟨⟩
  simp only [unsorted, short_obj_iff, short_arr_iff, List.forall_mem_cons]
  exact ⟨⟨short_int_iff.mpr few, text, List.forall_mem_nil _, List.forall_mem_nil _⟩,
    List.forall_mem_nil _, List.forall_mem_nil _⟩

/-- A value with a number that has one digit too many. -/
def overlong : Json :=
  .obj [(CodePoint.ofString "limit", .int (10 ^ Text.longestNumeral : Nat))]

theorem overlong_plain : overlong.Plain := by
  refine .obj (List.nodup_singleton _) ?_ ?_
  · exact List.forall_mem_singleton.mpr (isText_ofString _)
  · exact List.forall_mem_singleton.mpr (.int _)

theorem overlong_not_short : ¬ overlong.Short := by
  have many : Text.longestNumeral < Text.digitCount (10 ^ Text.longestNumeral : Nat) :=
    Text.lt_digitCount (by decide) (by rw [Int.natAbs_natCast])
  exact fun short => absurd (short _ (.member List.mem_cons_self .here)) (Nat.not_le.mpr many)

theorem text_reads_back_unsorted :
    unsorted.Plain ∧
      (∃ text back, unsorted.text? = some text ∧ unsorted.Reordered back ∧
        parse text.toList = .ok back ∧
        ∀ path tree, Config.readJson path (stored text tree) = .ok (.ok back)) ∧
      unsorted.Reordered unsorted.sorted ∧ unsorted.sorted.text? = unsorted.text? ∧
      overlong.Plain ∧ overlong.text? = none := by
  obtain ⟨fails, reads, same⟩ := text_reads_back unsorted_plain
  obtain ⟨text, written⟩ := Option.ne_none_iff_exists'.mp
    (mt fails.mp (mt not_short_iff.mpr (not_not_intro unsorted_short)))
  obtain ⟨-, back, moved, parsed, stored⟩ := reads text written
  exact ⟨unsorted_plain, ⟨text, back, written, moved, parsed, stored⟩,
    unsorted_plain.reordered_sorted, same _ unsorted_plain.reordered_sorted, overlong_plain,
    (text_reads_back overlong_plain).1.mpr (not_short_iff.mp overlong_not_short)⟩

/-- Not every value has a text. -/
theorem overlong_not_written : overlong.Plain ∧ overlong.text? = none := by
  obtain ⟨short, -⟩ | ⟨-, failed⟩ := overlong_plain.provided_text?
  · exact absurd short overlong_not_short
  · exact ⟨overlong_plain, failed⟩

end Json

end Tangle
