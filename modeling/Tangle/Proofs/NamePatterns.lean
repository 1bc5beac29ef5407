/-
This file says what the patterns on paths come to. A pattern without wildcards
matches itself and nothing else, so an exclude without wildcards names a whole path
or one of the names in it. A text between two stars is matched by the names that
hold it, wherever it stands in them: that is what makes a file a test file.

Matching goes by the parts of a pattern, from the last one on and over all ends of a
text at once. Here it is read from the front instead: letters take themselves off a
text, and a star takes off any beginning.
-/

import Tangle.Discovery
import Tangle.Proofs.Paths

namespace Tangle

/-! ### Patterns taken apart -/

namespace Glob

/-- A pattern in which every character stands for itself. -/
def IsLiteral (pattern : List Char) : Prop :=
  '*' ∉ pattern ∧ '?' ∉ pattern ∧ '[' ∉ pattern

instance (pattern : List Char) : Decidable (IsLiteral pattern) :=
  inferInstanceAs (Decidable (_ ∧ _))

section

variable {letters : List Char}

theorem IsLiteral.of_cons {c : Char} (literal : IsLiteral (c :: letters)) :
    (c ≠ '*' ∧ c ≠ '?' ∧ c ≠ '[') ∧ IsLiteral letters := by
  simp only [IsLiteral, List.mem_cons, not_or] at literal ⊢
  tauto

/-- Letters are read one by one, whatever comes behind them. -/
theorem parseWith_append (literal : IsLiteral letters) (fuel : Nat) (rest : List Char) :
    parseWith (letters.length + fuel) (letters ++ rest) =
      letters.map .literal ++ parseWith fuel rest := by
  induction letters with
  | nil => rw [List.length_nil, Nat.zero_add, List.nil_append, List.map_nil, List.nil_append]
  | cons c letters inductionHypothesis =>
    obtain ⟨⟨star, mark, bracket⟩, others⟩ := literal.of_cons
    have step : parseWith (letters.length + fuel + 1) (c :: (letters ++ rest)) =
        .literal c :: parseWith (letters.length + fuel) (letters ++ rest) := by
      rw [parseWith]
      exacts [star, mark, bracket]
    rw [List.length_cons, Nat.add_right_comm, List.cons_append, step, inductionHypothesis others,
      List.map_cons, List.cons_append]

theorem parse_literal (literal : IsLiteral letters) : parse letters = letters.map .literal := by
  have read := parseWith_append literal 0 []
  rw [Nat.add_zero, List.append_nil] at read
  rw [parse, read, parseWith, List.append_nil]

theorem parse_between_stars (literal : IsLiteral letters) :
    parse ('*' :: (letters ++ ['*'])) = .star :: (letters.map .literal ++ [.star]) := by
  have read := parseWith_append literal 1 ['*']
  rw [parse, List.length_cons, List.length_append, List.length_singleton, parseWith, read]
  rfl

end

/-! ### What is matched -/

theorem anySuffix_iff {condition : List Char → Bool} {text : List Char} :
    anySuffix condition text = true ↔ ∃ behind, behind <:+ text ∧ condition behind = true := by
  induction text with
  | nil => simp [anySuffix]
  | cons c rest inductionHypothesis =>
    rw [anySuffix, Bool.or_eq_true, inductionHypothesis]
    simp only [List.suffix_cons_iff, or_and_right, exists_or, exists_eq_left]

/-- Letters take themselves off the text. -/
theorem accepts_map_literal_append {letters : List Char} {tokens : List Token}
    {text : List Char} : accepts (letters.map .literal ++ tokens) text = true ↔
      ∃ behind, letters ++ behind = text ∧ accepts tokens behind = true := by
  induction letters generalizing text with
  | nil => simp
  | cons c letters inductionHypothesis =>
    rw [List.map_cons, List.cons_append]
    cases text with
    | nil => simp [accepts]
    | cons first rest =>
      rw [accepts, Bool.and_eq_true, inductionHypothesis, Token.matchesChar, beq_iff_eq]
      · simp only [List.cons_append, List.cons.injEq, and_assoc, exists_and_left]
      · exact Token.noConfusion

/-- A pattern without wildcards matches itself only. -/
theorem fits_parse_literal {pattern text : List Char} (literal : IsLiteral pattern) :
    fits (parse pattern) text = true ↔ pattern = text := by
  have read := @accepts_map_literal_append pattern [] text
  rw [List.append_nil] at read
  rw [fits_eq_accepts, parse_literal literal, read]
  simp [accepts]

/-- A text between two stars matches what holds it. -/
theorem fits_parse_between_stars {letters text : List Char} (literal : IsLiteral letters) :
    fits (parse ('*' :: (letters ++ ['*']))) text = true ↔ letters <:+: text := by
  have anything (behind : List Char) : accepts [.star] behind = true := by
    rw [accepts, anySuffix_iff]
    exact ⟨[], List.nil_suffix, rfl⟩
  rw [fits_eq_accepts, parse_between_stars literal, accepts, anySuffix_iff,
    List.infix_iff_prefix_suffix]
  simp only [accepts_map_literal_append, anything, and_true]
  exact exists_congr fun behind => and_comm

end Glob

namespace Discovery

/-- A path is that of a test file if its last name holds `.test.` or `.spec.`. Excludes without
wildcards leave out the paths that are spelled like one of them or have a name spelled like one. -/
theorem matched_iff_component (path : String) :
    let components := path.toList.splitOn '/'
    (isTestFile path = true ↔
      ∃ name ∈ components.getLast?, ".test.".toList <:+: name ∨ ".spec.".toList <:+: name) ∧
    ∀ patterns : List String, (∀ pattern ∈ patterns, Glob.IsLiteral pattern.toList) →
      (isExcluded path patterns = true ↔
        ∃ pattern ∈ patterns, pattern = path ∨ pattern.toList ∈ components) := by
  intro components
  have pieces : Text.pieces '/' path.toList = components := Text.pieces_eq_splitOn '/' path.toList
  constructor
  · have last : components.getLast? = some (Text.afterLast '/' path.toList) := by
      rw [← pieces, Text.getLast?_pieces]
    have test : "*.test.*".toList = '*' :: (".test.".toList ++ ['*']) := by decide
    have spec : "*.spec.*".toList = '*' :: (".spec.".toList ++ ['*']) := by decide
    have held : isTestFile path = true ↔ ".test.".toList <:+: Text.afterLast '/' path.toList ∨
        ".spec.".toList <:+: Text.afterLast '/' path.toList := by
      rw [isTestFile, testPatterns, List.any_cons, List.any_cons, List.any_nil, Bool.or_false,
        Bool.or_eq_true, test, spec, Glob.fits_parse_between_stars (by decide),
        Glob.fits_parse_between_stars (by decide)]
    rw [held, last]
    simp only [Option.mem_some_iff, exists_eq_left']
  · intro patterns literal
    rw [isExcluded, List.any_eq_true, pieces]
    refine exists_congr fun pattern => and_congr_right fun member => ?_
    have fits (text : List Char) : Glob.fits (Glob.parse pattern.toList) text = true ↔
        pattern.toList = text :=
      Glob.fits_parse_literal (literal pattern member)
    simp only [Bool.or_eq_true, List.any_eq_true, fits, String.toList_inj, exists_eq_right']

/-- A closing bracket stands for itself, and a beginning of a name is no name. -/
theorem matched_iff_component_closingBracket :
    let patterns := ["src/a", "a]b"]
    (∀ pattern ∈ patterns, Glob.IsLiteral pattern.toList) ∧
      isExcluded "src/a]b/x.ts" patterns = true ∧ isExcluded "src/a/x.ts" patterns = false := by
  intro patterns
  have literal : ∀ pattern ∈ patterns, Glob.IsLiteral pattern.toList := by decide
  refine ⟨literal, ?_, ?_⟩
  · exact ((matched_iff_component _).2 patterns literal).mpr ⟨"a]b", by decide, .inr (by decide)⟩
  · rw [Bool.eq_false_iff, ne_eq, (matched_iff_component _).2 patterns literal]
    decide

end Discovery

end Tangle
