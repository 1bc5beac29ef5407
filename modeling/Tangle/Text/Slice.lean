/-
This file cuts texts by length, where a negative length counts from the end, and
splits them at a separator.
-/

namespace Tangle.Text

/-- The first `limit` characters. A negative limit drops that many from the end instead. -/
def upTo (limit : Int) (text : List α) : List α :=
  if 0 ≤ limit then text.take limit.toNat else text.take (text.length - (-limit).toNat)

/-- The text behind the last `separator`, or all of it when there is none. -/
def afterLast [BEq α] (separator : α) (text : List α) : List α :=
  (text.reverse.takeWhile (· != separator)).reverse

/-- Only what is behind the last separator counts. -/
theorem afterLast_append_cons [BEq α] [LawfulBEq α] (separator : α) (before behind : List α) :
    afterLast separator (before ++ separator :: behind) = afterLast separator behind := by
  have stop : (behind.reverse ++ separator :: before.reverse).takeWhile (· != separator) =
      behind.reverse.takeWhile (· != separator) := by
    induction behind.reverse with
    | nil => simp
    | cons c rest inductionHypothesis =>
      rw [List.cons_append, List.takeWhile_cons, List.takeWhile_cons, inductionHypothesis]
  rw [afterLast, List.reverse_append, List.reverse_cons, List.append_assoc, List.singleton_append,
    stop, afterLast]

/-- A text without the separator is kept as it is. -/
theorem afterLast_eq_self [BEq α] [LawfulBEq α] {separator : α} {text : List α}
    (absent : separator ∉ text) : afterLast separator text = text := by
  have other : ∀ c ∈ text.reverse, (c != separator) = true := by
    intro c member
    rw [bne_iff_ne]
    rintro rfl
    exact absent (List.mem_reverse.1 member)
  have whole : (text.reverse ++ []).takeWhile (· != separator) = text.reverse ++ [] :=
    List.takeWhile_append_of_pos other
  rw [List.append_nil] at whole
  rw [afterLast, whole, List.reverse_reverse]

/-- The pieces between the separators; one more piece than there are separators. -/
def pieces [BEq α] (separator : α) : List α → List (List α)
  | [] => [[]]
  | c :: rest =>
    if c == separator then [] :: pieces separator rest
    else
      match pieces separator rest with
      | piece :: others => (c :: piece) :: others
      | [] => [[c]]

end Tangle.Text
