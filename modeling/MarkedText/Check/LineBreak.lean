import MarkedText.Text.Basic

/-!
# Line breaks around a block

A fixture or an expectation may be written as a block whose first and last line breaks belong to the
layout and not to the text. One break is taken off on either side: a line feed, or a carriage return
with a line feed.

* `dropLeading_newline`, `dropLeading_pair`, `dropTrailing_newline`, `dropTrailing_pair`: what is
  taken off.
-/

namespace MarkedText.Text

/-- The text without one line break at its start. -/
def dropLeadingBreak : Text → Text
  | '\r' :: '\n' :: t => t
  | '\n' :: t => t
  | t => t

/-- The text without one line break at its end. -/
def dropTrailingBreak (t : Text) : Text :=
  match t.reverse with
  | '\n' :: '\r' :: r => r.reverse
  | '\n' :: r => r.reverse
  | _ => t

/-- The text without one line break on either side, the leading one first. -/
def trimBreaks (t : Text) : Text := dropTrailingBreak (dropLeadingBreak t)

theorem dropLeading_newline (t : Text) : dropLeadingBreak ('\n' :: t) = t := rfl

theorem dropLeading_pair (t : Text) : dropLeadingBreak ('\r' :: '\n' :: t) = t := rfl

theorem dropTrailing_pair (t : Text) : dropTrailingBreak (t ++ ['\r', '\n']) = t := by
  simp [dropTrailingBreak]

/-- A line feed behind a text that does not end in a carriage return. -/
theorem dropTrailing_newline {t : Text} (h : t.getLast? ≠ some '\r') :
    dropTrailingBreak (t ++ ['\n']) = t := by
  unfold dropTrailingBreak
  rw [List.reverse_append, List.reverse_singleton, List.singleton_append]
  cases hr : t.reverse with
  | nil => simp [List.reverse_eq_nil_iff.1 hr]
  | cons c r =>
    have ht : t = r.reverse ++ [c] := by rw [← List.reverse_reverse t, hr]; simp
    have hc : c ≠ '\r' := by
      rintro rfl
      exact h (by simp [ht])
    split
    · next h => exact absurd (List.cons.inj (List.cons.inj h).2).1 hc
    · next h => rw [← (List.cons.inj h).2, ht]; simp
    · next h => exact absurd rfl (h (c :: r))

end MarkedText.Text
