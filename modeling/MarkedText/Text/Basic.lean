/-!
# Text as a list of code points

A text is the list of its code points, so lengths and offsets are list lengths. Its code points are
those that stand for characters: a surrogate (U+D800 to U+DFFF) is not one of them, and a text with a
surrogate left alone in it is not covered. This module holds what every other one needs of texts:
decimal numbers, rows cut at line feeds, and padding.

* `splitLines`, `joinLines`: the rows of a text and back (`joinLines_splitLines`).
* `splitLines_ne_nil`, `newline_notMem_of_mem_splitLines`: there is always a row, and no row holds
  a line feed.
-/

namespace MarkedText

/-- A text is the list of its code points. -/
abbrev Text := List Char

namespace Text

/-- A natural number in decimal. -/
def ofNat (n : Nat) : Text := Nat.toDigits 10 n

/-- An integer in decimal, with a minus sign in front when it is negative. -/
def ofInt : Int → Text
  | .ofNat n => ofNat n
  | .negSucc n => '-' :: ofNat (n + 1)

/-- `t` in at least `width` places, blanks first. -/
def padLeft (width : Nat) (t : Text) : Text := List.replicate (width - t.length) ' ' ++ t

/-! ## Rows -/

/-- Puts `c` in front of the first row, or opens a row when `c` is a line feed. -/
def consRow (c : Char) : List Text → List Text
  | [] => if c = '\n' then [[], []] else [[c]]
  | row :: rows => if c = '\n' then [] :: row :: rows else (c :: row) :: rows

/-- The rows of a text: the pieces between its line feeds, at least one. -/
def splitLines (t : Text) : List Text := t.foldr consRow [[]]

/-- Rows with a line feed between each and the next. -/
def joinLines (rows : List Text) : Text := List.intercalate ['\n'] rows

@[simp] theorem splitLines_nil : splitLines [] = [[]] := rfl

@[simp] theorem splitLines_cons (c : Char) (t : Text) :
    splitLines (c :: t) = consRow c (splitLines t) := rfl

theorem consRow_ne_nil (c : Char) (rows : List Text) : consRow c rows ≠ [] := by
  cases rows <;> simp only [consRow] <;> split <;> simp

theorem splitLines_ne_nil (t : Text) : splitLines t ≠ [] := by
  cases t with
  | nil => simp
  | cons c t => exact consRow_ne_nil c _

theorem newline_notMem_of_mem_splitLines {t row : Text} (h : row ∈ splitLines t) : '\n' ∉ row := by
  induction t generalizing row with
  | nil => simp_all
  | cons c t ih =>
    rw [splitLines_cons] at h
    cases hs : splitLines t with
    | nil => exact absurd hs (splitLines_ne_nil t)
    | cons first rows =>
      rw [hs] at h ih
      simp only [consRow] at h
      split at h
      · rcases List.mem_cons.1 h with rfl | h
        · simp
        · exact ih h
      · next hc =>
        rcases List.mem_cons.1 h with rfl | h
        · have := ih (List.mem_cons_self ..)
          simp only [List.mem_cons, not_or]
          exact ⟨fun he => hc he.symm, this⟩
        · exact ih (List.mem_cons_of_mem _ h)

theorem joinLines_consRow (c : Char) {rows : List Text} (h : rows ≠ []) :
    joinLines (consRow c rows) = c :: joinLines rows := by
  cases rows with
  | nil => exact absurd rfl h
  | cons row rows =>
    simp only [consRow]
    split
    · next hc => simp [joinLines, List.intercalate, hc]
    · cases rows <;> simp [joinLines, List.intercalate]

/-- Cutting a text into rows loses nothing. -/
theorem joinLines_splitLines (t : Text) : joinLines (splitLines t) = t := by
  induction t with
  | nil => rfl
  | cons c t ih => rw [splitLines_cons, joinLines_consRow c (splitLines_ne_nil t), ih]

end Text

end MarkedText
