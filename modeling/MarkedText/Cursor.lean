import MarkedText.Document.Snippet

/-!
# Cursors

A cursor is a position in a document, anywhere from its start to its end. It moves forward only and
stops at the end. Two cursors of one document bound a slice of its text.

* `index_forward`: moving is adding, cut off at the end.
* `peek_eq`: looking ahead reads the text at the sum of index and offset.
* `takeUntil_eq_ok`, `takeUntil_append`: the slice between two cursors of one document in order, and
  two slices in a row.
* `le_skipWhile_index`, `skipWhile_stops`: skipping moves forward, and stops at the end or where
  the test fails.
-/

namespace MarkedText

structure Cursor where
  document : Document
  index : Nat
  index_le : index ≤ document.size
  deriving DecidableEq

namespace Cursor

/-- The cursor at any integer that is a position of the document. -/
def at? (d : Document) (i : Int) : Except Fault Cursor :=
  if h : 0 ≤ i ∧ i ≤ d.size then .ok ⟨d, i.toNat, by omega⟩ else .error (.indexOutside i d.size)

theorem at?_index (c : Cursor) : at? c.document c.index = .ok c := by
  have h := c.index_le
  unfold at?
  rw [dif_pos ⟨by omega, by omega⟩]
  rfl

/-- Whether the cursor is at the end of the text. -/
def isEnd (c : Cursor) : Bool := c.index == c.document.size

/-! ## Reading -/

/-- The code point at the cursor. -/
def current (c : Cursor) : Except Fault Char :=
  match c.document.chars[c.index]? with
  | some x => .ok x
  | none => .error (.endOfText c.index)

/-- The code point so far ahead of the cursor, or behind it, if there is one. -/
def peek (c : Cursor) (offset : Int) : Option Char :=
  if 0 ≤ c.index + offset then c.document.chars[(c.index + offset).toNat]? else none

/-- The line and column of the cursor. -/
def loc (c : Cursor) : Loc := c.document.table.locate c.index

/-- The line of the cursor and those around it, with a caret under the cursor. -/
def debug (c : Cursor) (context : Int) : Except Fault Text :=
  c.document.snippet? c.index context caretSign

/-- The cursor with its index and location. -/
def repr (c : Cursor) : Text :=
  "Cursor(index=".toList ++ Text.ofNat c.index ++ ", loc=".toList ++ c.loc.text ++ ")".toList

theorem peek_eq (c : Cursor) (offset : Nat) :
    c.peek offset = c.document.text[c.index + offset]? := by
  have h : (0 : Int) ≤ c.index + offset := by omega
  have e : ((c.index : Int) + offset).toNat = c.index + offset := by omega
  simp [peek, h, e, Document.text]

theorem peek_of_negative {c : Cursor} {offset : Int} (h : c.index + offset < 0) :
    c.peek offset = none := by
  simp [peek, show ¬ (0 : Int) ≤ c.index + offset by omega]

theorem current_eq_ok_iff (c : Cursor) (x : Char) : c.current = .ok x ↔ c.peek 0 = some x := by
  rw [show (0 : Int) = ((0 : Nat) : Int) from rfl, peek_eq]
  unfold current Document.text
  simp only [Nat.add_zero, Array.getElem?_toList]
  split <;> simp_all

theorem isEnd_iff_peek (c : Cursor) : c.isEnd = true ↔ c.peek 0 = none := by
  have h := c.index_le
  rw [show (0 : Int) = ((0 : Nat) : Int) from rfl, peek_eq]
  simp only [isEnd, beq_iff_eq, Nat.add_zero, List.getElem?_eq_none_iff, ← Document.size_eq]
  omega

/-! ## Moving -/

/-- The cursor `n` code points on, or at the end. -/
def forward (c : Cursor) (n : Nat) : Cursor :=
  ⟨c.document, min (c.index + n) c.document.size, Nat.min_le_right _ _⟩

/-- Moving by any integer; backward moves are refused. -/
def advance (c : Cursor) (count : Int) : Except Fault Cursor :=
  if count < 0 then .error (.backward count) else .ok (c.forward count.toNat)

@[simp] theorem document_forward (c : Cursor) (n : Nat) : (c.forward n).document = c.document := rfl

theorem index_forward (c : Cursor) (n : Nat) :
    (c.forward n).index = min (c.index + n) c.document.size := rfl

theorem forward_forward (c : Cursor) (m n : Nat) : (c.forward m).forward n = c.forward (m + n) := by
  simp only [forward, Cursor.mk.injEq, true_and]
  omega

theorem advance_ofNat (c : Cursor) (n : Nat) : c.advance n = .ok (c.forward n) := by
  simp [advance, show ¬ (n : Int) < 0 by omega]

/-- The cursors from here to the end, one code point apart. -/
def trail (c : Cursor) : List Cursor :=
  (List.range (c.document.size + 1 - c.index)).map c.forward

/-! ## Slices -/

/-- The text from this cursor up to another one of the same document. -/
def takeUntil (c other : Cursor) : Except Fault Text :=
  if ¬ c.document.Same other.document then .error .crossDocument
  else if other.index < c.index then .error (.cursorOrder c.index other.index)
  else .ok (c.document.slice c.index other.index)

theorem takeUntil_eq_ok {c other : Cursor} (hs : c.document.Same other.document)
    (hi : c.index ≤ other.index) :
    c.takeUntil other = .ok ((c.document.text.drop c.index).take (other.index - c.index)) := by
  simp [takeUntil, hs, Nat.not_lt.2 hi, Document.slice_eq]

/-- Slices that follow each other make up one slice. -/
theorem takeUntil_append {a b c : Cursor} (hab : a.document = b.document)
    (hbc : b.document = c.document) (h1 : a.index ≤ b.index) (h2 : b.index ≤ c.index) :
    ∃ t u, a.takeUntil b = .ok t ∧ b.takeUntil c = .ok u ∧ a.takeUntil c = .ok (t ++ u) := by
  have hsame : ∀ {x y : Cursor}, x.document = y.document → x.document.Same y.document :=
    fun hxy => congrArg Document.serial hxy
  refine ⟨_, _, takeUntil_eq_ok (hsame hab) h1, takeUntil_eq_ok (hsame hbc) h2, ?_⟩
  rw [takeUntil_eq_ok (hsame (hab.trans hbc)) (Nat.le_trans h1 h2), ← hab, ← Document.slice_eq,
    ← Document.slice_eq, ← Document.slice_eq, Document.slice_append _ h1 h2]

/-! ## Skipping -/

/-- The first cursor from here on that is at the end or fails the test. -/
def skipWhile (test : Cursor → Bool) (c : Cursor) : Cursor :=
  if h : c.index < c.document.size then
    if test c then skipWhile test ⟨c.document, c.index + 1, h⟩ else c
  else c
termination_by c.document.size - c.index

theorem skipWhile_document (test : Cursor → Bool) (c : Cursor) :
    (c.skipWhile test).document = c.document := by
  fun_induction skipWhile test c with
  | case1 c h ht ih => exact ih
  | case2 => rfl
  | case3 => rfl

theorem le_skipWhile_index (test : Cursor → Bool) (c : Cursor) :
    c.index ≤ (c.skipWhile test).index := by
  fun_induction skipWhile test c with
  | case1 c h ht ih => simp only at ih; omega
  | case2 => exact Nat.le_refl _
  | case3 => exact Nat.le_refl _

/-- Where skipping stops, the text ends or the test fails. -/
theorem skipWhile_stops (test : Cursor → Bool) (c : Cursor) :
    (c.skipWhile test).isEnd = true ∨ test (c.skipWhile test) = false := by
  fun_induction skipWhile test c with
  | case1 c h ht ih => exact ih
  | case2 c h ht => exact Or.inr (by simpa using ht)
  | case3 c h =>
    have := c.index_le
    exact Or.inl (by simp only [isEnd, beq_iff_eq]; omega)

end Cursor

end MarkedText
