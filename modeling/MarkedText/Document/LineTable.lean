import MarkedText.Document.Loc
import MarkedText.Fault

/-!
# Line tables

The table of a text holds the offset at which each line starts. It is built in one pass and finds
the line of an offset by bisection.

* `ofText_concat`: one more code point is one more `push`.
* `length_ofText`, `count_ofText`: the table knows the length of its text, and has one line more
  than the text has line feeds.
* `start_one`: the first line starts at offset zero.
* `one_le_locate`: lines and columns are counted from one.
-/

namespace MarkedText

structure LineTable where
  starts : Array Nat
  length : Nat
  deriving DecidableEq, Repr

namespace LineTable

/-! ## Building -/

/-- The table of the empty text. -/
def empty : LineTable := ⟨#[0], 0⟩

/-- The table of a text with `c` behind it. -/
def push (t : LineTable) (c : Char) : LineTable :=
  if c = '\n' then ⟨t.starts.push (t.length + 1), t.length + 1⟩ else ⟨t.starts, t.length + 1⟩

def ofText (text : Text) : LineTable := text.foldl push empty

@[simp] theorem ofText_nil : ofText [] = empty := rfl

theorem ofText_append (s t : Text) : ofText (s ++ t) = t.foldl push (ofText s) := by
  simp [ofText]

theorem ofText_concat (text : Text) (c : Char) : ofText (text ++ [c]) = (ofText text).push c := by
  simp [ofText]

/-! ## Lines -/

/-- The number of lines; a line feed at the end opens an empty last one. -/
def count (t : LineTable) : Nat := t.starts.size

/-- The offset of the first code point of line `n`. -/
def start (t : LineTable) (n : Nat) : Nat := t.starts.getD (n - 1) 0

/-- The offset behind the last code point of line `n`, before its line feed. -/
def stop (t : LineTable) (n : Nat) : Nat := if n = t.count then t.length else t.start (n + 1) - 1

/-- Whether there is a line `n`. -/
def Has (t : LineTable) (n : Int) : Prop := 1 ≤ n ∧ n ≤ t.count

instance (t : LineTable) (n : Int) : Decidable (t.Has n) := inferInstanceAs (Decidable (_ ∧ _))

def start? (t : LineTable) (n : Int) : Except Fault Nat :=
  if t.Has n then .ok (t.start n.toNat) else .error (.lineOutside n t.count)

def stop? (t : LineTable) (n : Int) : Except Fault Nat :=
  if t.Has n then .ok (t.stop n.toNat) else .error (.lineOutside n t.count)

/-! ## Bisection -/

/-- The last index from `lo` to `hi` whose start is not behind `position`, given that `lo` has one
that is not. -/
def search (t : LineTable) (position lo hi : Nat) : Nat :=
  if lo < hi then
    let mid := (lo + hi + 1) / 2
    if t.starts.getD mid 0 ≤ position then t.search position mid hi
    else t.search position lo (mid - 1)
  else lo
termination_by hi - lo

/-- The location of an offset. -/
def locate (t : LineTable) (position : Nat) : Loc :=
  let i := t.search position 0 (t.count - 1)
  ⟨i + 1, position - t.starts.getD i 0 + 1⟩

def locate? (t : LineTable) (position : Int) : Except Fault Loc :=
  if 0 ≤ position ∧ position ≤ t.length then .ok (t.locate position.toNat)
  else .error (.positionOutside position t.length)

theorem one_le_locate (t : LineTable) (position : Nat) :
    1 ≤ (t.locate position).line ∧ 1 ≤ (t.locate position).column := by
  simp [locate]

/-! ## What the table of a text knows -/

theorem length_push (t : LineTable) (c : Char) : (t.push c).length = t.length + 1 := by
  unfold push; split <;> rfl

theorem count_push (t : LineTable) (c : Char) :
    (t.push c).count = t.count + if c = '\n' then 1 else 0 := by
  unfold push count; split <;> simp

theorem length_foldl_push (text : Text) (t : LineTable) :
    (text.foldl push t).length = t.length + text.length := by
  induction text generalizing t with
  | nil => rfl
  | cons c text ih => rw [List.foldl_cons, ih, length_push, List.length_cons]; omega

theorem count_foldl_push (text : Text) (t : LineTable) :
    (text.foldl push t).count = t.count + text.count '\n' := by
  induction text generalizing t with
  | nil => rfl
  | cons c text ih =>
    rw [List.foldl_cons, ih, count_push, List.count_cons]
    simp only [beq_iff_eq]
    omega

theorem length_ofText (text : Text) : (ofText text).length = text.length := by
  rw [ofText, length_foldl_push]; simp [empty]

theorem count_ofText (text : Text) : (ofText text).count = 1 + text.count '\n' := by
  rw [ofText, count_foldl_push]; rfl

theorem starts_push_getD {t : LineTable} {c : Char} {i : Nat} (h : i < t.count) :
    (t.push c).starts.getD i 0 = t.starts.getD i 0 := by
  simp only [Array.getD_eq_getD_getElem?]
  unfold count at h
  unfold push
  split
  · rw [Array.getElem?_push_lt h, Array.getElem?_eq_getElem h]
  · rfl

theorem start_one (text : Text) : (ofText text).start 1 = 0 := by
  suffices h : ∀ t : LineTable, 0 < t.count → (text.foldl push t).start 1 = t.start 1 from
    h empty (by decide)
  induction text with
  | nil => intro t _; rfl
  | cons c text ih =>
    intro t ht
    rw [List.foldl_cons, ih _ (by rw [count_push]; omega)]
    exact starts_push_getD ht

end LineTable

end MarkedText
