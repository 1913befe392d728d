import MarkedText.Document.LineTable

/-!
# Documents

A document is a text together with its line table. Documents are told apart by their serial number
and not by their text: two captures of one fixture give two documents.

* `slice_eq`, `slice_append`: a slice is a stretch of the text, and two in a row are one.
* `size_eq`: the size of a document is the length of its text.
* `line?_eq_none_iff`: exactly the numbers outside the table have no line.
-/

namespace MarkedText

/-- The code points are kept in an array, so that looking one up takes constant time. -/
structure Document where
  serial : Nat
  chars : Array Char
  table : LineTable
  table_eq : table = LineTable.ofText chars.toList
  deriving DecidableEq

namespace Document

def ofText (serial : Nat) (text : Text) : Document := ⟨serial, text.toArray, .ofText text, by simp⟩

def text (d : Document) : Text := d.chars.toList

/-- The number of code points. -/
def size (d : Document) : Nat := d.chars.size

def lineCount (d : Document) : Nat := d.table.count

/-- Whether two documents are the same one. -/
def Same (d e : Document) : Prop := d.serial = e.serial

instance (d e : Document) : Decidable (Same d e) := inferInstanceAs (Decidable (_ = _))

/-- The text from offset `a` up to offset `b`. -/
def slice (d : Document) (a b : Nat) : Text := (d.chars.extract a b).toList

@[simp] theorem text_ofText (serial : Nat) (text : Text) : (ofText serial text).text = text := by
  simp [ofText, Document.text]

theorem size_eq (d : Document) : d.size = d.text.length := by simp [size, text]

theorem table_length (d : Document) : d.table.length = d.size := by
  rw [d.table_eq, LineTable.length_ofText, size_eq, text]

theorem slice_eq (d : Document) (a b : Nat) : d.slice a b = (d.text.drop a).take (b - a) := by
  simp [slice, text, Array.toList_extract, List.extract_eq_take_drop]

/-- Slices that follow each other make up one slice. -/
theorem slice_append (d : Document) {a b c : Nat} (hab : a ≤ b) (hbc : b ≤ c) :
    d.slice a b ++ d.slice b c = d.slice a c := by
  have hdrop : d.text.drop b = (d.text.drop a).drop (b - a) := by
    rw [List.drop_drop, Nat.add_sub_cancel' hab]
  rw [slice_eq, slice_eq, slice_eq, hdrop, ← List.take_add, show b - a + (c - b) = c - a by omega]

/-! ## Lines -/

/-- A row without the carriage return at its end, if there is one. -/
def dropReturn (row : Text) : Text := if row.getLast? = some '\r' then row.dropLast else row

/-- Line `n` without its terminator: the last line has none, and so keeps a carriage return. -/
def lineText (d : Document) (n : Nat) : Text :=
  let row := d.slice (d.table.start n) (d.table.stop n)
  if n < d.lineCount then dropReturn row else row

/-- Line `n`, if there is one. -/
def line? (d : Document) (n : Int) : Option Text :=
  if d.table.Has n then some (d.lineText n.toNat) else none

theorem line?_eq_none_iff (d : Document) (n : Int) : d.line? n = none ↔ ¬ d.table.Has n := by
  unfold line?; split <;> simp_all

/-- The quoted text of a document between brackets. -/
def repr (d : Document) : Text := "Document(".toList ++ Text.quote d.text ++ ")".toList

end Document

end MarkedText
