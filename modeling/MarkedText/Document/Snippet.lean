import MarkedText.Document.Basic

/-!
# Snippets

A snippet shows a position in a document: the line that holds it and some lines around, each behind
its number and a bar, and below that line a row with a caret under the position.

```
1 | hello
2 | world
  |   ^
```

An empty line has nothing behind its bar. Tabs in front of the position are kept in the caret row,
so that the caret stands under the position however wide a tab is.

* `snippet_eq`: a snippet is its rows joined by line feeds.
* `length_caretPadding`: the padding has as many code points as what it stands under.
-/

namespace MarkedText

/-- The sign that points at a position. -/
def caretSign : Text := "^".toList

/-- The bar between numbers and text. -/
def gutterSign : Text := "|".toList

/-- One line before and one behind, unless said otherwise. -/
def standardContext : Nat := 1

/-- Blanks under a text, tabs under its tabs. -/
def caretPadding (t : Text) : Text := t.map fun c => if c = '\t' then '\t' else ' '

@[simp] theorem length_caretPadding (t : Text) : (caretPadding t).length = t.length := by
  simp [caretPadding]

namespace Document

/-- A line behind its number. -/
def sourceRow (width n : Nat) (line : Text) : Text :=
  let gutter := Text.padLeft width (Text.ofNat n) ++ ' ' :: gutterSign
  if line.isEmpty then gutter else gutter ++ ' ' :: line

/-- The row that points at a column of `line`. The columns of a terminator lie behind the line. -/
def caretRow (width column : Nat) (line caret : Text) : Text :=
  let padding := caretPadding (line.take (column - 1)) ++
    List.replicate (column - 1 - line.length) ' '
  List.replicate width ' ' ++ ' ' :: gutterSign ++ ' ' :: (padding ++ caret)

/-- The first and last line shown around line `n`. -/
def shownFrom (n context : Nat) : Nat := max 1 (n - context)

def shownTo (d : Document) (n context : Nat) : Nat := min d.lineCount (n + context)

/-- The rows of the snippet for a location. -/
def snippetRows (d : Document) (loc : Loc) (context : Nat) (caret : Text) : List Text :=
  let first := shownFrom loc.line context
  let last := d.shownTo loc.line context
  let width := (Text.ofNat last).length
  (List.range' first (last + 1 - first)).flatMap fun n =>
    let line := d.lineText n
    sourceRow width n line ::
      if n = loc.line then [caretRow width loc.column line caret] else []

/-- The snippet for an offset. -/
def snippet (d : Document) (position context : Nat) (caret : Text) : Text :=
  Text.joinLines (d.snippetRows (d.table.locate position) context caret)

/-- The snippet for any two integers; the context is judged before the position. -/
def snippet? (d : Document) (position context : Int) (caret : Text) : Except Fault Text :=
  if context < 0 then .error (.negativeContext context)
  else (d.table.locate? position).map fun _ => d.snippet position.toNat context.toNat caret

theorem snippet_eq (d : Document) (position context : Nat) (caret : Text) :
    d.snippet position context caret =
      Text.joinLines (d.snippetRows (d.table.locate position) context caret) := rfl

theorem snippet?_eq_ok {d : Document} {position context : Nat} (h : position ≤ d.size)
    (caret : Text) :
    d.snippet? position context caret = .ok (d.snippet position context caret) := by
  have hp : (0 : Int) ≤ position ∧ (position : Int) ≤ d.table.length := by
    rw [d.table_length]; omega
  have hc : ¬ (context : Int) < 0 := by omega
  simp [snippet?, hc, LineTable.locate?, hp, Except.map]

end Document

end MarkedText
