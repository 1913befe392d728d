import MarkedText.Document.Basic
import MarkedText.Proofs.Text.Rows

/-!
# Lines of a text and of a document

The line table of a text is built one code point at a time. Here its lines are compared with the
rows that the text is cut into: row `n`, counted from zero, is line `n + 1`.

* `start_eq`, `stop_eq`: a line starts behind the rows in front of it, and stops behind its row.
* `has_row`, `exists_row_of_has`: which numbers are those of a line.
* `slice_row`, `lineText_row`: what a document has between these offsets, and as its line.
* `lineText_append_newline`: a line in front of a line feed, whatever stands behind it.
* `rowEnd_lineText`: the terminator of a line, by what stands behind its row.
* `isLine_lineText`: a line of a document is a line by the rules of `IsLine`.
-/

namespace MarkedText

open Text

namespace LineTable

/-- Later code points do not move a line that has started. -/
theorem starts_foldl_push_getD (text : Text) {t : LineTable} {i : Nat} (h : i < t.count) :
    (text.foldl push t).starts.getD i 0 = t.starts.getD i 0 := by
  induction text generalizing t with
  | nil => rfl
  | cons c text ih =>
    have hcount : i < (t.push c).count := by
      rw [count_push]
      omega
    rw [List.foldl_cons, ih hcount, starts_push_getD h]

/-- Behind nothing, and behind a line feed, a line starts. -/
theorem starts_ofText_getD {s : Text} (hs : s = [] ∨ s.getLast? = some '\n') (t : Text) :
    (ofText (s ++ t)).starts.getD (s.count '\n') 0 = s.length := by
  have hcount : s.count '\n' < (ofText s).count := by
    rw [count_ofText]
    omega
  rw [ofText_append, starts_foldl_push_getD t hcount]
  rcases hs with rfl | hs
  · rfl
  · obtain ⟨u, rfl⟩ := List.getLast?_eq_some_iff.1 hs
    have hsize : (u ++ ['\n']).count '\n' = (ofText u).starts.size := by
      have := count_ofText u
      rw [count] at this
      rw [this, List.count_append]
      exact Nat.add_comm ..
    rw [ofText_concat, push, if_pos rfl, hsize, length_ofText, List.length_append]
    simp

variable {text row : Text} {n : Nat}

theorem count_eq (text : Text) : (ofText text).count = (splitLines text).length := by
  rw [count_ofText, length_splitLines]

theorem text_eq (h : (splitLines text)[n]? = some row) :
    text = above (splitLines text) n ++
      (row ++ ((splitLines text).drop (n + 1)).flatMap ('\n' :: ·)) := by
  rw [← joinLines_eq h, joinLines_splitLines]

theorem drop_above (h : (splitLines text)[n]? = some row) :
    text.drop (above (splitLines text) n).length =
      row ++ ((splitLines text).drop (n + 1)).flatMap ('\n' :: ·) :=
  (congrArg (List.drop _) (text_eq h)).trans List.drop_left

theorem count_above_splitLines (text : Text) {n : Nat} (h : n ≤ (splitLines text).length) :
    (above (splitLines text) n).count '\n' = n :=
  count_above (fun _ => newline_notMem_of_mem_splitLines) h

theorem starts_getD (h : (splitLines text)[n]? = some row) :
    (ofText text).starts.getD n 0 = (above (splitLines text) n).length := by
  have hn : n < (splitLines text).length := (List.getElem?_eq_some_iff.1 h).1
  have hstart := starts_ofText_getD (above_eq_nil_or (splitLines text) n)
    (row ++ ((splitLines text).drop (n + 1)).flatMap ('\n' :: ·))
  rw [← text_eq h, count_above_splitLines text (Nat.le_of_lt hn)] at hstart
  exact hstart

theorem start_eq (h : (splitLines text)[n]? = some row) :
    (ofText text).start (n + 1) = (above (splitLines text) n).length :=
  starts_getD h

theorem stop_eq (h : (splitLines text)[n]? = some row) :
    (ofText text).stop (n + 1) = (above (splitLines text) n).length + row.length := by
  have hn : n < (splitLines text).length := (List.getElem?_eq_some_iff.1 h).1
  unfold stop
  rw [count_eq]
  by_cases hlast : n + 1 = (splitLines text).length
  · have hlen := congrArg List.length (text_eq h)
    rw [List.drop_eq_nil_of_le (Nat.le_of_eq hlast.symm)] at hlen
    rw [if_pos hlast, length_ofText, hlen]
    simp
  · have hnext : (splitLines text)[n + 1]? = some (splitLines text)[n + 1] :=
      List.getElem?_eq_getElem (by omega)
    rw [if_neg hlast, start_eq hnext, above_succ h]
    simp only [List.length_append, List.length_cons, List.length_nil]
    omega

/-- The rows of a text are its lines, counted from one. -/
theorem has_row (h : (splitLines text)[n]? = some row) : (ofText text).Has (n + 1 : Nat) := by
  have hn : n < (splitLines text).length := (List.getElem?_eq_some_iff.1 h).1
  rw [Has, count_eq]
  omega

theorem exists_row_of_has (h : (ofText text).Has n) :
    ∃ k row, n = k + 1 ∧ (splitLines text)[k]? = some row := by
  rw [Has, count_eq] at h
  have hk : n - 1 < (splitLines text).length := by omega
  exact ⟨n - 1, _, by omega, List.getElem?_eq_getElem hk⟩

theorem start?_eq_ok {t : LineTable} (h : t.Has n) :
    t.start? n = .ok (t.start n) ∧ t.stop? n = .ok (t.stop n) := by
  simp [start?, stop?, h]

end LineTable

/-- Line `n` of a text, counted from one, without its terminator: it starts the text or stands behind
a line feed, and it is ended by a carriage return and a line feed, by a line feed alone, or by the
end of the text. -/
inductive IsLine (t : Text) (n : Nat) (line : Text) : Prop where
  | returnFeed {front rest : Text} (ht : t = front ++ (line ++ '\r' :: '\n' :: rest))
      (hf : front = [] ∨ front.getLast? = some '\n') (hn : n = front.count '\n' + 1)
      (hl : '\n' ∉ line)
  | feed {front rest : Text} (ht : t = front ++ (line ++ '\n' :: rest))
      (hf : front = [] ∨ front.getLast? = some '\n') (hn : n = front.count '\n' + 1)
      (hl : '\n' ∉ line) (hr : line.getLast? ≠ some '\r')
  | last {front : Text} (ht : t = front ++ line)
      (hf : front = [] ∨ front.getLast? = some '\n') (hn : n = front.count '\n' + 1)
      (hl : '\n' ∉ line)

/-- How a row of a text is ended, by what stands behind it, and what is shown of it as a line. A
carriage return at the end of the row belongs to the terminator only in front of a line feed. -/
inductive RowEnd : (shown row behind : Text) → Prop
  | returnFeed (shown rest : Text) : RowEnd shown (shown ++ ['\r']) ('\n' :: rest)
  | feed {row : Text} (rest : Text) (hr : row.getLast? ≠ some '\r') : RowEnd row row ('\n' :: rest)
  | last (row : Text) : RowEnd row row []

namespace Document

variable {d : Document} {n : Nat} {row : Text}

theorem table_eq_ofText (d : Document) : d.table = LineTable.ofText d.text := d.table_eq

theorem lineCount_eq (d : Document) : d.lineCount = (splitLines d.text).length := by
  rw [lineCount, table_eq_ofText, LineTable.count_eq]

theorem has_row (h : (splitLines d.text)[n]? = some row) : d.table.Has (n + 1 : Nat) :=
  d.table_eq_ofText ▸ LineTable.has_row h

theorem slice_row (h : (splitLines d.text)[n]? = some row) :
    d.slice (d.table.start (n + 1)) (d.table.stop (n + 1)) = row := by
  rw [slice_eq, table_eq_ofText, LineTable.start_eq h, LineTable.stop_eq h, Nat.add_sub_cancel_left,
    LineTable.drop_above h, List.take_left]

theorem lineText_row (h : (splitLines d.text)[n]? = some row) :
    d.lineText (n + 1) = if n + 1 < d.lineCount then dropReturn row else row := by
  unfold lineText
  rw [slice_row h]

theorem line?_eq_some (h : d.table.Has n) : d.line? n = some (d.lineText n) := by
  rw [line?, if_pos h, Int.toNat_natCast]

/-- A line with a line behind it has a terminator. -/
theorem lineText_append_newline {t : Text} (h : (splitLines t)[n]? = some row) (serial : Nat)
    (u : Text) : (ofText serial (t ++ '\n' :: u)).lineText (n + 1) = dropReturn row := by
  have htext := text_ofText serial (t ++ '\n' :: u)
  have hn : n < (splitLines t).length := (List.getElem?_eq_some_iff.1 h).1
  have hu : 0 < (splitLines u).length := List.length_pos_iff.2 (splitLines_ne_nil u)
  have hcount : n + 1 < (ofText serial (t ++ '\n' :: u)).lineCount := by
    rw [lineCount_eq, htext, splitLines_append_newline, List.length_append]
    omega
  rw [lineText_row (by rw [htext]; exact getElem?_splitLines_append h u), if_pos hcount]

theorem dropReturn_append (row : Text) : dropReturn (row ++ ['\r']) = row := by
  simp [dropReturn]

theorem dropReturn_of_getLast? (h : row.getLast? ≠ some '\r') : dropReturn row = row := by
  simp [dropReturn, h]

theorem rowEnd_lineText (h : (splitLines d.text)[n]? = some row) :
    RowEnd (d.lineText (n + 1)) row (((splitLines d.text).drop (n + 1)).flatMap ('\n' :: ·)) := by
  rw [lineText_row h, lineCount_eq]
  by_cases hlast : n + 1 < (splitLines d.text).length
  · rw [if_pos hlast, List.drop_eq_getElem_cons hlast, List.flatMap_cons, List.cons_append]
    by_cases hr : row.getLast? = some '\r'
    · obtain ⟨shown, rfl⟩ := List.getLast?_eq_some_iff.1 hr
      rw [dropReturn_append]
      exact .returnFeed shown _
    · rw [dropReturn_of_getLast? hr]
      exact .feed _ hr
  · rw [if_neg hlast, List.drop_eq_nil_of_le (Nat.le_of_not_lt hlast)]
    exact .last row

theorem isLine_lineText (h : (splitLines d.text)[n]? = some row) :
    IsLine d.text (n + 1) (d.lineText (n + 1)) := by
  have hn : n < (splitLines d.text).length := (List.getElem?_eq_some_iff.1 h).1
  have hf := above_eq_nil_or (splitLines d.text) n
  have hcount := LineTable.count_above_splitLines d.text (Nat.le_of_lt hn)
  have hrow : '\n' ∉ row := newline_notMem_of_mem_splitLines (List.mem_of_getElem? h)
  have ht := LineTable.text_eq h
  have hend := rowEnd_lineText h
  -- The cases want variables for the line and for what stands behind its row.
  generalize d.lineText (n + 1) = shown at hend ⊢
  generalize ((splitLines d.text).drop (n + 1)).flatMap ('\n' :: ·) = behind at hend ht
  cases hend with
  | returnFeed rest =>
    rw [List.append_assoc] at ht
    exact .returnFeed ht hf (by rw [hcount]) fun hm => hrow (List.mem_append_left _ hm)
  | feed rest hr => exact .feed ht hf (by rw [hcount]) hrow hr
  | last =>
    rw [List.append_nil] at ht
    exact .last ht hf (by rw [hcount]) hrow

end Document

end MarkedText
