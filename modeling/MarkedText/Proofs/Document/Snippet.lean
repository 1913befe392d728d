import MarkedText.Document.Snippet
import MarkedText.Proofs.Document.Location
import MarkedText.Proofs.Text.Decimal

/-!
# Rows of a snippet

No row of a snippet holds a line feed, so the rows come back when a snippet is cut at its line
feeds. Without context a snippet has two rows, that of the line and that of the caret.

* `splitLines_snippet`: a snippet is cut into the rows it was put together from.
* `snippetRows_eq`: which rows stand in front of the caret row, and which behind it.
* `snippetRows_zero`: the rows without context.
* `snippet_append_newline`: later lines do not show in a snippet without context.
* `caretRow_eq_padding`: what stands between the bar and the caret.
* `splitLines_snippet_zero`: what these rows hold, and how far from the left the caret stands.
-/

namespace MarkedText

open Text

theorem Text.padLeft_eq_self {t : Text} {width : Nat} (h : width ≤ t.length) :
    padLeft width t = t := by
  rw [padLeft, Nat.sub_eq_zero_of_le h]
  rfl

theorem IsLine.newline_notMem {t line : Text} {n : Nat} (h : IsLine t n line) : '\n' ∉ line := by
  cases h with
  | returnFeed _ _ _ hl => exact hl
  | feed _ _ _ hl _ => exact hl
  | last _ _ _ hl => exact hl

namespace Document

variable {d : Document} {loc : Loc} {caret line : Text} {width n column context : Nat}

theorem isLine_of_has (h : d.table.Has n) : IsLine d.text n (d.lineText n) := by
  rw [table_eq_ofText] at h
  obtain ⟨k, row, rfl, hrow⟩ := LineTable.exists_row_of_has h
  exact isLine_lineText hrow

/-! ## No line feeds -/

theorem newline_notMem_sourceRow (hl : '\n' ∉ line) : '\n' ∉ sourceRow width n line := by
  have hn := Text.newline_notMem_ofNat n
  have hpad : '\n' ∉ Text.padLeft width (Text.ofNat n) := by
    simp [Text.padLeft, hn]
  unfold sourceRow
  split <;> simp [hpad, hl, gutterSign]

theorem newline_notMem_caretRow (hc : '\n' ∉ caret) : '\n' ∉ caretRow width column line caret := by
  have hpad : ∀ t : Text, '\n' ∉ caretPadding t := by
    intro t hm
    obtain ⟨c, -, hc⟩ := List.mem_map.1 hm
    split at hc <;> cases hc
  simp [caretRow, gutterSign, hpad, hc]

theorem newline_notMem_of_mem_snippetRows (hc : '\n' ∉ caret) {row : Text}
    (h : row ∈ d.snippetRows loc context caret) : '\n' ∉ row := by
  obtain ⟨n, hn, hrow⟩ := List.mem_flatMap.1 h
  obtain ⟨hlo, hhi⟩ := List.mem_range'_1.1 hn
  have hhas : d.table.Has n := by
    unfold shownTo lineCount at hhi
    unfold shownFrom at hlo hhi
    unfold LineTable.Has
    omega
  have hline : '\n' ∉ d.lineText n := (isLine_of_has hhas).newline_notMem
  rcases List.mem_cons.1 hrow with rfl | hrow
  · exact newline_notMem_sourceRow hline
  · split at hrow
    · rw [List.mem_singleton.1 hrow]
      exact newline_notMem_caretRow hc
    · cases hrow

/-! ## The row of the caret among the others -/

/-- The rows of the lines up to that of the location, its caret row, and the rows of those behind. -/
theorem snippetRows_eq (h : d.table.Has loc.line) (context : Nat) (caret : Text) :
    let first := shownFrom loc.line context
    let last := d.shownTo loc.line context
    let width := (Text.ofNat last).length
    let row := fun n => sourceRow width n (d.lineText n)
    d.snippetRows loc context caret =
      (List.range' first (loc.line - first)).map row ++
        row loc.line :: caretRow width loc.column (d.lineText loc.line) caret ::
          (List.range' (loc.line + 1) (last - loc.line)).map row := by
  intro first last width row
  obtain ⟨hlo, hhi⟩ := h
  have hfirst : first ≤ loc.line := by
    simp only [first, shownFrom]
    omega
  have hlast : loc.line ≤ last := by
    simp only [last, shownTo, lineCount]
    omega
  have hrange : List.range' first (last + 1 - first) =
      List.range' first (loc.line - first) ++
        loc.line :: List.range' (loc.line + 1) (last - loc.line) := by
    rw [show last + 1 - first = loc.line - first + (last - loc.line + 1) by omega,
      ← List.range'_append_1, show first + (loc.line - first) = loc.line by omega, List.range'_succ]
  have hothers : ∀ ns : List Nat, loc.line ∉ ns →
      (ns.flatMap fun n => row n :: if n = loc.line then
        [caretRow width loc.column (d.lineText n) caret] else []) = ns.map row := by
    intro ns hns
    rw [List.map_eq_flatMap]
    refine List.flatMap_congr fun n hn => ?_
    have hne : n ≠ loc.line := fun he => hns (he ▸ hn)
    rw [if_neg hne]
  have hrows : d.snippetRows loc context caret =
      (List.range' first (last + 1 - first)).flatMap fun n => row n ::
        if n = loc.line then [caretRow width loc.column (d.lineText n) caret] else [] := rfl
  have hbefore : loc.line ∉ List.range' first (loc.line - first) := by
    rw [List.mem_range'_1]
    omega
  have hbehind : loc.line ∉ List.range' (loc.line + 1) (last - loc.line) := by
    rw [List.mem_range'_1]
    omega
  rw [hrows, hrange, List.flatMap_append, List.flatMap_cons, hothers _ hbefore, hothers _ hbehind,
    if_pos rfl]
  rfl

theorem snippetRows_ne_nil (h : d.table.Has loc.line) : d.snippetRows loc context caret ≠ [] := by
  rw [snippetRows_eq h context caret]
  exact List.append_ne_nil_of_right_ne_nil _ (List.cons_ne_nil _ _)

theorem splitLines_snippet {position : Nat} (h : position ≤ d.text.length) (hc : '\n' ∉ caret) :
    Text.splitLines (d.snippet position context caret) =
      d.snippetRows (d.table.locate position) context caret := by
  rw [snippet_eq]
  exact Text.splitLines_joinLines (snippetRows_ne_nil (has_locate h)) fun _ =>
    newline_notMem_of_mem_snippetRows hc

/-! ## No context -/

theorem snippetRows_zero (h : d.table.Has loc.line) :
    d.snippetRows loc 0 caret =
      [sourceRow (Text.ofNat loc.line).length loc.line (d.lineText loc.line),
        caretRow (Text.ofNat loc.line).length loc.column (d.lineText loc.line) caret] := by
  have hrows := snippetRows_eq h 0 caret
  obtain ⟨hlo, hhi⟩ := h
  have hfirst : shownFrom loc.line 0 = loc.line := by
    unfold shownFrom
    omega
  have hlast : d.shownTo loc.line 0 = loc.line := by
    unfold shownTo lineCount
    omega
  simp only [hfirst, hlast, Nat.sub_self] at hrows
  exact hrows

/-- The snippet of a line in front of a line feed is the same whatever stands behind it. -/
theorem snippet_append_newline {t : Text} {position : Nat} (h : position ≤ t.length)
    (serial serial' : Nat) (u u' caret : Text) :
    (ofText serial (t ++ '\n' :: u)).snippet position 0 caret =
      (ofText serial' (t ++ '\n' :: u')).snippet position 0 caret := by
  obtain ⟨n, row, hrow, hlo, hhi⟩ := exists_row h
  have hrows : ∀ serial u, (ofText serial (t ++ '\n' :: u)).snippetRows
      ⟨n + 1, position - (above (splitLines t) n).length + 1⟩ 0 caret =
        [sourceRow (Text.ofNat (n + 1)).length (n + 1) (dropReturn row),
          caretRow (Text.ofNat (n + 1)).length
            (position - (above (splitLines t) n).length + 1) (dropReturn row) caret] := by
    intro serial u
    have hlocate := LineTable.locate_append_newline hrow hlo hhi u
    have hle : position ≤ (ofText serial (t ++ '\n' :: u)).text.length := by
      rw [text_ofText, List.length_append]
      omega
    have hhas := has_locate hle
    rw [table_eq_ofText, text_ofText, hlocate] at hhas
    rw [snippetRows_zero (by rw [table_eq_ofText, text_ofText]; exact hhas),
      lineText_append_newline hrow]
  rw [snippet_eq, snippet_eq, table_eq_ofText, table_eq_ofText, text_ofText, text_ofText,
    LineTable.locate_append_newline hrow hlo hhi, LineTable.locate_append_newline hrow hlo hhi,
    hrows, hrows]

theorem sourceRow_eq (hw : width = (Text.ofNat n).length) (hl : line ≠ []) :
    sourceRow width n line = Text.ofNat n ++ " | ".toList ++ line := by
  have hne : line.isEmpty = false := by simpa using hl
  rw [sourceRow, Text.padLeft_eq_self (Nat.le_of_eq hw)]
  simp [hne, gutterSign]

/-- Between the bar and the caret stand blanks, and tabs under the tabs of the line. -/
theorem caretRow_eq_padding (width column : Nat) (shown caret : Text) :
    ∃ padding : Text,
      caretRow width column shown caret =
        List.replicate width ' ' ++ " | ".toList ++ padding ++ caret ∧
      padding.length = column - 1 ∧
      ∀ j < column - 1, padding[j]? = some (if shown[j]? = some '\t' then '\t' else ' ') := by
  refine ⟨caretPadding (shown.take (column - 1)) ++ List.replicate (column - 1 - shown.length) ' ',
    ?_, ?_, fun j hj => ?_⟩
  · simp [caretRow, gutterSign]
  · rw [List.length_append, length_caretPadding, List.length_take, List.length_replicate]
    omega
  · by_cases hl : j < shown.length
    · have hlen : j < (caretPadding (shown.take (column - 1))).length := by
        rw [length_caretPadding, List.length_take]
        omega
      rw [List.getElem?_append_left hlen, caretPadding, List.getElem?_map,
        List.getElem?_take_of_lt hj, List.getElem?_eq_getElem hl]
      simp
    · have hlen : (caretPadding (shown.take (column - 1))).length = shown.length := by
        rw [length_caretPadding, List.length_take]
        omega
      rw [List.getElem?_append_right (by omega), hlen, List.getElem?_replicate_of_lt (by omega),
        List.getElem?_eq_none (by omega)]
      simp

/-- The caret stands as far behind the bar as its column says. -/
theorem caretRow_eq (width column : Nat) (line caret : Text) :
    ∃ stem : Text, caretRow width column line caret = stem ++ caret ∧
      stem.length = width + 3 + (column - 1) := by
  obtain ⟨padding, hrow, hlen, -⟩ := caretRow_eq_padding width column line caret
  refine ⟨_, hrow, ?_⟩
  simp only [List.length_append, List.length_replicate, hlen]
  rfl

/-- Under a code point that is no line end, a snippet without context has two rows. -/
theorem splitLines_snippet_zero {position : Nat} {c : Char} (hg : d.text[position]? = some c)
    (hn : c ≠ '\n') (hr : c ≠ '\r') (hc : '\n' ∉ caret) :
    ∃ stem : Text, Text.splitLines (d.snippet position 0 caret) =
        [Text.ofNat (d.table.locate position).line ++ " | ".toList ++
          d.lineText (d.table.locate position).line, stem ++ caret] ∧
      stem.length = (Text.ofNat (d.table.locate position).line).length + 3 +
        ((d.table.locate position).column - 1) := by
  have hle : position ≤ d.text.length := Nat.le_of_lt (List.getElem?_eq_some_iff.1 hg).1
  have hline : d.lineText (d.table.locate position).line ≠ [] := by
    intro h
    have hget := getElem?_lineText hg hn hr
    rw [h] at hget
    cases hget
  obtain ⟨stem, hcaret, hstem⟩ := caretRow_eq (Text.ofNat (d.table.locate position).line).length
    (d.table.locate position).column (d.lineText (d.table.locate position).line) caret
  refine ⟨stem, ?_, hstem⟩
  rw [splitLines_snippet hle hc, snippetRows_zero (has_locate hle), sourceRow_eq rfl hline, hcaret]

end Document

end MarkedText
