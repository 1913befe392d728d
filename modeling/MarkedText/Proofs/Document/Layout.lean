import MarkedText.Proofs.Document.Snippet

/-!
# The layout of snippets

A snippet has one row for each line that it shows, with the numbers flush right in front of a bar that
stands in one column throughout, and one more row with the caret. From the rows alone one can tell
which row is that of the caret, the number of the line above it, and the column it points at. So a
snippet shows one position only, whatever the text looks like.

* `LaidOut`: the layout, row by row.
* `laidOut_snippetRows`: the rows of a snippet are laid out that way.
* `LaidOut.gutter`, `LaidOut.idxOf?_bar`: what stands in front of the bar, and where the bar stands.
* `LaidOut.caret_under`: the caret stands under its code point.
* `LaidOut.loc_eq`: rows are laid out for one location at most.
* `snippet_layout`, `snippet_ne`: the layout of every snippet, and snippets of two positions.
-/

namespace MarkedText

open Text

/-- The place of line `n` among rows that start with line `first` and have the caret row behind line
`pointed`. -/
def rowOfLine (first pointed n : Nat) : Nat := if n ≤ pointed then n - first else n - first + 1

/-- Every row but that of the caret is the row of a line. -/
theorem exists_rowOfLine {first pointed last i : Nat} (hlo : first ≤ pointed) (hhi : pointed ≤ last)
    (hi : i < last - first + 2) (hne : i ≠ pointed - first + 1) :
    ∃ n, first ≤ n ∧ n ≤ last ∧ rowOfLine first pointed n = i := by
  unfold rowOfLine
  by_cases h : i ≤ pointed - first
  · refine ⟨first + i, by omega, by omega, ?_⟩
    rw [if_pos (by omega)]
    omega
  · refine ⟨first + i - 1, by omega, by omega, ?_⟩
    rw [if_neg (by omega)]
    omega

theorem rowOfLine_eq_zero {first pointed n : Nat} (hn : first ≤ n)
    (h : rowOfLine first pointed n = 0) : n = first := by
  unfold rowOfLine at h
  split at h <;> omega

/-- Rows for lines `first` to `last` of a document, with numbers in `width` places, and right below
the row of the line that the location `l` names, the row of the caret. -/
structure LaidOut (d : Document) (l : Loc) (caret : Text) (first last width : Nat)
    (rows : List Text) : Prop where
  first_le : first ≤ l.line
  le_last : l.line ≤ last
  one_le_column : 1 ≤ l.column
  length_rows : rows.length = last - first + 2
  source : ∀ n, first ≤ n → n ≤ last → ∃ shown, d.line? n = some shown ∧
    (ofNat n).length ≤ width ∧
    rows[rowOfLine first l.line n]? = some (List.replicate (width - (ofNat n).length) ' ' ++ ofNat n ++
      " |".toList ++ if shown = [] then [] else ' ' :: shown)
  pointer : ∃ shown padding, d.line? l.line = some shown ∧
    rows[l.line - first + 1]? =
      some (List.replicate width ' ' ++ " | ".toList ++ padding ++ caret) ∧
    padding.length = l.column - 1 ∧
    ∀ j < l.column - 1, padding[j]? = some (if shown[j]? = some '\t' then '\t' else ' ')

namespace Document

variable {d : Document} {loc : Loc} {caret : Text} {width n context : Nat}

theorem sourceRow_eq_append (width n : Nat) (line : Text) :
    sourceRow width n line = List.replicate (width - (ofNat n).length) ' ' ++ ofNat n ++
      " |".toList ++ if line = [] then [] else ' ' :: line := by
  cases line <;> simp [sourceRow, padLeft, gutterSign]

theorem shown_bounds (h : d.table.Has loc.line) (context : Nat) :
    1 ≤ shownFrom loc.line context ∧ shownFrom loc.line context ≤ loc.line ∧
      loc.line ≤ d.shownTo loc.line context ∧ d.shownTo loc.line context ≤ d.table.count := by
  obtain ⟨hlo, hhi⟩ := h
  unfold shownFrom shownTo lineCount
  omega

theorem length_snippetRows (h : d.table.Has loc.line) :
    (d.snippetRows loc context caret).length =
      d.shownTo loc.line context - shownFrom loc.line context + 2 := by
  have hbounds := shown_bounds h context
  rw [snippetRows_eq h context caret]
  simp only [List.length_append, List.length_map, List.length_range', List.length_cons]
  omega

/-- The row of a line: in front of the caret row, right above it, or behind it. -/
theorem getElem?_snippetRows (h : d.table.Has loc.line)
    (hlo : shownFrom loc.line context ≤ n) (hhi : n ≤ d.shownTo loc.line context) :
    (d.snippetRows loc context caret)[rowOfLine (shownFrom loc.line context) loc.line n]? =
      some (sourceRow (ofNat (d.shownTo loc.line context)).length n (d.lineText n)) := by
  have hbounds := shown_bounds h context
  rw [snippetRows_eq h context caret]
  generalize shownFrom loc.line context = first at hlo hbounds ⊢
  generalize d.shownTo loc.line context = last at hhi hbounds ⊢
  unfold rowOfLine
  obtain hlt | rfl | hgt := Nat.lt_trichotomy n loc.line
  · have hbefore : n - first < loc.line - first := by omega
    rw [if_pos (Nat.le_of_lt hlt), List.getElem?_append_left (by simpa using hbefore),
      List.getElem?_map, List.getElem?_range' hbefore]
    simp [show first + (n - first) = n by omega]
  · rw [if_pos (Nat.le_refl _), List.getElem?_append_right (by simp)]
    simp
  · have hbehind : n - loc.line - 1 < last - loc.line := by omega
    have hplace : n - first + 1 - (loc.line - first) = n - loc.line - 1 + 2 := by omega
    rw [if_neg (Nat.not_le.2 hgt), List.getElem?_append_right (by simp; omega), List.length_map,
      List.length_range', hplace, List.getElem?_cons_succ, List.getElem?_cons_succ,
      List.getElem?_map, List.getElem?_range' hbehind]
    simp [show loc.line + 1 + (n - loc.line - 1) = n by omega]

theorem getElem?_snippetRows_caret (h : d.table.Has loc.line) :
    (d.snippetRows loc context caret)[loc.line - shownFrom loc.line context + 1]? =
      some (caretRow (ofNat (d.shownTo loc.line context)).length loc.column (d.lineText loc.line)
        caret) := by
  rw [snippetRows_eq h context caret, List.getElem?_append_right (by simp), List.length_map,
    List.length_range', Nat.add_sub_cancel_left]
  rfl

theorem laidOut_snippetRows (h : d.table.Has loc.line) (hcolumn : 1 ≤ loc.column) :
    LaidOut d loc caret (shownFrom loc.line context) (d.shownTo loc.line context)
      (ofNat (d.shownTo loc.line context)).length (d.snippetRows loc context caret) := by
  obtain ⟨hpos, hfirst, hlast, hcount⟩ := shown_bounds h context
  refine ⟨hfirst, hlast, hcolumn, length_snippetRows h, fun n hlo hhi => ?_, ?_⟩
  · have hhas : d.table.Has n := ⟨by omega, by omega⟩
    refine ⟨d.lineText n, line?_eq_some hhas, length_ofNat_le hhi, ?_⟩
    rw [getElem?_snippetRows h hlo hhi, sourceRow_eq_append]
  · obtain ⟨padding, hrow, hlen, hpad⟩ := caretRow_eq_padding
      (ofNat (d.shownTo loc.line context)).length loc.column (d.lineText loc.line) caret
    exact ⟨_, padding, line?_eq_some h, by rw [getElem?_snippetRows_caret h, hrow], hlen, hpad⟩

end Document

/-! ## What the rows tell -/

theorem Text.idxOf?_append_cons {c : Char} {stem : Text} (h : c ∉ stem) (rest : Text) :
    (stem ++ c :: rest).idxOf? c = some stem.length := by
  rw [List.idxOf?_eq_some_iff]
  refine ⟨by simp, by simp, fun j hj he => ?_⟩
  rw [List.getElem_append_left hj] at he
  exact h (he ▸ List.getElem_mem hj)

theorem Text.idxOf?_bar {number : Text} (h : '|' ∉ number) (k : Nat) (rest : Text) :
    (List.replicate k ' ' ++ number ++ ' ' :: '|' :: rest).idxOf? '|' =
      some (k + number.length + 1) := by
  have hstem : '|' ∉ List.replicate k ' ' ++ number ++ [' '] := by simp [h]
  simpa [Nat.add_assoc] using idxOf?_append_cons hstem rest

namespace LaidOut

variable {d d' : Document} {l l' : Loc} {caret row : Text} {rows : List Text}
  {first last width first' last' width' i : Nat}

/-- A row is the caret row or that of a line. What is left of the bar is blank or ends in a number. -/
theorem gutter (h : LaidOut d l caret first last width rows) (hr : rows[i]? = some row) :
    (∃ rest, i = l.line - first + 1 ∧ row = List.replicate width ' ' ++ ' ' :: '|' :: rest) ∨
      ∃ k n rest, i ≠ l.line - first + 1 ∧ k + (ofNat n).length = width ∧
        row = List.replicate k ' ' ++ ofNat n ++ ' ' :: '|' :: rest ∧ (i = 0 → n = first) := by
  have hfirst := h.first_le
  have hlast := h.le_last
  have hlen : i < last - first + 2 := h.length_rows ▸ (List.getElem?_eq_some_iff.1 hr).1
  by_cases hi : i = l.line - first + 1
  · obtain ⟨_, padding, -, hrow, -⟩ := h.pointer
    rw [← hi, hr] at hrow
    obtain rfl := Option.some.inj hrow
    exact Or.inl ⟨' ' :: (padding ++ caret), hi, by simp⟩
  · obtain ⟨n, hn, hn', hplace⟩ := exists_rowOfLine hfirst hlast hlen hi
    obtain ⟨shown, -, hwidth, hrow⟩ := h.source n hn hn'
    rw [hplace, hr] at hrow
    obtain rfl := Option.some.inj hrow
    exact Or.inr ⟨_, n, if shown = [] then [] else ' ' :: shown, hi, Nat.sub_add_cancel hwidth,
      by simp, fun hzero => rowOfLine_eq_zero hn (hplace.trans hzero)⟩

theorem idxOf?_bar (h : LaidOut d l caret first last width rows) (hr : row ∈ rows) :
    row.idxOf? '|' = some (width + 1) := by
  obtain ⟨i, hi⟩ := List.mem_iff_getElem?.1 hr
  obtain ⟨rest, -, rfl⟩ | ⟨k, n, rest, -, rfl, rfl, -⟩ := h.gutter hi
  · have hnone : '|' ∉ ([] : Text) := List.not_mem_nil
    simpa using Text.idxOf?_bar hnone width rest
  · exact Text.idxOf?_bar (notMem_ofNat (by decide) n) k rest

/-- The place in front of the bar's blank holds a digit in every row but that of the caret. -/
theorem isDigit_iff (h : LaidOut d l caret first last width rows) (hr : rows[i]? = some row) :
    (∃ c, row[width - 1]? = some c ∧ c.isDigit = true) ↔ i ≠ l.line - first + 1 := by
  obtain ⟨rest, hi, rfl⟩ | ⟨k, n, rest, hi, hk, rfl, -⟩ := h.gutter hr
  · have hwidth : width ≠ 0 := by
      obtain ⟨_, -, hlen, -⟩ := h.source l.line h.first_le h.le_last
      have := length_ofNat_pos l.line
      omega
    rw [List.getElem?_append_left (by rw [List.length_replicate]; omega),
      List.getElem?_replicate_of_lt (by omega)]
    refine iff_of_false ?_ fun hne => hne hi
    rintro ⟨c, hc, hdigit⟩
    obtain rfl := Option.some.inj hc
    exact absurd hdigit (by decide)
  · refine iff_of_true ?_ hi
    have hpos := length_ofNat_pos n
    have hlt : width - 1 - k < (ofNat n).length := by omega
    rw [List.append_assoc, List.getElem?_append_right (by rw [List.length_replicate]; omega),
      List.length_replicate, List.getElem?_append_left hlt, List.getElem?_eq_getElem hlt]
    exact ⟨_, rfl, isDigit_of_mem_ofNat (List.getElem_mem hlt)⟩

/-- Where the line has a code point at the column, the caret stands under it. -/
theorem caret_under (h : LaidOut d l caret first last width rows) {shown : Text} {c : Char}
    (hshown : d.line? l.line = some shown) (hc : shown[l.column - 1]? = some c) :
    ∃ above stem, rows[l.line - first]? = some above ∧
      rows[l.line - first + 1]? = some (stem ++ caret) ∧ above[stem.length]? = some c := by
  obtain ⟨_, hs, hwidth, hrow⟩ := h.source l.line h.first_le h.le_last
  obtain ⟨_, padding, -, hpointer, hpadding, -⟩ := h.pointer
  rw [hshown] at hs
  obtain rfl := Option.some.inj hs
  have hne : shown ≠ [] := by
    rintro rfl
    cases hc
  rw [rowOfLine, if_pos (Nat.le_refl _), if_neg hne] at hrow
  refine ⟨_, _, hrow, hpointer, ?_⟩
  have hfront : (List.replicate (width - (ofNat l.line).length) ' ' ++ ofNat l.line ++
      " |".toList ++ [' ']).length = width + 3 := by
    simp only [List.length_append, List.length_replicate]
    have hbar : " |".toList.length = 2 := rfl
    rw [hbar, List.length_singleton]
    omega
  have hstem : (List.replicate width ' ' ++ " | ".toList ++ padding).length =
      width + 3 + (l.column - 1) := by
    simp only [List.length_append, List.length_replicate, hpadding]
    rfl
  rw [hstem, ← List.singleton_append, ← List.append_assoc,
    List.getElem?_append_right (by rw [hfront]; omega), hfront, Nat.add_sub_cancel_left]
  exact hc

/-! ### Reading rows back -/

theorem width_eq (h : LaidOut d l caret first last width rows)
    (h' : LaidOut d' l' caret first' last' width' rows) : width = width' := by
  obtain ⟨_, _, -, hrow, -⟩ := h.pointer
  have hmem := List.mem_of_getElem? hrow
  have hbar := (h.idxOf?_bar hmem).symm.trans (h'.idxOf?_bar hmem)
  exact Nat.succ.inj (Option.some.inj hbar)

/-- The caret row is the one that has no digit where the others have one. -/
theorem place_eq (h : LaidOut d l caret first last width rows)
    (h' : LaidOut d' l' caret first' last' width rows) : l.line - first = l'.line - first' := by
  obtain ⟨_, _, -, hrow, -⟩ := h.pointer
  have hiff := (h.isDigit_iff hrow).symm.trans (h'.isDigit_iff hrow)
  by_contra hne
  exact hiff.2 (by omega) rfl

/-- The first row starts with the number of the first line. -/
theorem first_eq (h : LaidOut d l caret first last width rows)
    (h' : LaidOut d' l' caret first' last' width rows) : first = first' := by
  have hlen : 0 < rows.length := by
    rw [h.length_rows]
    omega
  have hzero : rows[0]? = some rows[0] := List.getElem?_eq_getElem hlen
  obtain ⟨_, hi, -⟩ | ⟨k, n, rest, -, hk, hrow, hn⟩ := h.gutter hzero
  · omega
  obtain ⟨_, hi, -⟩ | ⟨k', n', rest', -, hk', hrow', hn'⟩ := h'.gutter hzero
  · omega
  have hgutter := congrArg (List.take width) (hrow.symm.trans hrow')
  rw [List.take_left' (by simpa using hk), List.take_left' (by simpa using hk')] at hgutter
  rw [← hn rfl, ← hn' rfl]
  exact ofNat_eq_of_padded hgutter

/-- **Reading rows back.** The bar gives the width; the row without a number is that of the caret; the
first number gives the line, and the length of the caret row the column. -/
theorem loc_eq (h : LaidOut d l caret first last width rows)
    (h' : LaidOut d' l' caret first' last' width' rows) : l = l' := by
  obtain rfl := h.width_eq h'
  obtain rfl := h.first_eq h'
  have hplace := h.place_eq h'
  obtain ⟨_, padding, -, hrow, hpadding, -⟩ := h.pointer
  obtain ⟨_, padding', -, hrow', hpadding', -⟩ := h'.pointer
  have hline : l.line = l'.line := by
    have := h.first_le
    have := h'.first_le
    omega
  have hcolumn : l.column = l'.column := by
    rw [hplace, hrow'] at hrow
    have hlen := congrArg List.length (Option.some.inj hrow)
    simp only [List.length_append, hpadding, hpadding'] at hlen
    have := h.one_le_column
    have := h'.one_le_column
    omega
  exact congrArg₂ Loc.mk hline hcolumn

end LaidOut

/-! ## Snippets -/

variable {d : Document} {caret : Text} {position : Nat}

theorem laidOut_snippet (h : position ≤ d.size) (context : Nat) (hc : '\n' ∉ caret) :
    let l := d.table.locate position
    LaidOut d l caret (Document.shownFrom l.line context) (d.shownTo l.line context)
      (ofNat (d.shownTo l.line context)).length (splitLines (d.snippet position context caret)) := by
  rw [Document.size_eq] at h
  intro l
  rw [Document.splitLines_snippet h hc]
  exact Document.laidOut_snippetRows (Document.has_locate h)
    (LineTable.one_le_locate d.table position).2

/-- **Layout.** A snippet is given for every position and any amount of context. Cut at its line feeds
it has a row for each line around that of the position, as far as there are lines, and the caret row;
the numbers have as many places as the last of them has digits, and the bar stands behind them in
every row. -/
theorem snippet_layout (h : position ≤ d.size) (context : Nat) (hc : '\n' ∉ caret) :
    ∃ l s, d.table.locate? position = .ok l ∧ d.snippet? position context caret = .ok s ∧
      let first := max 1 (l.line - context)
      let last := min d.lineCount (l.line + context)
      let width := (Nat.digits 10 last).length
      let rows := splitLines s
      LaidOut d l caret first last width rows ∧
      (∀ row ∈ rows, row.idxOf? '|' = some (width + 1)) ∧
      ∀ shown c, d.line? l.line = some shown → shown[l.column - 1]? = some c →
        ∃ above stem, rows[l.line - first]? = some above ∧
          rows[l.line - first + 1]? = some (stem ++ caret) ∧ above[stem.length]? = some c := by
  have hlocate : d.table.locate? position = .ok (d.table.locate position) :=
    LineTable.locate?_eq_ok (Int.natCast_nonneg position) (by rw [d.table_length]; omega)
  refine ⟨_, _, hlocate, Document.snippet?_eq_ok h caret, ?_⟩
  intro first last width rows
  have hlast : 0 < last := by
    have hbounds := Document.shown_bounds (Document.has_locate (Document.size_eq d ▸ h)) context
    exact Nat.lt_of_lt_of_le hbounds.1 (Nat.le_trans hbounds.2.1 hbounds.2.2.1)
  have hlaid : LaidOut d (d.table.locate position) caret first last width rows := by
    rw [show width = (ofNat last).length from (length_ofNat hlast).symm]
    exact laidOut_snippet h context hc
  exact ⟨hlaid, fun row hrow => hlaid.idxOf?_bar hrow, fun shown c => hlaid.caret_under⟩

/-- Ten lines of which the ninth has a tab in front and is ended by a carriage return and a line
feed. -/
def tenLines : Document := .ofText 0 "\n\n\n\n\n\n\n\n\tab\r\nx".toList

theorem snippet_layout_tenLines :
    10 ≤ tenLines.size ∧ '\n' ∉ caretSign ∧
      ∃ s, tenLines.snippet? 10 1 caretSign = .ok s ∧ (splitLines s).length = 4 ∧
        (splitLines s)[1]? = some " 9 | \tab".toList ∧
        ∃ above stem, (splitLines s)[1]? = some above ∧
          (splitLines s)[2]? = some (stem ++ caretSign) ∧ above[stem.length]? = some 'b' := by
  have hp : 10 ≤ tenLines.size := by decide
  have hc : '\n' ∉ caretSign := by decide
  have hlocate : tenLines.table.locate? (10 : Nat) = .ok ⟨9, 3⟩ := by
    rw [LineTable.locate?_eq_ok (by decide) (by decide), Document.table_eq_ofText,
      LineTable.locate_eq_after (by decide)]
    rfl
  have hcount : tenLines.lineCount = 10 := by rfl
  have hline : tenLines.line? 9 = some "\tab".toList := by rfl
  obtain ⟨l, s, hl, hs, hlaid, -, hunder⟩ := snippet_layout hp 1 hc
  obtain rfl := Except.ok.inj (hlocate.symm.trans hl)
  have hwidth : (Nat.digits 10 10).length = 2 := (length_ofNat (by decide)).symm
  obtain ⟨shown, hnine, -, hrow⟩ := hlaid.source 9 (by decide) (by decide)
  obtain rfl := Option.some.inj (hline.symm.trans hnine)
  simp only [hcount] at hrow
  refine ⟨hp, hc, s, hs, ?_, ?_, hunder _ 'b' hline rfl⟩
  · rw [hlaid.length_rows, hcount]
    rfl
  · rw [show min 10 (9 + 1) = 10 from rfl, hwidth] at hrow
    exact hrow

/-- **Snippets name positions.** With the same context the snippets of two positions differ, also
where the lines are alike, and on a terminator or behind the last line. -/
theorem snippet_ne {p q : Nat} (hp : p ≤ d.size) (hq : q ≤ d.size) (hne : p ≠ q) (context : Nat) :
    ∃ s t, d.snippet? p context caretSign = .ok s ∧ d.snippet? q context caretSign = .ok t ∧
      s ≠ t := by
  have hsign : '\n' ∉ caretSign := by decide
  refine ⟨_, _, Document.snippet?_eq_ok hp caretSign, Document.snippet?_eq_ok hq caretSign, ?_⟩
  intro heq
  have hrows := laidOut_snippet hp context hsign
  rw [heq] at hrows
  have hloc := hrows.loc_eq (laidOut_snippet hq context hsign)
  rw [Document.size_eq] at hp hq
  rw [Document.table_eq_ofText] at hloc
  exact hne (LineTable.locate_inj hp hq hloc)

/-- Two lines that look alike, with terminators of two code points. -/
def twinLines : Document := .ofText 0 "a\r\na\r\n".toList

/-- The two code points of one terminator, and the first ones of both. -/
theorem snippet_ne_twinLines :
    (1 ≤ twinLines.size ∧ 2 ≤ twinLines.size ∧ 4 ≤ twinLines.size) ∧
      (∃ s t, twinLines.snippet? 1 0 caretSign = .ok s ∧
        twinLines.snippet? 2 0 caretSign = .ok t ∧ s ≠ t) ∧
      ∃ s t, twinLines.snippet? 1 0 caretSign = .ok s ∧
        twinLines.snippet? 4 0 caretSign = .ok t ∧ s ≠ t := by
  have h1 : 1 ≤ twinLines.size := by decide
  have h2 : 2 ≤ twinLines.size := by decide
  have h4 : 4 ≤ twinLines.size := by decide
  exact ⟨⟨h1, h2, h4⟩, snippet_ne h1 h2 (by decide) 0, snippet_ne h1 h4 (by decide) 0⟩

end MarkedText
