import MarkedText.Proofs.Document.Snippet
import MarkedText.Report.Written

/-!
# Rows of a block

Where the message and the hint of a report hold no line feed, its block is cut at the line feeds into
the rows that it is put together from, and none of these is empty, not even one that a snippet leaves
empty. A report about a span has all four parts: one row for the head, one for the place, those of the
snippet, and one for the hint.

* `mem_blockRows`: which rows there are.
* `plain_of_mem_blockRows`: no row is empty or holds a line feed.
* `splitLines_block`: the rows that a block is cut into.
* `blockRows_located`, `splitLines_block_located`: the same for a report about a span.
-/

namespace MarkedText.Report

variable {code : Code} {message hint snippet row : Text} {span : Span} {paint : Bool} {r : Report}

theorem Code.newline_notMem_name (c : Code) : '\n' ∉ c.name := by
  cases c <;> decide

theorem present_some {t : Text} (h : t ≠ []) : present (some t) = some t := by
  simp [present, h]

theorem blockRows_located (hs : snippet ≠ []) (hh : hint ≠ []) :
    (located code message span hint snippet).blockRows false =
      [headRow false (located code message span hint snippet), placeRow span] ++
        snippetRows snippet ++ [hintRow hint] := by
  have hsnippet : present (located code message span hint snippet).snippet = some snippet :=
    present_some hs
  have hhint : present (located code message span hint snippet).hint = some hint := present_some hh
  rw [blockRows, hsnippet, hhint]
  rfl

theorem mem_blockRows : row ∈ r.blockRows paint ↔
    row = headRow paint r ∨ (∃ span, r.span = some span ∧ row = placeRow span) ∨
      (∃ snippet, present r.snippet = some snippet ∧ row ∈ snippetRows snippet) ∨
      ∃ hint, present r.hint = some hint ∧ row = hintRow hint := by
  unfold blockRows
  cases r.span <;> cases present r.snippet <;> cases present r.hint <;> simp

/-! ## No line feeds -/

theorem newline_notMem_atSpan (span : Span) : '\n' ∉ atSpan span := by
  have hline : '\n' ∉ " at line ".toList ++ Text.ofNat span.line :=
    List.not_mem_append (by decide) (Text.newline_notMem_ofNat _)
  have hcolumn : '\n' ∉ ", column ".toList := by decide
  exact List.not_mem_append (List.not_mem_append hline hcolumn) (Text.newline_notMem_ofNat _)

theorem newline_notMem_shownSeverity (r : Report) : '\n' ∉ r.shownSeverity := by
  unfold shownSeverity
  split <;> decide

theorem newline_notMem_paintedSeverity (r : Report) : '\n' ∉ r.paintedSeverity := by
  have hcolour : '\n' ∉ sequence
      (if r.shownSeverity = warningSeverity then "1;33".toList else "1;31".toList) := by
    split <;> decide
  exact List.not_mem_append (List.not_mem_append hcolour (newline_notMem_shownSeverity r)) (by decide)

theorem newline_notMem_headRow (paint : Bool) (hm : '\n' ∉ r.message) : '\n' ∉ headRow paint r := by
  have hseverity : '\n' ∉ if paint then r.paintedSeverity else r.shownSeverity := by
    cases paint
    · exact newline_notMem_shownSeverity r
    · exact newline_notMem_paintedSeverity r
  have hcode := List.not_mem_append (List.not_mem_append hseverity (by decide : '\n' ∉ "[".toList))
    r.code.newline_notMem_name
  exact List.not_mem_append (List.not_mem_append hcode (by decide)) hm

theorem newline_notMem_placeRow (span : Span) : '\n' ∉ placeRow span := by
  have hline : '\n' ∉ "  --> line ".toList ++ Text.ofNat span.line :=
    List.not_mem_append (by decide) (Text.newline_notMem_ofNat _)
  exact List.not_mem_append (List.not_mem_append hline (by decide)) (Text.newline_notMem_ofNat _)

theorem newline_notMem_of_mem_snippetRows (h : row ∈ snippetRows snippet) : '\n' ∉ row := by
  obtain ⟨line, hline, rfl⟩ := List.mem_map.1 h
  exact List.not_mem_append (by decide) (Text.newline_notMem_of_mem_splitLines hline)

/-! ## Cutting a block -/

/-- Every row has words or blanks of its own in front of what the report puts into it. -/
theorem plain_of_mem_blockRows (hm : '\n' ∉ r.message) (hh : ∀ hint ∈ r.hint, '\n' ∉ hint)
    (h : row ∈ r.blockRows paint) : row ≠ [] ∧ '\n' ∉ row := by
  rcases mem_blockRows.1 h with rfl | ⟨span, -, rfl⟩ | ⟨snippet, -, hrow⟩ | ⟨hint, hhint, rfl⟩
  · refine ⟨?_, newline_notMem_headRow paint hm⟩
    unfold headRow
    simp only [List.append_assoc]
    exact List.append_ne_nil_of_right_ne_nil _ (List.cons_ne_nil _ _)
  · refine ⟨?_, newline_notMem_placeRow span⟩
    unfold placeRow
    simp only [List.append_assoc]
    exact List.cons_ne_nil _ _
  · refine ⟨?_, newline_notMem_of_mem_snippetRows hrow⟩
    obtain ⟨line, -, rfl⟩ := List.mem_map.1 hrow
    exact List.cons_ne_nil _ _
  · refine ⟨List.cons_ne_nil _ _, List.not_mem_append (by decide) (hh hint ?_)⟩
    exact (present_eq_some hhint).1

theorem splitLines_block (paint : Bool) (hm : '\n' ∉ r.message) (hh : ∀ hint ∈ r.hint, '\n' ∉ hint) :
    Text.splitLines (r.block paint) = r.blockRows paint := by
  rw [block_eq]
  exact Text.splitLines_joinLines (List.cons_ne_nil _ _) fun row h =>
    (plain_of_mem_blockRows hm hh h).2

theorem splitLines_block_located (hm : '\n' ∉ message) (hh : '\n' ∉ hint) (hne : hint ≠ [])
    (hs : snippet ≠ []) :
    Text.splitLines ((located code message span hint snippet).block false) =
      [headRow false (located code message span hint snippet), placeRow span] ++
        snippetRows snippet ++ [hintRow hint] := by
  have hhint : ∀ t ∈ (located code message span hint snippet).hint, '\n' ∉ t := by
    intro t ht
    rwa [← Option.some.inj ht]
  rw [splitLines_block false hm hhint, blockRows_located hs hne]

end MarkedText.Report
