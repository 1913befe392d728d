import MarkedText.Check.Fixture
import MarkedText.Proofs.Check.LineBreaks
import MarkedText.Proofs.Document.Layout
import MarkedText.Proofs.Session.Replays

/-!
# Snapshots of the first marker

Two checks compare a text that is put together from the rows around the first marker with a block
that was written down: the snippet there, and the lines behind their numbers. Such a text starts with
a blank or a digit and does not end in a line feed, so it is what a block is trimmed to exactly when
the block is that text with line breaks around it. The last line of a document keeps a carriage
return, and a text that ends in it is not recognised with a single line feed behind.

* `LaidOut.head_row`, `Document.compact_snippet`: no break at the edges of a snippet.
* `Harness.linesAround_eq`, `Harness.compact_linesAround`: the lines around a cursor, and their edges.
* `Harness.firstOf_of_markers`: the first cursor of a capture that has markers.
* `Harness.check_trimmed`: comparing a compact text with a block.
* `Harness.snapshots_verdict`: the main result, for both checks.
-/

namespace MarkedText

open Text

/-! ## Snippets -/

/-- A number with blanks in front starts with a blank or a digit. -/
theorem Text.head?_padded_ne (k n : Nat) (rest : Text) :
    List.replicate k ' ' ++ ofNat n ++ rest ≠ [] ∧
      (List.replicate k ' ' ++ ofNat n ++ rest).head? ≠ some '\r' := by
  have hne : ofNat n ≠ [] := List.ne_nil_of_length_pos (length_ofNat_pos n)
  refine ⟨by simp [hne], ?_⟩
  cases k with
  | zero =>
    intro hhead
    rw [List.replicate_zero, List.nil_append, List.head?_append_of_ne_nil _ hne] at hhead
    exact notMem_ofNat (by decide) n (List.mem_of_head? hhead)
  | succ k => simp [List.replicate_succ]

theorem LaidOut.head_row {d : Document} {l : Loc} {caret row : Text} {rows : List Text}
    {first last width : Nat} (h : LaidOut d l caret first last width rows) (hr : row ∈ rows) :
    row ≠ [] ∧ row.head? ≠ some '\r' := by
  obtain ⟨i, hi⟩ := List.mem_iff_getElem?.1 hr
  obtain ⟨rest, -, hrow⟩ | ⟨k, n, rest, -, -, hrow, -⟩ := h.gutter hi
  · rw [hrow]
    cases width <;> simp [List.replicate_succ]
  · rw [hrow]
    exact head?_padded_ne k n _

theorem Document.compact_snippet {d : Document} {position : Nat} (h : position ≤ d.size)
    (context : Nat) {caret : Text} (hc : '\n' ∉ caret) :
    Compact (d.snippet position context caret) := by
  have hlaid := laidOut_snippet h context hc
  have hrows : ∀ row ∈ splitLines (d.snippet position context caret), row ≠ [] ∧ '\n' ∉ row :=
    fun row hr => ⟨(hlaid.head_row hr).1, newline_notMem_of_mem_splitLines hr⟩
  rw [← joinLines_splitLines (d.snippet position context caret)]
  cases hs : splitLines (d.snippet position context caret) with
  | nil => exact absurd hs (splitLines_ne_nil _)
  | cons row rows =>
    rw [hs] at hrows
    exact compact_joinLines hrows (hlaid.head_row (hs ▸ List.mem_cons_self ..)).2

theorem Document.has_natCast {d : Document} {n : Nat} :
    d.table.Has n ↔ 1 ≤ n ∧ n ≤ d.lineCount := by
  unfold LineTable.Has lineCount
  omega

theorem Cursor.has_loc (c : Cursor) : c.document.table.Has c.loc.line := by
  apply Document.has_locate
  rw [← Document.size_eq]
  exact c.index_le

namespace Harness

/-! ## Lines around a cursor -/

/-- Line `n` behind its number. -/
def numberedRow (d : Document) (n : Nat) : Text := ofNat n ++ " | ".toList ++ d.lineText n

theorem numberedLine_eq (d : Document) (n : Nat) :
    numberedLine d n = if 1 ≤ n ∧ n ≤ d.lineCount then some (numberedRow d n) else none := by
  unfold numberedLine
  split
  · next hn =>
    rw [Document.line?_eq_some (Document.has_natCast.2 hn)]
    rfl
  · next hn =>
    rw [(d.line?_eq_none_iff n).2 (mt Document.has_natCast.1 hn)]
    rfl

/-- The numbers next to `n`, as far as they are from one to `count`. -/
theorem filterMap_window {α : Type} (f : Nat → α) {n count : Nat} (hlo : 1 ≤ n) (hhi : n ≤ count) :
    [n - 1, n, n + 1].filterMap (fun k => if 1 ≤ k ∧ k ≤ count then some (f k) else none) =
      (List.range' (max 1 (n - 1)) (min count (n + 1) + 1 - max 1 (n - 1))).map f := by
  obtain ⟨m, rfl⟩ : ∃ m, n = m + 1 := ⟨n - 1, by omega⟩
  have hbehind : [m + 2].filterMap (fun k => if 1 ≤ k ∧ k ≤ count then some (f k) else none) =
      (List.range' (m + 2) (min count (m + 2) - (m + 1))).map f := by
    by_cases hlast : m + 2 ≤ count
    · rw [show min count (m + 2) - (m + 1) = 1 by omega]
      simp [hlast]
    · rw [show min count (m + 2) - (m + 1) = 0 by omega]
      simp [hlast]
  cases m with
  | zero =>
    rw [show min count (0 + 1 + 1) + 1 - max 1 (0 + 1 - 1) = min count (0 + 2) - (0 + 1) + 1 by omega,
      show max 1 (0 + 1 - 1) = 1 by omega, List.range'_succ, List.map_cons, ← hbehind]
    simp [hhi]
  | succ m =>
    rw [show min count (m + 1 + 1 + 1) + 1 - max 1 (m + 1 + 1 - 1) =
        min count (m + 1 + 2) - (m + 1 + 1) + 1 + 1 by omega,
      show max 1 (m + 1 + 1 - 1) = m + 1 by omega, List.range'_succ, List.range'_succ, List.map_cons,
      List.map_cons, ← hbehind]
    simp [hhi, show m + 1 ≤ count by omega]

/-- The lines around a cursor are those that a snippet shows with one line of context. -/
theorem linesAround_eq (c : Cursor) :
    let first := Document.shownFrom c.loc.line 1
    let last := c.document.shownTo c.loc.line 1
    linesAround c =
      joinLines ((List.range' first (last + 1 - first)).map (numberedRow c.document)) := by
  intro first last
  obtain ⟨hlo, hhi⟩ := Document.has_natCast.1 c.has_loc
  have hnumbers : [(c.loc.line : Int) - 1, c.loc.line, c.loc.line + 1] =
      [c.loc.line - 1, c.loc.line, c.loc.line + 1].map Nat.cast := by
    simp [show ((c.loc.line - 1 : Nat) : Int) = (c.loc.line : Int) - 1 by omega]
  have hwindow := filterMap_window (numberedRow c.document) hlo hhi
  unfold linesAround
  simp only [hnumbers, List.filterMap_map, Function.comp_def, numberedLine_eq]
  exact congrArg joinLines hwindow

theorem head?_numberedRow (d : Document) (n : Nat) :
    numberedRow d n ≠ [] ∧ (numberedRow d n).head? ≠ some '\r' := by
  unfold numberedRow
  simpa using head?_padded_ne 0 n (" | ".toList ++ d.lineText n)

theorem newline_notMem_numberedRow {d : Document} {n : Nat} (hn : d.table.Has n) :
    '\n' ∉ numberedRow d n := by
  have hnumber := newline_notMem_ofNat n
  have hline := (Document.isLine_of_has hn).newline_notMem
  simp [numberedRow, hnumber, hline]

theorem compact_linesAround (c : Cursor) : Compact (linesAround c) := by
  obtain ⟨hpos, hfirst, hlast, hcount⟩ := Document.shown_bounds c.has_loc 1
  rw [linesAround_eq]
  generalize Document.shownFrom c.loc.line 1 = first at hpos hfirst
  generalize c.document.shownTo c.loc.line 1 = last at hlast hcount
  have hrows : ∀ row ∈ (List.range' first (last + 1 - first)).map (numberedRow c.document),
      row ≠ [] ∧ '\n' ∉ row := by
    intro row hrow
    obtain ⟨n, hn, rfl⟩ := List.mem_map.1 hrow
    have hbounds := List.mem_range'_1.1 hn
    have hhas : c.document.table.Has n := by
      unfold LineTable.Has
      omega
    exact ⟨(head?_numberedRow _ n).1, newline_notMem_numberedRow hhas⟩
  obtain ⟨k, hk⟩ : ∃ k, last + 1 - first = k + 1 := ⟨last - first, by omega⟩
  rw [hk, List.range'_succ, List.map_cons] at hrows ⊢
  exact compact_joinLines hrows (head?_numberedRow _ first).2

/-! ## Comparing with a block -/

variable {h : Harness} {fixture : Text}

theorem firstOf_of_markers {c : Capture} (hp : c.Placeable) (hm : c.markers ≠ []) :
    ∃ x, firstOf c = .ok x ∧ x.document = c.document ∧
      c.markers.head?.map Marker.offset = some (x.index : Int) := by
  obtain ⟨m, ms, hms⟩ := List.exists_cons_of_ne_nil hm
  obtain ⟨hlo, hhi⟩ := hp m (by simp [hms])
  obtain ⟨x, hx, hdocument, hindex⟩ := Cursor.exists_at? hlo hhi
  have hfirst : (Replay.ofCapture c).capture.markers[(Replay.ofCapture c).position]? = some m := by
    simp [Replay.ofCapture, hms]
  refine ⟨x, ?_, hdocument, ?_⟩
  · rw [firstOf, Replay.next_eq hfirst]
    exact hx
  · simp [hms, hindex]

/-- A compact text compared with a block. -/
theorem check_trimmed {r : Text} (hr : Compact r) (expected : Text) (cursor : Option Cursor) :
    if Wraps r expected then h.check (.text r) (.text (trimBreaks expected)) cursor = .ok ()
    else ∃ m, h.check (.text r) (.text (trimBreaks expected)) cursor = .error (.mismatch m) := by
  have hpass : h.check (.text r) (.text (trimBreaks expected)) cursor = .ok () ↔
      Wraps r expected := by
    rw [check_ok_iff, Value.same, beq_iff_eq, eq_comm]
    exact trimBreaks_eq_iff hr
  split
  · next hw => exact hpass.2 hw
  · next hw =>
    obtain hok | hm := h.check_ok_or_mismatch (.text r) (.text (trimBreaks expected)) cursor
    · exact absurd (hpass.1 hok) hw
    · exact hm

/-- **Snapshots.** The first marker of a capture has a snippet and lines around it. A block passes for
either of them exactly when it is that text, or that text between line breaks; everything else is a
mismatch. -/
theorem snapshots_verdict {c : Capture} (hc : h.capture (trimBreaks fixture) = .ok c)
    (hm : c.markers ≠ []) :
    ∃ x, firstOf c = .ok x ∧ x.document = c.document ∧
      c.markers.head?.map Marker.offset = some (x.index : Int) ∧
      (∃ shot, x.debug 1 = .ok shot ∧ ∀ expected,
        if Wraps shot expected then h.debugCheck fixture expected = .ok ()
        else ∃ m, h.debugCheck fixture expected = .error (.mismatch m)) ∧
      let n := x.loc.line
      let first := max 1 (n - 1)
      let last := min c.document.lineCount (n + 1)
      let lines := joinLines ((List.range' first (last + 1 - first)).map fun k =>
        ofNat k ++ " | ".toList ++ c.document.lineText k)
      ∀ expected,
        if Wraps lines expected then h.lineCheck fixture expected = .ok ()
        else ∃ m, h.lineCheck fixture expected = .error (.mismatch m) := by
  obtain ⟨x, hx, hdocument, hoffset⟩ := firstOf_of_markers (Capture.placeable_of_ofRaw hc) hm
  have hfirst : h.first fixture = .ok x := by
    unfold first
    rw [hc]
    exact hx
  refine ⟨x, hx, hdocument, hoffset, ⟨_, Document.snippet?_eq_ok x.index_le caretSign, ?_⟩, ?_⟩
  · intro expected
    have hdebug : h.debugCheck fixture expected =
        h.check (.text (x.document.snippet x.index standardContext caretSign))
          (.text (trimBreaks expected)) (some x) := by
      unfold debugCheck
      rw [hfirst]
      rfl
    rw [hdebug]
    exact check_trimmed (Document.compact_snippet x.index_le standardContext (by decide)) expected _
  · intro n first last lines expected
    have hlines : h.lineCheck fixture expected =
        h.check (.text (linesAround x)) (.text (trimBreaks expected)) (some x) := by
      unfold lineCheck
      rw [hfirst]
      rfl
    have hrows : lines = linesAround x := by
      rw [linesAround_eq, hdocument]
      rfl
    rw [hlines, hrows]
    exact check_trimmed (compact_linesAround x) expected _

/-- A fixture between line breaks of both kinds; the carriage return in front of the last one belongs
to the text, and so to its last line. -/
def returnFixture : Text := "\na🌵()b\nc\r\r\n".toList

theorem snapshots_returnFixture :
    let h : Harness := ⟨standardName, .standard⟩
    (∃ c, h.capture (trimBreaks returnFixture) = .ok c ∧ c.markers ≠ []) ∧
      h.debugCheck returnFixture "1 | ab\n  |  ^\n2 | c\r\r\n".toList = .ok () ∧
      (∃ m, h.debugCheck returnFixture "1 | ab\n  |  ^\n2 | c\r\n".toList = .error (.mismatch m)) ∧
      h.lineCheck returnFixture "\n1 | ab\n2 | c\r".toList = .ok () ∧
      ∃ m, h.lineCheck returnFixture "\n1 | ab\n2 | c\r\n".toList = .error (.mismatch m) := by
  intro h
  let d := Document.ofText 0 "ab\nc\r".toList
  have hc : h.capture (trimBreaks returnFixture) = .ok ⟨d, [⟨1, none, 1⟩]⟩ := by rfl
  have hlocate : d.table.locate 1 = ⟨1, 2⟩ := by
    rw [Document.table_eq_ofText, LineTable.locate_eq_after (by decide)]
    rfl
  have hsnippet : d.snippet 1 1 caretSign = "1 | ab\n  |  ^\n2 | c\r".toList := by
    rw [Document.snippet_eq, hlocate]
    decide +kernel
  obtain ⟨x, hx, -, -, ⟨shot, hshot, hdebug⟩, hlines⟩ := snapshots_verdict hc (List.cons_ne_nil _ _)
  have hfirst : firstOf ⟨d, [⟨1, none, 1⟩]⟩ = .ok ⟨d, 1, by decide⟩ := by rfl
  obtain rfl := Except.ok.inj (hfirst.symm.trans hx)
  have hgiven : Cursor.debug ⟨d, 1, by decide⟩ 1 = .ok (d.snippet 1 1 caretSign) :=
    Document.snippet?_eq_ok (by decide) caretSign
  obtain rfl := Except.ok.inj (hgiven.symm.trans hshot)
  simp only [hsnippet] at hdebug
  simp only [Cursor.loc, hlocate] at hlines
  refine ⟨⟨_, hc, List.cons_ne_nil _ _⟩, ?_, ?_, ?_, ?_⟩
  · exact (if_pos (by decide)).mp (hdebug "1 | ab\n  |  ^\n2 | c\r\r\n".toList)
  · exact (if_neg (by decide)).mp (hdebug "1 | ab\n  |  ^\n2 | c\r\n".toList)
  · exact (if_pos (by decide)).mp (hlines "\n1 | ab\n2 | c\r".toList)
  · exact (if_neg (by decide)).mp (hlines "\n1 | ab\n2 | c\r\n".toList)

end Harness

end MarkedText
