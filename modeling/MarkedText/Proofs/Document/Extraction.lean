import MarkedText.Cursor
import MarkedText.Proofs.Document.Location

/-!
# Lines taken out of a document

The lines of a document are the pieces of its text between line feeds, less the carriage return of a
terminator. A location counts columns on the piece and not on what is left of it as a line, so the
location of a cursor reads its code point off the line, unless the cursor stands on a terminator or at
the end of the text. There the column lies right behind the line, and one further on the line feed
behind a carriage return.

* `Document.between?`, `Document.map_between?`: what stands between the ends of the lines.
* `Document.line?_row`: a line by the piece that it comes from.
* `Document.lines_eq_splitOn`: extraction is splitting at line feeds.
* `Standing.onLineEnd_iff`, `Standing.behindReturn_iff`: the columns behind a line.
* `Cursor.codePoint_at_loc`: the location of a cursor as a place in its line.
-/

namespace MarkedText

open Text

/-! ## Lines and pieces -/

namespace Document

variable {d : Document} {n : Nat} {row : Text}

/-- What stands from the start of line `n` to its stop. -/
def between? (d : Document) (n : Int) : Except Fault Text := do
  let a ← d.table.start? n
  let b ← d.table.stop? n
  pure (d.slice a b)

theorem between?_row (h : (splitLines d.text)[n]? = some row) :
    d.between? (n + 1 : Nat) = .ok row := by
  obtain ⟨hstart, hstop⟩ := LineTable.start?_eq_ok (has_row h)
  rw [between?, hstart, hstop, ← slice_row h]
  rfl

theorem map_between? (d : Document) :
    (List.range' 1 d.lineCount).map (fun n : Nat => d.between? n) = (splitLines d.text).map .ok := by
  apply List.ext_getElem?
  intro i
  rw [List.getElem?_map, List.getElem?_map, lineCount_eq]
  cases hrow : (splitLines d.text)[i]? with
  | none =>
    have hi := List.getElem?_eq_none_iff.1 hrow
    rw [List.getElem?_eq_none (by rwa [List.length_range'])]
    rfl
  | some row =>
    have hi := (List.getElem?_eq_some_iff.1 hrow).1
    rw [List.getElem?_range' hi, Option.map_some, Option.map_some, Nat.one_mul, Nat.add_comm,
      between?_row hrow]

/-- A carriage return at the end of a piece is dropped if it is part of a terminator. -/
theorem line?_row (h : (splitLines d.text)[n]? = some row) :
    (∀ shown, n + 1 < d.lineCount → row = shown ++ ['\r'] → d.line? (n + 1 : Nat) = some shown) ∧
    (n + 1 = d.lineCount ∨ row.getLast? ≠ some '\r' → d.line? (n + 1 : Nat) = some row) := by
  rw [line?_eq_some (has_row h), lineText_row h]
  constructor
  · rintro shown hlt rfl
    rw [if_pos hlt, dropReturn_append]
  · rintro (hlast | hr)
    · rw [if_neg (Nat.not_lt_of_ge (Nat.le_of_eq hlast.symm))]
    · rw [dropReturn_of_getLast? hr, ite_self]

/-- **Extraction is splitting.** There is one line more than there are line feeds. What stands between
the starts and the stops of the lines are in order the pieces of the text between its line feeds, which
make up the text when they are joined again. A line is its piece, without the carriage return of a
terminator, and there are no other lines. -/
theorem lines_eq_splitOn (d : Document) :
    let pieces := d.text.splitOn '\n'
    d.lineCount = 1 + d.text.count '\n' ∧
    (List.range' 1 d.lineCount).map (fun n : Nat => d.between? n) = pieces.map .ok ∧
    List.intercalate ['\n'] pieces = d.text ∧
    (∀ (n : Nat) (piece : Text), pieces[n]? = some piece →
      (∀ shown, n + 1 < d.lineCount → piece = shown ++ ['\r'] →
        d.line? (n + 1 : Nat) = some shown) ∧
      (n + 1 = d.lineCount ∨ piece.getLast? ≠ some '\r' → d.line? (n + 1 : Nat) = some piece)) ∧
    ∀ n : Int, ¬ (1 ≤ n ∧ n ≤ d.lineCount) → d.line? n = none := by
  intro pieces
  have hpieces : pieces = splitLines d.text := (splitLines_eq_splitOn d.text).symm
  refine ⟨?_, ?_, List.intercalate_splitOn '\n', fun n piece hpiece => ?_, fun n hn => ?_⟩
  · rw [lineCount_eq, length_splitLines]
  · rw [hpieces]
    exact d.map_between?
  · rw [hpieces] at hpiece
    exact line?_row hpiece
  · exact (d.line?_eq_none_iff n).2 hn

/-- A carriage return in front of a line feed, and one at the end of the text. -/
theorem lines_eq_splitOn_return :
    let d := ofText 0 "a\r\nb\r".toList
    d.lineCount = 2 ∧ d.line? 1 = some "a".toList ∧ d.line? 2 = some "b\r".toList ∧
      d.line? 3 = none := by
  intro d
  obtain ⟨hcount, -, -, hline, hnone⟩ := d.lines_eq_splitOn
  have htwo : d.lineCount = 2 := hcount
  have hfirst : (d.text.splitOn '\n')[0]? = some ("a".toList ++ ['\r']) := by decide
  have hlast : (d.text.splitOn '\n')[1]? = some "b\r".toList := by decide
  exact ⟨htwo, (hline 0 _ hfirst).1 _ (by rw [htwo]; decide) rfl,
    (hline 1 _ hlast).2 (Or.inl htwo.symm), hnone 3 (by rw [htwo]; decide)⟩

end Document

/-! ## Columns and lines -/

/-- On what ends a line: the end of the text, a line feed, or the carriage return in front of one. -/
def OnLineEnd (t : Text) (p : Nat) : Prop :=
  p = t.length ∨ t[p]? = some '\n' ∨ t[p]? = some '\r' ∧ t[p + 1]? = some '\n'

/-- On the line feed behind a carriage return. -/
def BehindReturn (t : Text) (p : Nat) : Prop :=
  ∃ i, i + 1 = p ∧ t[i]? = some '\r' ∧ t[p]? = some '\n'

namespace Standing

variable {t shown : Text} {p k : Nat}

theorem onLineEnd_iff (h : Standing t shown p k) : OnLineEnd t p ↔ shown.length ≤ k := by
  cases h with
  | within hs ht hn hr =>
    refine iff_of_false ?_ (Nat.not_le_of_lt (List.getElem?_eq_some_iff.1 hs).1)
    rintro (hp | hfeed | ⟨hreturn, hnext⟩)
    · exact Nat.ne_of_lt (List.getElem?_eq_some_iff.1 ht).1 hp
    · exact hn (Option.some.inj (ht.symm.trans hfeed))
    · exact hr (Option.some.inj (ht.symm.trans hreturn)) hnext
  | onReturn hk ht hn => exact iff_of_true (Or.inr (Or.inr ⟨ht, hn⟩)) (Nat.le_of_eq hk.symm)
  | onFeed hk ht => exact iff_of_true (Or.inr (Or.inl ht)) (Nat.le_of_eq hk.symm)
  | behindReturn hk _ _ ht =>
    exact iff_of_true (Or.inr (Or.inl ht)) (hk ▸ Nat.le_succ shown.length)
  | atEnd hk hp => exact iff_of_true (Or.inl hp) (Nat.le_of_eq hk.symm)

theorem behindReturn_iff (h : Standing t shown p k) : BehindReturn t p ↔ k = shown.length + 1 := by
  cases h with
  | within hs ht hn =>
    have hk := (List.getElem?_eq_some_iff.1 hs).1
    refine iff_of_false ?_ (by omega)
    rintro ⟨i, -, -, hfeed⟩
    exact hn (Option.some.inj (ht.symm.trans hfeed))
  | onReturn hk ht =>
    refine iff_of_false ?_ (by omega)
    rintro ⟨i, -, -, hfeed⟩
    exact absurd (ht.symm.trans hfeed) (by decide)
  | onFeed hk _ hr =>
    refine iff_of_false ?_ (by omega)
    rintro ⟨i, hi, hreturn, -⟩
    exact hr i hi hreturn
  | behindReturn hk hi hr ht => exact iff_of_true ⟨_, hi, hr, ht⟩ hk
  | atEnd hk hp =>
    refine iff_of_false ?_ (by omega)
    rintro ⟨i, -, -, hfeed⟩
    exact Nat.ne_of_lt (List.getElem?_eq_some_iff.1 hfeed).1 hp

theorem le_length_succ (h : Standing t shown p k) : k ≤ shown.length + 1 := by
  cases h with
  | within hs => exact Nat.le_succ_of_le (Nat.le_of_lt (List.getElem?_eq_some_iff.1 hs).1)
  | onReturn hk => omega
  | onFeed hk => omega
  | behindReturn hk => omega
  | atEnd hk => omega

theorem getElem?_eq (h : Standing t shown p k) (hk : k < shown.length) :
    p < t.length ∧ shown[k]? = t[p]? := by
  cases h with
  | within hs ht => exact ⟨(List.getElem?_eq_some_iff.1 ht).1, hs.trans ht.symm⟩
  | onReturn => omega
  | onFeed => omega
  | behindReturn => omega
  | atEnd => omega

end Standing

/-- **Location and line.** A cursor is on a line of its document. Where the line has a code point at
the column of the cursor, it is the one at the cursor. The columns behind the line are those of what
ends it, and only on a line feed behind a carriage return the column is not the first of them. -/
theorem Cursor.codePoint_at_loc (c : Cursor) :
    let text := c.document.text
    ∃ shown k, c.document.table.locate? c.index = .ok c.loc ∧ c.loc.column = k + 1 ∧
      c.document.line? c.loc.line = some shown ∧
      (k < shown.length → c.index < text.length ∧ shown[k]? = text[c.index]?) ∧
      (shown.length ≤ k ↔ OnLineEnd text c.index) ∧
      (OnLineEnd text c.index → ¬ BehindReturn text c.index → k = shown.length) ∧
      (BehindReturn text c.index → k = shown.length + 1) := by
  intro text
  have hle : c.index ≤ text.length := by
    rw [← Document.size_eq]
    exact c.index_le
  have hlocate : c.document.table.locate? c.index = .ok c.loc :=
    LineTable.locate?_natCast (by rw [c.document.table_length]; exact c.index_le)
  have hcolumn : 1 ≤ c.loc.column := (LineTable.one_le_locate c.document.table c.index).2
  have hline := Document.line?_eq_some (Document.has_locate hle)
  have hstanding := Document.standing hle
  refine ⟨_, c.loc.column - 1, hlocate, (Nat.sub_add_cancel hcolumn).symm, hline,
    hstanding.getElem?_eq, hstanding.onLineEnd_iff.symm, fun hend hreturn => ?_,
    hstanding.behindReturn_iff.1⟩
  have hlo := hstanding.onLineEnd_iff.1 hend
  have hne := mt hstanding.behindReturn_iff.2 hreturn
  have hhi := hstanding.le_length_succ
  exact Nat.le_antisymm (Nat.le_of_lt_succ (Nat.lt_of_le_of_ne hhi hne)) hlo

/-- On the line feed behind a carriage return the column is two further than the line is long. -/
theorem Cursor.codePoint_at_loc_feed :
    ∃ c : Cursor, c.document.text = "ab\r\nc".toList ∧ BehindReturn c.document.text c.index ∧
      ∃ shown, c.document.line? c.loc.line = some shown ∧ c.loc.column = shown.length + 2 := by
  let c : Cursor := ⟨.ofText 0 "ab\r\nc".toList, 3, by decide⟩
  have hfeed : BehindReturn c.document.text c.index := ⟨2, rfl, rfl, rfl⟩
  obtain ⟨shown, k, -, hcolumn, hline, -, -, -, hbehind⟩ := c.codePoint_at_loc
  exact ⟨c, rfl, hfeed, shown, hline, by rw [hcolumn, hbehind hfeed]⟩

end MarkedText
