import MarkedText.Proofs.Document.Lines

/-!
# Locations found by bisection

The bisection of a line table finds the last line that starts at or in front of an offset. For the
table of a text this is the row that holds the offset, and so the location is the one that walking
over the text gives.

* `search_eq`: what the bisection finds, from what the starts around it are.
* `locate_eq`, `line_locate_iff`: the location of an offset in a given row, and the offsets on a line.
* `locate_inj`: no two offsets of a text have one location.
* `locate_eq_after`: the location of an offset is the end of a walk over the text in front of it.
* `RowEnd.standing`, `Document.standing`: whether an offset stands within its line or on what ends it.
* `getElem?_lineText`: a code point other than a line end stands in its line at its column.
-/

namespace MarkedText

open Text

/-! ## Bisection -/

namespace LineTable

/-- The bounds close in on `i`: a middle at or below `i` starts in front of the offset, and one above
`i` behind it. -/
theorem search_eq {t : LineTable} {position lo hi i : Nat} (hlo : lo ≤ i) (hhi : i ≤ hi)
    (hle : ∀ j ≤ i, t.starts.getD j 0 ≤ position)
    (hlt : ∀ j, i < j → j ≤ hi → position < t.starts.getD j 0) :
    t.search position lo hi = i := by
  fun_induction search t position lo hi with
  | case1 lo hi hlt' mid hmid ih =>
    have hmi : mid ≤ i := by
      by_cases h : mid ≤ i
      · exact h
      · have := hlt mid (Nat.lt_of_not_le h) (by omega)
        omega
    exact ih hmi hhi hlt
  | case2 lo hi hlt' mid hmid ih =>
    have him : i < mid := by
      by_cases h : mid ≤ i
      · exact absurd (hle mid h) hmid
      · exact Nat.lt_of_not_le h
    exact ih hlo (by omega) fun j hj hjm => hlt j hj (by omega)
  | case3 lo hi hge => omega

variable {text row : Text} {n position : Nat}

theorem locate_eq (h : (splitLines text)[n]? = some row)
    (hlo : (above (splitLines text) n).length ≤ position)
    (hhi : position ≤ (above (splitLines text) n).length + row.length) :
    (ofText text).locate position = ⟨n + 1, position - (above (splitLines text) n).length + 1⟩ := by
  have hn : n < (splitLines text).length := (List.getElem?_eq_some_iff.1 h).1
  have hstart : ∀ j < (splitLines text).length,
      (ofText text).starts.getD j 0 = (above (splitLines text) j).length :=
    fun j hj => starts_getD (List.getElem?_eq_getElem hj)
  have hsearch : (ofText text).search position 0 ((ofText text).count - 1) = n := by
    rw [count_eq]
    refine search_eq (Nat.zero_le n) (by omega) (fun j hj => ?_) fun j hj hjm => ?_
    · have := length_above_le (splitLines text) hj
      rw [hstart j (by omega)]
      omega
    · have := end_lt_above h hj
      rw [hstart j (by omega)]
      omega
  rw [locate, hsearch, hstart n hn]

/-- Every offset of a text is a place in one of its rows, the place behind its last code point
included. -/
theorem exists_place (h : position ≤ text.length) :
    ∃ n row k, (splitLines text)[n]? = some row ∧ k ≤ row.length ∧
      position = (above (splitLines text) n).length + k := by
  obtain ⟨n, row, hrow, hlo, hhi⟩ := exists_row h
  refine ⟨n, row, position - (above (splitLines text) n).length, hrow, ?_, ?_⟩ <;> omega

theorem locate_place (h : (splitLines text)[n]? = some row) {k : Nat} (hk : k ≤ row.length) :
    (ofText text).locate ((above (splitLines text) n).length + k) = ⟨n + 1, k + 1⟩ := by
  rw [locate_eq h (Nat.le_add_right _ _) (Nat.add_le_add_left hk _), Nat.add_sub_cancel_left]

/-- Different offsets of a text have different locations. -/
theorem locate_inj {p q : Nat} (hp : p ≤ text.length) (hq : q ≤ text.length)
    (h : (ofText text).locate p = (ofText text).locate q) : p = q := by
  obtain ⟨n, row, k, hrow, hk, rfl⟩ := exists_place hp
  obtain ⟨m, other, j, hother, hj, rfl⟩ := exists_place hq
  rw [locate_place hrow hk, locate_place hother hj, Loc.mk.injEq] at h
  obtain ⟨hline, hcolumn⟩ := h
  rw [Nat.succ.inj hline, Nat.succ.inj hcolumn]

/-- Rows behind a line feed have no part in a location in front of it. -/
theorem locate_append_newline (h : (splitLines text)[n]? = some row)
    (hlo : (above (splitLines text) n).length ≤ position)
    (hhi : position ≤ (above (splitLines text) n).length + row.length) (u : Text) :
    (ofText (text ++ '\n' :: u)).locate position =
      ⟨n + 1, position - (above (splitLines text) n).length + 1⟩ := by
  have hn : n < (splitLines text).length := (List.getElem?_eq_some_iff.1 h).1
  have habove := above_splitLines_append (Nat.le_of_lt hn) u
  rw [locate_eq (getElem?_splitLines_append h u) (by rwa [habove]) (by rwa [habove]), habove]

theorem locate?_eq_ok {t : LineTable} {position : Int} (hlo : 0 ≤ position)
    (hhi : position ≤ t.length) : t.locate? position = .ok (t.locate position.toNat) := by
  simp [locate?, hlo, hhi]

theorem locate?_natCast {t : LineTable} (h : position ≤ t.length) :
    t.locate? position = .ok (t.locate position) :=
  locate?_eq_ok (Int.natCast_nonneg position) (Int.ofNat_le.2 h)

/-- The offsets on a line are those of its row, the one behind it included. -/
theorem line_locate_iff (h : (splitLines text)[n]? = some row) (hp : position ≤ text.length) :
    ((ofText text).locate position).line = n + 1 ↔
      (above (splitLines text) n).length ≤ position ∧
        position ≤ (above (splitLines text) n).length + row.length := by
  constructor
  · intro hline
    obtain ⟨m, other, hm, hlo, hhi⟩ := exists_row hp
    rw [locate_eq hm hlo hhi] at hline
    obtain rfl : m = n := Nat.succ.inj hline
    rw [h] at hm
    obtain rfl := Option.some.inj hm
    exact ⟨hlo, hhi⟩
  · intro hb
    rw [locate_eq h hb.1 hb.2]

end LineTable

/-! ## Walking -/

namespace Loc

theorem after_of_notMem {t : Text} (h : '\n' ∉ t) (l : Loc) :
    l.after t = ⟨l.line, l.column + t.length⟩ := by
  induction t generalizing l with
  | nil => rfl
  | cons c t ih =>
    have hc : c ≠ '\n' := fun he => h (he ▸ List.mem_cons_self ..)
    have hstep : l.step c = ⟨l.line, l.column + 1⟩ := if_neg hc
    have hcons : l.after (c :: t) = (l.step c).after t := rfl
    rw [hcons, hstep, ih fun hm => h (List.mem_cons_of_mem _ hm), List.length_cons]
    simp only [Nat.add_assoc, Nat.add_comm 1]

/-- Walking over rows with their line feeds ends at the start of the next line. -/
theorem after_above {rows : List Text} {n : Nat} (h : ∀ row ∈ rows, '\n' ∉ row)
    (hn : n ≤ rows.length) : origin.after (above rows n) = ⟨n + 1, 1⟩ := by
  induction n with
  | zero => rfl
  | succ n ih =>
    have hget : rows[n]? = some rows[n] := List.getElem?_eq_getElem hn
    rw [above_succ hget, after_append, after_append, ih (Nat.le_of_succ_le hn),
      after_of_notMem (h _ (List.getElem_mem hn))]
    rfl

end Loc

/-! ## Offsets of a text -/

theorem take_place {text row : Text} {n k : Nat} (h : (splitLines text)[n]? = some row)
    (hk : k ≤ row.length) : text.take ((above (splitLines text) n).length + k) =
      above (splitLines text) n ++ row.take k := by
  have hcut := congrArg (List.take ((above (splitLines text) n).length + k)) (LineTable.text_eq h)
  rw [List.take_length_add_append, List.take_append_of_le_length hk] at hcut
  exact hcut

theorem LineTable.locate_eq_after {text : Text} {position : Nat} (h : position ≤ text.length) :
    (ofText text).locate position = Loc.origin.after (text.take position) := by
  obtain ⟨n, row, k, hrow, hk, rfl⟩ := exists_place h
  have hn : n < (splitLines text).length := (List.getElem?_eq_some_iff.1 hrow).1
  have hline : '\n' ∉ row.take k := fun hm =>
    newline_notMem_of_mem_splitLines (List.mem_of_getElem? hrow) (List.mem_of_mem_take hm)
  rw [locate_place hrow hk, take_place hrow hk, Loc.after_append,
    Loc.after_above (fun _ => newline_notMem_of_mem_splitLines) (Nat.le_of_lt hn),
    Loc.after_of_notMem hline, List.length_take_of_le hk, Nat.add_comm 1]

/-! ## Offsets and their lines -/

/-- Where offset `p` of a text stands, seen from its line: `shown` is what is shown of the line, and
`k` says how far the offset is behind the start of the line. -/
inductive Standing (t shown : Text) (p k : Nat) : Prop
  | within {c : Char} (hs : shown[k]? = some c) (ht : t[p]? = some c) (hn : c ≠ '\n')
      (hr : c = '\r' → t[p + 1]? ≠ some '\n')
  | onReturn (hk : k = shown.length) (ht : t[p]? = some '\r') (hn : t[p + 1]? = some '\n')
  | onFeed (hk : k = shown.length) (ht : t[p]? = some '\n')
      (hr : ∀ i, i + 1 = p → t[i]? ≠ some '\r')
  | behindReturn {i : Nat} (hk : k = shown.length + 1) (hi : i + 1 = p) (hr : t[i]? = some '\r')
      (ht : t[p]? = some '\n')
  | atEnd (hk : k = shown.length) (hp : p = t.length)

namespace RowEnd

variable {shown row behind front : Text} {k : Nat}

theorem isPrefix (h : RowEnd shown row behind) : shown <+: row := by
  cases h with
  | returnFeed => exact List.prefix_append _ _
  | feed => exact List.prefix_refl _
  | last => exact List.prefix_refl _

/-- A carriage return that is shown has no line feed next to it. -/
theorem not_pair (h : RowEnd shown row behind) (hrow : '\n' ∉ row) (hr : shown[k]? = some '\r') :
    (row ++ behind)[k + 1]? ≠ some '\n' := by
  have hk : k < shown.length := (List.getElem?_eq_some_iff.1 hr).1
  intro hn
  by_cases hnext : k + 1 < row.length
  · rw [List.getElem?_append_left hnext] at hn
    exact hrow (List.mem_of_getElem? hn)
  -- The carriage return is the last code point of the row, so the row has no terminator of two.
  · rw [List.getElem?_append_right (Nat.le_of_not_lt hnext)] at hn
    cases h with
    | returnFeed =>
      rw [List.length_append, List.length_singleton] at hnext
      omega
    | feed rest hlast =>
      have hend : shown.length - 1 = k := by omega
      rw [List.getLast?_eq_getElem?, hend] at hlast
      exact hlast hr
    | last => cases hn

theorem getLast?_ne_return (hfront : front = [] ∨ front.getLast? = some '\n')
    (hlast : shown.getLast? ≠ some '\r') : (front ++ shown).getLast? ≠ some '\r' := by
  rw [List.getLast?_append]
  cases hs : shown.getLast? with
  | none =>
    rw [Option.none_or]
    rcases hfront with rfl | hf
    · decide
    · rw [hf]
      decide
  | some c => rwa [Option.some_or, ← hs]

/-- The text is cut around the row: `front` is what stands in front of it. Up to the end of what is
shown, the offset is within the line; behind it, each kind of terminator has its own offsets. -/
theorem standing (h : RowEnd shown row behind) (hrow : '\n' ∉ row)
    (hfront : front = [] ∨ front.getLast? = some '\n') (hk : k ≤ row.length) :
    Standing (front ++ (row ++ behind)) shown (front.length + k) k := by
  have hat : ∀ j, (front ++ (row ++ behind))[front.length + j]? = (row ++ behind)[j]? := by
    intro j
    rw [List.getElem?_append_right (Nat.le_add_right ..), Nat.add_sub_cancel_left]
  by_cases hlt : k < shown.length
  · have hs : shown[k]? = some shown[k] := List.getElem?_eq_getElem hlt
    have hr : row[k]? = some shown[k] := List.prefix_iff_getElem?.1 h.isPrefix k hlt
    refine .within hs ?_ ?_ ?_
    · rw [hat, List.getElem?_append_left (List.getElem?_eq_some_iff.1 hr).1, hr]
    · intro he
      exact hrow (he ▸ List.mem_of_getElem? hr)
    · intro he
      rw [Nat.add_assoc, hat]
      exact h.not_pair hrow (he ▸ hs)
  cases h with
  | returnFeed rest =>
    rw [List.length_append, List.length_singleton] at hk
    obtain rfl | rfl : k = shown.length ∨ k = shown.length + 1 := by omega
    · refine .onReturn rfl ?_ ?_
      · rw [hat]
        simp
      · rw [Nat.add_assoc, hat]
        simp
    · refine .behindReturn rfl (Nat.add_assoc ..) ?_ ?_
      · rw [hat]
        simp
      · rw [hat]
        simp
  | feed rest hlast =>
    obtain rfl : k = shown.length := by omega
    refine .onFeed rfl ?_ ?_
    · rw [hat]
      simp
    -- The row may be empty: then it is the end of `front` that stands before the line feed.
    · intro i hi hr
      rw [← List.append_assoc, List.getElem?_append_left (by rw [List.length_append]; omega)] at hr
      have hend := getLast?_ne_return hfront hlast
      rw [List.getLast?_eq_getElem?, List.length_append, ← hi, Nat.add_sub_cancel] at hend
      exact hend hr
  | last =>
    obtain rfl : k = shown.length := by omega
    refine .atEnd rfl ?_
    simp

end RowEnd

namespace Document

variable {d : Document} {position : Nat}

/-- Every position of a document stands on the line that its location names. -/
theorem standing (h : position ≤ d.text.length) :
    Standing d.text (d.lineText (d.table.locate position).line) position
      ((d.table.locate position).column - 1) := by
  obtain ⟨n, row, k, hrow, hk, rfl⟩ := LineTable.exists_place h
  have hline : '\n' ∉ row := newline_notMem_of_mem_splitLines (List.mem_of_getElem? hrow)
  have hfront := above_eq_nil_or (splitLines d.text) n
  have hstanding := (rowEnd_lineText hrow).standing hline hfront hk
  rw [← LineTable.text_eq hrow] at hstanding
  rw [table_eq_ofText, LineTable.locate_place hrow hk]
  exact hstanding

theorem getElem?_lineText {c : Char} (hc : d.text[position]? = some c) (hn : c ≠ '\n')
    (hr : c ≠ '\r') :
    (d.lineText (d.table.locate position).line)[(d.table.locate position).column - 1]? = some c := by
  have hlt : position < d.text.length := (List.getElem?_eq_some_iff.1 hc).1
  cases standing (Nat.le_of_lt hlt) with
  | within hs ht => exact hs.trans (ht.symm.trans hc)
  | onReturn _ ht => exact absurd (Option.some.inj (hc.symm.trans ht)) hr
  | onFeed _ ht => exact absurd (Option.some.inj (hc.symm.trans ht)) hn
  | behindReturn _ _ _ ht => exact absurd (Option.some.inj (hc.symm.trans ht)) hn
  | atEnd _ hp => exact absurd hp (Nat.ne_of_lt hlt)

/-- The line that a location names is one of the document. -/
theorem isLine_locate (h : position ≤ d.text.length) :
    IsLine d.text (d.table.locate position).line (d.lineText (d.table.locate position).line) := by
  obtain ⟨n, row, k, hrow, hk, rfl⟩ := LineTable.exists_place h
  rw [table_eq_ofText, LineTable.locate_place hrow hk]
  exact isLine_lineText hrow

theorem has_locate (h : position ≤ d.text.length) :
    d.table.Has (d.table.locate position).line := by
  obtain ⟨n, row, k, hrow, hk, rfl⟩ := LineTable.exists_place h
  rw [table_eq_ofText, LineTable.locate_place hrow hk]
  exact LineTable.has_row hrow

end Document

end MarkedText
