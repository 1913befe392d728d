import Mathlib.Data.Set.Function
import MarkedText.Proofs.Document.Location

/-!
# Offsets and locations

A walk over a text passes its locations in the order of lines and columns, and bisection finds the
location at which a walk of a given length ends. An offset of a text, its end included, and a location
on its lines both come down to a row and a place in that row, from its first code point to the place
behind its last one. So offsets and locations correspond to each other one to one.

* `Loc.Before`, `Loc.before_after`: the order of locations; a walk goes up in it.
* `LineTable.Holds`, `LineTable.offset`: the locations on the lines of a table, and their offsets.
* `LineTable.offset_place`, `LineTable.Holds.exists_place`: locations as places in rows.
* `LineTable.bisection_eq_walk`: every integer is located where the walk ends, or refused.
* `LineTable.locate_bijOn`: the correspondence.
-/

namespace MarkedText

open Text

/-! ## The order of locations -/

namespace Loc

/-- On an earlier line, or in an earlier column of the same line. -/
def Before (l m : Loc) : Prop := l.line < m.line ∨ l.line = m.line ∧ l.column < m.column

theorem Before.trans {l m n : Loc} (h : l.Before m) (h' : m.Before n) : l.Before n := by
  unfold Before at *
  omega

theorem before_step (l : Loc) (c : Char) : l.Before (l.step c) := by
  unfold step
  split
  · exact Or.inl (Nat.lt_succ_self l.line)
  · exact Or.inr ⟨rfl, Nat.lt_succ_self l.column⟩

/-- A walk over at least one code point goes up. -/
theorem before_after (l : Loc) {t : Text} (h : t ≠ []) : l.Before (l.after t) := by
  induction t generalizing l with
  | nil => exact absurd rfl h
  | cons c t ih =>
    -- The first code point goes up, and so does the walk over the others, if there are any.
    have hstep := l.before_step c
    by_cases ht : t = []
    · rw [ht]
      exact hstep
    · exact hstep.trans (ih (l.step c) ht)

end Loc

/-! ## Places in rows -/

namespace LineTable

/-- The offset of a location: columns are counted from the start of their line. -/
def offset (t : LineTable) (l : Loc) : Nat := t.start l.line + l.column - 1

/-- The locations on the lines of a table. The last column of a line is the one behind its text. -/
structure Holds (t : LineTable) (l : Loc) : Prop where
  one_le_line : 1 ≤ l.line
  line_le : l.line ≤ t.count
  one_le_column : 1 ≤ l.column
  column_le : t.start l.line + l.column ≤ t.stop l.line + 1

variable {text row : Text} {l : Loc} {n k p q : Nat}

theorem offset_place (h : (splitLines text)[n]? = some row) (k : Nat) :
    (ofText text).offset ⟨n + 1, k + 1⟩ = (above (splitLines text) n).length + k := by
  rw [offset, start_eq h]
  rfl

theorem place_le_length (h : (splitLines text)[n]? = some row) (hk : k ≤ row.length) :
    (above (splitLines text) n).length + k ≤ text.length := by
  have hlen := congrArg List.length (text_eq h)
  rw [List.length_append, List.length_append] at hlen
  omega

theorem holds_place_iff (h : (splitLines text)[n]? = some row) :
    (ofText text).Holds ⟨n + 1, k + 1⟩ ↔ k ≤ row.length := by
  have hn : n < (splitLines text).length := (List.getElem?_eq_some_iff.1 h).1
  have hstart := start_eq h
  have hstop := stop_eq h
  constructor
  · intro hl
    have hcolumn := hl.column_le
    simp only [hstart, hstop] at hcolumn
    omega
  · intro hk
    refine ⟨Nat.succ_pos n, ?_, Nat.succ_pos k, ?_⟩
    · rw [count_eq]
      exact hn
    · simp only [hstart, hstop]
      omega

theorem Holds.exists_place (h : (ofText text).Holds l) :
    ∃ n row k, (splitLines text)[n]? = some row ∧ k ≤ row.length ∧ l = ⟨n + 1, k + 1⟩ := by
  obtain ⟨line, column⟩ := l
  have hhas : (ofText text).Has line := ⟨Int.ofNat_le.2 h.one_le_line, Int.ofNat_le.2 h.line_le⟩
  obtain ⟨n, row, rfl, hrow⟩ := exists_row_of_has hhas
  obtain ⟨k, rfl⟩ := Nat.exists_eq_succ_of_ne_zero (Nat.ne_of_gt h.one_le_column)
  exact ⟨n, row, k, hrow, (holds_place_iff hrow).1 h, rfl⟩

/-! ## There and back -/

theorem holds_locate (h : p ≤ text.length) : (ofText text).Holds ((ofText text).locate p) := by
  obtain ⟨n, row, k, hrow, hk, rfl⟩ := exists_place h
  rw [locate_place hrow hk, holds_place_iff hrow]
  exact hk

theorem offset_locate (h : p ≤ text.length) :
    (ofText text).offset ((ofText text).locate p) = p := by
  obtain ⟨n, row, k, hrow, hk, rfl⟩ := exists_place h
  rw [locate_place hrow hk, offset_place hrow]

theorem Holds.offset_le (h : (ofText text).Holds l) : (ofText text).offset l ≤ text.length := by
  obtain ⟨n, row, k, hrow, hk, rfl⟩ := h.exists_place
  rw [offset_place hrow]
  exact place_le_length hrow hk

theorem Holds.locate_offset (h : (ofText text).Holds l) :
    (ofText text).locate ((ofText text).offset l) = l := by
  obtain ⟨n, row, k, hrow, hk, rfl⟩ := h.exists_place
  rw [offset_place hrow, locate_place hrow hk]

/-- The walk to a later offset goes on from the earlier one. -/
theorem locate_before (hpq : p < q) (hq : q ≤ text.length) :
    ((ofText text).locate p).Before ((ofText text).locate q) := by
  have hne : (text.drop p).take (q - p) ≠ [] := by
    apply List.ne_nil_of_length_pos
    rw [List.length_take, List.length_drop]
    omega
  have hcut : text.take q = text.take p ++ (text.drop p).take (q - p) := by
    rw [← List.take_add, Nat.add_sub_cancel' (Nat.le_of_lt hpq)]
  rw [locate_eq_after (Nat.le_trans (Nat.le_of_lt hpq) hq), locate_eq_after hq, hcut,
    Loc.after_append]
  exact Loc.before_after _ hne

/-! ## Main results -/

/-- **Bisection follows the walk.** An integer from zero to the length of the text is located where a
walk over so many code points ends, and every other one is refused. -/
theorem bisection_eq_walk (text : Text) (position : Int) :
    (ofText text).locate? position =
      if 0 ≤ position ∧ position ≤ text.length then
        .ok (Loc.origin.after (text.take position.toNat))
      else .error (.positionOutside position text.length) := by
  rw [locate?, length_ofText]
  split
  · next h => rw [locate_eq_after (by omega)]
  · rfl

/-- Looking up both ends of a line is refused exactly for the numbers of no line. -/
theorem ends_eq (t : LineTable) (n : Int) :
    if 1 ≤ n ∧ n ≤ t.count then t.start? n = .ok (t.start n.toNat) ∧ t.stop? n = .ok (t.stop n.toNat)
    else t.start? n = .error (.lineOutside n t.count) ∧
      t.stop? n = .error (.lineOutside n t.count) := by
  by_cases h : t.Has n
  · rw [if_pos (show 1 ≤ n ∧ n ≤ t.count from h)]
    exact ⟨if_pos h, if_pos h⟩
  · rw [if_neg (show ¬ (1 ≤ n ∧ n ≤ t.count) from h)]
    exact ⟨if_neg h, if_neg h⟩

/-- **Correspondence.** Bisection takes the offsets of a text one to one onto the locations on its
lines and keeps their order, and `offset` takes them back. Exactly the lines of the text have a start
and a stop. -/
theorem locate_bijOn (text : Text) :
    let t := ofText text
    (∀ p ≤ text.length, t.locate? p = .ok (t.locate p)) ∧
    Set.BijOn t.locate {p | p ≤ text.length} {l | t.Holds l} ∧
    Set.InvOn t.offset t.locate {p | p ≤ text.length} {l | t.Holds l} ∧
    (∀ p q, p < q → q ≤ text.length → (t.locate p).Before (t.locate q)) ∧
    ∀ n : Int,
      if 1 ≤ n ∧ n ≤ t.count then
        t.start? n = .ok (t.start n.toNat) ∧ t.stop? n = .ok (t.stop n.toNat)
      else t.start? n = .error (.lineOutside n t.count) ∧
        t.stop? n = .error (.lineOutside n t.count) := by
  intro t
  have hinv : Set.InvOn t.offset t.locate {p | p ≤ text.length} {l | t.Holds l} :=
    ⟨fun _ => offset_locate, fun _ => Holds.locate_offset⟩
  have hlocate : ∀ p ≤ text.length, t.locate? p = .ok (t.locate p) :=
    fun p hp => locate?_natCast (by rw [length_ofText]; exact hp)
  exact ⟨hlocate, hinv.bijOn (fun _ => holds_locate) (fun _ => Holds.offset_le), hinv,
    fun p q => locate_before, t.ends_eq⟩

/-- The line feed of a terminator of two code points has a column of its own, the third one, and the
code point behind it starts the next line. -/
theorem locate_bijOn_returnFeed :
    let t := ofText "a\r\nb".toList
    t.Holds ⟨1, 3⟩ ∧ t.Holds ⟨2, 1⟩ ∧ t.locate 2 = ⟨1, 3⟩ ∧ t.locate 3 = ⟨2, 1⟩ ∧
      (t.locate 2).Before (t.locate 3) := by
  intro t
  have hfeed : t.Holds ⟨1, 3⟩ := ⟨by decide, by decide, by decide, by decide⟩
  have hnext : t.Holds ⟨2, 1⟩ := ⟨by decide, by decide, by decide, by decide⟩
  obtain ⟨-, -, ⟨-, hback⟩, hbefore, -⟩ := locate_bijOn "a\r\nb".toList
  exact ⟨hfeed, hnext, hback hfeed, hback hnext, hbefore 2 3 (by decide) (by decide)⟩

end LineTable

end MarkedText
