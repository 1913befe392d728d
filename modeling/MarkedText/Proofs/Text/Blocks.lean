import MarkedText.Proofs.Text.Rows

/-!
# Texts with empty rows between

Several texts are written one after the other with an empty row between each and the next. They come
back out of the whole when it is cut at pairs of line feeds, unless one of them has an empty row of
its own: a pair of line feeds in the middle of a text, or one at its end that the cut takes for half
of a pair, would move the cuts.

* `splitBlocks`: the pieces between pairs of line feeds.
* `Solid`, `solid_of_notMem`: texts without an empty row.
* `splitBlocks_append`: no cut goes through a solid text, whatever stands behind it.
* `splitBlocks_intercalate`: solid texts come back out of the text they are joined to.
-/

namespace MarkedText.Text

/-- The pieces of a text between pairs of line feeds. Pairs are found from the left and do not
overlap, so that of three line feeds in a row the last one begins a piece. -/
def splitBlocks : Text → List Text
  | [] => [[]]
  | '\n' :: '\n' :: t => [] :: splitBlocks t
  | c :: t => (splitBlocks t).modifyHead (c :: ·)

example : splitBlocks "a\n\n\nb\n".toList = ["a".toList, "\nb\n".toList] := by decide

/-- No row of the text is empty. -/
def Solid (t : Text) : Prop := ∀ row ∈ splitLines t, row ≠ []

variable {row t u : Text} {rows ts : List Text}

theorem solid_of_notMem (hne : t ≠ []) (h : '\n' ∉ t) : Solid t := by
  unfold Solid
  rw [splitLines_of_notMem h]
  simpa using hne

/-! ## Cutting -/

theorem splitBlocks_cons {c : Char} (h : c ≠ '\n' ∨ t.head? ≠ some '\n') :
    splitBlocks (c :: t) = (splitBlocks t).modifyHead (c :: ·) := by
  rw [splitBlocks]
  rintro u rfl rfl
  simp at h

theorem splitBlocks_row (h : '\n' ∉ row) (u : Text) :
    splitBlocks (row ++ u) = (splitBlocks u).modifyHead (row ++ ·) := by
  induction row with
  | nil => exact (congrFun List.modifyHead_id (splitBlocks u)).symm
  | cons c row ih =>
    simp only [List.mem_cons, not_or] at h
    rw [List.cons_append, splitBlocks_cons (Or.inl (Ne.symm h.1)), ih h.2, List.modifyHead_modifyHead]
    rfl

/-- The induction is on the rows: a line feed between two of them has a code point of the second
behind it, so that it is not half of a pair, and nor is the first code point behind the last row. -/
theorem splitBlocks_rows (hne : rows ≠ []) (h : ∀ row ∈ rows, row ≠ [] ∧ '\n' ∉ row) (u : Text) :
    splitBlocks (joinLines rows ++ u) = (splitBlocks u).modifyHead (joinLines rows ++ ·) := by
  induction rows with
  | nil => exact absurd rfl hne
  | cons row rows ih =>
    have hrow := h row (List.mem_cons_self ..)
    cases rows with
    | nil =>
      rw [joinLines, List.intercalate_singleton]
      exact splitBlocks_row hrow.2 u
    | cons next rows =>
      have hrest : ∀ row ∈ next :: rows, row ≠ [] ∧ '\n' ∉ row :=
        fun row hr => h row (List.mem_cons_of_mem _ hr)
      have hnext := hrest next (List.mem_cons_self ..)
      have hhead : (joinLines (next :: rows) ++ u).head? ≠ some '\n' := by
        obtain ⟨c, v, rfl⟩ := List.exists_cons_of_ne_nil hnext.1
        have hc := hnext.2
        simp only [List.mem_cons, not_or] at hc
        simp [joinLines_cons, Ne.symm hc.1]
      rw [joinLines_cons_cons, List.append_assoc, List.append_assoc, splitBlocks_row hrow.2,
        List.singleton_append, splitBlocks_cons (Or.inr hhead), ih (List.cons_ne_nil _ _) hrest,
        List.modifyHead_modifyHead, List.modifyHead_modifyHead]
      congr 1
      funext v
      simp

theorem splitBlocks_append (h : Solid t) (u : Text) :
    splitBlocks (t ++ u) = (splitBlocks u).modifyHead (t ++ ·) := by
  have hrows := splitBlocks_rows (splitLines_ne_nil t)
    (fun row hr => ⟨h row hr, newline_notMem_of_mem_splitLines hr⟩) u
  rwa [joinLines_splitLines] at hrows

/-! ## Joining -/

theorem splitBlocks_intercalate (hne : ts ≠ []) (h : ∀ t ∈ ts, Solid t) :
    splitBlocks (List.intercalate ['\n', '\n'] ts) = ts := by
  induction ts with
  | nil => exact absurd rfl hne
  | cons t ts ih =>
    have ht := h t (List.mem_cons_self ..)
    cases ts with
    | nil =>
      have hend := splitBlocks_append ht []
      rw [List.append_nil] at hend
      rw [List.intercalate_singleton, hend]
      simp [splitBlocks]
    | cons next ts =>
      have hrest : ∀ t ∈ next :: ts, Solid t := fun t hm => h t (List.mem_cons_of_mem _ hm)
      rw [List.intercalate_cons_cons, List.append_assoc, splitBlocks_append ht, List.cons_append,
        List.singleton_append, splitBlocks, ih (List.cons_ne_nil _ _) hrest]
      simp

end MarkedText.Text
