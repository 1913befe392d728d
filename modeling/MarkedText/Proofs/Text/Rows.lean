import MarkedText.Text.Basic

/-!
# Rows and the offsets at which they stand

A text seen as its rows: which rows a joined text is cut back into, and where in the text each row
stands. The text in front of row number `n`, counted from zero, is `above rows n`.

* `splitLines_joinLines`: rows without line feeds come back out of the text they are joined to.
* `forall_mem_intercalate`: a joined text has the code points of its parts.
* `length_splitLines`: there is one row more than there are line feeds.
* `splitLines_append_newline`: the rows on both sides of a line feed.
* `joinLines_eq`: a text around one of its rows.
* `exists_row`: every offset of a text, its end included, lies in a row or right behind it.
-/

namespace MarkedText.Text

/-! ## Cutting what has been joined -/

theorem splitLines_eq_splitOn (t : Text) : splitLines t = t.splitOn '\n' := by
  induction t with
  | nil => rfl
  | cons c t ih =>
    rw [splitLines_cons, ih, List.splitOn_cons_eq_if_modifyHead]
    cases hs : t.splitOn '\n' with
    | nil => exact absurd hs (List.splitOn_ne_nil '\n' t)
    | cons row rows => simp [consRow]

theorem splitLines_joinLines {rows : List Text} (hne : rows ≠ []) (h : ∀ row ∈ rows, '\n' ∉ row) :
    splitLines (joinLines rows) = rows := by
  rw [splitLines_eq_splitOn]
  exact List.splitOn_intercalate '\n' h hne

/-- What is true of every code point of the pieces and of what stands between them is true of every
code point of the whole. -/
theorem forall_mem_intercalate {P : Char → Prop} {between : Text} {ts : List Text}
    (hbetween : ∀ c ∈ between, P c) (h : ∀ t ∈ ts, ∀ c ∈ t, P c) :
    ∀ c ∈ List.intercalate between ts, P c := by
  induction ts with
  | nil => simp
  | cons t ts ih =>
    have ht := h t (List.mem_cons_self ..)
    have hts := ih fun u hu => h u (List.mem_cons_of_mem _ hu)
    cases ts with
    | nil => rwa [List.intercalate_singleton]
    | cons next ts =>
      rw [List.intercalate_cons_cons, List.forall_mem_append, List.forall_mem_append]
      exact ⟨⟨ht, hbetween⟩, hts⟩

theorem splitLines_of_notMem {t : Text} (h : '\n' ∉ t) : splitLines t = [t] := by
  have hrows : ∀ row ∈ [t], '\n' ∉ row := by simpa using h
  have hjoin := splitLines_joinLines (List.cons_ne_nil t []) hrows
  rwa [joinLines, List.intercalate_singleton] at hjoin

theorem length_consRow (c : Char) {rows : List Text} (h : rows ≠ []) :
    (consRow c rows).length = rows.length + if c = '\n' then 1 else 0 := by
  cases rows with
  | nil => exact absurd rfl h
  | cons row rows =>
    simp only [consRow]
    split <;> simp

theorem length_splitLines (t : Text) : (splitLines t).length = 1 + t.count '\n' := by
  induction t with
  | nil => rfl
  | cons c t ih =>
    rw [splitLines_cons, length_consRow c (splitLines_ne_nil t), ih, List.count_cons]
    simp only [beq_iff_eq]
    omega

theorem consRow_append (c : Char) {rows : List Text} (h : rows ≠ []) (us : List Text) :
    consRow c (rows ++ us) = consRow c rows ++ us := by
  cases rows with
  | nil => exact absurd rfl h
  | cons row rows =>
    simp only [consRow, List.cons_append]
    split <;> rfl

/-- A line feed between two texts keeps their rows apart. -/
theorem splitLines_append_newline (t u : Text) :
    splitLines (t ++ '\n' :: u) = splitLines t ++ splitLines u := by
  induction t with
  | nil =>
    rw [List.nil_append, splitLines_cons]
    cases h : splitLines u with
    | nil => exact absurd h (splitLines_ne_nil u)
    | cons row rows => rfl
  | cons c t ih =>
    rw [List.cons_append, splitLines_cons, ih, consRow_append c (splitLines_ne_nil t),
      splitLines_cons]

theorem getElem?_splitLines_append {t row : Text} {n : Nat} (h : (splitLines t)[n]? = some row)
    (u : Text) : (splitLines (t ++ '\n' :: u))[n]? = some row := by
  rw [splitLines_append_newline, List.getElem?_append_left (List.getElem?_eq_some_iff.1 h).1]
  exact h

theorem splitLines_cons_of_notMem {t : Text} (h : '\n' ∉ t) (u : Text) :
    splitLines (t ++ '\n' :: u) = t :: splitLines u := by
  rw [splitLines_append_newline, splitLines_of_notMem h]
  rfl

/-! ## The text in front of a row -/

/-- The rows in front of row `n`, each with the line feed behind it. -/
def above (rows : List Text) (n : Nat) : Text := (rows.take n).flatMap (· ++ ['\n'])

@[simp] theorem above_zero (rows : List Text) : above rows 0 = [] := rfl

theorem above_cons_succ (row : Text) (rows : List Text) (n : Nat) :
    above (row :: rows) (n + 1) = row ++ ['\n'] ++ above rows n := rfl

theorem above_add (rows : List Text) (n k : Nat) :
    above rows (n + k) = above rows n ++ above (rows.drop n) k := by
  rw [above, List.take_add, List.flatMap_append]
  rfl

theorem above_succ {rows : List Text} {n : Nat} {row : Text} (h : rows[n]? = some row) :
    above rows (n + 1) = above rows n ++ row ++ ['\n'] := by
  rw [above, List.take_add_one, h, List.flatMap_append, List.append_assoc]
  simp [above]

theorem above_append {rows : List Text} {n : Nat} (h : n ≤ rows.length) (us : List Text) :
    above (rows ++ us) n = above rows n := by
  rw [above, List.take_append_of_le_length h]
  rfl

theorem above_splitLines_append {t : Text} {n : Nat} (h : n ≤ (splitLines t).length) (u : Text) :
    above (splitLines (t ++ '\n' :: u)) n = above (splitLines t) n := by
  rw [splitLines_append_newline, above_append h]

theorem length_above_succ {t : Text} (h : '\n' ∉ t) (u : Text) (n : Nat) :
    (above (splitLines (t ++ '\n' :: u)) (n + 1)).length =
      t.length + 1 + (above (splitLines u) n).length := by
  rw [splitLines_cons_of_notMem h, above_cons_succ]
  simp only [List.length_append, List.length_singleton]

/-- In front of a row there is nothing, or a line feed. -/
theorem above_eq_nil_or (rows : List Text) (n : Nat) :
    above rows n = [] ∨ (above rows n).getLast? = some '\n' := by
  cases hr : (rows.take n).reverse with
  | nil =>
    refine Or.inl ?_
    rw [above, List.reverse_eq_nil_iff.1 hr]
    rfl
  | cons row rest =>
    refine Or.inr ?_
    have ht : rows.take n = rest.reverse ++ [row] := by
      rw [← List.reverse_reverse (rows.take n), hr, List.reverse_cons]
    rw [above, ht]
    simp

theorem count_above {rows : List Text} {n : Nat} (h : ∀ row ∈ rows, '\n' ∉ row)
    (hn : n ≤ rows.length) : (above rows n).count '\n' = n := by
  induction n with
  | zero => rfl
  | succ n ih =>
    have hget : rows[n]? = some rows[n] := List.getElem?_eq_getElem hn
    have hrow : rows[n].count '\n' = 0 := List.count_eq_zero.2 (h _ (List.getElem_mem hn))
    rw [above_succ hget, List.count_append, List.count_append, ih (Nat.le_of_succ_le hn), hrow]
    rfl

/-- A row ends in front of every later one. -/
theorem end_lt_above {rows : List Text} {n m : Nat} {row : Text} (h : rows[n]? = some row)
    (hm : n < m) : (above rows n).length + row.length < (above rows m).length := by
  obtain ⟨k, rfl⟩ : ∃ k, m = n + 1 + k := ⟨m - (n + 1), by omega⟩
  rw [above_add, above_succ h]
  simp only [List.length_append, List.length_cons, List.length_nil]
  omega

theorem length_above_le (rows : List Text) {n m : Nat} (hm : n ≤ m) :
    (above rows n).length ≤ (above rows m).length := by
  obtain ⟨k, rfl⟩ : ∃ k, m = n + k := ⟨m - n, by omega⟩
  rw [above_add, List.length_append]
  omega

/-! ## A text around one row -/

theorem joinLines_cons_cons (row next : Text) (rows : List Text) :
    joinLines (row :: next :: rows) = row ++ ['\n'] ++ joinLines (next :: rows) :=
  List.intercalate_cons_cons

theorem joinLines_cons (row : Text) (rows : List Text) :
    joinLines (row :: rows) = row ++ rows.flatMap ('\n' :: ·) := by
  induction rows generalizing row with
  | nil => simp [joinLines]
  | cons next rows ih =>
    rw [joinLines_cons_cons, ih next, List.flatMap_cons]
    simp

theorem joinLines_eq {rows : List Text} {n : Nat} {row : Text} (h : rows[n]? = some row) :
    joinLines rows = above rows n ++ (row ++ (rows.drop (n + 1)).flatMap ('\n' :: ·)) := by
  induction n generalizing rows with
  | zero =>
    cases rows with
    | nil => cases h
    | cons first rows =>
      obtain rfl : first = row := Option.some.inj h
      exact joinLines_cons first rows
  | succ n ih =>
    cases rows with
    | nil => cases h
    | cons first rows =>
      cases rows with
      | nil => cases h
      | cons next rows =>
        rw [joinLines_cons_cons, ih h, above_cons_succ, ← List.append_assoc]
        rfl

/-- The induction drops the first row while the offset lies behind it. -/
theorem exists_row_of_joinLines {rows : List Text} {p : Nat} (hne : rows ≠ [])
    (h : p ≤ (joinLines rows).length) :
    ∃ (n : Nat) (row : Text), rows[n]? = some row ∧
      (above rows n).length ≤ p ∧ p ≤ (above rows n).length + row.length := by
  induction rows generalizing p with
  | nil => exact absurd rfl hne
  | cons row rows ih =>
    by_cases hp : p ≤ row.length
    · exact ⟨0, row, rfl, Nat.zero_le _, by simpa using hp⟩
    cases rows with
    | nil =>
      rw [joinLines, List.intercalate_singleton] at h
      exact absurd h hp
    | cons next rows =>
      rw [joinLines_cons_cons, List.length_append, List.length_append] at h
      have hrest : p - (row.length + 1) ≤ (joinLines (next :: rows)).length := by
        simp only [List.length_cons, List.length_nil] at h
        omega
      obtain ⟨n, r, hr, hlo, hhi⟩ := ih (List.cons_ne_nil _ _) hrest
      refine ⟨n + 1, r, hr, ?_, ?_⟩ <;>
        rw [above_cons_succ, List.length_append, List.length_append] <;>
        simp only [List.length_cons, List.length_nil] <;> omega

theorem exists_row {t : Text} {p : Nat} (h : p ≤ t.length) :
    ∃ (n : Nat) (row : Text), (splitLines t)[n]? = some row ∧
      (above (splitLines t) n).length ≤ p ∧ p ≤ (above (splitLines t) n).length + row.length := by
  refine exists_row_of_joinLines (splitLines_ne_nil t) ?_
  rw [joinLines_splitLines]
  exact h

end MarkedText.Text
