import Mathlib.Data.List.Basic
import MarkedText.Check.LineBreak
import MarkedText.Proofs.Text.Rows

/-!
# Texts between line breaks

Which texts are trimmed to a given one. Trimming takes one break off either side, the leading one
first, so that in a short text both sides may want the same break. Around a text that neither starts
nor ends with a code point of a break they do not. What is left to see to is a carriage return at the
end of the text, which makes up a single break with a line feed behind it.

* `exists_append_dropLeadingBreak`, `exists_dropTrailingBreak_append`: what is taken off, and that
  nothing else is.
* `dropLeadingBreak_append`, `dropLeadingBreak_of_plain`, `dropTrailingBreak_of_plain`: where a break
  is taken off, and where none is.
* `dropLeadingBreak_eq_self_iff`, `dropTrailingBreak_eq_self_iff`: which texts a side leaves alone.
* `Wraps`: a text with line breaks around it.
* `Compact`, `compact_joinLines`: texts without a break at an edge, and rows that make up one.
* `wraps_trimBreaks`: every text is what it is trimmed to with breaks or nothing around it.
* `trimBreaks_eq_iff`: what is trimmed to a compact text.
* `trimBreaks_verdict`: what becomes of any text between two breaks, and which texts stay as they are.
-/

namespace MarkedText.Text

/-- The line breaks that trimming knows. -/
def lineBreaks : List Text := [['\n'], ['\r', '\n']]

variable {t r b : Text}

theorem mem_lineBreaks : b ∈ lineBreaks ↔ b = ['\n'] ∨ b = ['\r', '\n'] := by
  simp [lineBreaks]

/-! ## One side -/

theorem dropLeadingBreak_append (hb : b ∈ lineBreaks) (r : Text) : dropLeadingBreak (b ++ r) = r := by
  obtain rfl | rfl := mem_lineBreaks.1 hb
  · exact dropLeading_newline r
  · exact dropLeading_pair r

theorem dropLeadingBreak_of_plain (h : ∀ b ∈ lineBreaks, ¬ b <+: t) : dropLeadingBreak t = t := by
  unfold dropLeadingBreak
  split
  · exact absurd (List.prefix_append _ _) (h ['\r', '\n'] (by simp [lineBreaks]))
  · exact absurd (List.prefix_append _ _) (h ['\n'] (by simp [lineBreaks]))
  · rfl

/-- A text is what is left of it behind a break or behind nothing. -/
theorem exists_append_dropLeadingBreak (t : Text) :
    ∃ b ∈ [] :: lineBreaks, t = b ++ dropLeadingBreak t := by
  unfold dropLeadingBreak
  split
  · exact ⟨['\r', '\n'], by simp [lineBreaks], rfl⟩
  · exact ⟨['\n'], by simp [lineBreaks], rfl⟩
  · exact ⟨[], by simp, rfl⟩

theorem dropTrailingBreak_of_plain (h : t.getLast? ≠ some '\n') : dropTrailingBreak t = t := by
  have hhead : t.reverse.head? ≠ some '\n' := by simpa using h
  unfold dropTrailingBreak
  split
  · next heq => exact absurd (by rw [heq]; rfl) hhead
  · next heq => exact absurd (by rw [heq]; rfl) hhead
  · rfl

/-- A line feed behind a text is taken off together with the carriage return that the text ends in. -/
theorem dropTrailingBreak_newline (t : Text) :
    dropTrailingBreak (t ++ ['\n']) = if t.getLast? = some '\r' then t.dropLast else t := by
  split
  · next h =>
    obtain ⟨u, rfl⟩ := List.getLast?_eq_some_iff.1 h
    rw [List.append_assoc, List.dropLast_concat]
    exact dropTrailing_pair u
  · next h => exact dropTrailing_newline h

/-- A text is what is left of it in front of a break or of nothing. A line feed is taken off alone
only where there is no carriage return to go with it. -/
theorem exists_dropTrailingBreak_append (t : Text) :
    ∃ b ∈ [] :: lineBreaks, t = dropTrailingBreak t ++ b ∧
      (b = ['\n'] → (dropTrailingBreak t).getLast? ≠ some '\r') := by
  unfold dropTrailingBreak
  split
  · next r heq =>
    have ht := List.reverse_eq_iff.1 heq
    exact ⟨['\r', '\n'], by simp [lineBreaks], by simp [ht], by simp⟩
  · next r hpair heq =>
    have ht := List.reverse_eq_iff.1 heq
    refine ⟨['\n'], by simp [lineBreaks], by simp [ht], fun _ hlast => ?_⟩
    rw [List.getLast?_reverse] at hlast
    obtain ⟨u, rfl⟩ := List.head?_eq_some_iff.1 hlast
    exact hpair u rfl
  · exact ⟨[], by simp, by simp, by simp⟩

theorem dropLeadingBreak_eq_self_iff : dropLeadingBreak t = t ↔ ∀ b ∈ lineBreaks, ¬ b <+: t := by
  refine ⟨fun h b hb hprefix => ?_, dropLeadingBreak_of_plain⟩
  obtain ⟨u, rfl⟩ := hprefix
  rw [dropLeadingBreak_append hb] at h
  have hlength := congrArg List.length h
  have hpos : 0 < b.length := by rcases mem_lineBreaks.1 hb with rfl | rfl <;> decide
  rw [List.length_append] at hlength
  omega

theorem dropTrailingBreak_eq_self_iff : dropTrailingBreak t = t ↔ ¬ ['\n'] <:+ t := by
  constructor
  · intro h hsuffix
    obtain ⟨u, rfl⟩ := hsuffix
    rw [dropTrailingBreak_newline] at h
    have hlength := congrArg List.length h
    rw [List.length_append, List.length_singleton] at hlength
    split at hlength
    · rw [List.length_dropLast] at hlength
      omega
    · omega
  · intro h
    apply dropTrailingBreak_of_plain
    intro hlast
    obtain ⟨u, rfl⟩ := List.getLast?_eq_some_iff.1 hlast
    exact h (List.suffix_append u _)

/-! ## Both sides -/

/-- `t` is `r` with a line break or nothing on either side. A carriage return at the end of `r` and a
line feed behind it are one break, which is not around `r`. -/
def Wraps (r t : Text) : Prop :=
  ∃ front ∈ [] :: lineBreaks, ∃ back ∈ [] :: lineBreaks,
    t = front ++ r ++ back ∧ ¬ (back = ['\n'] ∧ r.getLast? = some '\r')

instance (r t : Text) : Decidable (Wraps r t) :=
  inferInstanceAs (Decidable (∃ front ∈ [] :: lineBreaks, ∃ back ∈ [] :: lineBreaks,
    t = front ++ r ++ back ∧ ¬ (back = ['\n'] ∧ r.getLast? = some '\r')))

/-- A text that is not empty, and at whose edges trimming takes off nothing that belongs to it. -/
structure Compact (r : Text) : Prop where
  ne_nil : r ≠ []
  head : ∀ c ∈ r.head?, c ≠ '\n' ∧ c ≠ '\r'
  last : r.getLast? ≠ some '\n'

namespace Compact

/-- Nothing put behind a compact text makes it start with a break. -/
theorem not_prefix (hr : Compact r) (back : Text) : ∀ b ∈ lineBreaks, ¬ b <+: r ++ back := by
  intro b hb hprefix
  obtain ⟨c, u, hcu⟩ := List.exists_cons_of_ne_nil hr.ne_nil
  obtain ⟨hfeed, hreturn⟩ := hr.head c (by simp [hcu])
  rw [hcu, List.cons_append] at hprefix
  obtain rfl | rfl := mem_lineBreaks.1 hb
  · exact hfeed (List.cons_prefix_cons.1 hprefix).1.symm
  · exact hreturn (List.cons_prefix_cons.1 hprefix).1.symm

theorem dropLeadingBreak_eq (hr : Compact r) {front : Text} (hf : front ∈ [] :: lineBreaks)
    (back : Text) : dropLeadingBreak (front ++ (r ++ back)) = r ++ back := by
  obtain rfl | hf := List.mem_cons.1 hf
  · exact dropLeadingBreak_of_plain (hr.not_prefix back)
  · exact dropLeadingBreak_append hf _

theorem dropTrailingBreak_eq (hr : Compact r) {back : Text} (hb : back ∈ [] :: lineBreaks)
    (hn : ¬ (back = ['\n'] ∧ r.getLast? = some '\r')) : dropTrailingBreak (r ++ back) = r := by
  obtain rfl | hb := List.mem_cons.1 hb
  · rw [List.append_nil]
    exact dropTrailingBreak_of_plain hr.last
  · obtain rfl | rfl := mem_lineBreaks.1 hb
    · exact dropTrailing_newline fun hlast => hn ⟨rfl, hlast⟩
    · exact dropTrailing_pair r

end Compact

/-- The last of joined rows ends them. -/
theorem getLast?_joinLines_ne {rows : List Text} (h : ∀ row ∈ rows, row ≠ [] ∧ '\n' ∉ row) :
    (joinLines rows).getLast? ≠ some '\n' := by
  induction rows with
  | nil => simp [joinLines]
  | cons row rows ih =>
    cases rows with
    | nil =>
      intro hlast
      rw [joinLines, List.intercalate_singleton] at hlast
      exact (h row (List.mem_cons_self ..)).2 (List.mem_of_getLast? hlast)
    | cons next rows =>
      have hrest : ∀ row ∈ next :: rows, row ≠ [] ∧ '\n' ∉ row :=
        fun row hrow => h row (List.mem_cons_of_mem _ hrow)
      have hne : joinLines (next :: rows) ≠ [] := by
        rw [joinLines_cons]
        exact List.append_ne_nil_of_left_ne_nil (hrest next (List.mem_cons_self ..)).1 _
      rw [joinLines_cons_cons, List.getLast?_append_of_ne_nil _ hne]
      exact ih hrest

/-- Rows that are not empty and hold no break make up a compact text; only the first of them must not
start with a carriage return, and any of them may end in one. -/
theorem compact_joinLines {row : Text} {rows : List Text}
    (h : ∀ row' ∈ row :: rows, row' ≠ [] ∧ '\n' ∉ row') (hr : row.head? ≠ some '\r') :
    Compact (joinLines (row :: rows)) := by
  have hrow := h row (List.mem_cons_self ..)
  obtain ⟨c, u, rfl⟩ := List.exists_cons_of_ne_nil hrow.1
  refine ⟨?_, ?_, getLast?_joinLines_ne h⟩
  · simp [joinLines_cons]
  · intro x hx
    simp only [joinLines_cons, List.cons_append, List.head?_cons, Option.mem_some] at hx
    subst hx
    refine ⟨?_, ?_⟩
    · intro he
      exact hrow.2 (he ▸ List.mem_cons_self ..)
    · intro he
      exact hr (congrArg some he)

theorem wraps_trimBreaks (t : Text) : Wraps (trimBreaks t) t := by
  obtain ⟨front, hfront, ht⟩ := exists_append_dropLeadingBreak t
  obtain ⟨back, hback, hu, hfeed⟩ := exists_dropTrailingBreak_append (dropLeadingBreak t)
  refine ⟨front, hfront, back, hback, ?_, fun hn => hfeed hn.1 hn.2⟩
  rw [List.append_assoc]
  exact ht.trans (congrArg (front ++ ·) hu)

/-- Trimming gives a compact text exactly where line breaks stand around it. -/
theorem trimBreaks_eq_iff (hr : Compact r) : trimBreaks t = r ↔ Wraps r t := by
  constructor
  · intro h
    rw [← h]
    exact wraps_trimBreaks t
  · intro h
    obtain ⟨front, hfront, back, hback, ht, hn⟩ := h
    unfold trimBreaks
    rw [ht, List.append_assoc, hr.dropLeadingBreak_eq hfront, hr.dropTrailingBreak_eq hback hn]

/-! ## Any text -/

theorem trimBreaks_between {front back : Text} (hf : front ∈ lineBreaks) (hb : back ∈ lineBreaks)
    (t : Text) : trimBreaks (front ++ t ++ back) =
      if back = ['\n'] ∧ t.getLast? = some '\r' then t.dropLast else t := by
  unfold trimBreaks
  rw [List.append_assoc, dropLeadingBreak_append hf]
  rcases mem_lineBreaks.1 hb with rfl | rfl
  · simpa using dropTrailingBreak_newline t
  · simpa using dropTrailing_pair t

/-- Nothing is taken off on one side only to be made up for on the other. -/
theorem drop_eq_self_of_trimBreaks (h : trimBreaks t = t) :
    dropLeadingBreak t = t ∧ dropTrailingBreak t = t := by
  obtain ⟨front, -, ht⟩ := exists_append_dropLeadingBreak t
  obtain ⟨back, -, hu, -⟩ := exists_dropTrailingBreak_append (dropLeadingBreak t)
  have hlead := congrArg List.length ht
  have htrail := congrArg List.length hu
  unfold trimBreaks at h
  simp only [h, List.length_append] at hlead htrail
  have hfront : front = [] := List.length_eq_zero_iff.1 (by omega)
  rw [hfront, List.nil_append] at ht
  rw [← ht] at h
  exact ⟨ht.symm, h⟩

theorem trimBreaks_eq_self_iff :
    trimBreaks t = t ↔ (∀ b ∈ lineBreaks, ¬ b <+: t) ∧ ¬ ['\n'] <:+ t := by
  rw [← dropLeadingBreak_eq_self_iff, ← dropTrailingBreak_eq_self_iff]
  constructor
  · exact drop_eq_self_of_trimBreaks
  · intro ⟨hlead, htrail⟩
    rw [trimBreaks, hlead, htrail]

/-- **Trimming.** Between two line breaks any text is what is left, but for a carriage return at its
end that makes up one break with a single line feed. A text stays as it is exactly when no break
stands at its start and no line feed at its end. No more than one break is ever taken off on either
side. -/
theorem trimBreaks_verdict :
    (∀ t, ∀ front ∈ lineBreaks, ∀ back ∈ lineBreaks, trimBreaks (front ++ t ++ back) =
      if back = ['\n'] ∧ t.getLast? = some '\r' then t.dropLast else t) ∧
    (∀ t, trimBreaks t = t ↔ (∀ b ∈ lineBreaks, ¬ b <+: t) ∧ ¬ ['\n'] <:+ t) ∧
    ∀ t, ∃ front ∈ [] :: lineBreaks, ∃ back ∈ [] :: lineBreaks,
      t = front ++ trimBreaks t ++ back := by
  refine ⟨fun t front hf back hb => trimBreaks_between hf hb t, fun t => trimBreaks_eq_self_iff,
    fun t => ?_⟩
  obtain ⟨front, hf, back, hb, ht, -⟩ := wraps_trimBreaks t
  exact ⟨front, hf, back, hb, ht⟩

/-- The carriage return at the end of a text is lost between a pair and a line feed. -/
theorem trimBreaks_lastReturn :
    ['\r', '\n'] ∈ lineBreaks ∧ ['\n'] ∈ lineBreaks ∧
      trimBreaks (['\r', '\n'] ++ ['a', '\r'] ++ ['\n']) = ['a'] := by
  have hfront : ['\r', '\n'] ∈ lineBreaks := by decide
  have hback : ['\n'] ∈ lineBreaks := by decide
  exact ⟨hfront, hback, trimBreaks_verdict.1 ['a', '\r'] _ hfront _ hback⟩

end MarkedText.Text
