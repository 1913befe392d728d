import Mathlib.Algebra.GroupWithZero.Nat
import MarkedText.Proofs.Document.Location
import MarkedText.Proofs.Marker.Concatenation
import MarkedText.Proofs.Marker.Locality

/-!
# Stripping line by line

No token holds a line feed, so a text can be stripped line by line: each row of the raw text is
accepted alone, and what it gives is the same row of the clean text. The markers of a row are moved to
where the row starts, in the clean text and in the raw one, and those of other rows stand in front of
it or behind it. From this follow the lines and columns of the markers.

* `length_render`, `removeTokens_render`: how much longer the tokens make a text, and how they are
  taken out of it.
* `strip_of_newline`: stripping a text with a line feed in it strips both sides of it.
* `exists_rowOf`: each row is stripped alone (`RowOf`).
* `RowOf.filter_onLine`: the markers on a line are those of its row.
* `ofRaw_lines`: the line structure of a captured text.
-/

namespace MarkedText

open Text

/-! ## Tokens by their places -/

/-- The length of the token of a marker: the label and the three delimiters. -/
def Marker.width (m : Marker) : Nat := (m.label.getD []).length + 3

/-- The raw text from offset `n` on without the tokens of the markers. -/
def removeTokens : Nat → Text → List Marker → Text
  | _, t, [] => t
  | n, t, m :: ms =>
    let start := m.sourceOffset.toNat
    t.take (start - n) ++ removeTokens (start + m.width) (t.drop (start + m.width - n)) ms

/-- Whether a marker stands on line `n` of the text that `table` belongs to. -/
def Marker.onLine (table : LineTable) (n : Nat) (m : Marker) : Bool :=
  (table.locate m.sourceOffset.toNat).line == n

theorem Marker.width_shift (n m : Nat) (k : Marker) : (k.shift n m).width = k.width := rfl

theorem Marker.map_shift_map_shift (a b n m : Nat) (ks : List Marker) :
    (ks.map (shift a b)).map (shift n m) = ks.map (shift (n + a) (m + b)) := by
  rw [List.map_map]
  refine List.map_congr_left fun k _ => ?_
  simp only [Function.comp_apply, shift, Marker.mk.injEq, true_and]
  omega

namespace Template

variable {d : Delimiters}

theorem length_renderTail (d : Delimiters) (n m : Nat) (ps : List (Option Text × Text)) :
    (ps.flatMap (renderPart d)).length =
      (ps.flatMap Prod.snd).length + ((markersFrom d n m ps).map Marker.width).sum := by
  induction ps generalizing n m with
  | nil => rfl
  | cons p ps ih =>
    have htail := ih (n + p.2.length) (m + (renderPart d p).length)
    have hpart := length_renderPart d p
    simp only [List.flatMap_cons, List.length_append, markersFrom, List.map_cons, List.sum_cons,
      Marker.width]
    omega

theorem length_render (d : Delimiters) (t : Template) :
    (t.render d).length = t.clean.length + ((t.markers d).map Marker.width).sum := by
  rw [render, clean, markers, List.length_append, List.length_append, length_renderTail, Nat.add_assoc]

/-- `u` is what stands in front of the next token since offset `m` of the raw text. -/
theorem removeTokens_markersFrom (d : Delimiters) (n m : Nat) (u : Text)
    (ps : List (Option Text × Text)) :
    removeTokens m (u ++ ps.flatMap (renderPart d)) (markersFrom d n (m + u.length) ps) =
      u ++ ps.flatMap Prod.snd := by
  induction ps generalizing n m u with
  | nil => simp [markersFrom, removeTokens]
  | cons p ps ih =>
    have hstart : ((m + u.length : Nat) : Int).toNat = m + u.length := Int.toNat_natCast _
    have hk : m + u.length - m = u.length := Nat.add_sub_cancel_left ..
    have htoken : (u ++ d.token (p.1.getD [])).length =
        m + u.length + ((p.1.getD []).length + 3) - m := by
      rw [List.length_append, d.length_token]
      omega
    have htext : u ++ (p :: ps).flatMap (renderPart d) =
        u ++ d.token (p.1.getD []) ++ (p.2 ++ ps.flatMap (renderPart d)) := by
      simp [renderPart]
    have hnext : m + u.length + (renderPart d p).length =
        m + u.length + ((p.1.getD []).length + 3) + p.2.length := by
      rw [length_renderPart]
      omega
    simp only [markersFrom, removeTokens, Marker.width, hstart, hk, hnext]
    rw [htext, ← htoken, List.drop_left, List.append_assoc, List.take_left, ih, List.flatMap_cons]

/-- Taking the tokens out of a written template that stands at any offsets. -/
theorem removeTokens_render (d : Delimiters) (t : Template) (n m : Nat) :
    removeTokens m (t.render d) ((t.markers d).map (Marker.shift n m)) = t.clean := by
  rw [markers, ← markersFrom_add]
  exact removeTokens_markersFrom d _ m t.head t.tail

/-- No token holds a line feed. -/
theorem count_newline_render {t : Template} (h : t.Valid d) :
    (t.render d).count '\n' = t.clean.count '\n' := by
  have hpart : ∀ p ∈ t.tail, (renderPart d p).count '\n' = p.2.count '\n' := by
    intro p hp
    have hn : '\n' ∉ p.1.getD [] := by
      cases hl : p.1 with
      | none => exact List.not_mem_nil
      | some l =>
        have hmem : l ∈ t.labels := List.mem_filterMap.2 ⟨p, hp, hl⟩
        exact newline_notMem_of_isLabel (h.labels_closed l hmem).1
    have htoken : (d.token (p.1.getD [])).count '\n' = 0 :=
      List.count_eq_zero.2 (newline_notMem_token hn)
    rw [renderPart, List.count_append, htoken, Nat.zero_add]
  have hparts : t.tail.map (List.count '\n' ∘ renderPart d) =
      t.tail.map (List.count '\n' ∘ Prod.snd) := List.map_congr_left hpart
  rw [render, clean, List.count_append, List.count_append, List.count_flatMap, List.count_flatMap,
    hparts]

end Template

/-! ## What stripping keeps -/

variable {d : Delimiters} {raw : Text} {s : Stripped}

theorem strip_count_newline (h : strip d raw = .ok s) : s.clean.count '\n' = raw.count '\n' := by
  obtain ⟨t, hv, rfl, rfl⟩ := strip_eq_ok_iff.1 h
  exact (Template.count_newline_render hv).symm

theorem strip_newline_notMem (h : strip d raw = .ok s) (hn : '\n' ∉ raw) : '\n' ∉ s.clean := by
  rw [← List.count_eq_zero] at hn ⊢
  rw [strip_count_newline h, hn]

/-- Where a marker stands in the raw text: behind the tokens of the markers before it. -/
theorem strip_sourceOffset (h : strip d raw = .ok s) {i : Nat} {m : Marker}
    (hm : s.markers[i]? = some m) :
    m.sourceOffset = m.offset + (((s.markers.take i).map Marker.width).sum : Nat) := by
  obtain ⟨t, hv, rfl, rfl⟩ := strip_eq_ok_iff.1 h
  simp only at hm ⊢
  rw [Template.getElem?_markers] at hm
  obtain ⟨p, -, rfl⟩ := Option.map_eq_some_iff.1 hm
  rw [Template.take_markers, Template.length_render]
  exact Int.natCast_add ..

theorem strip_bounds (h : strip d raw = .ok s) {m : Marker} (hm : m ∈ s.markers) :
    0 ≤ m.offset ∧ m.offset ≤ s.clean.length ∧ 0 ≤ m.sourceOffset ∧
      m.sourceOffset + m.width ≤ raw.length := by
  obtain ⟨i, hi⟩ := List.mem_iff_getElem?.1 hm
  have hsource := strip_sourceOffset h hi
  obtain ⟨t, hv, rfl, rfl⟩ := strip_eq_ok_iff.1 h
  obtain ⟨hlo, hhi⟩ := Template.offset_le_of_mem_markers hm
  refine ⟨hlo, hhi, by omega, ?_⟩
  simp only at hi
  rw [Template.getElem?_markers] at hi
  obtain ⟨p, hp, rfl⟩ := Option.map_eq_some_iff.1 hi
  have hcut := congrArg List.length (Template.render_before_append d t hp)
  simp only [List.length_append, d.length_token] at hcut
  simp only [Marker.width]
  omega

theorem strip_removeTokens (h : strip d raw = .ok s) (n m : Nat) :
    removeTokens m raw (s.markers.map (Marker.shift n m)) = s.clean := by
  obtain ⟨t, hv, rfl, rfl⟩ := strip_eq_ok_iff.1 h
  exact t.removeTokens_render d n m

/-! ## Two sides of a line feed -/

/-- What stripping gives of two texts with a line feed between them, from what it gives of each; the
first one is of length `n`. -/
def Stripped.joined (n : Nat) (s₁ s₂ : Stripped) : Stripped where
  clean := s₁.clean ++ '\n' :: s₂.clean
  markers := s₁.markers ++ s₂.markers.map (Marker.shift (s₁.clean.length + 1) (n + 1))

/-- An accepted text with a line feed in it is read as text on both sides of it. -/
theorem strip_of_newline {p q : Text} (h : strip d (p ++ '\n' :: q) = .ok s) :
    ∃ s₁ s₂, strip d p = .ok s₁ ∧ strip d q = .ok s₂ ∧ s = s₁.joined p.length s₂ := by
  have hplain : (Scan.start.run d p).mode = .plain := by
    rcases Scan.step_newline_mode d (Scan.start.run d p) with ⟨hmode, -⟩ | ⟨m, hmode⟩
    · exact hmode
    · rw [strip, Scan.run_append, Scan.run_cons,
        Scan.finish_refused (Scan.run_refused hmode q)] at h
      cases h
  have hp : ∃ s₁, strip d p = .ok s₁ := by
    rw [strip, Scan.finish, hplain]
    exact ⟨_, rfl⟩
  obtain ⟨s₁, hs₁⟩ := hp
  have hfeed : strip d ['\n'] = .ok ⟨['\n'], []⟩ := by
    rw [strip, Scan.run_cons, Scan.step_piece rfl d.glyph_ne_newline.symm]
    rfl
  have hline : strip d (p ++ ['\n']) = .ok ⟨s₁.clean ++ ['\n'], s₁.markers ++ []⟩ :=
    (strip_append_eq_ok_iff hs₁).2 ⟨_, hfeed, fun _ _ => List.not_mem_nil, rfl⟩
  rw [List.append_cons] at h
  obtain ⟨s₂, hs₂, -, rfl⟩ := (strip_append_eq_ok_iff hline).1 h
  refine ⟨s₁, s₂, hs₁, hs₂, ?_⟩
  simp only [Stripped.joined, List.append_assoc, List.singleton_append, List.append_nil,
    List.length_append, List.length_singleton]

/-! ## Rows -/

/-- Row number `n` of a raw text in what stripping gives: it is stripped alone to `r`, which is row
number `n` of the clean text; the markers `front` stand in front of it and the markers `back` behind
it. -/
structure RowOf (d : Delimiters) (raw : Text) (s : Stripped) (n : Nat) (row : Text) (r : Stripped)
    (front back : List Marker) : Prop where
  strip_row : strip d row = .ok r
  clean_row : (splitLines s.clean)[n]? = some r.clean
  markers_eq : s.markers = front ++ (r.markers.map (Marker.shift
    (above (splitLines s.clean) n).length (above (splitLines raw) n).length) ++ back)
  front_lt : ∀ k ∈ front, k.sourceOffset < (above (splitLines raw) n).length
  lt_back : ∀ k ∈ back,
    ((above (splitLines raw) n).length + row.length : Nat) < k.sourceOffset

namespace RowOf

variable {n : Nat} {p q row : Text} {r s₁ s₂ : Stripped} {front back : List Marker}

theorem only (h : strip d raw = .ok s) (hn : '\n' ∉ raw) : RowOf d raw s 0 raw s [] [] where
  strip_row := h
  clean_row := by
    rw [splitLines_of_notMem (strip_newline_notMem h hn)]
    rfl
  markers_eq := by
    simp only [above_zero, List.length_nil, Marker.shift_zero, List.map_id, List.nil_append,
      List.append_nil]
  front_lt := by simp
  lt_back := by simp

theorem first (hs₁ : strip d p = .ok s₁) (hs₂ : strip d q = .ok s₂) (hp : '\n' ∉ p) :
    RowOf d (p ++ '\n' :: q) (s₁.joined p.length s₂) 0 p s₁ []
      (s₂.markers.map (Marker.shift (s₁.clean.length + 1) (p.length + 1))) where
  strip_row := hs₁
  clean_row := by
    rw [Stripped.joined, splitLines_cons_of_notMem (strip_newline_notMem hs₁ hp)]
    rfl
  markers_eq := by
    simp only [Stripped.joined, above_zero, List.length_nil, Marker.shift_zero, List.map_id,
      List.nil_append]
  front_lt := by simp
  lt_back := by
    intro k hk
    obtain ⟨j, hj, rfl⟩ := List.mem_map.1 hk
    have hbounds := strip_bounds hs₂ hj
    simp only [above_zero, List.length_nil, Marker.shift]
    omega

/-- The markers of the first row come in front of all others, and these are moved behind it. -/
theorem later (hr : RowOf d q s₂ n row r front back) (hs₁ : strip d p = .ok s₁) (hp : '\n' ∉ p) :
    RowOf d (p ++ '\n' :: q) (s₁.joined p.length s₂) (n + 1) row r
      (s₁.markers ++ front.map (Marker.shift (s₁.clean.length + 1) (p.length + 1)))
      (back.map (Marker.shift (s₁.clean.length + 1) (p.length + 1))) where
  strip_row := hr.strip_row
  clean_row := by
    rw [Stripped.joined, splitLines_cons_of_notMem (strip_newline_notMem hs₁ hp),
      List.getElem?_cons_succ]
    exact hr.clean_row
  markers_eq := by
    rw [length_above_succ hp, Stripped.joined, length_above_succ (strip_newline_notMem hs₁ hp),
      hr.markers_eq, List.map_append, List.map_append, Marker.map_shift_map_shift,
      List.append_assoc]
  front_lt := by
    intro k hk
    rw [length_above_succ hp]
    rcases List.mem_append.1 hk with hk | hk
    · have hbounds := strip_bounds hs₁ hk
      omega
    · obtain ⟨j, hj, rfl⟩ := List.mem_map.1 hk
      have hlt := hr.front_lt j hj
      simp only [Marker.shift]
      omega
  lt_back := by
    intro k hk
    obtain ⟨j, hj, rfl⟩ := List.mem_map.1 hk
    have hlt := hr.lt_back j hj
    rw [length_above_succ hp]
    simp only [Marker.shift]
    omega

end RowOf

/-- The induction drops the first row with its line feed. -/
theorem exists_rowOf {n : Nat} {row : Text} (h : strip d raw = .ok s)
    (hrow : (splitLines raw)[n]? = some row) : ∃ r front back, RowOf d raw s n row r front back := by
  induction n generalizing raw s with
  | zero =>
    by_cases hn : '\n' ∈ raw
    · obtain ⟨p, q, rfl, hp⟩ := List.eq_append_cons_of_mem hn
      obtain ⟨s₁, s₂, hs₁, hs₂, rfl⟩ := strip_of_newline h
      rw [splitLines_cons_of_notMem hp] at hrow
      obtain rfl : p = row := Option.some.inj hrow
      exact ⟨_, _, _, RowOf.first hs₁ hs₂ hp⟩
    · rw [splitLines_of_notMem hn] at hrow
      obtain rfl : raw = row := Option.some.inj hrow
      exact ⟨_, _, _, RowOf.only h hn⟩
  | succ n ih =>
    by_cases hn : '\n' ∈ raw
    · obtain ⟨p, q, rfl, hp⟩ := List.eq_append_cons_of_mem hn
      obtain ⟨s₁, s₂, hs₁, hs₂, rfl⟩ := strip_of_newline h
      rw [splitLines_cons_of_notMem hp, List.getElem?_cons_succ] at hrow
      obtain ⟨r, front, back, hr⟩ := ih hs₂ hrow
      exact ⟨_, _, _, hr.later hs₁ hp⟩
    · rw [splitLines_of_notMem hn] at hrow
      cases hrow

/-! ## The markers on a line -/

theorem strip_onLine_iff {n : Nat} {row : Text} {k : Marker} (hrow : (splitLines raw)[n]? = some row)
    (h : strip d raw = .ok s) (hk : k ∈ s.markers) :
    k.onLine (LineTable.ofText raw) (n + 1) = true ↔
      ((above (splitLines raw) n).length : Int) ≤ k.sourceOffset ∧
        k.sourceOffset ≤ ((above (splitLines raw) n).length + row.length : Nat) := by
  have hbounds := strip_bounds h hk
  rw [Marker.onLine, beq_iff_eq, LineTable.line_locate_iff hrow (by omega)]
  omega

/-- The markers on a line are those that its row has alone, moved to where the line starts. -/
theorem RowOf.filter_onLine {n : Nat} {row : Text} {r : Stripped} {front back : List Marker}
    (hr : RowOf d raw s n row r front back) (hrow : (splitLines raw)[n]? = some row)
    (h : strip d raw = .ok s) :
    s.markers.filter (Marker.onLine (LineTable.ofText raw) (n + 1)) = r.markers.map (Marker.shift
      (above (splitLines s.clean) n).length (above (splitLines raw) n).length) := by
  have hmem : ∀ k, k ∈ front ∨ k ∈ r.markers.map (Marker.shift
      (above (splitLines s.clean) n).length (above (splitLines raw) n).length) ∨ k ∈ back →
        k ∈ s.markers := by
    intro k hk
    rw [hr.markers_eq, List.mem_append, List.mem_append]
    exact hk
  have hfront : front.filter (Marker.onLine (LineTable.ofText raw) (n + 1)) = [] := by
    refine List.filter_eq_nil_iff.2 fun k hk hon => ?_
    have hlt := hr.front_lt k hk
    have hle := (strip_onLine_iff hrow h (hmem k (Or.inl hk))).1 hon
    omega
  have hback : back.filter (Marker.onLine (LineTable.ofText raw) (n + 1)) = [] := by
    refine List.filter_eq_nil_iff.2 fun k hk hon => ?_
    have hlt := hr.lt_back k hk
    have hle := (strip_onLine_iff hrow h (hmem k (Or.inr (Or.inr hk)))).1 hon
    omega
  rw [hr.markers_eq, List.filter_append, List.filter_append, hfront, hback, List.nil_append,
    List.append_nil]
  refine List.filter_eq_self.2 fun k hk => ?_
  refine (strip_onLine_iff hrow h (hmem k (Or.inr (Or.inl hk)))).2 ?_
  obtain ⟨j, hj, rfl⟩ := List.mem_map.1 hk
  have hbounds := strip_bounds hr.strip_row hj
  simp only [Marker.shift]
  omega

/-- What a filter keeps in front of an element that it keeps. -/
theorem exists_filter_take {α : Type} {p : α → Bool} {l : List α} {i : Nat} {a : α}
    (h : l[i]? = some a) (hp : p a = true) :
    ∃ j, (l.filter p)[j]? = some a ∧ (l.take i).filter p = (l.filter p).take j := by
  obtain ⟨hi, rfl⟩ := List.getElem?_eq_some_iff.1 h
  have hl : l.filter p = (l.take i).filter p ++ l[i] :: (l.drop (i + 1)).filter p := by
    rw [← List.filter_cons_of_pos hp, ← List.filter_append, ← List.drop_eq_getElem_cons hi,
      List.take_append_drop]
  refine ⟨((l.take i).filter p).length, ?_, ?_⟩
  · rw [hl, List.getElem?_append_right (Nat.le_refl _), Nat.sub_self]
    rfl
  · rw [hl, List.take_left]

/-! ## The line structure of a capture -/

/-- Where a marker stands: on one line in both texts, and in the raw one as many columns further on as
the tokens before it on that line are long. -/
theorem strip_locate (h : strip d raw = .ok s) {i : Nat} {m : Marker} (hm : s.markers[i]? = some m) :
    ((LineTable.ofText s.clean).locate m.offset.toNat).line =
      ((LineTable.ofText raw).locate m.sourceOffset.toNat).line ∧
    ((LineTable.ofText raw).locate m.sourceOffset.toNat).column =
      ((LineTable.ofText s.clean).locate m.offset.toNat).column +
        (((s.markers.take i).filter (Marker.onLine (LineTable.ofText raw)
          ((LineTable.ofText raw).locate m.sourceOffset.toNat).line)).map Marker.width).sum := by
  have hbounds := strip_bounds h (List.mem_of_getElem? hm)
  have hle : m.sourceOffset.toNat ≤ raw.length := by omega
  obtain ⟨n, row, hrow, hlo, hhi⟩ := exists_row hle
  obtain ⟨r, front, back, hr⟩ := exists_rowOf h hrow
  have hplace := LineTable.locate_eq hrow hlo hhi
  have hon : m.onLine (LineTable.ofText raw) (n + 1) = true := by
    rw [Marker.onLine, hplace, beq_self_eq_true]
  -- Among the markers on its line, `m` is number `j`; in its row it is `k`.
  obtain ⟨j, hj, htake⟩ := exists_filter_take hm hon
  rw [hr.filter_onLine hrow h] at hj htake
  rw [List.getElem?_map] at hj
  obtain ⟨k, hk, rfl⟩ := Option.map_eq_some_iff.1 hj
  have hwidths : (((s.markers.take i).filter (Marker.onLine (LineTable.ofText raw)
      (n + 1))).map Marker.width).sum = ((r.markers.take j).map Marker.width).sum := by
    rw [htake, ← List.map_take, List.map_map]
    rfl
  have hsource := strip_sourceOffset hr.strip_row hk
  have hrow_bounds := strip_bounds hr.strip_row (List.mem_of_getElem? hk)
  simp only [Marker.shift] at hplace ⊢
  have hoffset : (k.offset + (above (splitLines s.clean) n).length).toNat =
      (above (splitLines s.clean) n).length + k.offset.toNat := by omega
  have hclean := LineTable.locate_eq hr.clean_row
    (Nat.le_add_right (above (splitLines s.clean) n).length k.offset.toNat) (by omega)
  rw [hplace, hoffset, hclean, hwidths]
  refine ⟨rfl, ?_⟩
  simp only
  omega

/-- What a row gives alone, as the two lines and the markers on them. -/
theorem strip_slice {n : Nat} {row : Text} (h : strip d raw = .ok s)
    (hrow : (splitLines raw)[n]? = some row) (serial rawSerial : Nat) :
    let c := Document.ofText serial s.clean
    let source := Document.ofText rawSerial raw
    let here := s.markers.filter (Marker.onLine source.table (n + 1))
    c.slice (c.table.start (n + 1)) (c.table.stop (n + 1)) =
      removeTokens (source.table.start (n + 1))
        (source.slice (source.table.start (n + 1)) (source.table.stop (n + 1))) here ∧
    ∀ m ∈ here, (source.table.start (n + 1) : Int) ≤ m.sourceOffset ∧
      m.sourceOffset + m.width ≤ source.table.stop (n + 1) := by
  intro c source here
  obtain ⟨r, front, back, hr⟩ := exists_rowOf h hrow
  have hhere : here = r.markers.map (Marker.shift
      (above (splitLines s.clean) n).length (above (splitLines raw) n).length) :=
    hr.filter_onLine hrow h
  have hstart : source.table.start (n + 1) = (above (splitLines raw) n).length :=
    LineTable.start_eq hrow
  have hstop : source.table.stop (n + 1) = (above (splitLines raw) n).length + row.length :=
    LineTable.stop_eq hrow
  have hclean : (splitLines c.text)[n]? = some r.clean := by
    rw [Document.text_ofText]
    exact hr.clean_row
  have hsource : (splitLines source.text)[n]? = some row := by
    rw [Document.text_ofText]
    exact hrow
  constructor
  · rw [Document.slice_row hclean, Document.slice_row hsource, hhere, hstart]
    exact (strip_removeTokens hr.strip_row _ _).symm
  · intro m hm
    rw [hhere] at hm
    obtain ⟨k, hk, rfl⟩ := List.mem_map.1 hm
    have hbounds := strip_bounds hr.strip_row hk
    rw [hstart, hstop, Marker.width_shift]
    simp only [Marker.shift]
    omega

/-- **Lines.** A captured text has the lines of its raw text. A marker stands on one line in both, and
its columns differ by the length of the tokens before it on that line. A line of the clean text is
that line of the raw text without the tokens on it, all of which end on that line. -/
theorem ofRaw_lines {rules : Rules} {serial : Nat} {raw : Text} {c : Capture}
    (h : Capture.ofRaw rules serial raw = .ok c) (rawSerial : Nat) :
    let source := Document.ofText rawSerial raw
    c.document.lineCount = source.lineCount ∧
    (∀ i m, c.markers[i]? = some m → ∃ l l' : Loc,
      c.document.table.locate? m.offset = .ok l ∧
      source.table.locate? m.sourceOffset = .ok l' ∧
      l.line = l'.line ∧
      l'.column = l.column + (((c.markers.take i).filter
        (Marker.onLine source.table l'.line)).map Marker.width).sum) ∧
    ∀ n : Nat, source.table.Has n → ∃ a b a' b' : Nat,
      c.document.table.start? n = .ok a ∧ c.document.table.stop? n = .ok b ∧
      source.table.start? n = .ok a' ∧ source.table.stop? n = .ok b' ∧
      c.document.slice a b = removeTokens a' (source.slice a' b')
        (c.markers.filter (Marker.onLine source.table n)) ∧
      ∀ m ∈ c.markers.filter (Marker.onLine source.table n),
        (a' : Int) ≤ m.sourceOffset ∧ m.sourceOffset + m.width ≤ b' := by
  intro source
  obtain ⟨-, s, hs, rfl⟩ := Capture.ofRaw_eq_ok_iff_strip.1 h
  have hcount : (LineTable.ofText s.clean).count = (LineTable.ofText raw).count := by
    rw [LineTable.count_ofText, LineTable.count_ofText, strip_count_newline hs]
  refine ⟨hcount, ?_, ?_⟩
  · intro i m hm
    have hbounds := strip_bounds hs (List.mem_of_getElem? hm)
    have hoffset : m.offset ≤ (LineTable.ofText s.clean).length := by
      rw [LineTable.length_ofText]
      omega
    have hsource : m.sourceOffset ≤ (LineTable.ofText raw).length := by
      rw [LineTable.length_ofText]
      omega
    obtain ⟨hline, hcolumn⟩ := strip_locate hs hm
    exact ⟨_, _, LineTable.locate?_eq_ok hbounds.1 hoffset,
      LineTable.locate?_eq_ok hbounds.2.2.1 hsource, hline, hcolumn⟩
  · intro n hn
    obtain ⟨hlo, hhi⟩ := hn
    obtain ⟨k, rfl⟩ : ∃ k, n = k + 1 := ⟨n - 1, by omega⟩
    have hclean : (LineTable.ofText s.clean).Has (k + 1 : Nat) :=
      ⟨hlo, by rw [hcount]; exact hhi⟩
    have hk : k < (splitLines raw).length := by
      rw [← LineTable.count_eq]
      exact Int.ofNat_le.1 hhi
    obtain ⟨hslice, hinline⟩ := strip_slice hs (List.getElem?_eq_getElem hk) serial rawSerial
    exact ⟨_, _, _, _, (LineTable.start?_eq_ok hclean).1, (LineTable.start?_eq_ok hclean).2,
      (LineTable.start?_eq_ok ⟨hlo, hhi⟩).1, (LineTable.start?_eq_ok ⟨hlo, hhi⟩).2, hslice, hinline⟩

/-- A token between a carriage return and its line feed, and another one before it on its line: four
columns apart, and gone from the line. -/
theorem ofRaw_lines_carriageReturn :
    ∃ c, Capture.ofRaw .standard 0 "a🌵(x)b\r🌵()\nc🌵()".toList = .ok c ∧
      c.document.lineCount = 2 ∧
      (∃ l l' : Loc, c.document.table.locate? 3 = .ok l ∧
        (Document.ofText 1 "a🌵(x)b\r🌵()\nc🌵()".toList).table.locate? 7 = .ok l' ∧
        l.line = l'.line ∧ l'.column = l.column + 4) ∧
      ∃ a b : Nat, c.document.table.start? 1 = .ok a ∧ c.document.table.stop? 1 = .ok b ∧
        c.document.slice a b = "ab\r".toList := by
  have h : Capture.ofRaw .standard 0 "a🌵(x)b\r🌵()\nc🌵()".toList = .ok ⟨.ofText 0 "ab\r\nc".toList,
      [⟨1, some "x".toList, 1⟩, ⟨3, none, 7⟩, ⟨5, none, 12⟩]⟩ := by rfl
  have hplace : (Document.ofText 1 "a🌵(x)b\r🌵()\nc🌵()".toList).table.locate? 7 = .ok ⟨1, 8⟩ :=
    (LineTable.locate?_eq_ok (by decide) (by decide)).trans
      (congrArg Except.ok (by decide +kernel))
  have hbounds : (Document.ofText 1 "a🌵(x)b\r🌵()\nc🌵()".toList).table.start? 1 = .ok 0 ∧
      (Document.ofText 1 "a🌵(x)b\r🌵()\nc🌵()".toList).table.stop? 1 = .ok 10 :=
    ⟨rfl, rfl⟩
  obtain ⟨hcount, hplaces, hlines⟩ := ofRaw_lines h 1
  refine ⟨_, h, hcount, ?_, ?_⟩
  · obtain ⟨l, l', hl, hl', hline, hcolumn⟩ := hplaces 1 _ rfl
    obtain rfl := Except.ok.inj (hplace.symm.trans hl')
    refine ⟨l, _, hl, hl', hline, hcolumn.trans ?_⟩
    have hwidths : ((([⟨1, some "x".toList, 1⟩] : List Marker).filter (Marker.onLine
        (Document.ofText 1 "a🌵(x)b\r🌵()\nc🌵()".toList).table 1)).map Marker.width).sum = 4 := by
      decide +kernel
    exact congrArg (l.column + ·) hwidths
  · obtain ⟨a, b, a', b', ha, hb, ha', hb', hslice, -⟩ := hlines 1 (by decide)
    obtain rfl := Except.ok.inj (hbounds.1.symm.trans ha')
    obtain rfl := Except.ok.inj (hbounds.2.symm.trans hb')
    refine ⟨a, b, ha, hb, hslice.trans ?_⟩
    decide +kernel

end MarkedText
