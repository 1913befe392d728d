import MarkedText.Marker.Template

/-!
# Valid templates

A template is valid when reading can tell its markers from its pieces: no piece holds the glyph,
each label is a label in the sense of `isLabel` without the closer, and no label is used twice. For
an induction over the markers the same is said of a tail and of the labels in front of it (`Fits`).

* `Valid.fits`, `valid_of_fits`: both ways between a valid template and a tail that fits.
* `getElem?_markers`: a marker stands behind all that comes `before` it, in the clean text and in
  the raw one.
* `insertTokens_clean`: the clean text with its tokens put back is the raw text.
* `pairwise_markers`: the order of the offsets.
-/

namespace MarkedText

theorem Marker.labels_cons (n m : Int) (o : Option Text) (ms : List Marker) :
    labels (⟨n, o, m⟩ :: ms) = o.toList ++ labels ms := by
  cases o <;> simp [labels]

theorem Marker.labels_reverse (ms : List Marker) : labels ms.reverse = (labels ms).reverse :=
  List.filterMap_reverse

theorem Marker.shift_zero : shift 0 0 = id := by
  funext m
  simp [shift]

@[simp] theorem Marker.labels_map_shift (n m : Nat) (ms : List Marker) :
    labels (ms.map (shift n m)) = labels ms := by
  simp only [labels, List.filterMap_map]
  rfl

namespace Template

/-- The labels of the markers that have one, in order. -/
def labels (t : Template) : List Text := t.tail.filterMap Prod.fst

/-- What stands before marker number `i`: the head and `i` markers with their pieces. -/
def before (t : Template) (i : Nat) : Template := ⟨t.head, t.tail.take i⟩

structure Valid (d : Delimiters) (t : Template) : Prop where
  head_plain : d.glyph ∉ t.head
  tail_plain : ∀ p ∈ t.tail, d.glyph ∉ p.2
  labels_closed : ∀ l ∈ t.labels, isLabel l = true ∧ d.closer ∉ l
  labels_nodup : t.labels.Nodup

/-- A label that may be written behind the labels `used`. -/
def FreshLabel (d : Delimiters) (used : List Text) (l : Text) : Prop :=
  isLabel l = true ∧ d.closer ∉ l ∧ l ∉ used

/-- A tail that may follow a text with the labels `used`. -/
def Fits (d : Delimiters) : List Text → List (Option Text × Text) → Prop
  | _, [] => True
  | used, p :: ps =>
    (∀ l ∈ p.1, FreshLabel d used l) ∧ d.glyph ∉ p.2 ∧ Fits d (p.1.toList ++ used) ps

/-! ## Valid templates and tails that fit -/

theorem labels_cons (head : Text) (p : Option Text × Text) (ps : List (Option Text × Text)) :
    labels ⟨head, p :: ps⟩ = p.1.toList ++ labels ⟨p.2, ps⟩ := by
  cases h : p.1 <;> simp [labels, h]

theorem Valid.fits {d : Delimiters} {t : Template} (h : t.Valid d) {used : List Text}
    (hu : ∀ l ∈ t.labels, l ∉ used) : Fits d used t.tail := by
  obtain ⟨head, ps⟩ := t
  induction ps generalizing head used with
  | nil => trivial
  | cons p ps ih =>
    obtain ⟨-, hplain, hclosed, hnodup⟩ := h
    rw [labels_cons] at hu hclosed hnodup
    obtain ⟨-, hnodup', hdisjoint⟩ := List.nodup_append.1 hnodup
    have hfirst : ∀ l ∈ p.1, l ∈ p.1.toList ++ labels ⟨p.2, ps⟩ := fun l hl =>
      List.mem_append_left _ (by simpa using hl)
    refine ⟨fun l hl => ?_, hplain p (List.mem_cons_self ..), ih p.2 ?_ ?_⟩
    · obtain ⟨h1, h2⟩ := hclosed l (hfirst l hl)
      exact ⟨h1, h2, hu l (hfirst l hl)⟩
    · exact ⟨hplain p (List.mem_cons_self ..), fun q hq => hplain q (List.mem_cons_of_mem _ hq),
        fun l hl => hclosed l (List.mem_append_right _ hl), hnodup'⟩
    · intro l hl hmem
      rcases List.mem_append.1 hmem with hmem | hmem
      · exact hdisjoint l hmem l hl rfl
      · exact hu l (List.mem_append_right _ hl) hmem

/-- A tail that fits behind a plain head makes a valid template, and its labels are new. -/
theorem valid_of_fits {d : Delimiters} {head : Text} {ps : List (Option Text × Text)}
    {used : List Text} (hh : d.glyph ∉ head) (h : Fits d used ps) :
    Valid d ⟨head, ps⟩ ∧ ∀ l ∈ labels ⟨head, ps⟩, l ∉ used := by
  induction ps generalizing head used with
  | nil => exact ⟨⟨hh, by simp, by simp [labels], by simp [labels]⟩, by simp [labels]⟩
  | cons p ps ih =>
    obtain ⟨hfresh, hplain, hrest⟩ := h
    obtain ⟨hv, hnew⟩ := ih hplain hrest
    have hmem : ∀ l ∈ labels ⟨head, p :: ps⟩, l ∈ p.1 ∨ l ∈ labels ⟨p.2, ps⟩ := by
      intro l hl
      rw [labels_cons] at hl
      simpa using hl
    refine ⟨⟨hh, ?_, ?_, ?_⟩, ?_⟩
    · intro q hq
      rcases List.mem_cons.1 hq with rfl | hq
      · exact hplain
      · exact hv.tail_plain q hq
    · intro l hl
      rcases hmem l hl with hl | hl
      · exact ⟨(hfresh l hl).1, (hfresh l hl).2.1⟩
      · exact hv.labels_closed l hl
    · rw [labels_cons, List.nodup_append]
      refine ⟨by cases p.1 <;> simp, hv.labels_nodup, ?_⟩
      rintro l hl l' hl' rfl
      exact hnew l hl' (List.mem_append_left _ hl)
    · intro l hl
      rcases hmem l hl with hl | hl
      · exact (hfresh l hl).2.2
      · exact fun hu => hnew l hl (List.mem_append_right _ hu)

theorem glyph_notMem_clean {d : Delimiters} {t : Template} (h : t.Valid d) : d.glyph ∉ t.clean := by
  intro hm
  rcases List.mem_append.1 hm with hm | hm
  · exact h.head_plain hm
  · obtain ⟨p, hp, hm⟩ := List.mem_flatMap.1 hm
    exact h.tail_plain p hp hm

theorem length_head_le (t : Template) : t.head.length ≤ t.clean.length := by
  rw [clean, List.length_append]
  exact Nat.le_add_right _ _

/-! ## Markers of a template -/

theorem labels_markersFrom (d : Delimiters) (n m : Nat) (ps : List (Option Text × Text)) :
    Marker.labels (markersFrom d n m ps) = ps.filterMap Prod.fst := by
  induction ps generalizing n m with
  | nil => rfl
  | cons p ps ih =>
    rw [markersFrom, Marker.labels_cons, ih]
    cases h : p.1 <;> simp [h]

theorem labels_markers (d : Delimiters) (t : Template) :
    Marker.labels (t.markers d) = t.labels := labels_markersFrom d _ _ _

theorem length_markersFrom (d : Delimiters) (n m : Nat) (ps : List (Option Text × Text)) :
    (markersFrom d n m ps).length = ps.length := by
  induction ps generalizing n m with
  | nil => rfl
  | cons p ps ih => simp [markersFrom, ih]

theorem length_markers (d : Delimiters) (t : Template) : (t.markers d).length = t.tail.length :=
  length_markersFrom d _ _ _

/-- Offsets count from where the tail starts. -/
theorem markersFrom_add (d : Delimiters) (a b n m : Nat) (ps : List (Option Text × Text)) :
    markersFrom d (a + n) (b + m) ps = (markersFrom d n m ps).map (Marker.shift a b) := by
  induction ps generalizing n m with
  | nil => rfl
  | cons p ps ih =>
    simp only [markersFrom, List.map_cons, Marker.shift, Nat.add_assoc, ih]
    simp only [Int.natCast_add, Int.add_comm]

theorem take_markersFrom (d : Delimiters) (n m i : Nat) (ps : List (Option Text × Text)) :
    (markersFrom d n m ps).take i = markersFrom d n m (ps.take i) := by
  induction ps generalizing n m i with
  | nil => simp [markersFrom]
  | cons p ps ih =>
    cases i with
    | zero => simp [markersFrom]
    | succ i => simp [markersFrom, ih]

theorem take_markers (d : Delimiters) (t : Template) (i : Nat) :
    (t.markers d).take i = (t.before i).markers d := take_markersFrom d _ _ _ _

theorem getElem?_markersFrom (d : Delimiters) (n m i : Nat) (ps : List (Option Text × Text)) :
    (markersFrom d n m ps)[i]? = ps[i]?.map fun p =>
      ⟨(n + ((ps.take i).flatMap Prod.snd).length : Nat), p.1,
        (m + ((ps.take i).flatMap (renderPart d)).length : Nat)⟩ := by
  induction ps generalizing n m i with
  | nil => simp [markersFrom]
  | cons p ps ih =>
    cases i with
    | zero => simp [markersFrom]
    | succ i =>
      simp only [markersFrom, List.getElem?_cons_succ, ih, List.take_succ_cons, List.flatMap_cons,
        List.length_append, Nat.add_assoc]

/-- Marker number `i` stands behind the template before it. -/
theorem getElem?_markers (d : Delimiters) (t : Template) (i : Nat) :
    (t.markers d)[i]? = t.tail[i]?.map fun p =>
      ⟨(t.before i).clean.length, p.1, ((t.before i).render d).length⟩ := by
  rw [markers, getElem?_markersFrom]
  simp [before, clean, render]

/-! ## What stands before a marker -/

theorem clean_before_append (t : Template) (i : Nat) :
    t.clean = (t.before i).clean ++ (t.tail.drop i).flatMap Prod.snd := by
  rw [clean, clean, before, List.append_assoc, ← List.flatMap_append, List.take_append_drop]

theorem render_before_append (d : Delimiters) (t : Template) {i : Nat} {p : Option Text × Text}
    (h : t.tail[i]? = some p) :
    t.render d = (t.before i).render d ++ d.token (p.1.getD []) ++
      (p.2 ++ (t.tail.drop (i + 1)).flatMap (renderPart d)) := by
  obtain ⟨hi, hp⟩ := List.getElem?_eq_some_iff.1 h
  have ht : t.tail.take i ++ p :: t.tail.drop (i + 1) = t.tail := by
    rw [← hp, ← List.drop_eq_getElem_cons hi, List.take_append_drop]
  calc t.render d
      = t.head ++ (t.tail.take i ++ p :: t.tail.drop (i + 1)).flatMap (renderPart d) := by
        rw [ht]; rfl
    _ = _ := by simp [render, before, renderPart]

/-! ## Putting the tokens back -/

/-- `u` is what has been kept since offset `n`, so the next marker stands at `n + u.length`. -/
theorem insertTokens_markersFrom (d : Delimiters) (n m : Nat) (u : Text)
    (ps : List (Option Text × Text)) :
    insertTokens d n (u ++ ps.flatMap Prod.snd) (markersFrom d (n + u.length) m ps) =
      u ++ ps.flatMap (renderPart d) := by
  induction ps generalizing n m u with
  | nil => simp [markersFrom, insertTokens]
  | cons p ps ih =>
    have hn : ((n + u.length : Nat) : Int).toNat = n + u.length := Int.toNat_natCast _
    have hk : n + u.length - n = u.length := Nat.add_sub_cancel_left ..
    simp only [markersFrom, insertTokens, hn, hk, List.take_left, List.drop_left, List.flatMap_cons]
    rw [ih]
    simp [renderPart]

theorem insertTokens_clean (d : Delimiters) (t : Template) :
    insertTokens d 0 t.clean (t.markers d) = t.render d := by
  have h := insertTokens_markersFrom d 0 t.head.length t.head t.tail
  rwa [Nat.zero_add] at h

/-! ## Order of the offsets -/

theorem bounds_of_mem_markersFrom {d : Delimiters} {n m : Nat} {ps : List (Option Text × Text)}
    {k : Marker} (h : k ∈ markersFrom d n m ps) :
    (n : Int) ≤ k.offset ∧ k.offset ≤ (n + (ps.flatMap Prod.snd).length : Nat) ∧
      (m : Int) ≤ k.sourceOffset := by
  induction ps generalizing n m with
  | nil => cases h
  | cons p ps ih =>
    rw [List.flatMap_cons, List.length_append]
    rcases List.mem_cons.1 h with rfl | h
    · refine ⟨Int.le_refl _, ?_, Int.le_refl _⟩
      simp only
      omega
    · obtain ⟨h1, h2, h3⟩ := ih h
      refine ⟨?_, ?_, ?_⟩ <;> omega

theorem pairwise_markersFrom (d : Delimiters) (n m : Nat) (ps : List (Option Text × Text)) :
    (markersFrom d n m ps).Pairwise fun j k =>
      j.offset ≤ k.offset ∧ j.sourceOffset < k.sourceOffset := by
  induction ps generalizing n m with
  | nil => exact List.Pairwise.nil
  | cons p ps ih =>
    refine List.pairwise_cons.2 ⟨fun k hk => ?_, ih _ _⟩
    obtain ⟨hoffset, -, hsource⟩ := bounds_of_mem_markersFrom hk
    have hlen := length_renderPart d p
    simp only
    omega

theorem pairwise_markers (d : Delimiters) (t : Template) :
    (t.markers d).Pairwise fun j k => j.offset ≤ k.offset ∧ j.sourceOffset < k.sourceOffset :=
  pairwise_markersFrom d _ _ _

theorem offset_le_of_mem_markers {d : Delimiters} {t : Template} {k : Marker}
    (h : k ∈ t.markers d) : 0 ≤ k.offset ∧ k.offset ≤ t.clean.length := by
  obtain ⟨h1, h2, -⟩ := bounds_of_mem_markersFrom h
  rw [clean, List.length_append]
  omega

end Template

end MarkedText
