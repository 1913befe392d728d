import MarkedText.Proofs.Marker.Template

/-!
# Scans of written templates

What a scan makes of a text that is known piece by piece: of a piece without glyph, of a label
between opener and closer, of a whole token, and so of a template. Every statement is about any scan
that reads text, not only a fresh one, and so holds in the middle of a raw text too. The last section
is about markers that are not well formed (`Flawed`).

* `run_piece`, `run_label`, `run_token`: the scan behind a piece, a label, a token.
* `run_tail`: the scan behind a tail that fits.
* `run_template`: the scan behind a template that fits.
* `finish_flawed`, `finish_template_flawed`: a flawed marker is refused with its flaw.
* `strip_render`, `strip_flawed`: the same for a whole raw text.
-/

namespace MarkedText

theorem newline_notMem_of_isLabel {l : Text} (h : isLabel l = true) : '\n' ∉ l := by
  intro hm
  have hn : inLabel '\n' = true := ((isLabel_iff l).1 h).2 '\n' hm
  exact absurd hn (by decide)

theorem Delimiters.glyph_ne_newline (d : Delimiters) : d.glyph ≠ '\n' :=
  fun h => d.glyph_inline (Or.inl h)

theorem Delimiters.opener_ne_newline (d : Delimiters) : d.opener ≠ '\n' :=
  fun h => d.opener_inline (Or.inl h)

theorem Delimiters.closer_ne_newline (d : Delimiters) : d.closer ≠ '\n' :=
  fun h => d.closer_inline (Or.inl h)

theorem newline_notMem_token {d : Delimiters} {l : Text} (hl : '\n' ∉ l) : '\n' ∉ d.token l := by
  simp [Delimiters.token, d.glyph_ne_newline.symm, d.opener_ne_newline.symm,
    d.closer_ne_newline.symm, hl]

namespace Scan

variable {d : Delimiters} {s : Scan} {start : Nat} {read : Text} {c : Char}

/-! ## One code point -/

theorem step_piece (hm : s.mode = .plain) (hc : c ≠ d.glyph) :
    step d s c =
      { s with clean := c :: s.clean, cleanSize := s.cleanSize + 1, size := s.size + 1 } := by
  simp [step, Scan.read, hm, hc]

theorem step_glyph (hm : s.mode = .plain) :
    step d s d.glyph = { s with size := s.size + 1, mode := .glyph s.size } := by
  simp [step, Scan.read, hm]

theorem step_opener (hm : s.mode = .glyph start) :
    step d s d.opener = { s with size := s.size + 1, mode := .label start [] } := by
  simp [step, Scan.read, hm]

theorem step_not_opener (hm : s.mode = .glyph start) (hc : c ≠ d.opener) :
    (step d s c).mode = .refused ⟨start, .bareGlyph⟩ := by
  simp [step, Scan.read, hm, hc]

theorem step_label (hm : s.mode = .label start read) (hc : c ≠ d.closer) (hn : c ≠ '\n') :
    step d s c = { s with size := s.size + 1, mode := .label start (c :: read) } := by
  simp [step, Scan.read, hm, hc, hn]

theorem step_newline (hm : s.mode = .label start read) :
    (step d s '\n').mode = .refused ⟨start, .unterminated⟩ := by
  simp [step, Scan.read, hm, d.closer_ne_newline.symm]

/-- Ending a marker overwrites the mode and does not look at how much has been read. -/
theorem close_with (n : Nat) (mode : Mode) (label : Text) :
    { s with size := n, mode := mode }.close start label =
      { s.close start label with size := n } := by
  unfold close record
  repeat' split
  all_goals rfl

theorem size_close (label : Text) : (s.close start label).size = s.size := by
  unfold close record
  repeat' split
  all_goals rfl

theorem step_closer (hm : s.mode = .label start read) :
    step d s d.closer = { s.close start read.reverse with size := s.size + 1 } := by
  simp [step, Scan.read, hm, size_close]

/-! ## Pieces, labels, tokens -/

theorem run_piece {t : Text} (hm : s.mode = .plain) (ht : d.glyph ∉ t) :
    run d s t = { s with
      clean := t.reverse ++ s.clean
      cleanSize := s.cleanSize + t.length
      size := s.size + t.length } := by
  induction t generalizing s with
  | nil => rfl
  | cons c t ih =>
    have hc : c ≠ d.glyph := fun h => ht (h ▸ List.mem_cons_self ..)
    have ht' : d.glyph ∉ t := fun h => ht (List.mem_cons_of_mem _ h)
    rw [run_cons, step_piece hm hc, ih (by exact hm) ht']
    simp only [List.reverse_cons, List.append_assoc, List.singleton_append, List.length_cons,
      Nat.add_assoc, Nat.add_comm 1]

/-- A label is held last code point first while it is read. -/
theorem run_label {t : Text} (hm : s.mode = .label start read) (hc : d.closer ∉ t)
    (hn : '\n' ∉ t) :
    run d s t = { s with size := s.size + t.length, mode := .label start (t.reverse ++ read) } := by
  induction t generalizing s read with
  | nil => simp [← hm]
  | cons c t ih =>
    have hc' : c ≠ d.closer := fun h => hc (h ▸ List.mem_cons_self ..)
    have hn' : c ≠ '\n' := fun h => hn (h ▸ List.mem_cons_self ..)
    rw [run_cons, step_label hm hc' hn', ih rfl (fun h => hc (List.mem_cons_of_mem _ h))
      (fun h => hn (List.mem_cons_of_mem _ h))]
    simp only [List.reverse_cons, List.append_assoc, List.singleton_append, List.length_cons,
      Nat.add_assoc, Nat.add_comm 1]

/-- The scan behind a glyph, an opener and the beginning of a label. -/
theorem run_opened {t : Text} (hm : s.mode = .plain) (hc : d.closer ∉ t) (hn : '\n' ∉ t) :
    run d s (d.glyph :: d.opener :: t) =
      { s with size := s.size + t.length + 2, mode := .label s.size t.reverse } := by
  rw [run_cons, run_cons, step_glyph hm, step_opener rfl, run_label rfl hc hn]
  simp only [List.append_nil, Nat.add_right_comm _ _ t.length]

/-- A token ends its marker, whether or not its label is accepted. -/
theorem run_token {l : Text} (hm : s.mode = .plain) (hc : d.closer ∉ l) (hn : '\n' ∉ l) :
    run d s (d.token l) = { s.close s.size l with size := s.size + (d.token l).length } := by
  have ht : d.token l = d.glyph :: d.opener :: l ++ [d.closer] := by simp [Delimiters.token]
  rw [ht, run_append, run_opened hm hc hn, run_cons, run_nil, step_closer rfl, close_with,
    List.reverse_reverse]
  simp only [List.length_append, List.length_cons, List.length_nil, Nat.add_assoc]

/-! ## Templates -/

theorem close_fresh {o : Option Text} (h : ∀ l ∈ o, isLabel l = true ∧ l ∉ Marker.labels s.markers) :
    s.close start (o.getD []) = s.record start o := by
  cases o with
  | none => rfl
  | some l =>
    obtain ⟨hl, hu⟩ := h l rfl
    have hne : l.isEmpty = false := by
      cases l with
      | nil => exact absurd hl (by decide)
      | cons c l => rfl
    have hused : Marker.used l s.markers = false := by
      rw [← Bool.not_eq_true, Marker.used_iff]
      exact hu
    simp [close, hne, hl, hused]

/-- The scan behind a marker that fits and the piece that follows it. -/
theorem run_renderPart {p : Option Text × Text} (hm : s.mode = .plain)
    (hfresh : ∀ l ∈ p.1, Template.FreshLabel d (Marker.labels s.markers) l) (hp : d.glyph ∉ p.2) :
    run d s (Template.renderPart d p) = { s with
      clean := p.2.reverse ++ s.clean
      cleanSize := s.cleanSize + p.2.length
      size := s.size + (Template.renderPart d p).length
      markers := ⟨s.cleanSize, p.1, s.size⟩ :: s.markers
      mode := .plain } := by
  have hc : d.closer ∉ p.1.getD [] := by
    cases h : p.1 with
    | none => simp
    | some l => exact (hfresh l h).2.1
  have hn : '\n' ∉ p.1.getD [] := by
    cases h : p.1 with
    | none => simp
    | some l => exact newline_notMem_of_isLabel (hfresh l h).1
  rw [Template.renderPart, run_append, run_token hm hc hn,
    close_fresh fun l hl => ⟨(hfresh l hl).1, (hfresh l hl).2.2⟩, run_piece rfl hp]
  simp only [record, List.length_append, Nat.add_assoc]

/-- The induction is on the tail; what each marker adds to the used labels is what `Fits` adds. -/
theorem run_tail {ps : List (Option Text × Text)} (hm : s.mode = .plain)
    (h : Template.Fits d (Marker.labels s.markers) ps) :
    run d s (ps.flatMap (Template.renderPart d)) = { s with
      clean := (ps.flatMap Prod.snd).reverse ++ s.clean
      cleanSize := s.cleanSize + (ps.flatMap Prod.snd).length
      size := s.size + (ps.flatMap (Template.renderPart d)).length
      markers := (Template.markersFrom d s.cleanSize s.size ps).reverse ++ s.markers } := by
  induction ps generalizing s with
  | nil => rfl
  | cons p ps ih =>
    obtain ⟨hfresh, hp, hrest⟩ := h
    rw [← Marker.labels_cons s.cleanSize s.size] at hrest
    rw [List.flatMap_cons, run_append, run_renderPart hm hfresh hp, ih rfl hrest]
    simp only [Template.markersFrom, List.flatMap_cons, List.reverse_append, List.reverse_cons,
      List.append_assoc, List.singleton_append, List.length_append, Nat.add_assoc, ← hm]

/-- The scan behind a whole template; its markers are moved to where the scan stands. -/
theorem run_template {t : Template} (hm : s.mode = .plain) (hh : d.glyph ∉ t.head)
    (h : Template.Fits d (Marker.labels s.markers) t.tail) :
    run d s (t.render d) = { s with
      clean := t.clean.reverse ++ s.clean
      cleanSize := s.cleanSize + t.clean.length
      size := s.size + (t.render d).length
      markers := ((t.markers d).map (Marker.shift s.cleanSize s.size)).reverse ++ s.markers } := by
  rw [Template.render, run_append, run_piece hm hh, run_tail (by exact hm) (by exact h)]
  simp only [Template.clean, Template.markers, ← Template.markersFrom_add, List.reverse_append,
    List.append_assoc, List.length_append, Nat.add_assoc]

/-- The scan of a whole template. -/
theorem run_render {t : Template} (h : t.Valid d) :
    run d Scan.start (t.render d) =
      ⟨t.clean.reverse, t.clean.length, (t.render d).length, (t.markers d).reverse, .plain⟩ := by
  have hfits : Template.Fits d (Marker.labels []) t.tail := h.fits fun l _ => List.not_mem_nil
  rw [run_template rfl h.head_plain hfits]
  simp [Scan.start, Marker.shift_zero]

end Scan

theorem strip_render {d : Delimiters} {t : Template} (h : t.Valid d) :
    strip d (t.render d) = .ok ⟨t.clean, t.markers d⟩ := by
  rw [strip, Scan.run_render h]
  simp [Scan.finish]

/-! ## Flawed markers -/

/-- What is wrong with a marker, seen from the text behind its glyph, when the labels `used` have
been used before. -/
inductive Flawed (d : Delimiters) (used : List Text) : Flaw → Text → Prop where
  | bareGlyph {t : Text} (ht : t.head? ≠ some d.opener) : Flawed d used .bareGlyph t
  | unterminated {body t : Text} (hc : d.closer ∉ body) (hn : '\n' ∉ body)
      (ht : ∀ c ∈ t.head?, c = '\n') : Flawed d used .unterminated (d.opener :: (body ++ t))
  | invalidLabel {l t : Text} (hc : d.closer ∉ l) (hn : '\n' ∉ l) (hne : l ≠ [])
      (hl : isLabel l = false) : Flawed d used (.invalidLabel l) (d.opener :: (l ++ d.closer :: t))
  | duplicateLabel {l t : Text} (hc : d.closer ∉ l) (hl : isLabel l = true) (hu : l ∈ used) :
      Flawed d used (.duplicateLabel l) (d.opener :: (l ++ d.closer :: t))

namespace Scan

variable {d : Delimiters} {s : Scan}

theorem finish_refused {m : Malformed} (h : s.mode = .refused m) : s.finish = .error m := by
  simp [finish, h]

theorem mode_close_invalid {start : Nat} {l : Text} (hne : l ≠ []) (hl : isLabel l = false) :
    (s.close start l).mode = .refused ⟨start, .invalidLabel l⟩ := by
  simp [close, hne, hl]

theorem mode_close_used {start : Nat} {l : Text} (hl : isLabel l = true)
    (hu : l ∈ Marker.labels s.markers) :
    (s.close start l).mode = .refused ⟨start, .duplicateLabel l⟩ := by
  have hne : l ≠ [] := ((isLabel_iff l).1 hl).1
  simp [close, hne, hl, (Marker.used_iff l s.markers).2 hu]

/-- A token whose label is refused ends the scan, whatever follows. -/
theorem finish_token {l t : Text} {f : Flaw} (hm : s.mode = .plain) (hc : d.closer ∉ l)
    (hn : '\n' ∉ l) (hclose : (s.close s.size l).mode = .refused ⟨s.size, f⟩) :
    (run d s (d.glyph :: d.opener :: (l ++ d.closer :: t))).finish = .error ⟨s.size, f⟩ := by
  have ht : d.glyph :: d.opener :: (l ++ d.closer :: t) = d.token l ++ t := by
    simp [Delimiters.token]
  rw [ht, run_append, run_token hm hc hn]
  exact finish_refused (run_refused (by exact hclose) t)

theorem finish_flawed {f : Flaw} {t : Text} (hm : s.mode = .plain)
    (h : Flawed d (Marker.labels s.markers) f t) :
    (run d s (d.glyph :: t)).finish = .error ⟨s.size, f⟩ := by
  cases h with
  | bareGlyph ht =>
    rw [run_cons, step_glyph hm]
    cases t with
    | nil => rfl
    | cons c t =>
      have hc : c ≠ d.opener := fun h => ht (by rw [h]; rfl)
      rw [run_cons]
      exact finish_refused (run_refused (step_not_opener rfl hc) t)
  | @unterminated body t hc hn ht =>
    have happ : d.glyph :: d.opener :: (body ++ t) = (d.glyph :: d.opener :: body) ++ t := rfl
    rw [happ, run_append, run_opened hm hc hn]
    cases t with
    | nil => rfl
    | cons c t =>
      obtain rfl : c = '\n' := ht c rfl
      rw [run_cons]
      exact finish_refused (run_refused (step_newline rfl) t)
  | invalidLabel hc hn hne hl => exact finish_token hm hc hn (mode_close_invalid hne hl)
  | duplicateLabel hc hl hu =>
    exact finish_token hm hc (newline_notMem_of_isLabel hl) (mode_close_used hl hu)

/-- A flawed marker behind a template is found with the labels of the template used too. -/
theorem finish_template_flawed {t : Template} {f : Flaw} {rest : Text} (hm : s.mode = .plain)
    (hh : d.glyph ∉ t.head) (h : Template.Fits d (Marker.labels s.markers) t.tail)
    (hf : Flawed d (t.labels.reverse ++ Marker.labels s.markers) f rest) :
    (run d s (t.render d ++ d.glyph :: rest)).finish =
      .error ⟨s.size + (t.render d).length, f⟩ := by
  rw [run_append, run_template hm hh h]
  refine finish_flawed hm ?_
  simp only [Marker.labels_append, Marker.labels_reverse, Marker.labels_map_shift,
    Template.labels_markers]
  exact hf

end Scan

theorem strip_flawed {d : Delimiters} {t : Template} {f : Flaw} {rest : Text} (h : t.Valid d)
    (hf : Flawed d t.labels.reverse f rest) :
    strip d (t.render d ++ d.glyph :: rest) = .error ⟨(t.render d).length, f⟩ := by
  have hfits : Template.Fits d (Marker.labels Scan.start.markers) t.tail :=
    h.fits fun l _ => List.not_mem_nil
  have hflawed : Flawed d (t.labels.reverse ++ Marker.labels Scan.start.markers) f rest := by
    simpa [Scan.start] using hf
  rw [strip, Scan.finish_template_flawed rfl h.head_plain hfits hflawed]
  simp [Scan.start]

end MarkedText
