import MarkedText.Proofs.Marker.Reading

/-!
# Texts behind each other

What a raw text adds behind another one that has been stripped. A scan that has accepted the first
text reads text again, so it reads the second one as a fresh scan would: only where it stands, and
which labels are used, is different. No search that starts in the first text goes on into the second.

* `run_accepted`: the scan behind an accepted text, by what stripping it gives.
* `strip_append_render`, `strip_append_flawed`: the second text is read with the labels of the first.
* `strip_append_eq_ok_iff`: two texts together are accepted when each is and no label is shared.
* `ofRaw_append`: the same for captures.
-/

namespace MarkedText

variable {d : Delimiters} {f g rest : Text} {t u : Template} {s s₁ : Stripped}

/-! ## The scan between the texts -/

/-- A scan that has accepted a text is a scan that reads text. -/
theorem Scan.run_accepted (h : strip d f = .ok s) :
    Scan.start.run d f = ⟨s.clean.reverse, s.clean.length, f.length, s.markers.reverse, .plain⟩ := by
  obtain ⟨t, hv, rfl, rfl⟩ := strip_eq_ok_iff.1 h
  exact run_render hv

/-! ## The second text -/

theorem strip_append_render (h : strip d f = .ok s) (hh : d.glyph ∉ u.head)
    (hu : Template.Fits d (Marker.labels s.markers).reverse u.tail) :
    strip d (f ++ u.render d) = .ok ⟨s.clean ++ u.clean,
      s.markers ++ (u.markers d).map (Marker.shift s.clean.length f.length)⟩ := by
  rw [strip, Scan.run_append, Scan.run_accepted h,
    Scan.run_template rfl hh (by rwa [Marker.labels_reverse])]
  simp [Scan.finish]

theorem strip_append_flawed {fl : Flaw} (h : strip d f = .ok s) (hh : d.glyph ∉ u.head)
    (hu : Template.Fits d (Marker.labels s.markers).reverse u.tail)
    (hf : Flawed d (u.labels.reverse ++ (Marker.labels s.markers).reverse) fl rest) :
    strip d (f ++ (u.render d ++ d.glyph :: rest)) =
      .error ⟨f.length + (u.render d).length, fl⟩ := by
  rw [strip, Scan.run_append, Scan.run_accepted h]
  exact Scan.finish_template_flawed rfl hh (by rwa [Marker.labels_reverse])
    (by rwa [Marker.labels_reverse])

/-- The second text is read once with the labels of the first one as used. If that succeeds, it is
accepted alone too, and shares no label. -/
theorem strip_append_eq_ok_iff (h : strip d f = .ok s₁) :
    strip d (f ++ g) = .ok s ↔ ∃ s₂, strip d g = .ok s₂ ∧
      (∀ l ∈ Marker.labels s₁.markers, l ∉ Marker.labels s₂.markers) ∧
      s = ⟨s₁.clean ++ s₂.clean,
        s₁.markers ++ s₂.markers.map (Marker.shift s₁.clean.length f.length)⟩ := by
  constructor
  · intro hs
    obtain ⟨head, ps, hh, hfits, hg⟩ :=
      exists_tail_reading d (Marker.labels s₁.markers).reverse g
    rcases hg with rfl | ⟨fl, rest, rfl, hf⟩
    · rw [strip_append_render h hh hfits] at hs
      obtain ⟨hv, hnew⟩ := Template.valid_of_fits hh hfits
      refine ⟨_, strip_render hv, ?_, (Except.ok.inj hs).symm⟩
      intro l hl hl'
      rw [Template.labels_markers] at hl'
      exact hnew l hl' (List.mem_reverse.2 hl)
    · rw [strip_append_flawed h hh hfits hf] at hs
      cases hs
  · rintro ⟨s₂, hs₂, hnew, rfl⟩
    obtain ⟨u, hu, rfl, rfl⟩ := strip_eq_ok_iff.1 hs₂
    refine strip_append_render h hu.head_plain (hu.fits ?_)
    intro l hl hl'
    refine hnew l (List.mem_reverse.1 hl') ?_
    rwa [Template.labels_markers]

/-! ## Captures -/

namespace Capture

variable {rules : Rules} {serial serial₁ serial₂ : Nat} {raw : Text}

theorem ofRaw_eq_ok_iff_strip {c : Capture} :
    ofRaw rules serial raw = .ok c ↔ raw.length ≤ rules.sizeLimit ∧
      ∃ s, strip rules.delimiters raw = .ok s ∧ c = ⟨.ofText serial s.clean, s.markers⟩ := by
  constructor
  · intro h
    obtain ⟨hlen, t, hv, rfl, rfl⟩ := ofRaw_eq_ok_iff.1 h
    exact ⟨hlen, _, strip_render hv, rfl⟩
  · rintro ⟨hlen, s, hs, rfl⟩
    rw [ofRaw_eq hlen, hs]

end Capture

/-- **Concatenation.** Behind an accepted text, a second one is accepted exactly when it is accepted
alone and shares no label with the first; the clean texts and the markers are then those of both,
the second ones moved behind the first. -/
theorem ofRaw_append {rules : Rules} (serial serial₁ serial₂ : Nat) {f g : Text} {c₁ : Capture}
    (hsize : f.length + g.length ≤ rules.sizeLimit)
    (h₁ : Capture.ofRaw rules serial₁ f = .ok c₁) :
    ((∃ c, Capture.ofRaw rules serial (f ++ g) = .ok c) ↔
      ∃ c₂, Capture.ofRaw rules serial₂ g = .ok c₂ ∧ ∀ l ∈ c₁.labels, l ∉ c₂.labels) ∧
    ∀ c, Capture.ofRaw rules serial (f ++ g) = .ok c →
      ∃ c₂, Capture.ofRaw rules serial₂ g = .ok c₂ ∧
        c.document.text = c₁.document.text ++ c₂.document.text ∧
        c.markers = c₁.markers ++ c₂.markers.map fun m =>
          ⟨m.offset + c₁.document.size, m.label, m.sourceOffset + f.length⟩ := by
  obtain ⟨-, s₁, hs₁, rfl⟩ := Capture.ofRaw_eq_ok_iff_strip.1 h₁
  have hlen : (f ++ g).length ≤ rules.sizeLimit := by rwa [List.length_append]
  have hg : g.length ≤ rules.sizeLimit := by omega
  refine ⟨⟨?_, ?_⟩, ?_⟩
  · rintro ⟨c, hc⟩
    obtain ⟨-, s, hs, -⟩ := Capture.ofRaw_eq_ok_iff_strip.1 hc
    obtain ⟨s₂, hs₂, hnew, -⟩ := (strip_append_eq_ok_iff hs₁).1 hs
    exact ⟨_, Capture.ofRaw_eq_ok_iff_strip.2 ⟨hg, s₂, hs₂, rfl⟩, hnew⟩
  · rintro ⟨c₂, hc₂, hnew⟩
    obtain ⟨-, s₂, hs₂, rfl⟩ := Capture.ofRaw_eq_ok_iff_strip.1 hc₂
    have hs := (strip_append_eq_ok_iff hs₁).2 ⟨s₂, hs₂, hnew, rfl⟩
    exact ⟨_, Capture.ofRaw_eq_ok_iff_strip.2 ⟨hlen, _, hs, rfl⟩⟩
  · intro c hc
    obtain ⟨-, s, hs, rfl⟩ := Capture.ofRaw_eq_ok_iff_strip.1 hc
    obtain ⟨s₂, hs₂, -, rfl⟩ := (strip_append_eq_ok_iff hs₁).1 hs
    refine ⟨_, Capture.ofRaw_eq_ok_iff_strip.2 ⟨hg, s₂, hs₂, rfl⟩, ?_, ?_⟩
    · simp only [Document.text_ofText]
    · simp only [Document.size_eq, Document.text_ofText]
      rfl

/-- Behind a text that ends in a closer, one that starts with an opener; and one that uses its label
again. -/
theorem ofRaw_append_standard :
    (∃ c, Capture.ofRaw .standard 2 "a🌵(x)b)(🌵()\n🌵(y)".toList = .ok c ∧
      c.document.text = "ab)(\n".toList ∧
      c.markers = [⟨1, some "x".toList, 1⟩, ⟨4, none, 8⟩, ⟨5, some "y".toList, 12⟩]) ∧
    ¬ ∃ c, Capture.ofRaw .standard 2 "a🌵(x)b)🌵(x)".toList = .ok c := by
  have h₁ : Capture.ofRaw .standard 0 "a🌵(x)b)".toList =
      .ok ⟨.ofText 0 "ab)".toList, [⟨1, some "x".toList, 1⟩]⟩ := by rfl
  have h₂ : Capture.ofRaw .standard 1 "(🌵()\n🌵(y)".toList =
      .ok ⟨.ofText 1 "(\n".toList, [⟨1, none, 1⟩, ⟨2, some "y".toList, 5⟩]⟩ := by rfl
  have h₃ : Capture.ofRaw .standard 1 "🌵(x)".toList =
      .ok ⟨.ofText 1 [], [⟨0, some "x".toList, 0⟩]⟩ := by rfl
  constructor
  · obtain ⟨hiff, hparts⟩ := ofRaw_append 2 0 1 (by decide) h₁ (g := "(🌵()\n🌵(y)".toList)
    obtain ⟨c, hc⟩ := hiff.2 ⟨_, h₂, by decide⟩
    obtain ⟨c₂, hc₂, htext, hmarkers⟩ := hparts c hc
    rw [h₂] at hc₂
    obtain rfl := Except.ok.inj hc₂
    exact ⟨c, hc, htext, hmarkers⟩
  · intro h
    obtain ⟨c₂, hc₂, hnew⟩ := (ofRaw_append 2 0 1 (by decide) h₁ (g := "🌵(x)".toList)).1.1 h
    rw [h₃] at hc₂
    obtain rfl := Except.ok.inj hc₂
    exact hnew "x".toList (by decide) (by decide)

end MarkedText
