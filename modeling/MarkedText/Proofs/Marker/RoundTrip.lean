import Mathlib.Algebra.GroupWithZero.Nat
import MarkedText.Proofs.Marker.Reading

/-!
# Captures and templates undo each other

Capturing a template that has been written down gives its pieces and its markers, under any rules.
The other way round, putting the tokens back into a captured text gives the raw text it came from,
code point by code point.

* `ofRaw_render`: capture after writing.
* `insertTokens_of_ofRaw`: writing after capture, with the order of the offsets and the labels.
-/

namespace MarkedText

/-! ## Capture after writing -/

theorem Template.length_clean (t : Template) :
    t.clean.length = t.head.length + (t.tail.map fun p => p.2.length).sum := by
  simp [clean, List.length_flatMap]

/-- **Capture after writing.** The markers are those of the template in order; each stands behind
the pieces before it, and in the raw text behind all that is written before it. -/
theorem ofRaw_render (rules : Rules) (serial : Nat) (t : Template) (hv : t.Valid rules.delimiters)
    (hsize : (t.render rules.delimiters).length ≤ rules.sizeLimit) :
    ∃ c, Capture.ofRaw rules serial (t.render rules.delimiters) = .ok c ∧
      c.document.text = t.head ++ t.tail.flatMap Prod.snd ∧
      c.markers.length = t.tail.length ∧
      ∀ i p, t.tail[i]? = some p → ∃ m : Marker, c.markers[i]? = some m ∧
        m.offset = (t.head.length + ((t.tail.take i).map fun q => q.2.length).sum : Nat) ∧
        m.label = p.1 ∧
        m.sourceOffset = ((t.before i).render rules.delimiters).length := by
  refine ⟨_, Capture.ofRaw_eq_ok_iff.2 ⟨hsize, t, hv, rfl, rfl⟩, ?_, ?_, ?_⟩
  · rw [Document.text_ofText, Template.clean]
  · exact Template.length_markers _ t
  · intro i p hp
    have hm : (t.markers rules.delimiters)[i]? =
        some ⟨(t.before i).clean.length, p.1, ((t.before i).render rules.delimiters).length⟩ := by
      rw [Template.getElem?_markers, hp, Option.map_some]
    exact ⟨_, hm, congrArg Nat.cast (t.before i).length_clean, rfl, rfl⟩

/-- Delimiters that may all stand in labels. -/
def letterDelimiters : Delimiters where
  glyph := 'g'
  opener := 'o'
  closer := 'c'
  glyph_inline := by decide
  opener_inline := by decide
  closer_inline := by decide
  glyph_ne_opener := by decide
  glyph_ne_closer := by decide
  opener_ne_closer := by decide

def letterRules : Rules := ⟨letterDelimiters, 17, by decide⟩

/-- Labels that hold the glyph and the opener, two tokens side by side, one at the very start. -/
def letterTemplate : Template where
  head := []
  tail := [(some "go".toList, "c\n".toList), (none, []), (some "g_".toList, "oo".toList)]

/-- The written template has as many code points as `letterRules` allow. -/
theorem ofRaw_letterTemplate :
    letterTemplate.Valid letterRules.delimiters ∧
      (letterTemplate.render letterRules.delimiters).length ≤ letterRules.sizeLimit ∧
      ∃ c, Capture.ofRaw letterRules 0 "gogocc\ngocgog_coo".toList = .ok c ∧
        c.document.text = "c\noo".toList ∧ c.markers.length = 3 ∧
        ∃ m, c.markers[2]? = some m ∧ m.offset = 2 ∧ m.label = some "g_".toList ∧
          m.sourceOffset = 10 := by
  have hv : letterTemplate.Valid letterRules.delimiters :=
    ⟨by decide, by decide, by decide, by decide⟩
  have hsize : (letterTemplate.render letterRules.delimiters).length ≤ letterRules.sizeLimit := by
    decide
  obtain ⟨c, hc, htext, hcount, hmarkers⟩ := ofRaw_render letterRules 0 letterTemplate hv hsize
  obtain ⟨m, hm, hoffset, hlabel, hsource⟩ := hmarkers 2 _ rfl
  exact ⟨hv, hsize, c, hc, htext, hcount, m, hm, hoffset, hlabel, hsource⟩

/-! ## Writing after capture -/

/-- What a marker of a template has in front of it once the tokens are back. -/
theorem Template.insertTokens_before (d : Delimiters) (t : Template) {i : Nat} {m : Marker}
    (h : (t.markers d)[i]? = some m) :
    insertTokens d 0 (t.clean.take m.offset.toNat) ((t.markers d).take i) =
      (t.before i).render d := by
  rw [getElem?_markers] at h
  obtain ⟨p, -, rfl⟩ := Option.map_eq_some_iff.1 h
  simp only [Int.toNat_natCast]
  rw [t.clean_before_append i, List.take_left, take_markers, insertTokens_clean]

/-- **Writing after capture.** The clean text has no glyph, and its tokens put back give the raw
text; each token starts where its marker says. Offsets never fall and lie in the clean text, and
places in the raw text rise; labels are well formed and distinct. -/
theorem insertTokens_of_ofRaw {rules : Rules} {serial : Nat} {raw : Text} {c : Capture}
    (h : Capture.ofRaw rules serial raw = .ok c) :
    rules.delimiters.glyph ∉ c.document.text ∧
    insertTokens rules.delimiters 0 c.document.text c.markers = raw ∧
    (∀ i m, c.markers[i]? = some m →
      let written := insertTokens rules.delimiters 0 (c.document.text.take m.offset.toNat)
        (c.markers.take i)
      (written.length : Int) = m.sourceOffset ∧
        written ++ rules.delimiters.token (m.label.getD []) <+: raw) ∧
    (c.markers.Pairwise fun j k => j.offset ≤ k.offset) ∧
    (∀ m ∈ c.markers, 0 ≤ m.offset ∧ m.offset ≤ c.document.size) ∧
    (c.markers.Pairwise fun j k => j.sourceOffset < k.sourceOffset) ∧
    (∀ m ∈ c.markers, ∀ l, m.label = some l → l ≠ [] ∧ ∀ x ∈ l, inLabel x = true) ∧
    c.labels.Nodup := by
  obtain ⟨-, t, hv, rfl, rfl⟩ := Capture.ofRaw_eq_ok_iff.1 h
  have hlabels : Marker.labels (t.markers rules.delimiters) = t.labels :=
    Template.labels_markers rules.delimiters t
  simp only [Document.size_eq, Document.text_ofText]
  refine ⟨Template.glyph_notMem_clean hv, Template.insertTokens_clean _ t, ?_,
    (Template.pairwise_markers _ t).imp And.left, fun m hm => Template.offset_le_of_mem_markers hm,
    (Template.pairwise_markers _ t).imp And.right, ?_, ?_⟩
  · intro i m hm
    rw [Template.insertTokens_before _ t hm]
    rw [Template.getElem?_markers] at hm
    obtain ⟨p, hp, rfl⟩ := Option.map_eq_some_iff.1 hm
    exact ⟨rfl, _, (Template.render_before_append rules.delimiters t hp).symm⟩
  · intro m hm l hl
    have hmem : l ∈ t.labels := by
      rw [← hlabels]
      exact List.mem_filterMap.2 ⟨m, hm, hl⟩
    exact (isLabel_iff l).1 (hv.labels_closed l hmem).1
  · rw [Capture.labels, hlabels]
    exact hv.labels_nodup

/-- The raw text of `letterTemplate` again: its last marker has ten code points in front of it. -/
theorem insertTokens_letterText :
    ∃ c, Capture.ofRaw letterRules 0 "gogocc\ngocgog_coo".toList = .ok c ∧
      insertTokens letterDelimiters 0 c.document.text c.markers = "gogocc\ngocgog_coo".toList ∧
      ∃ m, c.markers[2]? = some m ∧ m.sourceOffset = 10 ∧ c.labels.Nodup := by
  have h : Capture.ofRaw letterRules 0 "gogocc\ngocgog_coo".toList =
      .ok ⟨.ofText 0 "c\noo".toList,
        [⟨0, some "go".toList, 0⟩, ⟨2, none, 7⟩, ⟨2, some "g_".toList, 10⟩]⟩ := by rfl
  obtain ⟨-, hraw, -, -, -, -, -, hnodup⟩ := insertTokens_of_ofRaw h
  exact ⟨_, h, hraw, _, rfl, rfl, hnodup⟩

end MarkedText
