import MarkedText.Capture.Basic
import MarkedText.Proofs.Marker.Scanning

/-!
# Every raw text is a template, up to its first flaw

A raw text is either a valid template written down, or such a template with a flawed marker behind
it. As a scan is known in both cases, this says what stripping gives for every text at all.

* `marker_or_flawed`: what stands behind a glyph is a marker that fits, or flawed.
* `exists_reading`: the decomposition of a raw text.
* `strip_eq_ok_iff`, `strip_eq_error_iff`: what stripping accepts, and what it refuses.
* `Capture.ofRaw_eq_ok_iff`, `Capture.ofRaw_eq_error_iff`: the same for captures.
-/

namespace MarkedText

/-! ## One marker -/

/-- A text up to its first closer or line feed. -/
theorem exists_label_split (d : Delimiters) (t : Text) :
    ∃ body rest, t = body ++ rest ∧ d.closer ∉ body ∧ '\n' ∉ body ∧
      ∀ c ∈ rest.head?, c = d.closer ∨ c = '\n' := by
  induction t with
  | nil => exact ⟨[], [], rfl, List.not_mem_nil, List.not_mem_nil, by simp⟩
  | cons c t ih =>
    by_cases hc : c = d.closer ∨ c = '\n'
    · exact ⟨[], c :: t, rfl, List.not_mem_nil, List.not_mem_nil, by simpa using hc⟩
    · obtain ⟨body, rest, rfl, h1, h2, h3⟩ := ih
      have hc1 : d.closer ≠ c := fun h => hc (Or.inl h.symm)
      have hc2 : '\n' ≠ c := fun h => hc (Or.inr h.symm)
      exact ⟨c :: body, rest, rfl, by simp [hc1, h1], by simp [hc2, h2], h3⟩

theorem marker_or_flawed (d : Delimiters) (used : List Text) (t : Text) :
    (∃ (o : Option Text) (rest : Text), t = d.opener :: (o.getD [] ++ d.closer :: rest) ∧
      ∀ l ∈ o, Template.FreshLabel d used l) ∨ ∃ f, Flawed d used f t := by
  by_cases ho : t.head? = some d.opener
  · obtain ⟨t, rfl⟩ := List.head?_eq_some_iff.1 ho
    obtain ⟨l, rest, rfl, hc, hn, hstop⟩ := exists_label_split d t
    by_cases hr : rest.head? = some d.closer
    · obtain ⟨rest, rfl⟩ := List.head?_eq_some_iff.1 hr
      by_cases hne : l = []
      · exact Or.inl ⟨none, rest, by rw [hne]; rfl, by simp⟩
      by_cases hl : isLabel l = true
      · by_cases hu : l ∈ used
        · exact Or.inr ⟨_, .duplicateLabel hc hl hu⟩
        · refine Or.inl ⟨some l, rest, rfl, fun l' h => ?_⟩
          obtain rfl : l = l' := Option.some.inj h
          exact ⟨hl, hc, hu⟩
      · exact Or.inr ⟨_, .invalidLabel hc hn hne (Bool.not_eq_true _ ▸ hl)⟩
    · refine Or.inr ⟨_, .unterminated hc hn fun c h => ?_⟩
      rcases hstop c h with rfl | hc'
      · exact absurd h hr
      · exact hc'
  · exact Or.inr ⟨_, .bareGlyph ho⟩

/-! ## Whole texts -/

/-- The induction is on the length of the text: it is cut at its first glyph, and what stands
behind the marker there is shorter. -/
theorem exists_tail_reading (d : Delimiters) (used : List Text) (raw : Text) :
    ∃ head ps, d.glyph ∉ head ∧ Template.Fits d used ps ∧
      (raw = Template.render d ⟨head, ps⟩ ∨
        ∃ f rest, raw = Template.render d ⟨head, ps⟩ ++ d.glyph :: rest ∧
          Flawed d ((Template.labels ⟨head, ps⟩).reverse ++ used) f rest) := by
  induction hlen : raw.length using Nat.strongRecOn generalizing raw used with
  | ind n ih =>
    by_cases hg : d.glyph ∈ raw
    · obtain ⟨head, behind, rfl, hhead⟩ := List.eq_append_cons_of_mem hg
      rcases marker_or_flawed d used behind with ⟨o, rest, rfl, hfresh⟩ | ⟨f, hf⟩
      · have hlt : rest.length < n := by
          rw [← hlen]
          simp only [List.length_append, List.length_cons]
          omega
        obtain ⟨piece, ps, hpiece, hfits, hps⟩ := ih rest.length hlt (o.toList ++ used) rest rfl
        have hrender : Template.render d ⟨head, (o, piece) :: ps⟩ =
            head ++ d.token (o.getD []) ++ Template.render d ⟨piece, ps⟩ := by
          simp [Template.render, Template.renderPart]
        have htoken : head ++ d.glyph :: d.opener :: (o.getD [] ++ d.closer :: rest) =
            head ++ d.token (o.getD []) ++ rest := by
          simp [Delimiters.token]
        refine ⟨head, (o, piece) :: ps, hhead, ⟨hfresh, hpiece, hfits⟩, ?_⟩
        rw [hrender, htoken]
        rcases hps with rfl | ⟨f, rest', rfl, hf⟩
        · exact Or.inl rfl
        · refine Or.inr ⟨f, rest', by simp only [List.append_assoc], ?_⟩
          rw [Template.labels_cons, List.reverse_append, List.append_assoc]
          cases o <;> exact hf
      · refine ⟨head, [], hhead, trivial, Or.inr ⟨f, behind, ?_, hf⟩⟩
        simp [Template.render]
    · exact ⟨raw, [], hg, trivial, Or.inl (by simp [Template.render])⟩

theorem exists_reading (d : Delimiters) (raw : Text) :
    (∃ t : Template, t.Valid d ∧ raw = t.render d) ∨
      ∃ (t : Template) (f : Flaw) (rest : Text), t.Valid d ∧ raw = t.render d ++ d.glyph :: rest ∧
        Flawed d t.labels.reverse f rest := by
  obtain ⟨head, ps, hhead, hfits, h⟩ := exists_tail_reading d [] raw
  have hv := (Template.valid_of_fits hhead hfits).1
  rcases h with h | ⟨f, rest, h, hf⟩
  · exact Or.inl ⟨⟨head, ps⟩, hv, h⟩
  · rw [List.append_nil] at hf
    exact Or.inr ⟨⟨head, ps⟩, f, rest, hv, h, hf⟩

/-! ## Stripping -/

theorem strip_eq_ok_iff {d : Delimiters} {raw : Text} {s : Stripped} :
    strip d raw = .ok s ↔
      ∃ t : Template, t.Valid d ∧ raw = t.render d ∧ s = ⟨t.clean, t.markers d⟩ := by
  constructor
  · intro hs
    rcases exists_reading d raw with ⟨t, hv, rfl⟩ | ⟨t, f, rest, hv, rfl, hf⟩
    · rw [strip_render hv] at hs
      exact ⟨t, hv, rfl, (Except.ok.inj hs).symm⟩
    · rw [strip_flawed hv hf] at hs
      cases hs
  · rintro ⟨t, hv, rfl, rfl⟩
    exact strip_render hv

theorem strip_eq_error_iff {d : Delimiters} {raw : Text} {m : Malformed} :
    strip d raw = .error m ↔
      ∃ (t : Template) (rest : Text), t.Valid d ∧ raw = t.render d ++ d.glyph :: rest ∧
        Flawed d t.labels.reverse m.flaw rest ∧ m.start = (t.render d).length := by
  constructor
  · intro hs
    rcases exists_reading d raw with ⟨t, hv, rfl⟩ | ⟨t, f, rest, hv, rfl, hf⟩
    · rw [strip_render hv] at hs
      cases hs
    · rw [strip_flawed hv hf] at hs
      obtain rfl := Except.error.inj hs
      exact ⟨t, rest, hv, rfl, hf, rfl⟩
  · rintro ⟨t, rest, hv, rfl, hf, hm⟩
    rw [strip_flawed hv hf, ← hm]

/-! ## Captures -/

namespace Capture

theorem ofRaw_eq_ok_iff {rules : Rules} {serial : Nat} {raw : Text} {c : Capture} :
    ofRaw rules serial raw = .ok c ↔ raw.length ≤ rules.sizeLimit ∧
      ∃ t : Template, t.Valid rules.delimiters ∧ raw = t.render rules.delimiters ∧
        c = ⟨.ofText serial t.clean, t.markers rules.delimiters⟩ := by
  by_cases hlen : raw.length ≤ rules.sizeLimit
  · rw [ofRaw_eq hlen]
    cases hs : strip rules.delimiters raw with
    | ok s =>
      obtain ⟨t, hv, rfl, rfl⟩ := strip_eq_ok_iff.1 hs
      simp only [Except.ok.injEq]
      constructor
      · rintro rfl
        exact ⟨hlen, t, hv, rfl, rfl⟩
      · rintro ⟨-, u, hu, hr, rfl⟩
        rw [hr, strip_render hu] at hs
        obtain ⟨h1, h2⟩ := Stripped.mk.inj (Except.ok.inj hs)
        rw [h1, h2]
    | error m =>
      constructor
      · intro h
        cases h
      · rintro ⟨-, t, hv, rfl, -⟩
        rw [strip_render hv] at hs
        cases hs
  · rw [ofRaw_tooLarge (Nat.lt_of_not_le hlen)]
    constructor
    · intro h
      cases h
    · exact fun h => absurd h.1 hlen

theorem ofRaw_eq_error_iff {rules : Rules} {serial : Nat} {raw : Text} {f : Fault} :
    ofRaw rules serial raw = .error f ↔
      rules.sizeLimit < raw.length ∧ f = .malformed (sizeReport rules raw) ∨
      raw.length ≤ rules.sizeLimit ∧ ∃ m, strip rules.delimiters raw = .error m ∧
        f = .malformed (m.report rules.delimiters (.ofText serial raw)) := by
  by_cases hlen : raw.length ≤ rules.sizeLimit
  · rw [ofRaw_eq hlen]
    cases hs : strip rules.delimiters raw with
    | ok s => simp [Nat.not_lt.2 hlen]
    | error m => simp [Nat.not_lt.2 hlen, hlen, eq_comm]
  · rw [ofRaw_tooLarge (Nat.lt_of_not_le hlen)]
    simp [Nat.lt_of_not_le hlen, Nat.not_le.2 (Nat.lt_of_not_le hlen), eq_comm]

end Capture

end MarkedText
