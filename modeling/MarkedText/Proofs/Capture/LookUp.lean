import MarkedText.Proofs.Capture.Calls

/-!
# Three ways to a marker

A marker of a captured text is reached by going through a replay, by its number, or by its label. A
number leads to the marker that a new replay comes to after as many others. A label leads to the same
marker as some number, and only one number will do, since no two markers of a captured text share a
label. Captures never change, so a look-up gives the same behind any run of a session, whatever has
become of the cursors that earlier ones have given.

* `Capture.Labelled`, `Capture.labelled_of_ofRaw`: the labels of a captured text.
* `Capture.getElem?_callEach_eq`: what a replay gives is what its number gives.
* `Capture.cursorNamed_eq_cursorAt`: what a label gives is what its number gives.
* `object?_run_capture`: captures never change.
* `lookUp_agree`: how the three ways of reaching a marker agree.
-/

namespace MarkedText

/-! ## Labels -/

theorem Marker.map_some_labels (ms : List Marker) :
    (labels ms).map some = (ms.map label).filter Option.isSome := by
  induction ms with
  | nil => rfl
  | cons m ms ih =>
    unfold labels at ih ⊢
    cases h : m.label <;> simp [h, ih]

namespace Capture

/-- The marker number `i` has the label. -/
def HasLabel (c : Capture) (i : Nat) (label : Text) : Prop :=
  c.markers[i]?.bind Marker.label = some label

/-- No marker has an empty label, and no two markers share one. -/
structure Labelled (c : Capture) : Prop where
  nil_notMem : [] ∉ c.labels
  nodup : c.labels.Nodup

theorem labelled_of_ofRaw {rules : Rules} {serial : Nat} {raw : Text} {c : Capture}
    (h : ofRaw rules serial raw = .ok c) : c.Labelled := by
  obtain ⟨-, t, hv, -, rfl⟩ := ofRaw_eq_ok_iff.1 h
  have hlabels : labels ⟨.ofText serial t.clean, t.markers rules.delimiters⟩ = t.labels :=
    Template.labels_markers rules.delimiters t
  constructor
  · rw [hlabels]
    intro hnil
    exact ((isLabel_iff []).1 (hv.labels_closed [] hnil).1).1 rfl
  · rw [hlabels]
    exact hv.labels_nodup

variable {c : Capture} {label : Text}

theorem hasLabel_iff {i : Nat} :
    c.HasLabel i label ↔ ∃ m, c.markers[i]? = some m ∧ m.label = some label :=
  Option.bind_eq_some_iff

theorem mem_labels_iff : label ∈ c.labels ↔ ∃ i, c.HasLabel i label := by
  rw [labels_eq, List.mem_filterMap]
  constructor
  · rintro ⟨m, hm, hl⟩
    obtain ⟨i, hi⟩ := List.mem_iff_getElem?.1 hm
    exact ⟨i, hasLabel_iff.2 ⟨m, hi, hl⟩⟩
  · rintro ⟨i, hi⟩
    obtain ⟨m, hm, hl⟩ := hasLabel_iff.1 hi
    exact ⟨m, List.mem_of_getElem? hm, hl⟩

/-- A label that two markers had would stand in the row of labels twice. -/
theorem Labelled.index_unique (hc : c.Labelled) {i j : Nat} (hi : c.HasLabel i label)
    (hj : c.HasLabel j label) : i = j := by
  obtain ⟨m, hm, hml⟩ := hasLabel_iff.1 hi
  obtain ⟨k, hk, hkl⟩ := hasLabel_iff.1 hj
  obtain ⟨hilt, rfl⟩ := List.getElem?_eq_some_iff.1 hm
  obtain ⟨hjlt, rfl⟩ := List.getElem?_eq_some_iff.1 hk
  have hpairs := List.pairwise_iff_getElem.1 (List.pairwise_filterMap.1 hc.nodup)
  obtain hlt | heq | hgt := Nat.lt_trichotomy i j
  · exact absurd rfl (hpairs i j hilt hjlt hlt _ hml _ hkl)
  · exact heq
  · exact absurd rfl (hpairs j i hjlt hilt hgt _ hkl _ hml)

/-! ## Look-up -/

theorem cursorAt_eq_error {i : Int} (h : ¬ (0 ≤ i ∧ i < c.markers.length)) :
    c.cursorAt i = .error (.unknownMarker (.index i) c.markers.length) := by
  unfold cursorAt
  by_cases hi : 0 ≤ i
  · rw [if_pos hi, List.getElem?_eq_none (by omega)]
  · rw [if_neg hi]

theorem cursorNamed_eq_error (h : label ∉ c.labels) :
    c.cursorNamed label = .error (.unknownMarker (.label label) c.markers.length) := by
  have hnone : (c.markers.find? fun m => m.label == some label) = none := by
    apply List.find?_eq_none.2
    intro m hm hl
    exact h (List.mem_filterMap.2 ⟨m, hm, beq_iff_eq.1 hl⟩)
  rw [cursorNamed, hnone]

/-- The look-up by label stops at the first marker with the label, which is the only one. -/
theorem cursorNamed_eq_cursorAt (hc : c.Labelled) {i : Nat} (h : c.HasLabel i label) :
    c.cursorNamed label = c.cursorAt i := by
  obtain ⟨m, hm, hl⟩ := hasLabel_iff.1 h
  have hfound : (c.markers.find? fun m => m.label == some label).isSome :=
    List.find?_isSome.2 ⟨m, List.mem_of_getElem? hm, beq_iff_eq.2 hl⟩
  obtain ⟨k, hk⟩ := Option.isSome_iff_exists.1 hfound
  obtain ⟨hkl, j, hj, hkj, -⟩ := List.find?_eq_some_iff_getElem.1 hk
  have hkm : c.markers[j]? = some k := List.getElem?_eq_some_iff.2 ⟨hj, hkj⟩
  obtain rfl := hc.index_unique h (hasLabel_iff.2 ⟨k, hkm, beq_iff_eq.1 hkl⟩)
  rw [cursorNamed, hk, cursorAt_eq hkm]

/-- The call that comes after as many others gives what the look-up by number gives. -/
theorem getElem?_callEach_eq (c : Capture) {calls : List Replay.Call} {i : Nat}
    (hi : i < c.markers.length) (hcalls : i < calls.length) :
    ((Replay.ofCapture c).callEach calls).2[i]? = some (c.cursorAt i) := by
  have hm : c.markers[i]? = some c.markers[i] := List.getElem?_eq_getElem hi
  have honward : (Replay.ofCapture c).onward i = ⟨c, i⟩ := by
    rw [Replay.onward, Replay.ofCapture, Nat.zero_add, Nat.min_eq_left (Nat.le_of_lt hi)]
  rw [Replay.getElem?_callEach (Nat.zero_le _), List.getElem?_eq_getElem hcalls, Option.map_some,
    honward, Replay.call_eq_take, Replay.take, hm, cursorAt_eq hm]

theorem exists_cursorAt (hp : c.Placeable) {i : Nat} (hi : i < c.markers.length) :
    ∃ x, c.cursorAt i = .ok x := by
  have hm : c.markers[i]? = some c.markers[i] := List.getElem?_eq_getElem hi
  obtain ⟨hlo, hhi⟩ := hp _ (List.getElem_mem hi)
  obtain ⟨x, hx, -⟩ := Cursor.exists_at? hlo hhi
  exact ⟨x, by rw [cursorAt_eq hm, hx]⟩

/-- Looks up a marker by number or by label. -/
def lookUp (c : Capture) : Report.Key → Except Fault Cursor
  | .index i => c.cursorAt i
  | .label l => c.cursorNamed l

end Capture

/-! ## Sessions -/

namespace Session

variable {s : Session} {h : Handle} {c : Capture}

theorem not_moves_capture (hc : s.object? h = some (.capture c)) {order : Step} {o : Object} :
    ¬ Moves s order h o := by
  intro hm
  cases hm with
  | advance hl | scanInteger hl => cases hc.symm.trans (lookUp_asCursor.1 hl).2
  | next hl | nextOrFinished hl | drain hl => cases hc.symm.trans (lookUp_asReplay.1 hl).2

theorem object?_step_capture (hc : s.object? h = some (.capture c)) (order : Step)
    (name : Option Text) : (s.step order name).1.object? h = some (.capture c) :=
  object?_step hc (fun _ hm => absurd hm (not_moves_capture hc)) (fun _ => rfl) name

theorem object?_run_capture (hc : s.object? h = some (.capture c))
    (orders : List (Step × Option Text)) : (s.run orders).object? h = some (.capture c) := by
  induction orders generalizing s with
  | nil => exact hc
  | cons order rest ih => exact ih (object?_step_capture hc order.1 order.2)

/-- The step that looks up a marker by number or by label. -/
def lookUpStep (captured : Text) : Report.Key → Step
  | .index i => .cursorAt captured i
  | .label l => .cursorNamed captured l

variable {captured : Text}

theorem perform_lookUpStep (hl : s.lookUp asCapture captured = .ok (h, c)) (key : Report.Key) :
    s.perform (lookUpStep captured key) = s.createCursor (c.lookUp key) := by
  cases key <;> simp only [lookUpStep, perform, hl, attempt, Capture.lookUp]

theorem step_lookUpStep (hl : s.lookUp asCapture captured = .ok (h, c)) (key : Report.Key)
    (name : Option Text) :
    (s.step (lookUpStep captured key) name).2 = (c.lookUp key).map .cursor := by
  rw [step, perform_lookUpStep hl, createCursor]
  cases c.lookUp key <;> rfl

/-- The cursor that a look-up gives is a new object. -/
theorem object?_step_lookUpStep (hl : s.lookUp asCapture captured = .ok (h, c)) {key : Report.Key}
    {x : Cursor} (hx : c.lookUp key = .ok x) (name : Option Text) :
    (s.step (lookUpStep captured key) name).1.object? s.objects.size = some (.cursor x) := by
  have hnew := object?_add_new s (.cursor x)
  rw [object?, objects_step, perform_lookUpStep hl, hx]
  exact hnew

/-- A look-up touches no object. -/
theorem object?_step_lookUpStep_old (key : Report.Key) (name : Option Text) {k : Handle}
    (hk : k < s.objects.size) :
    (s.step (lookUpStep captured key) name).1.object? k = s.object? k := by
  obtain hs | ⟨o, hm, -⟩ := (extends_step s (lookUpStep captured key) name).old k hk
  · exact hs
  · cases key <;> cases hm

/-- **Reaching a marker.** In a captured text of `n` markers the numbers from zero up to `n` lead to a
cursor, which is the one that a new replay gives after as many others, and no other number leads
anywhere. The labels are those of the markers that have one, in order; each of them leads to the cursor
of the one number whose marker has it, and no other text leads anywhere. In a session that holds the
capture a look-up answers so behind any run, makes a new object of the cursor it gives, and touches no
other. -/
theorem lookUp_agree {rules : Rules} {serial : Nat} {raw : Text}
    (hc : Capture.ofRaw rules serial raw = .ok c) :
    let n := c.markers.length
    (∀ i : Int,
      if 0 ≤ i ∧ i < n then
        ∃ x, c.lookUp (.index i) = .ok x ∧ ∀ calls : List Replay.Call, i < calls.length →
          ((Replay.ofCapture c).callEach calls).2[i.toNat]? = some (.ok x)
      else c.lookUp (.index i) = .error (.unknownMarker (.index i) n)) ∧
    c.labels.map some = (c.markers.map Marker.label).filter Option.isSome ∧
    [] ∉ c.labels ∧
    (∀ l : Text,
      if l ∈ c.labels then
        ∃ (i : Nat) (x : Cursor), (∀ j, c.HasLabel j l ↔ j = i) ∧
          c.lookUp (.label l) = .ok x ∧ c.lookUp (.index i) = .ok x
      else c.lookUp (.label l) = .error (.unknownMarker (.label l) n)) ∧
    ∀ (s : Session) (h : Handle), s.object? h = some (.capture c) →
      ∀ (orders : List (Step × Option Text)) (captured : Text) (key : Report.Key)
        (name : Option Text),
      let t := s.run orders
      t.find? captured = some h →
        let after := t.step (lookUpStep captured key) name
        after.2 = (c.lookUp key).map .cursor ∧
        t.object? t.objects.size = none ∧
        (∀ x, c.lookUp key = .ok x → after.1.object? t.objects.size = some (.cursor x)) ∧
        ∀ k < t.objects.size, after.1.object? k = t.object? k := by
  intro n
  have hp := Capture.placeable_of_ofRaw hc
  have hlabelled := Capture.labelled_of_ofRaw hc
  refine ⟨fun i => ?_, Marker.map_some_labels c.markers, hlabelled.nil_notMem, fun l => ?_, ?_⟩
  · split
    · next hi =>
      obtain ⟨k, rfl⟩ := Int.eq_ofNat_of_zero_le hi.1
      have hk : k < c.markers.length := Int.ofNat_lt.1 hi.2
      obtain ⟨x, hx⟩ := Capture.exists_cursorAt hp hk
      refine ⟨x, hx, fun calls hcalls => ?_⟩
      rw [Int.toNat_natCast, Capture.getElem?_callEach_eq c hk (Int.ofNat_lt.1 hcalls), hx]
    · next hi => exact Capture.cursorAt_eq_error hi
  · split
    · next hl =>
      obtain ⟨i, hi⟩ := Capture.mem_labels_iff.1 hl
      obtain ⟨m, hm, -⟩ := Capture.hasLabel_iff.1 hi
      obtain ⟨x, hx⟩ := Capture.exists_cursorAt hp (List.getElem?_eq_some_iff.1 hm).1
      refine ⟨i, x, fun j => ⟨fun hj => hlabelled.index_unique hj hi, ?_⟩, ?_, hx⟩
      · rintro rfl
        exact hi
      · rw [Capture.lookUp, Capture.cursorNamed_eq_cursorAt hlabelled hi, hx]
    · next hl => exact Capture.cursorNamed_eq_error hl
  · intro s h ho orders captured key name t hf after
    have hl := lookUp_asCapture.2 ⟨hf, object?_run_capture ho orders⟩
    exact ⟨step_lookUpStep hl key name, Array.getElem?_eq_none (Nat.le_refl _),
      fun x hx => object?_step_lookUpStep hl hx name,
      fun k hk => object?_step_lookUpStep_old key name hk⟩

/-- The second marker is looked up by its label, and the cursor is sent to the end. -/
def visits : List (Step × Option Text) :=
  [(.cursorNamed "r".toList "x".toList, some "a".toList), (.advance "a".toList 1, none)]

theorem lookUp_agree_twoMarkers :
    ∃ c : Capture, Capture.ofRaw .standard 0 twoMarkers = .ok c ∧
      c.lookUp (.label "x".toList) = c.lookUp (.index 1) ∧
      c.lookUp (.index (-1)) = .error (.unknownMarker (.index (-1)) 2) ∧
      c.lookUp (.index 2) = .error (.unknownMarker (.index 2) 2) ∧
      c.lookUp (.label []) = .error (.unknownMarker (.label []) 2) ∧
      (∃ x, ((Replay.ofCapture c).callEach [.next, .nextOrFinished]).2[1]? = some (.ok x) ∧
        c.lookUp (.label "x".toList) = .ok x ∧
        ((beforeTurns.run visits).step (.cursorNamed "r".toList "x".toList) none).2 =
          .ok (.cursor x)) := by
  have hc : Capture.ofRaw .standard 0 twoMarkers =
      .ok ⟨.ofText 0 "ab".toList, [⟨0, none, 0⟩, ⟨1, some "x".toList, 4⟩]⟩ := by rfl
  obtain ⟨hindex, -, hnil, hlabel, hsession⟩ := lookUp_agree hc
  have hone := hindex 1
  rw [if_pos (by decide)] at hone
  obtain ⟨x, hx, hcalls⟩ := hone
  have hnamed := hlabel "x".toList
  rw [if_pos (by decide)] at hnamed
  obtain ⟨i, y, hi, hy, hyi⟩ := hnamed
  obtain rfl : 1 = i := (hi 1).1 rfl
  obtain rfl : y = x := Except.ok.inj (hyi.symm.trans hx)
  have hleft := hindex (-1)
  rw [if_neg (by decide)] at hleft
  have hright := hindex 2
  rw [if_neg (by decide)] at hright
  have hempty := hlabel []
  rw [if_neg hnil] at hempty
  have hstep := (hsession beforeTurns 0 (by rfl) visits "r".toList (.label "x".toList) none
    (by rfl)).1
  rw [hy] at hstep
  exact ⟨_, hc, hy.trans hx.symm, hleft, hright, hempty, y,
    hcalls [.next, .nextOrFinished] (by decide), hy, hstep⟩

end Session

end MarkedText
