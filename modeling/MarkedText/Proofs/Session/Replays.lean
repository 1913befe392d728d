import MarkedText.Proofs.Marker.Reading
import MarkedText.Proofs.Session.Steps

/-!
# How replays go on

A replay of a capture gives its markers one by one and remembers only how many calls it has had. What
other replays of the capture do, and what becomes of the cursors, is nothing to it. Behind the last
marker every call fails and leaves the session as it was.

* `Capture.placeable_of_ofRaw`: the markers of a captured text lie in its document.
* `Replay.onward`, `Replay.take_fst`, `Replay.drain_fst`: a replay behind so many calls.
* `object?_step_replay`, `object?_run_replay`: a replay behind a step and behind a run.
* `step_call`, `step_call_end`: what a call gives, and a call too many.
* `replay_eq`: a replay behind any run, and its next call.
-/

namespace MarkedText

/-- Whether a cursor can be placed at the marker. -/
def Marker.LiesIn (m : Marker) (d : Document) : Prop := 0 ≤ m.offset ∧ m.offset ≤ d.size

instance (m : Marker) (d : Document) : Decidable (m.LiesIn d) :=
  inferInstanceAs (Decidable (0 ≤ m.offset ∧ m.offset ≤ d.size))

/-- The markers all lie in the document. -/
def Capture.Placeable (c : Capture) : Prop := ∀ m ∈ c.markers, m.LiesIn c.document

theorem Capture.placeable_of_ofRaw {rules : Rules} {serial : Nat} {raw : Text} {c : Capture}
    (h : ofRaw rules serial raw = .ok c) : c.Placeable := by
  obtain ⟨-, t, -, -, rfl⟩ := ofRaw_eq_ok_iff.1 h
  intro m hm
  rw [Marker.LiesIn, Document.size_eq, Document.text_ofText]
  exact Template.offset_le_of_mem_markers hm

theorem Cursor.exists_at? {d : Document} {i : Int} (hlo : 0 ≤ i) (hhi : i ≤ d.size) :
    ∃ x, at? d i = .ok x ∧ x.document = d ∧ (x.index : Int) = i := by
  refine ⟨⟨d, i.toNat, by omega⟩, dif_pos ⟨hlo, hhi⟩, rfl, ?_⟩
  simp only
  omega

/-! ## Calls -/

namespace Replay

variable {r : Replay} {atEnd : Fault}

/-- The replay behind `k` more calls. -/
def onward (r : Replay) (k : Nat) : Replay :=
  { r with position := min (r.position + k) r.capture.markers.length }

theorem onward_zero (h : r.position ≤ r.capture.markers.length) : r.onward 0 = r := by
  simp only [onward, Nat.add_zero, Nat.min_eq_left h]

theorem onward_onward (r : Replay) (j k : Nat) : (r.onward j).onward k = r.onward (j + k) := by
  simp only [onward, Replay.mk.injEq, true_and]
  omega

theorem take_fst (h : r.position ≤ r.capture.markers.length) (atEnd : Fault) :
    (r.take atEnd).1 = r.onward 1 := by
  unfold take
  split
  · rename_i m hm
    have hlt := (List.getElem?_eq_some_iff.1 hm).1
    simp only [onward, Nat.min_eq_left hlt]
  · rename_i hm
    have hle := List.getElem?_eq_none_iff.1 hm
    have hmin : min (r.position + 1) r.capture.markers.length = r.position := by omega
    simp only [onward, hmin]

/-- Where all markers can be placed, none is left over. -/
theorem placeAll_fst {d : Document} {ms : List Marker} (h : ∀ m ∈ ms, m.LiesIn d) (n : Nat)
    (placed : List Cursor) : (placeAll d ms n placed).1 = n + ms.length := by
  induction ms generalizing n placed with
  | nil => rfl
  | cons m ms ih =>
    obtain ⟨hlo, hhi⟩ := h m (List.mem_cons_self ..)
    obtain ⟨x, hx, -⟩ := Cursor.exists_at? hlo hhi
    have hrest : ∀ m ∈ ms, m.LiesIn d := fun m hm => h m (List.mem_cons_of_mem _ hm)
    rw [placeAll, hx, List.length_cons]
    simp only
    rw [ih hrest]
    omega

theorem drain_fst (h : r.position ≤ r.capture.markers.length) (hp : r.capture.Placeable) :
    r.drain.1 = r.onward (r.remaining + 1) := by
  have hrest : ∀ m ∈ r.capture.markers.drop r.position, m.LiesIn r.capture.document :=
    fun m hm => hp m (List.mem_of_mem_drop hm)
  have hcount := placeAll_fst hrest r.position []
  rw [List.length_drop] at hcount
  simp only [drain, onward, hcount, remaining, Replay.mk.injEq, true_and]
  omega

end Replay

namespace Session

variable {s : Session} {order : Step} {h : Handle} {o : Object} {r : Replay} {c : Capture}
  {atEnd : Fault}

/-- How many calls a step makes of the replay at a handle. Draining is calling until the end has been
reported. -/
def calls (s : Session) (h : Handle) : Step → Nat
  | .next name | .nextOrFinished name => if s.find? name = some h then 1 else 0
  | .drain name =>
    if s.find? name = some h then
      match s.object? h with
      | some (.replay r) => r.remaining + 1
      | _ => 0
    else 0
  | _ => 0

/-- How many calls the steps of a run make of the replay at a handle, all together. -/
def callsOver (h : Handle) : Session → List (Step × Option Text) → Nat
  | _, [] => 0
  | s, order :: rest => s.calls h order.1 + callsOver h (s.step order.1 order.2).1 rest

/-- A step that moves a replay moves it by the calls that it makes of it. -/
theorem Moves.eq_onward (hm : Moves s order h o) (hr : s.object? h = some (.replay r))
    (hle : r.position ≤ r.capture.markers.length) (hp : r.capture.Placeable) :
    o = .replay (r.onward (s.calls h order)) := by
  cases hm with
  | advance hl _ => cases hr.symm.trans (lookUp_asCursor.1 hl).2
  | scanInteger hl => cases hr.symm.trans (lookUp_asCursor.1 hl).2
  | next hl =>
    obtain ⟨hf, ho⟩ := lookUp_asReplay.1 hl
    cases hr.symm.trans ho
    rw [calls, if_pos hf, Replay.next, Replay.take_fst hle]
  | nextOrFinished hl =>
    obtain ⟨hf, ho⟩ := lookUp_asReplay.1 hl
    cases hr.symm.trans ho
    rw [calls, if_pos hf, Replay.nextOrFinished, Replay.take_fst hle]
  | drain hl =>
    obtain ⟨hf, ho⟩ := lookUp_asReplay.1 hl
    cases hr.symm.trans ho
    rw [calls, if_pos hf, hr, Replay.drain_fst hle hp]

theorem of_calls_ne_zero (hc : s.calls h order ≠ 0) :
    ∃ name, (order = .next name ∨ order = .nextOrFinished name ∨ order = .drain name) ∧
      s.find? name = some h := by
  cases order <;> simp only [calls, ne_eq, not_true_eq_false] at hc
  all_goals
    rename_i name
    split at hc
    · exact ⟨name, by simp, by assumption⟩
    · exact absurd rfl hc

/-- A step that calls a replay moves it, if only to where it was. -/
theorem exists_moves_of_calls (hr : s.object? h = some (.replay r)) (hc : s.calls h order ≠ 0) :
    ∃ o, Moves s order h o := by
  obtain ⟨name, rfl | rfl | rfl, hf⟩ := of_calls_ne_zero hc
  · exact ⟨_, .next (lookUp_asReplay.2 ⟨hf, hr⟩)⟩
  · exact ⟨_, .nextOrFinished (lookUp_asReplay.2 ⟨hf, hr⟩)⟩
  · exact ⟨_, .drain (lookUp_asReplay.2 ⟨hf, hr⟩)⟩

theorem object?_step_replay (hr : s.object? h = some (.replay r))
    (hle : r.position ≤ r.capture.markers.length) (hp : r.capture.Placeable) (order : Step)
    (name : Option Text) :
    (s.step order name).1.object? h = some (.replay (r.onward (s.calls h order))) := by
  refine object?_step hr (fun o hm => hm.eq_onward hr hle hp) (fun hm => ?_) name
  have hc : s.calls h order = 0 :=
    Decidable.byContradiction fun hne => hm (exists_moves_of_calls hr hne)
  rw [hc, Replay.onward_zero hle]

theorem object?_run_replay (hr : s.object? h = some (.replay r))
    (hle : r.position ≤ r.capture.markers.length) (hp : r.capture.Placeable)
    (orders : List (Step × Option Text)) :
    (s.run orders).object? h = some (.replay (r.onward (callsOver h s orders))) := by
  induction orders generalizing s r with
  | nil => simpa only [run_nil, callsOver, Replay.onward_zero hle] using hr
  | cons order rest ih =>
    have hstep := object?_step_replay hr hle hp order.1 order.2
    rw [run_cons, ih hstep (Nat.min_le_right _ _) hp, Replay.onward_onward, callsOver]

/-! ## One call -/

/-- The two ways of calling a replay of `n` markers, and how each fails behind the last of them. -/
def callsOf (name : Text) (n : Nat) : List (Step × Fault) :=
  [(.next name, .exhausted n), (.nextOrFinished name, .finished)]

variable {called : Text}

theorem perform_call (hl : s.lookUp asReplay called = .ok (h, r))
    (hcall : (order, atEnd) ∈ callsOf called r.capture.markers.length) :
    s.perform order =
      s.replayed h (r.take atEnd) fun s c => s.create (.cursor c) (.cursor c) := by
  simp only [callsOf, List.mem_cons, List.not_mem_nil, or_false, Prod.mk.injEq] at hcall
  obtain ⟨rfl, rfl⟩ | ⟨rfl, rfl⟩ := hcall <;> simp only [perform, hl, attempt] <;> rfl

/-- A call gives a new cursor at the marker that is next. -/
theorem step_call (hl : s.lookUp asReplay called = .ok (h, r))
    (hcall : (order, atEnd) ∈ callsOf called r.capture.markers.length) {m : Marker} {x : Cursor}
    (hm : r.capture.markers[r.position]? = some m)
    (hx : Cursor.at? r.capture.document m.offset = .ok x) (name : Option Text) :
    (s.step order name).2 = .ok (.cursor x) ∧
      (s.step order name).1.object? s.objects.size = some (.cursor x) := by
  have hperform := perform_call hl hcall
  simp only [replayed, Replay.take, hm, hx, attempt, create] at hperform
  refine ⟨by rw [step, hperform], ?_⟩
  have hnew := object?_add_new (s.put h (.replay { r with position := r.position + 1 })) (.cursor x)
  rw [object?, objects_step, hperform]
  simpa only [object?, put, Array.size_setIfInBounds] using hnew

/-- A call too many changes nothing. -/
theorem step_call_end (hl : s.lookUp asReplay called = .ok (h, r))
    (hcall : (order, atEnd) ∈ callsOf called r.capture.markers.length)
    (hend : r.capture.markers.length ≤ r.position) (name : Option Text) :
    s.step order name = (s, .error atEnd) := by
  have hperform := perform_call hl hcall
  simp only [replayed, Replay.take, List.getElem?_eq_none hend, attempt,
    put_self (lookUp_asReplay.1 hl).2] at hperform
  rw [step, hperform]

/-- A call touches no object but the replay. -/
theorem object?_step_call (hf : s.find? called = some h) {n : Nat}
    (hcall : (order, atEnd) ∈ callsOf called n) {k : Handle} (hk : k < s.objects.size)
    (hne : k ≠ h) (name : Option Text) : (s.step order name).1.object? k = s.object? k := by
  obtain hs | ⟨o, hm, -⟩ := (extends_step s order name).old k hk
  · exact hs
  · simp only [callsOf, List.mem_cons, List.not_mem_nil, or_false, Prod.mk.injEq] at hcall
    obtain ⟨rfl, -⟩ | ⟨rfl, -⟩ := hcall <;> cases hm with
    | _ hl => exact absurd (Option.some.inj ((lookUp_asReplay.1 hl).1.symm.trans hf)) hne

/-- **Replays.** A replay of a captured text stands, behind any run, where the calls that it has had
have brought it, and at the end once they are as many as the markers. Up to there its next call gives
a new cursor at the marker whose turn it is, and touches no other object; from there on every call
fails in its own way, and nothing at all changes. -/
theorem replay_eq {rules : Rules} {serial : Nat} {raw : Text} {source : Handle} {captured : Text}
    (hc : Capture.ofRaw rules serial raw = .ok c)
    (hl : s.lookUp asCapture captured = .ok (source, c)) (name : Option Text)
    (orders : List (Step × Option Text)) :
    let h := s.objects.size
    let start := (s.step (.replay captured) name).1
    let t := start.run orders
    let k := callsOver h start orders
    let n := c.markers.length
    (∃ r, t.object? h = some (.replay r) ∧ r.capture = c ∧ r.position = min k n ∧
      r.remaining = n - min k n) ∧
    ∀ called, t.find? called = some h → ∀ call ∈ callsOf called n, ∀ name,
      (k < n → ∃ m x, c.markers[k]? = some m ∧ x.document = c.document ∧
        (x.index : Int) = m.offset ∧ (t.step call.1 name).2 = .ok (.cursor x) ∧
        t.object? t.objects.size = none ∧
        (t.step call.1 name).1.object? t.objects.size = some (.cursor x) ∧
        ∀ other < t.objects.size, other ≠ h →
          (t.step call.1 name).1.object? other = t.object? other) ∧
      (n ≤ k → t.step call.1 name = (t, .error call.2)) := by
  intro h start t k n
  have hp := Capture.placeable_of_ofRaw hc
  have hstart : start.object? h = some (.replay (.ofCapture c)) := by
    have hnew := object?_add_new s (.replay (.ofCapture c))
    simp only [start, h, object?, objects_step, perform, hl, attempt, create]
    exact hnew
  have ht : t.object? h = some (.replay ((Replay.ofCapture c).onward k)) :=
    object?_run_replay hstart (Nat.zero_le _) hp orders
  have hposition : ((Replay.ofCapture c).onward k).position = min k n := by
    simp only [Replay.onward, Replay.ofCapture, Nat.zero_add, n]
  refine ⟨⟨_, ht, rfl, hposition, by rw [Replay.remaining, hposition]; rfl⟩, ?_⟩
  rintro called hf ⟨order, atEnd⟩ hcall name
  have hreplay := lookUp_asReplay.2 ⟨hf, ht⟩
  refine ⟨fun hlt => ?_, fun hend => ?_⟩
  · have hm : c.markers[k]? = some c.markers[k] := List.getElem?_eq_getElem hlt
    obtain ⟨hlo, hhi⟩ := hp _ (List.getElem_mem hlt)
    obtain ⟨x, hx, hdocument, hindex⟩ := Cursor.exists_at? hlo hhi
    have hnext : ((Replay.ofCapture c).onward k).capture.markers[
        ((Replay.ofCapture c).onward k).position]? = some c.markers[k] := by
      rw [hposition, Nat.min_eq_left (Nat.le_of_lt hlt)]
      exact hm
    obtain ⟨hreply, hnew⟩ := step_call hreplay hcall hnext hx name
    exact ⟨_, x, hm, hdocument, hindex, hreply, Array.getElem?_eq_none (Nat.le_refl _), hnew,
      fun other hother hne => object?_step_call hf hcall hother hne name⟩
  · refine step_call_end hreplay hcall ?_ name
    rw [hposition, Nat.min_eq_right hend]
    exact Nat.le_refl _

def twoMarkers : Text := "🌵()a🌵(x)b".toList

/-- Two replays by turns. The first cursor is sent to the end, and the second marker looked up. -/
def turns : List (Step × Option Text) :=
  [(.replay "r".toList, some "j".toList), (.next "i".toList, some "a".toList),
    (.advance "a".toList 5, none), (.nextOrFinished "j".toList, none),
    (.nextOrFinished "i".toList, none), (.cursorNamed "r".toList "x".toList, none)]

/-- The session in which the replay `i` is about to be made. -/
def beforeTurns : Session :=
  empty.run [(.capture twoMarkers Rules.standard.draft, some "r".toList)]

theorem replay_turns :
    ∃ c : Capture, Capture.ofRaw .standard 0 twoMarkers = .ok c ∧
      beforeTurns.lookUp asCapture "r".toList = .ok (0, c) ∧
      let t := (beforeTurns.step (.replay "r".toList) (some "i".toList)).1.run turns
      (∃ r, t.object? 1 = some (.replay r) ∧ r.position = 2 ∧ r.remaining = 0) ∧
      t.step (.next "i".toList) none = (t, .error (.exhausted 2)) ∧
      t.step (.nextOrFinished "i".toList) none = (t, .error .finished) := by
  have hc : Capture.ofRaw .standard 0 twoMarkers =
      .ok ⟨.ofText 0 "ab".toList, [⟨0, none, 0⟩, ⟨1, some "x".toList, 4⟩]⟩ := by rfl
  have hl : beforeTurns.lookUp asCapture "r".toList =
      .ok (0, ⟨.ofText 0 "ab".toList, [⟨0, none, 0⟩, ⟨1, some "x".toList, 4⟩]⟩) := by rfl
  have hk : callsOver 1 (beforeTurns.step (.replay "r".toList) (some "i".toList)).1 turns = 2 := by
    decide +kernel
  refine ⟨_, hc, hl, ?_⟩
  intro t
  obtain ⟨⟨r, hr, -, hposition, hremaining⟩, hcall⟩ := replay_eq hc hl (some "i".toList) turns
  have hf : t.find? "i".toList = some 1 := by rfl
  refine ⟨⟨r, hr, hposition, hremaining⟩, ?_, ?_⟩
  · exact (hcall _ hf (_, _) (List.mem_cons_self ..) none).2 (Nat.le_of_eq hk.symm)
  · exact (hcall _ hf (_, _) (List.mem_cons_of_mem _ (List.mem_cons_self ..)) none).2
      (Nat.le_of_eq hk.symm)

end Session

end MarkedText
