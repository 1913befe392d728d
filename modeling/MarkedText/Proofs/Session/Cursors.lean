import MarkedText.Proofs.Session.Steps

/-!
# Where cursors stand

A cursor stands where it was placed, moved on by all that has been passed to it since, and stops at
the end of its document. Cut off once or at every move, the sum is the same. A cursor does not
notice moves of other cursors, not even of the one it was copied from.

* `skipWhile_eq_forward`: skipping is moving on by one, so many times.
* `object?_step_cursor`, `object?_run_cursor`: a cursor behind a step and behind a run.
* `cursor_or_made`: a cursor behind a run was there before it or is made in it.
* `cursor_index_eq`: the index of a cursor behind any run, and which steps change it.
-/

namespace MarkedText

namespace Cursor

theorem forward_zero (c : Cursor) : c.forward 0 = c := by
  have := c.index_le
  simp only [forward, Nat.add_zero, Nat.min_eq_left this]

theorem at?_eq_ok {d : Document} {i : Int} {c : Cursor} (h : at? d i = .ok c) :
    c.document = d ∧ (c.index : Int) = i := by
  unfold at? at h
  split at h
  · cases h
    refine ⟨rfl, ?_⟩
    simp only
    omega
  · cases h

/-- How often skipping moves the cursor on by one. -/
def skipCount (test : Cursor → Bool) (c : Cursor) : Nat :=
  if h : c.index < c.document.size then
    if test c then skipCount test ⟨c.document, c.index + 1, h⟩ + 1 else 0
  else 0
termination_by c.document.size - c.index

theorem skipWhile_eq_forward (test : Cursor → Bool) (c : Cursor) :
    c.skipWhile test = c.forward (c.skipCount test) := by
  fun_induction skipWhile test c with
  | case1 c h ht ih =>
    have hone : (⟨c.document, c.index + 1, h⟩ : Cursor) = c.forward 1 := by
      simp only [forward, Nat.min_eq_left h]
    rw [skipCount, dif_pos h, if_pos ht, ih, hone, forward_forward, Nat.add_comm]
  | case2 c h ht => rw [skipCount, dif_pos h, if_neg ht, forward_zero]
  | case3 c h => rw [skipCount, dif_neg h, forward_zero]

end Cursor

namespace Session

variable {s : Session} {order : Step} {h : Handle} {o : Object} {c : Cursor}

/-! ## What is passed to a cursor -/

/-- How far a step asks the cursor at a handle to go. Backward moves are refused and count for
nothing; a scan moves on by one, again and again. -/
def passed (s : Session) (h : Handle) : Step → Nat
  | .advance name count => if s.find? name = some h then count.toNat else 0
  | .scanInteger name test =>
    if s.find? name = some h then
      match s.object? h with
      | some (.cursor c) => c.skipCount test.holds
      | _ => 0
    else 0
  | _ => 0

/-- How far the steps of a run ask the cursor at a handle to go, all together. -/
def passedOver (h : Handle) : Session → List (Step × Option Text) → Nat
  | _, [] => 0
  | s, order :: rest => s.passed h order.1 + passedOver h (s.step order.1 order.2).1 rest

/-- Only a move forward under a name of the cursor, or a scan at it, passes it anything. -/
theorem of_passed_ne_zero (hp : s.passed h order ≠ 0) :
    (∃ name count, order = .advance name count ∧ s.find? name = some h ∧ 0 < count) ∨
      ∃ name test, order = .scanInteger name test ∧ s.find? name = some h := by
  cases order <;> simp only [passed, ne_eq, not_true_eq_false] at hp
  · rename_i name count
    split at hp
    · exact Or.inl ⟨name, count, rfl, by assumption, by omega⟩
    · exact absurd rfl hp
  · rename_i name test
    split at hp
    · exact Or.inr ⟨name, test, rfl, by assumption⟩
    · exact absurd rfl hp

/-- A step that moves a cursor moves it by what it passes to it. -/
theorem Moves.eq_forward (hm : Moves s order h o) (hc : s.object? h = some (.cursor c)) :
    o = .cursor (c.forward (s.passed h order)) := by
  cases hm with
  | advance hl hn =>
    obtain ⟨hf, ho⟩ := lookUp_asCursor.1 hl
    cases hc.symm.trans ho
    rw [passed, if_pos hf]
  | scanInteger hl =>
    obtain ⟨hf, ho⟩ := lookUp_asCursor.1 hl
    cases hc.symm.trans ho
    rw [passed, if_pos hf, hc, Cursor.skipWhile_eq_forward]
  | next hl => cases hc.symm.trans (lookUp_asReplay.1 hl).2
  | nextOrFinished hl => cases hc.symm.trans (lookUp_asReplay.1 hl).2
  | drain hl => cases hc.symm.trans (lookUp_asReplay.1 hl).2

/-- A step that passes something to a cursor moves it. -/
theorem exists_moves_of_passed (hc : s.object? h = some (.cursor c))
    (hp : s.passed h order ≠ 0) : ∃ o, Moves s order h o := by
  obtain ⟨name, count, rfl, hf, hn⟩ | ⟨name, test, rfl, hf⟩ := of_passed_ne_zero hp
  · exact ⟨_, .advance (lookUp_asCursor.2 ⟨hf, hc⟩) (by omega)⟩
  · exact ⟨_, .scanInteger (lookUp_asCursor.2 ⟨hf, hc⟩)⟩

/-! ## Steps and runs -/

/-- Behind a step a cursor has moved by what the step passes to it, which is mostly nothing. -/
theorem object?_step_cursor (hc : s.object? h = some (.cursor c)) (order : Step)
    (name : Option Text) :
    (s.step order name).1.object? h = some (.cursor (c.forward (s.passed h order))) := by
  refine object?_step hc (fun o hm => hm.eq_forward hc) (fun hm => ?_) name
  have hp : s.passed h order = 0 :=
    Decidable.byContradiction fun hne => hm (exists_moves_of_passed hc hne)
  rw [hp, Cursor.forward_zero]

theorem object?_run_cursor (hc : s.object? h = some (.cursor c))
    (orders : List (Step × Option Text)) :
    (s.run orders).object? h = some (.cursor (c.forward (passedOver h s orders))) := by
  induction orders generalizing s c with
  | nil => simpa only [run_nil, passedOver, Cursor.forward_zero] using hc
  | cons order rest ih =>
    rw [run_cons, ih (object?_step_cursor hc order.1 order.2), Cursor.forward_forward, passedOver]

/-- Cursors come from cursors: no other object turns into one. -/
theorem cursor_of_step {name : Option Text} (hh : h < s.objects.size)
    (hc : (s.step order name).1.object? h = some (.cursor c)) :
    ∃ b, s.object? h = some (.cursor b) := by
  obtain hs | ⟨o, hm, ho⟩ := (extends_step s order name).old h hh
  · exact ⟨c, hs ▸ hc⟩
  · rw [ho] at hc
    cases hm with
    | advance hl _ => exact ⟨_, (lookUp_asCursor.1 hl).2⟩
    | scanInteger hl => exact ⟨_, (lookUp_asCursor.1 hl).2⟩
    | next | nextOrFinished | drain => cases hc

theorem cursor_of_run {orders : List (Step × Option Text)} (hh : h < s.objects.size)
    (hc : (s.run orders).object? h = some (.cursor c)) : ∃ b, s.object? h = some (.cursor b) := by
  induction orders generalizing s with
  | nil => exact ⟨c, hc⟩
  | cons order rest ih =>
    obtain ⟨b, hb⟩ := ih (Nat.lt_of_lt_of_le hh (size_le_step s order.1 order.2)) hc
    exact cursor_of_step hh hb

/-- A cursor behind a run was there before it, or a step of the run has made it. -/
theorem cursor_or_made {orders : List (Step × Option Text)}
    (hc : (s.run orders).object? h = some (.cursor c)) :
    (∃ b, s.object? h = some (.cursor b)) ∨
      ∃ before order name after b, orders = before ++ (order, name) :: after ∧
        (s.run before).objects.size = h ∧ Makes (s.run before) order (.cursor b) ∧
        (s.run (before ++ [(order, name)])).object? h = some (.cursor b) := by
  obtain hh | ⟨before, order, name, after, o, rfl, hsize, hm, ho⟩ := old_or_made (lt_of_object? hc)
  · exact Or.inl (cursor_of_run hh hc)
  · rw [List.append_cons, run_append] at hc
    obtain ⟨b, hb⟩ := cursor_of_run (lt_of_object? ho) hc
    cases ho.symm.trans hb
    exact Or.inr ⟨before, order, name, after, b, rfl, hsize, hm, hb⟩

theorem step_advance_eq_ok {cursor : Text} {count : Int} (hl : s.lookUp asCursor cursor = .ok (h, c))
    (hn : 0 ≤ count) (name : Option Text) :
    (s.step (.advance cursor count) name).2 = .ok (.cursor (c.forward count.toNat)) := by
  simp only [step, perform, hl, attempt, Cursor.advance,
    show ¬ count < (0 : Int) from Int.not_lt.2 hn, if_false, change]

/-- A cursor behind any run from nothing has been placed by one of its steps, and stands at that
index plus all that later steps have passed to it, or at the end of its document. A further step
never takes it back, and changes its index only if it is a move forward that it accepts, or a scan
at this very cursor. -/
theorem cursor_index_eq {orders : List (Step × Option Text)}
    (hc : (empty.run orders).object? h = some (.cursor c)) :
    (∃ before order name after i, orders = before ++ (order, name) :: after ∧
      (empty.run before).objects.size = h ∧ Places (empty.run before) order c.document i ∧
      0 ≤ i ∧ i ≤ c.document.size ∧ (c.index : Int) =
        min (i + passedOver h (empty.run (before ++ [(order, name)])) after) c.document.size) ∧
    c.index ≤ c.document.size ∧
    ∀ order name, ∃ c', ((empty.run orders).step order name).1.object? h = some (.cursor c') ∧
      c'.document = c.document ∧ c.index ≤ c'.index ∧
      (c'.index ≠ c.index →
        (∃ cursor count, order = .advance cursor count ∧
          (empty.run orders).find? cursor = some h ∧ 0 < count ∧
          ((empty.run orders).step order name).2 = .ok (.cursor c')) ∨
        ∃ cursor test, order = .scanInteger cursor test ∧
          (empty.run orders).find? cursor = some h) := by
  refine ⟨?_, c.index_le, fun order name => ?_⟩
  · obtain ⟨b, hb⟩ | ⟨before, order, name, after, b, rfl, hsize, hm, hb⟩ := cursor_or_made hc
    · simp [empty, object?] at hb
    · have hrun := object?_run_cursor hb after
      rw [← run_append, List.append_assoc, List.singleton_append, hc] at hrun
      cases hrun
      cases hm with
      | cursor hp ha =>
        obtain ⟨rfl, rfl⟩ := Cursor.at?_eq_ok ha
        refine ⟨before, order, name, after, b.index, rfl, hsize, hp, Int.natCast_nonneg _,
          Int.ofNat_le.2 b.index_le, ?_⟩
        simp only [Cursor.forward]
        omega
  · refine ⟨_, object?_step_cursor hc order name, rfl, ?_, fun hne => ?_⟩
    · have := c.index_le
      simp only [Cursor.forward]
      omega
    · have hp : (empty.run orders).passed h order ≠ 0 := by
        intro h0
        rw [h0, Cursor.forward_zero] at hne
        exact hne rfl
      obtain ⟨cursor, count, rfl, hf, hn⟩ | hscan := of_passed_ne_zero hp
      · have hanswer := step_advance_eq_ok (lookUp_asCursor.2 ⟨hf, hc⟩) (Int.le_of_lt hn) name
        rw [passed, if_pos hf]
        exact Or.inl ⟨cursor, count, rfl, hf, hn, hanswer⟩
      · exact Or.inr hscan

/-- A cursor and its copy: the one is sent past the end and refused a way back, while the copy goes
on by itself. -/
def copyRun : List (Step × Option Text) :=
  [(.document "abc".toList, some "d".toList), (.cursor "d".toList 1, some "a".toList),
    (.clone "a".toList, some "b".toList), (.advance "a".toList 1000000000000000000000000000000, none),
    (.advance "a".toList (-1), none), (.advance "b".toList 1, none),
    (.takeUntil "b".toList "a".toList, none)]

theorem cursor_index_copy :
    ∃ c, (empty.run copyRun).object? 2 = some (.cursor c) ∧ c.index = 2 ∧
      (∃ before order name after i, copyRun = before ++ (order, name) :: after ∧
        (empty.run before).objects.size = 2 ∧ Places (empty.run before) order c.document i ∧
        (2 : Int) = min (i + passedOver 2 (empty.run (before ++ [(order, name)])) after) 3) ∧
      ∃ c', ((empty.run copyRun).step (.advance "a".toList 5) none).1.object? 2 =
        some (.cursor c') ∧ c'.index = 2 := by
  have h : (empty.run copyRun).object? 2 = some (.cursor ⟨.ofText 0 "abc".toList, 2, by decide⟩) := by
    rfl
  obtain ⟨⟨before, order, name, after, i, hsplit, hsize, hp, -, -, hi⟩, -, hstep⟩ :=
    cursor_index_eq h
  obtain ⟨c', hc, -, -, hmoved⟩ := hstep (.advance "a".toList 5) none
  refine ⟨_, h, rfl, ⟨before, order, name, after, i, hsplit, hsize, hp, hi⟩, c', hc,
    Decidable.byContradiction fun hne => ?_⟩
  obtain ⟨cursor, count, horder, hf, -, -⟩ | ⟨_, _, horder, -⟩ := hmoved hne
  · cases horder
    cases hf
  · cases horder

end Session

end MarkedText
