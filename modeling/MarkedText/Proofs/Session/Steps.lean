import MarkedText.Session.Step

/-!
# What steps do to objects

A step moves one object at most, makes one at most, and leaves every other object as it was. `Moves`
and `Makes` say which steps those are and what they leave behind; theorems about sessions go by
their cases and not by those of `perform`. A run is a session after a list of steps.

* `lookUp_eq_ok`: a look-up gives what its name stands for.
* `extends_step`: the objects behind a step are the old ones, moved or not, and one that is made.
* `object?_of_moves`, `object?_step`: a move takes place, and what a step makes of one object.
* `old_or_made`: an object behind a run was there before it, or is made in it.
* `run_append`, `rows_concat`: a run goes on from where a shorter one ends, and so do its rows.
-/

namespace MarkedText

theorem Capture.cursorAt_eq_ok {c : Capture} {i : Int} {x : Cursor} (h : c.cursorAt i = .ok x) :
    ∃ m, 0 ≤ i ∧ c.markers[i.toNat]? = some m ∧ Cursor.at? c.document m.offset = .ok x := by
  unfold cursorAt at h
  split at h
  · rename_i m hm
    split at hm
    · exact ⟨m, by assumption, hm, h⟩
    · cases hm
  · cases h

theorem Capture.cursorNamed_eq_ok {c : Capture} {label : Text} {x : Cursor}
    (h : c.cursorNamed label = .ok x) :
    ∃ m, (c.markers.find? fun m => m.label == some label) = some m ∧
      Cursor.at? c.document m.offset = .ok x := by
  unfold cursorNamed at h
  split at h
  · exact ⟨_, by assumption, h⟩
  · cases h

theorem Replay.take_eq_ok {r : Replay} {atEnd : Fault} {x : Cursor}
    (h : (r.take atEnd).2 = .ok x) :
    ∃ m, r.capture.markers[r.position]? = some m ∧
      Cursor.at? r.capture.document m.offset = .ok x := by
  unfold take at h
  split at h
  · exact ⟨_, by assumption, h⟩
  · cases h

namespace Session

variable {s t : Session} {order : Step} {h : Handle} {o : Object}

/-! ## Look-up -/

theorem lookUp_eq_ok {α : Type} {view : Object → Option α} {name : Text} {a : α} :
    s.lookUp view name = .ok (h, a) ↔
      s.find? name = some h ∧ ∃ o, s.object? h = some o ∧ view o = some a := by
  unfold lookUp
  cases hn : s.find? name with
  | none => simp
  | some k =>
    simp only [Option.some.injEq, ← Option.bind_eq_some_iff]
    cases hv : (s.object? k).bind view with
    | none =>
      simp only [reduceCtorEq, false_iff, not_and]
      rintro rfl
      simp [hv]
    | some b =>
      simp only [Except.ok.injEq, Prod.mk.injEq]
      constructor
      · rintro ⟨rfl, rfl⟩
        exact ⟨rfl, hv⟩
      · rintro ⟨rfl, hb⟩
        rw [hv] at hb
        exact ⟨rfl, Option.some.inj hb⟩

theorem asCursor_eq_some {c : Cursor} : asCursor o = some c ↔ o = .cursor c := by
  cases o <;> simp [asCursor]

theorem asCapture_eq_some {c : Capture} : asCapture o = some c ↔ o = .capture c := by
  cases o <;> simp [asCapture]

theorem asReplay_eq_some {r : Replay} : asReplay o = some r ↔ o = .replay r := by
  cases o <;> simp [asReplay]

theorem lookUp_asCursor {name : Text} {c : Cursor} :
    s.lookUp asCursor name = .ok (h, c) ↔
      s.find? name = some h ∧ s.object? h = some (.cursor c) := by
  simp only [lookUp_eq_ok, asCursor_eq_some, exists_eq_right]

theorem lookUp_asCapture {name : Text} {c : Capture} :
    s.lookUp asCapture name = .ok (h, c) ↔
      s.find? name = some h ∧ s.object? h = some (.capture c) := by
  simp only [lookUp_eq_ok, asCapture_eq_some, exists_eq_right]

theorem lookUp_asReplay {name : Text} {r : Replay} :
    s.lookUp asReplay name = .ok (h, r) ↔
      s.find? name = some h ∧ s.object? h = some (.replay r) := by
  simp only [lookUp_eq_ok, asReplay_eq_some, exists_eq_right]

/-! ## Moves and new objects -/

/-- The object at a handle that a step moves, as the step leaves it. -/
inductive Moves (s : Session) : Step → Handle → Object → Prop
  | advance {name : Text} {count : Int} {h : Handle} {c : Cursor} :
      s.lookUp asCursor name = .ok (h, c) → 0 ≤ count →
      Moves s (.advance name count) h (.cursor (c.forward count.toNat))
  | scanInteger {name : Text} {test : DigitTest} {h : Handle} {c : Cursor} :
      s.lookUp asCursor name = .ok (h, c) →
      Moves s (.scanInteger name test) h (.cursor (c.skipWhile test.holds))
  | next {name : Text} {h : Handle} {r : Replay} :
      s.lookUp asReplay name = .ok (h, r) → Moves s (.next name) h (.replay r.next.1)
  | nextOrFinished {name : Text} {h : Handle} {r : Replay} :
      s.lookUp asReplay name = .ok (h, r) →
      Moves s (.nextOrFinished name) h (.replay r.nextOrFinished.1)
  | drain {name : Text} {h : Handle} {r : Replay} :
      s.lookUp asReplay name = .ok (h, r) → Moves s (.drain name) h (.replay r.drain.1)

/-- Where a step places a new cursor: at the index it is told, at that of the cursor it copies, or
at the offset of a marker. -/
inductive Places (s : Session) : Step → Document → Int → Prop
  | cursor {name : Text} {i : Int} {h : Handle} {d : Document} :
      s.lookUp asDocument name = .ok (h, d) → Places s (.cursor name i) d i
  | clone {name : Text} {h : Handle} {c : Cursor} :
      s.lookUp asCursor name = .ok (h, c) → Places s (.clone name) c.document c.index
  | next {name : Text} {h : Handle} {r : Replay} {m : Marker} :
      s.lookUp asReplay name = .ok (h, r) → r.capture.markers[r.position]? = some m →
      Places s (.next name) r.capture.document m.offset
  | nextOrFinished {name : Text} {h : Handle} {r : Replay} {m : Marker} :
      s.lookUp asReplay name = .ok (h, r) → r.capture.markers[r.position]? = some m →
      Places s (.nextOrFinished name) r.capture.document m.offset
  | cursorAt {name : Text} {i : Int} {h : Handle} {c : Capture} {m : Marker} :
      s.lookUp asCapture name = .ok (h, c) → 0 ≤ i → c.markers[i.toNat]? = some m →
      Places s (.cursorAt name i) c.document m.offset
  | cursorNamed {name label : Text} {h : Handle} {c : Capture} {m : Marker} :
      s.lookUp asCapture name = .ok (h, c) →
      (c.markers.find? fun m => m.label == some label) = some m →
      Places s (.cursorNamed name label) c.document m.offset

/-- The object that a step makes. -/
inductive Makes (s : Session) : Step → Object → Prop
  | document (text : Text) : Makes s (.document text) (.document (.ofText s.serials text))
  | cursor {order : Step} {d : Document} {i : Int} {c : Cursor} :
      Places s order d i → Cursor.at? d i = .ok c → Makes s order (.cursor c)
  | capture {raw : Text} {draft : Rules.Draft} {rules : Rules} {c : Capture} :
      rulesOf draft = .ok rules → Capture.ofRaw rules s.serials raw = .ok c →
      Makes s (.capture raw draft) (.capture c)
  | scanner {draft : Rules.Draft} {rules : Rules} :
      rulesOf draft = .ok rules → Makes s (.scanner draft) (.scanner rules)
  | scan {name raw : Text} {h : Handle} {rules : Rules} {c : Capture} :
      s.lookUp asScanner name = .ok (h, rules) → Capture.ofRaw rules s.serials raw = .ok c →
      Makes s (.scan name raw) (.capture c)
  | assemble {name : Text} {markers : List Marker} {h : Handle} {d : Document} :
      s.lookUp asDocument name = .ok (h, d) →
      Makes s (.assemble name markers) (.capture ⟨d, markers⟩)
  | replay {name : Text} {h : Handle} {c : Capture} :
      s.lookUp asCapture name = .ok (h, c) → Makes s (.replay name) (.replay (.ofCapture c))

/-- The objects of `t` are those of `s`, but for a move and a new object of the step. -/
structure Extends (s : Session) (order : Step) (t : Session) : Prop where
  old : ∀ h < s.objects.size,
    t.object? h = s.object? h ∨ ∃ o, Moves s order h o ∧ t.object? h = some o
  new : ∀ h o, s.objects.size ≤ h → t.object? h = some o →
    h = s.objects.size ∧ Makes s order o

namespace Extends

theorem refl (s : Session) (order : Step) : Extends s order s where
  old _ _ := Or.inl rfl
  new _ _ hh ho := absurd (lt_of_object? ho) (Nat.not_lt.2 hh)

theorem put (hm : Moves s order h o) : Extends s order (s.put h o) where
  old k hk := by
    by_cases hne : h = k
    · subst hne
      refine Or.inr ⟨o, hm, ?_⟩
      simp [object?, Session.put, hk]
    · exact Or.inl (object?_put_other s o hne)
  new k p hk hp := by
    have hlt := lt_of_object? hp
    simp only [Session.put, Array.size_setIfInBounds] at hlt
    exact absurd hlt (Nat.not_lt.2 hk)

theorem add (he : Extends s order t) (hs : t.objects.size = s.objects.size)
    (hm : Makes s order o) : Extends s order (t.add o) where
  old k hk := by
    have hadd : (t.add o).object? k = t.object? k := by
      simp [object?, Session.add, Array.getElem?_push, hs, Nat.ne_of_lt hk]
    rw [hadd]
    exact he.old k hk
  new k p hk hp := by
    have hlt := lt_of_object? hp
    simp only [Session.add, Array.size_push] at hlt
    obtain rfl : k = t.objects.size := Nat.le_antisymm (Nat.le_of_lt_succ hlt) (hs ▸ hk)
    rw [object?_add_new] at hp
    exact ⟨hs, Option.some.inj hp ▸ hm⟩

theorem of_objects (he : Extends s order t) {u : Session} (hu : u.objects = t.objects) :
    Extends s order u where
  old := by simpa only [object?, hu] using he.old
  new := by simpa only [object?, hu] using he.new

theorem attempt {α : Type} {a : Except Fault α} {go : α → Effect} (he : Extends s order t)
    (hgo : ∀ x, a = .ok x → Extends s order (go x).1) : Extends s order (t.attempt a go).1 := by
  cases a with
  | error f => exact he
  | ok x => exact hgo x rfl

theorem createCursor {a : Except Fault Cursor}
    (hm : ∀ c, a = .ok c → Makes s order (.cursor c)) : Extends s order (s.createCursor a).1 :=
  (refl s order).attempt fun c hc => (refl s order).add rfl (hm c hc)

theorem createCapture {rules : Rules} {raw : Text}
    (hm : ∀ c, Capture.ofRaw rules s.serials raw = .ok c → Makes s order (.capture c)) :
    Extends s order (s.createCapture rules raw).1 :=
  (refl s order).attempt fun c hc => ((refl s order).add rfl (hm c hc)).of_objects rfl

theorem replayed {r : Replay × Except Fault Cursor} (hm : Moves s order h (.replay r.1))
    (hc : ∀ c, r.2 = .ok c → Makes s order (.cursor c)) :
    Extends s order (s.replayed h r fun s c => s.create (.cursor c) (.cursor c)).1 :=
  (put hm).attempt fun c hr => (put hm).add (by simp [Session.put]) (hc c hr)

end Extends

/-! ## Steps -/

theorem extends_perform (s : Session) (order : Step) : Extends s order (s.perform order).1 := by
  have same := Extends.refl s order
  cases order with
  | document text => exact (same.add rfl (.document text)).of_objects rfl
  | cursor name i =>
    exact same.attempt fun _ hd => .createCursor fun _ hc => .cursor (.cursor hd) hc
  | clone name =>
    refine same.attempt fun (_, c) hl => .createCursor fun x hx => ?_
    cases hx
    exact .cursor (.clone hl) c.at?_index
  | advance name count =>
    refine same.attempt fun (h, c) hl => same.attempt fun x hx => ?_
    unfold Cursor.advance at hx
    split at hx
    · cases hx
    · cases hx
      exact .put (.advance hl (by omega))
  | scanInteger name test => exact same.attempt fun _ hl => .put (.scanInteger hl)
  | capture raw draft =>
    exact same.attempt fun _ hr => .createCapture fun _ hc => .capture hr hc
  | scanner draft => exact same.attempt fun _ hr => same.add rfl (.scanner hr)
  | scan name raw => exact same.attempt fun _ hl => .createCapture fun _ hc => .scan hl hc
  | assemble name markers => exact same.attempt fun _ hd => same.add rfl (.assemble hd)
  | replay name => exact same.attempt fun _ hl => same.add rfl (.replay hl)
  | sameReplay name => exact same.attempt fun _ _ => same
  | next name =>
    refine same.attempt fun (h, r) hl => .replayed (.next hl) fun c hc => ?_
    obtain ⟨m, hm, hp⟩ := Replay.take_eq_ok hc
    exact .cursor (.next hl hm) hp
  | nextOrFinished name =>
    refine same.attempt fun (h, r) hl => .replayed (.nextOrFinished hl) fun c hc => ?_
    obtain ⟨m, hm, hp⟩ := Replay.take_eq_ok hc
    exact .cursor (.nextOrFinished hl hm) hp
  | drain name =>
    exact same.attempt fun (h, r) hl => (Extends.put (.drain hl)).attempt fun _ _ => .put (.drain hl)
  | cursorAt name i =>
    refine same.attempt fun (_, c) hl => .createCursor fun x hx => ?_
    obtain ⟨m, hi, hm, hp⟩ := Capture.cursorAt_eq_ok hx
    exact .cursor (.cursorAt hl hi hm) hp
  | cursorNamed name label =>
    refine same.attempt fun (_, c) hl => .createCursor fun x hx => ?_
    obtain ⟨m, hm, hp⟩ := Capture.cursorNamed_eq_ok hx
    exact .cursor (.cursorNamed hl hm) hp
  | state | current | peek | line | debug | cursors =>
    exact same.attempt fun _ _ => same
  | takeUntil | check | captureCheck | sameDocument | sameObject =>
    exact same.attempt fun _ _ => same.attempt fun _ _ => same

/-- Giving a name touches no object. -/
theorem objects_step (s : Session) (order : Step) (name : Option Text) :
    (s.step order name).1.objects = (s.perform order).1.objects := by
  unfold step
  split
  · rename_i next reply h heq
    rw [heq]
    cases name <;> cases h <;> rfl
  · rename_i next f heq
    rw [heq]

/-- The objects behind a step are the old ones, moved or not, and one that is made. -/
theorem extends_step (s : Session) (order : Step) (name : Option Text) :
    Extends s order (s.step order name).1 :=
  (extends_perform s order).of_objects (objects_step s order name)

/-- A replay is stored before what it gave is looked at. -/
theorem object?_replayed {α : Type} (ho : s.object? h = some o) {r : Replay × Except Fault α}
    {go : Session → α → Effect}
    (hgo : ∀ t x p, t.object? h = some p → (go t x).1.object? h = some p) :
    (s.replayed h r go).1.object? h = some (.replay r.1) := by
  have hput := object?_put_self ho (.replay r.1)
  unfold replayed attempt
  split
  · exact hgo _ _ _ hput
  · exact hput

/-- A move takes place, whether or not the step then fails. -/
theorem object?_of_moves (hm : Moves s order h o) (name : Option Text) :
    (s.step order name).1.object? h = some o := by
  have hstep : (s.step order name).1.object? h = (s.perform order).1.object? h := by
    simp only [object?, objects_step]
  rw [hstep]
  cases hm with
  | advance hl hn =>
    simp only [perform, hl, attempt, Cursor.advance, show ¬ _ < (0 : Int) from Int.not_lt.2 hn,
      if_false, change]
    exact object?_put_self (lookUp_asCursor.1 hl).2 _
  | scanInteger hl =>
    simp only [perform, hl, attempt, answer]
    exact object?_put_self (lookUp_asCursor.1 hl).2 _
  | next hl | nextOrFinished hl =>
    simp only [perform, hl, attempt]
    exact object?_replayed (lookUp_asReplay.1 hl).2 fun _ _ _ hp => object?_add_old hp _
  | drain hl =>
    simp only [perform, hl, attempt]
    exact object?_replayed (lookUp_asReplay.1 hl).2 fun _ _ _ hp => hp

/-- What a step makes of an object, from what a move of it leaves behind. -/
theorem object?_step {p q : Object} (hp : s.object? h = some p)
    (hmove : ∀ o, Moves s order h o → o = q) (hstay : (¬ ∃ o, Moves s order h o) → p = q)
    (name : Option Text) : (s.step order name).1.object? h = some q := by
  by_cases hm : ∃ o, Moves s order h o
  · obtain ⟨o, hm⟩ := hm
    rw [object?_of_moves hm, hmove o hm]
  · obtain hs | ⟨o, ho, -⟩ := (extends_step s order name).old h (lt_of_object? hp)
    · rw [hs, hp, hstay hm]
    · exact absurd ⟨o, ho⟩ hm

/-! ## Runs -/

/-- A session after a list of steps. -/
def run (s : Session) (orders : List (Step × Option Text)) : Session :=
  orders.foldl (fun s order => (s.step order.1 order.2).1) s

@[simp] theorem run_nil (s : Session) : s.run [] = s := rfl

@[simp] theorem run_cons (s : Session) (order : Step × Option Text)
    (rest : List (Step × Option Text)) :
    s.run (order :: rest) = (s.step order.1 order.2).1.run rest := rfl

theorem run_append (s : Session) (before after : List (Step × Option Text)) :
    s.run (before ++ after) = (s.run before).run after :=
  List.foldl_append

/-- Objects do not go away. -/
theorem size_le_step (s : Session) (order : Step) (name : Option Text) :
    s.objects.size ≤ (s.step order name).1.objects.size := by
  refine Nat.le_of_not_lt fun hlt => ?_
  have hnone : (s.step order name).1.object? (s.step order name).1.objects.size = none :=
    Array.getElem?_eq_none (Nat.le_refl _)
  obtain hs | ⟨o, -, ho⟩ := (extends_step s order name).old _ hlt
  · rw [hs, object?, Array.getElem?_eq_getElem hlt] at hnone
    cases hnone
  · rw [ho] at hnone
    cases hnone

/-- An object behind a run was there before it, or a step of the run has made it. -/
theorem old_or_made {orders : List (Step × Option Text)} (hh : h < (s.run orders).objects.size) :
    h < s.objects.size ∨ ∃ before order name after o, orders = before ++ (order, name) :: after ∧
      (s.run before).objects.size = h ∧ Makes (s.run before) order o ∧
      (s.run (before ++ [(order, name)])).object? h = some o := by
  induction orders generalizing s with
  | nil => exact Or.inl hh
  | cons first rest ih =>
    obtain hlt | ⟨before, order, name, after, o, rfl, hsize, hm, ho⟩ := ih hh
    · by_cases hold : h < s.objects.size
      · exact Or.inl hold
      · have ho : (s.step first.1 first.2).1.object? h =
            some (s.step first.1 first.2).1.objects[h] := Array.getElem?_eq_getElem hlt
        obtain ⟨rfl, hm⟩ := (extends_step s first.1 first.2).new h _ (Nat.not_lt.1 hold) ho
        exact Or.inr ⟨[], first.1, first.2, rest, _, rfl, rfl, hm, ho⟩
    · exact Or.inr ⟨first :: before, order, name, after, o, rfl, hsize, hm, ho⟩

theorem foldl_fst {α : Type} {f : Session × α → Step × Option Text → Session × α}
    (hf : ∀ p order, (f p order).1 = (p.1.step order.1 order.2).1)
    (orders : List (Step × Option Text)) (p : Session × α) :
    (orders.foldl f p).1 = p.1.run orders := by
  induction orders generalizing p with
  | nil => rfl
  | cons order rest ih => rw [List.foldl_cons, ih, hf, run_cons]

/-- What is shown of a step is what the session that the steps before it have left answers. -/
theorem rows_concat (orders : List (Step × Option Text)) (order : Step) (name : Option Text) :
    rows (orders ++ [(order, name)]) = rows orders ++ [((empty.run orders).row order name).2] := by
  have hstate := foldl_fst (f := fun p order =>
    ((p.1.row order.1 order.2).1, (p.1.row order.1 order.2).2 :: p.2)) (fun _ _ => rfl) orders
    (empty, [])
  simp only [rows, List.foldl_append, List.foldl_cons, List.foldl_nil, List.reverse_cons, hstate]

end Session

end MarkedText
