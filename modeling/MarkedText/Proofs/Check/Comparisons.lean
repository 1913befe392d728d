import MarkedText.Check.Compare

/-!
# Comparisons as equivalences

Values agree when they are equal once truth values count as integers, at every depth. Both comparisons
are equivalences: the plain one goes by agreement, and the strict one asks for one outermost kind too.
What they are told about the test, its name and its place, plays no part in the verdict. They differ
on nothing but a truth value and the integer that it counts as, held against each other directly;
inside lists, tuples, places and scanned integers a truth value passes for its integer in both.

* `Value.same_equivalence`: agreement is an equivalence.
* `Value.same_of_kind_ne_iff`: which values of different kinds agree.
* `compareStrictly_equivalence`, `Harness.check_equivalence`: what each comparison amounts to.
* `comparisons_coherent`: the main result.
-/

namespace MarkedText

namespace Value

variable {v w : Value}

theorem same_equivalence : Equivalence fun v w : Value => same v w = true where
  refl v := (same_iff v v).2 rfl
  symm h := (same_iff _ _).2 ((same_iff _ _).1 h).symm
  trans h k := (same_iff _ _).2 (((same_iff _ _).1 h).trans ((same_iff _ _).1 k))

/-- A truth value and the integer that it counts as, in either order. -/
def TruthAndInteger (v w : Value) : Prop :=
  ∃ b, v = truth b ∧ w = integer (ofTruth b) ∨ v = integer (ofTruth b) ∧ w = truth b

/-- Values of different kinds agree in one case only. -/
theorem same_of_kind_ne_iff : same v w = true ∧ v.kind ≠ w.kind ↔ TruthAndInteger v w := by
  constructor
  · intro ⟨hsame, hkind⟩
    cases v <;> cases w <;> simp only [same, kind, ne_eq, not_true_eq_false, Bool.false_eq_true,
      beq_iff_eq] at hsame hkind
    · exact ⟨_, Or.inl ⟨rfl, congrArg integer hsame.symm⟩⟩
    · exact ⟨_, Or.inr ⟨congrArg integer hsame, rfl⟩⟩
  · intro h
    rcases h with ⟨b, ⟨rfl, rfl⟩ | ⟨rfl, rfl⟩⟩ <;> simp [same, kind]

end Value

variable {v w : Value}

theorem compareStrictly_equivalence (note : Text) :
    Equivalence fun v w => compareStrictly v w note = .ok () := by
  simp only [compareStrictly_ok_iff]
  have hsame := Value.same_equivalence
  exact ⟨fun v => ⟨rfl, hsame.refl v⟩, fun h => ⟨h.1.symm, hsame.symm h.2⟩,
    fun h k => ⟨h.1.trans k.1, hsame.trans h.2 k.2⟩⟩

theorem Harness.check_equivalence (h : Harness) (cursor : Option Cursor) :
    Equivalence fun v w => h.check v w cursor = .ok () := by
  simp only [check_ok_iff]
  exact Value.same_equivalence

/-- The strict comparison is the plain one with the kinds compared as well. -/
theorem compareStrictly_ok_iff_check (h : Harness) (cursor : Option Cursor) (note : Text) :
    compareStrictly v w note = .ok () ↔ v.kind = w.kind ∧ h.check v w cursor = .ok () := by
  rw [compareStrictly_ok_iff, Harness.check_ok_iff]

/-- **Comparisons.** Each of the two comparisons is an equivalence and gives the same verdict whatever
note, test or cursor comes with it. The plain one passes the values that are equal once truth values
count as integers, the strict one those of them that are of one kind. So whatever passes the strict one
passes the plain one, and what passes the plain one alone is a truth value and its integer. -/
theorem comparisons_coherent :
    (∀ note, Equivalence fun v w => compareStrictly v w note = .ok ()) ∧
    (∀ (h : Harness) cursor, Equivalence fun v w => h.check v w cursor = .ok ()) ∧
    ∀ v w : Value,
      (∀ note, compareStrictly v w note = .ok () ↔ v.kind = w.kind ∧ v.counted = w.counted) ∧
      (∀ (h : Harness) cursor, h.check v w cursor = .ok () ↔ v.counted = w.counted) ∧
      ∀ (h h' : Harness) cursor cursor' note note',
        (compareStrictly v w note = .ok () ↔ compareStrictly v w note' = .ok ()) ∧
        (h.check v w cursor = .ok () ↔ h'.check v w cursor' = .ok ()) ∧
        (compareStrictly v w note = .ok () → h.check v w cursor = .ok ()) ∧
        (h.check v w cursor = .ok () ∧ compareStrictly v w note ≠ .ok () ↔
          Value.TruthAndInteger v w) := by
  refine ⟨compareStrictly_equivalence, Harness.check_equivalence, fun v w => ⟨?_, ?_, ?_⟩⟩
  · intro note
    rw [compareStrictly_ok_iff, Value.same_iff]
  · intro h cursor
    rw [Harness.check_ok_iff, Value.same_iff]
  · intro h h' cursor cursor' note note'
    refine ⟨?_, ?_, ?_, ?_⟩
    · rw [compareStrictly_ok_iff, compareStrictly_ok_iff]
    · rw [Harness.check_ok_iff, Harness.check_ok_iff]
    · intro hstrict
      exact ((compareStrictly_ok_iff_check h cursor note).1 hstrict).2
    · rw [← Value.same_of_kind_ne_iff, ne_eq, compareStrictly_ok_iff_check h cursor note,
        Harness.check_ok_iff]
      constructor
      · intro ⟨hsame, hstrict⟩
        exact ⟨hsame, fun hkind => hstrict ⟨hkind, hsame⟩⟩
      · intro ⟨hsame, hkind⟩
        exact ⟨hsame, fun hstrict => hkind hstrict.1⟩

/-- In a place a truth value passes for its integer by the strict comparison too. -/
example : compareStrictly (.place (.truth true) (2 : Int)) (.place (1 : Int) (2 : Int)) [] =
    .ok () := by rfl

end MarkedText
