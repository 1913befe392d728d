import MarkedText.Cursor
import MarkedText.Value

/-!
# Comparisons

Two ways to hold an actual value against an expected one. The strict one asks for the same outermost
kind too, so that a truth value does not pass for an integer; the other one goes by agreement alone
and can say where a cursor stood.

* `compareStrictly_ok_iff`, `Harness.check_ok_iff`: what passes.
* `Harness.check_ok_or_mismatch`: whatever does not pass is a mismatch.
* `bind_eq_ok_iff`, `seq_eq_ok_iff`: steps in a row pass when each of them does.
-/

namespace MarkedText

theorem bind_eq_ok_iff {α β : Type} {x : Except Fault α} {f : α → Except Fault β} {b : β} :
    x >>= f = .ok b ↔ ∃ a, x = .ok a ∧ f a = .ok b := by
  cases x with
  | error e =>
    constructor
    · intro h
      cases h
    · intro ⟨a, h, _⟩
      cases h
  | ok a =>
    constructor
    · intro h
      exact ⟨a, rfl, h⟩
    · intro ⟨a', ha, h⟩
      cases ha
      exact h

theorem seq_eq_ok_iff {β : Type} {x : Except Fault Unit} {y : Except Fault β} {b : β} :
    (x >>= fun _ => y) = .ok b ↔ x = .ok () ∧ y = .ok b :=
  bind_eq_ok_iff.trans ⟨fun ⟨_, h⟩ => h, fun h => ⟨(), h⟩⟩

/-- Fails unless the values agree and are of one kind; `note` goes in front of the message. -/
def compareStrictly (actual expected : Value) (note : Text) : Except Fault Unit :=
  if actual.kind = expected.kind ∧ actual.same expected then .ok ()
  else .error <| .mismatch {
    heading := if note.isEmpty then [] else note ++ ": ".toList
    expected := expected.repr
    actual := actual.repr
    place := [] }

theorem compareStrictly_ok_iff (actual expected : Value) (note : Text) :
    compareStrictly actual expected note = .ok () ↔
      actual.kind = expected.kind ∧ actual.same expected = true := by
  unfold compareStrictly; split <;> simp_all

theorem compareStrictly_scanned_ok_iff (actual expected : Int) (note : Text) :
    compareStrictly (.scanned (.integer actual)) (.scanned (.integer expected)) note = .ok () ↔
      actual = expected := by
  rw [compareStrictly_ok_iff, Value.same, Value.same, beq_iff_eq]
  exact and_iff_right rfl

/-- The name of a test and the rules by which its fixtures are captured. -/
structure Harness where
  name : Text
  rules : Rules
  deriving DecidableEq

/-- The name used when none is given. -/
def Harness.standardName : Text := "fixture".toList

namespace Harness

/-- The words that place a failure at a cursor. -/
def placeOf (c : Cursor) : Text :=
  " at ".toList ++ c.loc.text ++ '\n' :: c.document.snippet c.index standardContext caretSign

/-- Fails unless the values agree; the message names the test and, if given, a cursor's place. -/
def check (h : Harness) (actual expected : Value) (cursor : Option Cursor) : Except Fault Unit :=
  if actual.same expected then .ok ()
  else .error <| .mismatch {
    heading := '[' :: h.name ++ "] ".toList
    expected := expected.repr
    actual := actual.repr
    place := (cursor.map placeOf).getD [] }

theorem check_ok_iff (h : Harness) (actual expected : Value) (cursor : Option Cursor) :
    h.check actual expected cursor = .ok () ↔ actual.same expected = true := by
  unfold check; split <;> simp_all

theorem check_integer_ok_iff (h : Harness) (actual expected : Int) (cursor : Option Cursor) :
    h.check (.integer actual) (.integer expected) cursor = .ok () ↔ actual = expected := by
  rw [check_ok_iff, Value.same, beq_iff_eq]

theorem check_ok_or_mismatch (h : Harness) (actual expected : Value) (cursor : Option Cursor) :
    h.check actual expected cursor = .ok () ∨
      ∃ m, h.check actual expected cursor = .error (.mismatch m) := by
  unfold check
  split
  · exact Or.inl rfl
  · exact Or.inr ⟨_, rfl⟩

end Harness

end MarkedText
