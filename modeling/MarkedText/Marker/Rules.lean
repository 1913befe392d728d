import MarkedText.Marker.Delimiters

/-!
# Rules of a capture

What a capture goes by: the delimiters of a marker and the greatest length of a raw text. Rules are
built from a draft of unchecked texts and numbers.

* `Draft.check`: the rules of a draft, or its first defect; delimiters come before the limit.
* `check_draft`: every set of rules arises that way.
-/

namespace MarkedText

structure Rules where
  delimiters : Delimiters
  sizeLimit : Nat
  sizeLimit_pos : 0 < sizeLimit
  deriving DecidableEq

namespace Rules

/-- A million code points unless said otherwise. -/
def standardSizeLimit : Nat := 1000000

/-- The rules used when none are given. -/
def standard : Rules := ⟨.standard, standardSizeLimit, by decide⟩

/-- Rules as they are asked for, before any check. -/
structure Draft where
  glyph : Text
  opener : Text
  closer : Text
  sizeLimit : Int
  deriving DecidableEq, Repr

/-- Why a draft gives no rules. -/
inductive Defect where
  | delimiters (d : Delimiters.Defect)
  | sizeLimit
  deriving DecidableEq, Repr

def Defect.message : Defect → Text
  | delimiters d => d.message
  | sizeLimit => "max_fixture_size must be positive".toList

def Draft.check (d : Draft) : Except Defect Rules :=
  match Delimiters.ofTexts d.glyph d.opener d.closer with
  | .error e => .error (.delimiters e)
  | .ok delimiters =>
    if h : 0 < d.sizeLimit then .ok ⟨delimiters, d.sizeLimit.toNat, by omega⟩
    else .error .sizeLimit

/-- The draft that asks for these rules. -/
def draft (r : Rules) : Draft :=
  ⟨[r.delimiters.glyph], [r.delimiters.opener], [r.delimiters.closer], r.sizeLimit⟩

theorem check_draft (r : Rules) : r.draft.check = .ok r := by
  have hd : Delimiters.ofTexts r.draft.glyph r.draft.opener r.draft.closer = .ok r.delimiters :=
    Delimiters.ofTexts_texts r.delimiters
  have h : 0 < r.draft.sizeLimit := Int.ofNat_lt.2 r.sizeLimit_pos
  rw [Draft.check, hd]
  exact dif_pos h

/-- The rules with their parts named. -/
def repr (r : Rules) : Text :=
  "CaptureConfig(syntax=".toList ++ r.delimiters.repr ++ ", max_fixture_size=".toList ++
    Text.ofNat r.sizeLimit ++ ")".toList

end Rules

end MarkedText
