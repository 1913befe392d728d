import MarkedText.Text.Quoted

/-!
# Values that are compared

A check compares an expected value with an actual one: the absent value, truth values, integers,
texts, scanned integers, places, and lists and tuples of values. What a scanned integer and a place
hold may be any values as well. A truth value counts as the integer 1 or 0, at every depth; apart from
that, values of different kinds differ.

* `same_iff`: values agree exactly when they are equal once truth values count as integers.
* `repr`: how a failed check shows a value.
-/

namespace MarkedText

inductive Value where
  | absent
  | truth (b : Bool)
  | integer (n : Int)
  | text (t : Text)
  | scanned (v : Value)
  | place (line column : Value)
  | list (vs : List Value)
  | tuple (vs : List Value)
  deriving Repr

namespace Value

instance : Coe Int Value := ⟨integer⟩

/-- The integer that a truth value counts as. -/
def ofTruth (b : Bool) : Int := if b then 1 else 0

/-! ## Agreement -/

mutual

/-- Whether two values agree. -/
def same : Value → Value → Bool
  | absent, absent => true
  | truth a, truth b => a == b
  | truth a, integer n => ofTruth a == n
  | integer m, truth b => m == ofTruth b
  | integer m, integer n => m == n
  | text s, text t => s == t
  | scanned v, scanned w => same v w
  | place l c, place l' c' => same l l' && same c c'
  | list vs, list ws => sameAll vs ws
  | tuple vs, tuple ws => sameAll vs ws
  | _, _ => false

/-- Whether two rows of values agree one by one. -/
def sameAll : List Value → List Value → Bool
  | [], [] => true
  | v :: vs, w :: ws => same v w && sameAll vs ws
  | _, _ => false

end

mutual

/-- The value with every truth value replaced by the integer it counts as. -/
def counted : Value → Value
  | truth b => integer (ofTruth b)
  | scanned v => scanned (counted v)
  | place l c => place (counted l) (counted c)
  | list vs => list (countedAll vs)
  | tuple vs => tuple (countedAll vs)
  | v => v

def countedAll : List Value → List Value
  | [] => []
  | v :: vs => counted v :: countedAll vs

end

theorem ofTruth_injective {a b : Bool} : ofTruth a = ofTruth b ↔ a = b := by
  cases a <;> cases b <;> decide

mutual

/-- Two values agree exactly when they are equal once truth values count as integers. -/
theorem same_iff : ∀ v w : Value, same v w = true ↔ counted v = counted w
  | absent, w => by cases w <;> simp [same, counted]
  | truth a, w => by cases w <;> simp [same, counted, ofTruth_injective]
  | integer m, w => by cases w <;> simp [same, counted]
  | text s, w => by cases w <;> simp [same, counted]
  | scanned v, w => by
    cases w <;> simp [same, counted]
    exact same_iff v _
  | place l c, w => by cases w <;> simp [same, counted, same_iff l, same_iff c]
  | list vs, w => by
    cases w <;> simp [same, counted]
    exact sameAll_iff vs _
  | tuple vs, w => by
    cases w <;> simp [same, counted]
    exact sameAll_iff vs _

theorem sameAll_iff : ∀ vs ws : List Value,
    sameAll vs ws = true ↔ countedAll vs = countedAll ws
  | [], ws => by cases ws <;> simp [sameAll, countedAll]
  | v :: vs, [] => by simp [sameAll, countedAll]
  | v :: vs, w :: ws => by
    simp [sameAll, countedAll, same_iff v w, sameAll_iff vs ws]

end

/-! ## Kinds -/

/-- The outermost form of a value. -/
inductive Kind where
  | absent
  | truth
  | integer
  | text
  | scanned
  | place
  | list
  | tuple
  deriving DecidableEq, Repr

def kind : Value → Kind
  | absent => .absent
  | truth _ => .truth
  | integer _ => .integer
  | text _ => .text
  | scanned _ => .scanned
  | place _ _ => .place
  | list _ => .list
  | tuple _ => .tuple

/-! ## Display -/

/-- Texts with a comma and a space between each and the next. -/
def commas (ts : List Text) : Text := List.intercalate ", ".toList ts

mutual

/-- How a failed check shows the value. -/
def repr : Value → Text
  | absent => "None".toList
  | truth b => if b then "True".toList else "False".toList
  | integer n => Text.ofInt n
  | text t => Text.quote t
  | scanned v => "IntegerLiteral(value=".toList ++ repr v ++ ")".toList
  | place l c => "Loc(line=".toList ++ repr l ++ ", column=".toList ++ repr c ++ ")".toList
  | list vs => "[".toList ++ commas (reprAll vs) ++ "]".toList
  | tuple [v] => "(".toList ++ repr v ++ ",)".toList
  | tuple vs => "(".toList ++ commas (reprAll vs) ++ ")".toList

def reprAll : List Value → List Text
  | [] => []
  | v :: vs => repr v :: reprAll vs

end

end Value

end MarkedText
