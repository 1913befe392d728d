import MarkedText.Proofs.Text.Decimal
import MarkedText.Proofs.Text.Rows
import MarkedText.Report.JsonScan
import MarkedText.Report.Written

/-!
# The JSON form read back

Scanning a written record gives back its tokens whatever its texts hold, since no quote and no
backslash of theirs is left bare. So a record can be read back from its object, and a report can be
told from its JSON form as far as the form carries it: all but the snippet, and whether an empty hint
was there.

* `JsonScan.run_jsonText`, `JsonScan.run_ofNat`: a text and a number are scanned as one token.
* `JsonScan.run_members`: so are the members of a record, one after the other.
* `Record.ofJson?_json`: every record is read back from its object.
* `Carries.ext`: what the members that a record carries say about the report.
* `json_lossless`: the main result.
-/

namespace MarkedText.Report

/-! ## Digits -/

theorem hexValue?_digitChar {d : Nat} (h : d < 16) : hexValue? (Nat.digitChar d) = some d := by
  have all : ∀ e ∈ List.range 16, hexValue? (Nat.digitChar e) = some e := by decide
  exact all d (List.mem_range.2 h)

/-- The escape of a control has two zeros in front. -/
theorem hex_of_control {n : Nat} (h : n < 0x20) :
    Text.hex 4 n = ['0', '0', Nat.digitChar (n / 16), Nat.digitChar (n % 16)] := by
  have all : ∀ k ∈ List.range 0x20,
      Text.hex 4 k = ['0', '0', Nat.digitChar (k / 16), Nat.digitChar (k % 16)] := by decide
  exact all n (List.mem_range.2 h)

theorem numberOf?_ofNat (n : Nat) : numberOf? (Text.ofNat n) = some n := by
  have hone : ¬ ((Text.ofNat n).head? = some '0' ∧ Text.ofNat n ≠ ['0']) := by
    intro ⟨hhead, hne⟩
    rw [Text.eq_zero_of_head?_ofNat hhead] at hne
    exact hne rfl
  rw [numberOf?, if_neg hone, Text.ofNat, Nat.ofDigitChars_ten_toDigits]

namespace JsonScan

variable (ts : List JsonToken)

/-! ## Texts -/

theorem run_unit (read : Text) {c : Char} (h : c.toNat < 0x20) :
    run ⟨ts, .escape read none⟩ ('u' :: Text.hex 4 c.toNat) = ⟨ts, .text (c :: read)⟩ := by
  have hhigh : hexValue? (Nat.digitChar (c.toNat / 16)) = some (c.toNat / 16) :=
    hexValue?_digitChar (by omega)
  have hlow : hexValue? (Nat.digitChar (c.toNat % 16)) = some (c.toNat % 16) :=
    hexValue?_digitChar (by omega)
  have hzero : hexValue? '0' = some 0 := by decide
  have hvalue : 16 * (c.toNat / 16) + c.toNat % 16 = c.toNat := by omega
  have hplain : ¬ IsHighSurrogate c.toNat ∧ ¬ IsLowSurrogate c.toNat := by
    unfold IsHighSurrogate IsLowSurrogate
    omega
  rw [hex_of_control h]
  simp [step, hzero, hhigh, hlow, hvalue, Mode.ofUnit, hplain, Char.ofNat_toNat]

/-- However a code point is written, it is read as itself. -/
theorem run_jsonEscape (read : Text) (c : Char) :
    run ⟨ts, .text read⟩ (jsonEscape c) = ⟨ts, .text (c :: read)⟩ := by
  unfold jsonEscape
  split
  · next h => subst h; rfl
  split
  · next h => subst h; rfl
  split
  · next h => subst h; rfl
  split
  · next h => subst h; rfl
  split
  · next h => subst h; rfl
  split
  · next h => subst h; rfl
  split
  · next h => subst h; rfl
  split
  · next h => exact run_unit ts read h
  · next hquote hslash _ _ _ _ _ hcontrol => simp [step, hquote, hslash, hcontrol]

theorem run_flatMap_jsonEscape (read t : Text) :
    run ⟨ts, .text read⟩ (t.flatMap jsonEscape) = ⟨ts, .text (t.reverse ++ read)⟩ := by
  induction t generalizing read with
  | nil => rfl
  | cons c t ih =>
    rw [List.flatMap_cons, run_append, run_jsonEscape, ih, List.reverse_cons, List.append_assoc,
      List.singleton_append]

theorem run_jsonText (t : Text) :
    run ⟨ts, .plain⟩ (jsonText t) = ⟨.atom (.text t) :: ts, .plain⟩ := by
  have hopen : step ⟨ts, .plain⟩ Text.doubleQuote = ⟨ts, .text []⟩ := rfl
  have hclose : ∀ read, step ⟨ts, .text read⟩ Text.doubleQuote =
      ⟨.atom (.text read.reverse) :: ts, .plain⟩ := fun _ => rfl
  rw [jsonText, run_cons, hopen, run_append, run_flatMap_jsonEscape, run_cons, hclose, run_nil,
    List.append_nil, List.reverse_reverse]

/-! ## Numbers -/

theorem run_digits (read : Text) {ds : Text} (h : ∀ d ∈ ds, d.isDigit = true) :
    run ⟨ts, .number read⟩ ds = ⟨ts, .number (ds.reverse ++ read)⟩ := by
  induction ds generalizing read with
  | nil => rfl
  | cons d ds ih =>
    have hd : step ⟨ts, .number read⟩ d = ⟨ts, .number (d :: read)⟩ :=
      if_pos (h d (List.mem_cons_self ..))
    rw [run_cons, hd, ih _ fun e he => h e (List.mem_cons_of_mem _ he), List.reverse_cons,
      List.append_assoc, List.singleton_append]

theorem startToken_digit {d : Char} (h : d.isDigit = true) :
    startToken ⟨ts, .plain⟩ d = ⟨ts, .number [d]⟩ := by
  have hne : ∀ e, e.isDigit = false → d ≠ e := by
    intro e he hde
    rw [hde, he] at h
    cases h
  have hblank : isBlank d = false := by simp [isBlank, hne]
  have hsign : isSign d = false := by simp [isSign, hne]
  have hquote : d ≠ Text.doubleQuote := hne _ (by decide)
  simp [startToken, hblank, hsign, hquote, h]

theorem run_ofNat (n : Nat) :
    run ⟨ts, .plain⟩ (Text.ofNat n) = ⟨ts, .number (Text.ofNat n).reverse⟩ := by
  have hdigits : ∀ d ∈ Text.ofNat n, d.isDigit = true := fun d hd => Text.isDigit_of_mem_ofNat hd
  cases hn : Text.ofNat n with
  | nil => exact absurd hn (List.ne_nil_of_length_pos (Text.length_ofNat_pos n))
  | cons d ds =>
    rw [hn] at hdigits
    have hd : step ⟨ts, .plain⟩ d = ⟨ts, .number [d]⟩ :=
      startToken_digit ts (hdigits d (List.mem_cons_self ..))
    rw [run_cons, hd, run_digits ts _ fun e he => hdigits e (List.mem_cons_of_mem _ he),
      List.reverse_cons]

/-! ## Members -/

theorem step_sign {c : Char} (h : isSign c = true) :
    step ⟨ts, .plain⟩ c = ⟨.sign c :: ts, .plain⟩ := by
  have hblank : isBlank c = false := by
    simp only [isSign, Bool.or_eq_true, beq_iff_eq] at h
    obtain ((rfl | rfl) | rfl) | rfl := h <;> decide
  simp [step, startToken, hblank, h, emit]

/-- A number is over once the sign behind it is there. -/
theorem step_number_sign {c : Char} (h : isSign c = true) (n : Nat) :
    step ⟨ts, .number (Text.ofNat n).reverse⟩ c = ⟨.sign c :: .atom (.number n) :: ts, .plain⟩ := by
  have hdigit : c.isDigit = false := by
    simp only [isSign, Bool.or_eq_true, beq_iff_eq] at h
    obtain ((rfl | rfl) | rfl) | rfl := h <;> decide
  have hsign := step_sign (.atom (.number n) :: ts) h
  simpa [step, hdigit, List.reverse_reverse, numberOf?_ofNat, emit] using hsign

theorem run_atom_sign {c : Char} (h : isSign c = true) (a : Atom) :
    run ⟨ts, .plain⟩ (a.json ++ [c]) = ⟨.sign c :: .atom a :: ts, .plain⟩ := by
  cases a with
  | number n =>
    rw [Atom.json, run_append, run_ofNat, run_cons, step_number_sign ts h, run_nil]
  | text t => rw [Atom.json, run_append, run_jsonText, run_cons, step_sign _ h, run_nil]

theorem run_member_sign {c : Char} (h : isSign c = true) (m : Text × Atom) :
    run ⟨ts, .plain⟩ (jsonMember m ++ [c]) =
      ⟨.sign c :: .atom m.2 :: .sign ':' :: .atom (.text m.1) :: ts, .plain⟩ := by
  have hcolon : ∀ us, run ⟨us, .plain⟩ ": ".toList = ⟨.sign ':' :: us, .plain⟩ := fun _ => rfl
  rw [jsonMember, List.append_assoc, run_append, run_append _ (jsonText m.1), run_jsonText, hcolon,
    run_atom_sign _ h]

theorem members_cons (m m' : Text × Atom) (ms : Record) :
    List.intercalate ", ".toList ((m :: m' :: ms).map jsonMember) ++ ['\x7d'] =
      (jsonMember m ++ [',']) ++
        ([' '] ++ (List.intercalate ", ".toList ((m' :: ms).map jsonMember) ++ ['\x7d'])) := by
  have hcut : ", ".toList = [','] ++ [' '] := rfl
  simp only [List.map_cons, List.intercalate_cons_cons, hcut, List.append_assoc]

/-- The members up to the closing brace. -/
theorem run_members (m : Text × Atom) (ms : Record) :
    ∃ us, run ⟨ts, .plain⟩
        (List.intercalate ", ".toList ((m :: ms).map jsonMember) ++ ['\x7d']) =
      ⟨us.reverse ++ ts, .plain⟩ ∧ membersOf? us = some (m :: ms) := by
  induction ms generalizing m ts with
  | nil =>
    refine ⟨[.atom (.text m.1), .sign ':', .atom m.2, .sign '\x7d'], ?_, rfl⟩
    rw [List.map_singleton, List.intercalate_singleton, run_member_sign ts (by decide)]
    rfl
  | cons m' ms ih =>
    obtain ⟨us, hrun, hmembers⟩ :=
      ih (.sign ',' :: .atom m.2 :: .sign ':' :: .atom (.text m.1) :: ts) m'
    refine ⟨.atom (.text m.1) :: .sign ':' :: .atom m.2 :: .sign ',' :: us, ?_, ?_⟩
    · -- The comma ends the member in front of it; the blank behind it is no token.
      have hblank : ∀ vs, run ⟨vs, .plain⟩ [' '] = ⟨vs, .plain⟩ := fun _ => rfl
      rw [members_cons, run_append, run_member_sign ts (by decide), run_append, hblank, hrun]
      simp
    · rw [membersOf?, hmembers]
      rfl

end JsonScan

/-! ## Records -/

/-- Every record is read back from its object. -/
theorem Record.ofJson?_json (r : Record) : ofJson? r.json = some r := by
  cases r with
  | nil => rfl
  | cons m ms =>
    have hopen : JsonScan.start.step '\x7b' = ⟨[.sign '\x7b'], .plain⟩ := rfl
    obtain ⟨us, hrun, hmembers⟩ := JsonScan.run_members [.sign '\x7b'] m ms
    have hne : us ≠ [.sign '\x7d'] := by
      intro h
      rw [h] at hmembers
      cases hmembers
    rw [ofJson?, Record.json, JsonScan.run_cons, hopen, hrun]
    simp only [JsonScan.finish, if_pos, List.reverse_append, List.reverse_reverse,
      List.reverse_singleton, List.singleton_append, Option.bind_some]
    rw [objectOf?, hmembers]
    exact hne

/-- So are objects that are spelled otherwise, with escapes and blanks of their own. -/
example : Record.ofJson? "\x7b \"\\u0061\":7 ,\"b\" : \"\\ud83c\\udf35\"\x7d".toList =
    some [("a".toList, .number 7), ("b".toList, .text "🌵".toList)] := by decide +kernel

/-! ## No controls -/

theorem control_notMem_atom (a : Atom) : ∀ c ∈ a.json, 0x20 ≤ c.toNat := by
  cases a with
  | text t => exact control_notMem_jsonText t
  | number n =>
    intro c hc
    have hdigit := Text.isDigit_of_mem_ofNat hc
    simp only [Char.isDigit, Bool.and_eq_true, decide_eq_true_eq] at hdigit
    have h : (48 : UInt32).toNat ≤ c.val.toNat := hdigit.1
    exact Nat.le_trans (by decide) h

theorem control_notMem_member (m : Text × Atom) : ∀ c ∈ jsonMember m, 0x20 ≤ c.toNat := by
  have hcolon : ∀ c ∈ ": ".toList, 0x20 ≤ c.toNat :=
    fun _ hc => toNat_ge_of_mem_pair (by decide) (by decide) hc
  rw [jsonMember, List.forall_mem_append, List.forall_mem_append]
  exact ⟨⟨control_notMem_jsonText m.1, hcolon⟩, control_notMem_atom m.2⟩

theorem control_notMem_members (r : Record) :
    ∀ c ∈ List.intercalate ", ".toList (r.map jsonMember), 0x20 ≤ c.toNat := by
  have hcomma : ∀ c ∈ ", ".toList, 0x20 ≤ c.toNat :=
    fun _ hc => toNat_ge_of_mem_pair (by decide) (by decide) hc
  apply Text.forall_mem_intercalate hcomma
  intro t ht
  obtain ⟨m, -, rfl⟩ := List.mem_map.1 ht
  exact control_notMem_member m

theorem Record.control_notMem_json (r : Record) : ∀ c ∈ r.json, 0x20 ≤ c.toNat := by
  have hopen : 0x20 ≤ '\x7b'.toNat := by decide
  have hclose : 0x20 ≤ '\x7d'.toNat := by decide
  rw [Record.json, List.forall_mem_cons, List.forall_mem_append, List.forall_mem_singleton]
  exact ⟨hopen, control_notMem_members r, hclose⟩

/-! ## Reports -/

/-- The members are those of the report: which there are in which order, and what each holds. -/
structure Carries (r : Report) (m : Record) : Prop where
  names : m.map Prod.fst =
    ["code".toList, "code_value".toList, "message".toList, "severity".toList] ++
    (if r.span.isSome then ["line".toList, "column".toList, "start".toList, "end".toList] else []) ++
    if (present r.hint).isSome then ["hint".toList] else []
  code : m.lookup "code".toList = some (.text r.code.name)
  number : m.lookup "code_value".toList = some (.number r.code.number)
  message : m.lookup "message".toList = some (.text r.message)
  severity : m.lookup "severity".toList = some (.text r.severity)
  line : m.lookup "line".toList = r.span.map fun s => .number s.line
  column : m.lookup "column".toList = r.span.map fun s => .number s.column
  start : m.lookup "start".toList = r.span.map fun s => .number s.start
  stop : m.lookup "end".toList = r.span.map fun s => .number s.stop
  hint : m.lookup "hint".toList = (present r.hint).map .text

theorem carries_record (r : Report) : r.Carries r.record := by
  cases hs : r.span <;> cases hh : present r.hint <;> constructor <;>
    simp only [record, hs, hh] <;> rfl

/-- A span is its four numbers. -/
theorem span_eq_of_numbers {o p : Option Span}
    (hline : (o.map fun s => Atom.number s.line) = p.map fun s => .number s.line)
    (hcolumn : (o.map fun s => Atom.number s.column) = p.map fun s => .number s.column)
    (hstart : (o.map fun s => Atom.number s.start) = p.map fun s => .number s.start)
    (hstop : (o.map fun s => Atom.number s.stop) = p.map fun s => .number s.stop) : o = p := by
  cases o with
  | none =>
    cases p with
    | none => rfl
    | some b => cases hline
  | some a =>
    cases p with
    | none => cases hline
    | some b =>
      simp only [Option.map_some, Option.some.injEq, Atom.number.injEq] at *
      cases a
      cases b
      simp_all

/-- What one record says about two reports is the same. -/
theorem Carries.ext {r s : Report} {m : Record} (hr : r.Carries m) (hs : s.Carries m) :
    r.code = s.code ∧ r.message = s.message ∧ r.severity = s.severity ∧ r.span = s.span ∧
      present r.hint = present s.hint := by
  have hcode := hr.code.symm.trans hs.code
  have hmessage := hr.message.symm.trans hs.message
  have hseverity := hr.severity.symm.trans hs.severity
  have hhint := hr.hint.symm.trans hs.hint
  have hspan : r.span = s.span :=
    span_eq_of_numbers (hr.line.symm.trans hs.line) (hr.column.symm.trans hs.column)
      (hr.start.symm.trans hs.start) (hr.stop.symm.trans hs.stop)
  simp only [Option.some.injEq, Atom.text.injEq] at hcode hmessage hseverity
  exact ⟨Code.name_injective hcode, hmessage, hseverity, hspan,
    Option.map_injective (fun _ _ h => Atom.text.inj h) hhint⟩

theorem record_congr {r s : Report} (hcode : r.code = s.code) (hmessage : r.message = s.message)
    (hseverity : r.severity = s.severity) (hspan : r.span = s.span)
    (hhint : present r.hint = present s.hint) : r.record = s.record := by
  simp only [record, hcode, hmessage, hseverity, hspan, hhint]

/-- **Nothing is lost.** Two reports have one JSON form exactly when they agree in all but their
snippets, an empty hint counting as none. The form has no control in it, and it is read back as the
members of the report. -/
theorem json_lossless :
    (∀ r s : Report, r.json = s.json ↔
      r.code = s.code ∧ r.message = s.message ∧ r.severity = s.severity ∧ r.span = s.span ∧
        present r.hint = present s.hint) ∧
    ∀ r : Report, (∀ c ∈ r.json, 0x20 ≤ c.toNat) ∧
      ∃ m, Record.ofJson? r.json = some m ∧ r.Carries m := by
  have hread : ∀ r : Report, Record.ofJson? r.json = some r.record :=
    fun r => Record.ofJson?_json r.record
  constructor
  · intro r s
    constructor
    · intro h
      have hrecord : r.record = s.record := by
        have hsame := hread r
        rw [h, hread s] at hsame
        exact (Option.some.inj hsame).symm
      have hs : s.Carries r.record := hrecord ▸ s.carries_record
      exact r.carries_record.ext hs
    · intro ⟨hcode, hmessage, hseverity, hspan, hhint⟩
      exact congrArg Record.json (record_congr hcode hmessage hseverity hspan hhint)
  · intro r
    exact ⟨r.record.control_notMem_json, r.record, hread r, r.carries_record⟩

end MarkedText.Report
