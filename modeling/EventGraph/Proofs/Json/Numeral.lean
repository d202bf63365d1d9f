import EventGraph.Json.Printer
import EventGraph.Json.Tree
import EventGraph.Proofs.Number.Finite

/-!
# Numerals are read back

A well-formed numeral has one text, and the reader takes that text whole, up to a character that
cannot go on with it. The text of a finite single is the text of such a numeral.
-/

namespace EventGraph

namespace Number

theorem splitDigits_append {ds rest : List Char} (hds : ∀ c ∈ ds, c.isDigit = true)
    (hrest : rest.head?.any Char.isDigit = false) : splitDigits (ds ++ rest) = (ds, rest) := by
  have hnone : rest.takeWhile Char.isDigit = [] ∧ rest.dropWhile Char.isDigit = rest := by
    cases rest with
    | nil => exact ⟨rfl, rfl⟩
    | cons c cs =>
      have hc : c.isDigit = false := hrest
      exact ⟨by rw [List.takeWhile_cons, hc]; rfl, by rw [List.dropWhile_cons, hc]; rfl⟩
  rw [splitDigits, List.takeWhile_append_of_pos hds, List.dropWhile_append_of_pos hds, hnone.1,
    hnone.2, List.append_nil]

theorem digitsValue_digitChars (n : Nat) : digitsValue (digitChars n) = n :=
  Nat.ofDigitChars_ten_toDigits

theorem isDigit_of_mem_digitChars {n : Nat} {c : Char} (h : c ∈ digitChars n) :
    c.isDigit = true :=
  Nat.isDigit_of_mem_toDigits (by decide) (by decide) h

theorem digitChars_ne_nil (n : Nat) : digitChars n ≠ [] := Nat.toDigits_ne_nil

/-- A positive number has no leading zero. -/
theorem head_digitChars {n : Nat} (h : n ≠ 0) : (digitChars n).head? ≠ some '0' := by
  induction n using Nat.strongRecOn with
  | ind n ih =>
    rw [digitChars, Nat.toDigits_eq_if (by decide)]
    split
    · simpa using h
    · have hless : n / 10 < n := by omega
      have hpos : n / 10 ≠ 0 := by omega
      obtain ⟨d, ds, hd⟩ := List.exists_cons_of_ne_nil (digitChars_ne_nil (n / 10))
      have hlead := ih (n / 10) hless hpos
      rw [hd] at hlead
      rw [digitChars] at hd
      rw [hd]
      exact hlead

end Number

namespace Json

open Number (digitChars)

/-- Characters that can go on with a numeral. -/
def continuesNumeral (c : Char) : Bool := c.isDigit || c == '.' || c == 'e' || c == 'E'

/-- What comes next does not go on with a numeral. -/
def EndsNumeral (rest : List Char) : Prop := rest.head?.any continuesNumeral = false

theorem endsNumeral_nil : EndsNumeral [] := rfl

namespace EndsNumeral

variable {rest : List Char}

theorem of_head? {c : Char} (h : EndsNumeral rest) (hc : rest.head? = some c) :
    c.isDigit = false ∧ c ≠ '.' ∧ c ≠ 'e' ∧ c ≠ 'E' := by
  rw [EndsNumeral, hc] at h
  simpa [continuesNumeral, and_assoc] using h

theorem not_digit (h : EndsNumeral rest) : rest.head?.any Char.isDigit = false := by
  cases hhead : rest.head? with
  | none => rfl
  | some c => exact (h.of_head? hhead).1

end EndsNumeral

namespace Numeral

def fractionChars : List Char → List Char
  | [] => []
  | d :: ds => '.' :: d :: ds

def exponentChars : Option Int → List Char
  | none => []
  | some e => 'e' :: (if e < 0 then '-' else '+') :: digitChars e.natAbs

/-- The text of a numeral. -/
def chars (n : Numeral) : List Char :=
  (if n.negative then ['-'] else []) ++
    (n.whole ++ (fractionChars n.fraction ++ exponentChars n.exponent?))

/-- Digits in both places, at least one before the point, and no zero before others. -/
structure WellFormed (n : Numeral) : Prop where
  whole : ∀ c ∈ n.whole, c.isDigit = true
  nonempty : n.whole ≠ []
  lead : n.whole.head? = some '0' → n.whole = ['0']
  fraction : ∀ c ∈ n.fraction, c.isDigit = true

namespace WellFormed

variable {n : Numeral}

/-- The reader's own test of the digits before the point. -/
theorem allowed (h : n.WellFormed) :
    (n.whole.isEmpty || (n.whole.head? == some '0' && decide (1 < n.whole.length))) = false := by
  obtain ⟨d, ds, hcons⟩ := List.exists_cons_of_ne_nil h.nonempty
  by_cases hd : d = '0'
  · rw [h.lead (by rw [hcons, hd]; rfl)]
    rfl
  · rw [hcons]
    simp [hd]

/-- A numeral begins with a digit or a sign. -/
theorem start (h : n.WellFormed) :
    ∃ c cs, (c.isDigit = true ∨ c = '-') ∧ n.chars = c :: cs := by
  obtain ⟨d, ds, hcons⟩ := List.exists_cons_of_ne_nil h.nonempty
  have hd := h.whole d (by rw [hcons]; exact List.mem_cons_self)
  rw [chars, hcons]
  cases n.negative with
  | false => exact ⟨d, _, .inl hd, rfl⟩
  | true => exact ⟨'-', _, .inr rfl, rfl⟩

theorem whole_ne_minus (h : n.WellFormed) {tail cs : List Char} :
    n.whole ++ tail ≠ '-' :: cs := by
  obtain ⟨d, ds, hcons⟩ := List.exists_cons_of_ne_nil h.nonempty
  have hd := h.whole d (by rw [hcons]; exact List.mem_cons_self)
  intro hminus
  rw [hcons] at hminus
  obtain ⟨rfl, -⟩ := List.cons.inj hminus
  cases hd

end WellFormed

end Numeral

namespace Tree

open Numeral (fractionChars exponentChars)

theorem numeralExponent?_exponentChars (exponent? : Option Int) {rest : List Char}
    (hrest : EndsNumeral rest) :
    numeralExponent? (exponentChars exponent? ++ rest) = some (exponent?, rest) := by
  cases exponent? with
  | none =>
    cases rest with
    | nil => rfl
    | cons c cs =>
      obtain ⟨-, -, he, hE⟩ := hrest.of_head? rfl
      have hmark : ¬ (c = 'e' ∨ c = 'E') := by simp [he, hE]
      simp only [exponentChars, List.nil_append, numeralExponent?, if_neg hmark]
  | some e =>
    have hdigits := Number.splitDigits_append
      (fun c hc => Number.isDigit_of_mem_digitChars (n := e.natAbs) hc) hrest.not_digit
    have hnonempty : (digitChars e.natAbs).isEmpty = false :=
      List.isEmpty_eq_false_iff.mpr (Number.digitChars_ne_nil _)
    simp only [exponentChars, List.cons_append, numeralExponent?, true_or, if_true]
    by_cases hneg : e < 0
    · have habs : -(e.natAbs : Int) = e := by omega
      simp only [if_pos hneg, Number.splitSign, hdigits, hnonempty, Bool.false_eq_true, if_false,
        if_true, Number.digitsValue_digitChars, habs]
    · have habs : (e.natAbs : Int) = e := by omega
      simp only [if_neg hneg, Number.splitSign, hdigits, hnonempty, Bool.false_eq_true, if_false,
        Number.digitsValue_digitChars, habs]

theorem numeralFraction?_fractionChars {fraction : List Char}
    (hfraction : ∀ c ∈ fraction, c.isDigit = true) {rest : List Char}
    (hdigit : rest.head?.any Char.isDigit = false) (hpoint : rest.head? ≠ some '.') :
    numeralFraction? (fractionChars fraction ++ rest) = some (fraction, rest) := by
  cases fraction with
  | nil =>
    rw [fractionChars, List.nil_append, numeralFraction?]
    rintro rest rfl
    exact hpoint rfl
  | cons d ds =>
    have hsplit := Number.splitDigits_append hfraction hdigit
    simp only [List.cons_append] at hsplit
    simp only [fractionChars, List.cons_append, numeralFraction?, hsplit, List.isEmpty_cons,
      Bool.false_eq_true, if_false]

/-- After the digits comes an exponent or nothing of the numeral. -/
theorem head?_exponentChars (exponent? : Option Int) {rest : List Char}
    (hrest : EndsNumeral rest) :
    (exponentChars exponent? ++ rest).head?.any Char.isDigit = false ∧
      (exponentChars exponent? ++ rest).head? ≠ some '.' := by
  cases exponent? with
  | none => exact ⟨hrest.not_digit, fun hpoint => (hrest.of_head? hpoint).2.1 rfl⟩
  | some e => exact ⟨rfl, by simp [exponentChars]⟩

theorem head?_fractionChars (fraction : List Char) {rest : List Char}
    (hrest : rest.head?.any Char.isDigit = false) :
    (fractionChars fraction ++ rest).head?.any Char.isDigit = false := by
  cases fraction with
  | nil => exact hrest
  | cons d ds => rfl

/-- The text of a well-formed numeral is read as that numeral. -/
theorem numeral?_chars {n : Numeral} (h : n.WellFormed) {rest : List Char}
    (hrest : EndsNumeral rest) : numeral? (n.chars ++ rest) = some (n, rest) := by
  obtain ⟨hdigit, hpoint⟩ := head?_exponentChars n.exponent? hrest
  have hwhole := Number.splitDigits_append h.whole (head?_fractionChars n.fraction hdigit)
  have hfraction := numeralFraction?_fractionChars h.fraction hdigit hpoint
  have hexponent := numeralExponent?_exponentChars n.exponent? hrest
  simp only [Numeral.chars, List.append_assoc]
  cases hn : n.negative with
  | false =>
    rw [if_neg Bool.false_ne_true, List.nil_append, numeral?]
    · simp only [hwhole, h.allowed, Bool.false_eq_true, if_false, hfraction, hexponent, bind,
        Option.bind_some]
      rw [← hn]
      rfl
    · exact fun cs => h.whole_ne_minus
  | true =>
    simp only [if_true, List.cons_append, List.nil_append, numeral?, hwhole, h.allowed,
      Bool.false_eq_true, if_false, hfraction, hexponent, bind, Option.bind_some]
    rw [← hn]
    rfl

end Tree

/-! ### Printed numbers -/

namespace Numeral

/-- A text that a well-formed numeral without a sign has. -/
def IsMagnitude (cs : List Char) : Prop :=
  ∃ n : Numeral, n.WellFormed ∧ n.negative = false ∧ cs = n.chars

theorem isMagnitude_intro {whole fraction : List Char} {exponent? : Option Int}
    (h : WellFormed ⟨false, whole, fraction, exponent?⟩) :
    IsMagnitude (whole ++ (fractionChars fraction ++ exponentChars exponent?)) :=
  ⟨_, h, rfl, rfl⟩

theorem fractionChars_of_ne_nil {fraction : List Char} (h : fraction ≠ []) :
    fractionChars fraction = '.' :: fraction := by
  obtain ⟨d, ds, rfl⟩ := List.exists_cons_of_ne_nil h
  rfl

section digits

variable {digits : List Char}

/-- Digits are split by the point, filled up with zeros on one side of it, or both. -/
theorem isMagnitude_positionalChars (hdigits : ∀ c ∈ digits, c.isDigit = true)
    (hnonempty : digits ≠ []) (hlead : digits.head? ≠ some '0') (whole : Int) :
    IsMagnitude (Number.positionalChars digits whole true) := by
  have hzeros (n : Nat) : ∀ c ∈ List.replicate n '0', c.isDigit = true := by
    intro c hc
    rw [List.eq_of_mem_replicate hc]
    rfl
  unfold Number.positionalChars
  split
  · have hfraction : List.replicate (-whole).toNat '0' ++ digits ≠ [] := by simp [hnonempty]
    have h : WellFormed ⟨false, ['0'], List.replicate (-whole).toNat '0' ++ digits, none⟩ := by
      refine ⟨by simp, by simp, fun _ => rfl, fun c hc => ?_⟩
      exact (List.mem_append.mp hc).elim (hzeros _ c) (hdigits c)
    have htext := isMagnitude_intro h
    rw [fractionChars_of_ne_nil hfraction] at htext
    simpa [exponentChars] using htext
  · rename_i hwhole
    obtain ⟨k, hk⟩ : ∃ k, whole.toNat = k + 1 := ⟨whole.toNat - 1, by omega⟩
    by_cases hcount : whole < (digits.length : Int)
    · rw [if_pos hcount]
      have hless : whole.toNat < digits.length := by omega
      have hfraction : digits.drop whole.toNat ≠ [] := by
        rw [Ne, List.drop_eq_nil_iff]
        omega
      have hhead : (digits.take whole.toNat).head? = digits.head? := by
        rw [hk, List.head?_take]
        rfl
      have h : WellFormed ⟨false, digits.take whole.toNat, digits.drop whole.toNat, none⟩ := by
        refine ⟨fun c hc => hdigits c (List.mem_of_mem_take hc), ?_, fun hzero => ?_,
          fun c hc => hdigits c (List.mem_of_mem_drop hc)⟩
        · simp [hk, hnonempty]
        · exact absurd (hhead.symm.trans hzero) hlead
      have htext := isMagnitude_intro h
      rw [fractionChars_of_ne_nil hfraction] at htext
      simpa [exponentChars] using htext
    · rw [if_neg hcount]
      have h : WellFormed
          ⟨false, digits ++ List.replicate (whole - digits.length).toNat '0', ['0'], none⟩ := by
        refine ⟨fun c hc => ?_, by simp [hnonempty], fun hzero => ?_, by simp⟩
        · exact (List.mem_append.mp hc).elim (hdigits c) (hzeros _ c)
        · obtain ⟨d, ds, rfl⟩ := List.exists_cons_of_ne_nil hnonempty
          exact absurd hzero hlead
      simpa [exponentChars, fractionChars] using isMagnitude_intro h

theorem isMagnitude_scientificChars (hdigits : ∀ c ∈ digits, c.isDigit = true)
    (hnonempty : digits ≠ []) (hlead : digits.head? ≠ some '0') (leading : Int) :
    IsMagnitude (Number.scientificChars digits leading) := by
  obtain ⟨d, ds, rfl⟩ := List.exists_cons_of_ne_nil hnonempty
  have h : WellFormed ⟨false, [d], ds, some leading⟩ := by
    refine ⟨?_, by simp, fun hzero => absurd hzero hlead,
      fun c hc => hdigits c (List.mem_cons_of_mem d hc)⟩
    simpa using hdigits d List.mem_cons_self
  cases ds with
  | nil => simpa [Number.scientificChars, exponentChars, fractionChars] using isMagnitude_intro h
  | cons d' ds =>
    simpa [Number.scientificChars, exponentChars, fractionChars] using isMagnitude_intro h

end digits

theorem isMagnitude_decimal {l : Number.Layout} (hl : l.wholeFraction = true)
    (d : Number.Decimal) : IsMagnitude (l.decimal d) := by
  unfold Number.Layout.decimal
  rw [hl]
  split
  · have h : WellFormed ⟨false, ['0'], ['0'], none⟩ := ⟨by simp, by simp, fun _ => rfl, by simp⟩
    exact isMagnitude_intro h
  · rename_i hpos
    have hdigits (c : Char) (hc : c ∈ digitChars d.digits) := Number.isDigit_of_mem_digitChars hc
    simp only
    split
    · exact isMagnitude_positionalChars hdigits (Number.digitChars_ne_nil _)
        (Number.head_digitChars hpos) _
    · exact isMagnitude_scientificChars hdigits (Number.digitChars_ne_nil _)
        (Number.head_digitChars hpos) _

end Numeral

/-- A finite single is written as a numeral. -/
theorem exists_numeral_of_isFinite {x : Float32} (h : x.isFinite = true) :
    ∃ n : Numeral, n.WellFormed ∧ (float32Layout.float32 x).toList = n.chars := by
  obtain ⟨negative, m, e, hexact⟩ := Number.ofFloat32_finite h
  obtain ⟨n, hn, hpositive, hchars⟩ := Numeral.isMagnitude_decimal (l := float32Layout) rfl
    (if m = 0 then ⟨0, 0⟩ else Number.shortest float32Layout.tie .single m e)
  refine ⟨{ n with negative }, ⟨hn.whole, hn.nonempty, hn.lead, hn.fraction⟩, ?_⟩
  rw [Number.Layout.float32, hexact, Number.Layout.exact, String.toList_ofList, hchars,
    Numeral.chars, Numeral.chars, hpositive]
  rfl

/-- What is no finite single is written as null. -/
theorem float32_of_not_isFinite {x : Float32} (h : x.isFinite = false) :
    float32Layout.float32 x = "null" := by
  rcases Number.ofFloat32_not_finite h with hexact | ⟨negative, hexact⟩
  · rw [Number.Layout.float32, hexact]
    rfl
  · rw [Number.Layout.float32, hexact]
    cases negative <;> rfl

end Json

end EventGraph
