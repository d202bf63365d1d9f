import EventGraph.Json.Printer
import EventGraph.Json.Tree

/-!
# Quoted text is read back

A string is written between quotes with some characters escaped. Whatever follows, the reader
takes it up to its closing quote and finds the characters that were written.
-/

namespace EventGraph.Json.Tree

theorem hexDigit?_digitChar {n : Nat} (h : n < 16) : hexDigit? (Nat.digitChar n) = some n := by
  decide +revert

/-- Two digits are enough for a control character. -/
theorem hexUnit?_controlEscape {n : Nat} (h : n < 0x20) :
    hexUnit? '0' '0' (Nat.digitChar (n / 16)) (Nat.digitChar (n % 16)) = some n := by
  have hhigh : n / 16 < 16 := by omega
  have hlow : n % 16 < 16 := by omega
  have hzero : hexDigit? '0' = some 0 := rfl
  have hvalue : ((0 * 16 + 0) * 16 + n / 16) * 16 + n % 16 = n := by omega
  simp only [hexUnit?, hzero, hexDigit?_digitChar hhigh, hexDigit?_digitChar hlow, bind,
    Option.bind_some, hvalue]
  rfl

/-- A code unit is put before those that the rest of a string holds. -/
def precede (unit : Nat) (read? : Option (List Nat × List Char)) :
    Option (List Nat × List Char) :=
  read?.map fun (units, rest) => (unit :: units, rest)

theorem stringUnits?_shortEscape {e c : Char} (h : shortEscape? e = some c) (rest : List Char) :
    stringUnits? ('\\' :: e :: rest) = precede c.toNat (stringUnits? rest) := by
  have hu : e ≠ 'u' := by
    rintro rfl
    cases h
  rw [stringUnits?, h]
  · cases stringUnits? rest <;> rfl
  · intro _ _ _ _ _ he
    exact absurd he hu

theorem stringUnits?_controlEscape {c : Char} (h : c.toNat < 0x20) (rest : List Char) :
    stringUnits? (controlEscape c ++ rest) = precede c.toNat (stringUnits? rest) := by
  have hunit := hexUnit?_controlEscape h
  simp only [controlEscape, List.cons_append, List.nil_append]
  rw [stringUnits?, hunit]
  cases stringUnits? rest <;> rfl

theorem stringUnits?_plain {c : Char} (hquote : c ≠ '"') (hslash : c ≠ '\\')
    (hcontrol : ¬ c.toNat < 0x20) (rest : List Char) :
    stringUnits? (c :: rest) = precede c.toNat (stringUnits? rest) := by
  have hplain : ¬ (decide (c.toNat < 0x20) || c == '\\') = true := by simp [hcontrol, hslash]
  rw [stringUnits?, if_neg hplain]
  · cases stringUnits? rest <;> rfl
  · exact hquote
  · intro _ _ _ _ _ hc
    exact absurd hc hslash
  · intro _ _ hc
    exact absurd hc hslash

theorem stringUnits?_escapedChar (c : Char) (rest : List Char) :
    stringUnits? (escapedChar c ++ rest) = precede c.toNat (stringUnits? rest) := by
  unfold escapedChar
  split
  · subst c
    exact stringUnits?_shortEscape rfl rest
  · rename_i hquote
    split
    · subst c
      exact stringUnits?_shortEscape rfl rest
    · rename_i hslash
      iterate 5
        split
        · subst c
          exact stringUnits?_shortEscape rfl rest
      split
      · rename_i hcontrol
        exact stringUnits?_controlEscape hcontrol rest
      · rename_i hcontrol
        exact stringUnits?_plain hquote hslash hcontrol rest

theorem stringUnits?_escaped (cs rest : List Char) :
    stringUnits? (cs.flatMap escapedChar ++ '"' :: rest) = some (cs.map Char.toNat, rest) := by
  induction cs with
  | nil => rfl
  | cons c cs ih =>
    rw [List.flatMap_cons, List.append_assoc, stringUnits?_escapedChar, ih]
    rfl

/-! ### Characters are no surrogates -/

theorem isHighSurrogate_toNat (c : Char) : isHighSurrogate c.toNat = false := by
  have hvalid : c.toNat < 0xd800 ∨ 0xdfff < c.toNat ∧ c.toNat < 0x110000 := c.valid
  simp only [isHighSurrogate, Bool.and_eq_false_iff, decide_eq_false_iff_not]
  omega

theorem isLowSurrogate_toNat (c : Char) : isLowSurrogate c.toNat = false := by
  have hvalid : c.toNat < 0xd800 ∨ 0xdfff < c.toNat ∧ c.toNat < 0x110000 := c.valid
  simp only [isLowSurrogate, Bool.and_eq_false_iff, decide_eq_false_iff_not]
  omega

theorem unitChars?_toNat (cs : List Char) : unitChars? (cs.map Char.toNat) = some cs := by
  induction cs with
  | nil => rfl
  | cons c cs ih =>
    cases cs with
    | nil =>
      simp only [List.map_cons, List.map_nil, unitChars?, isHighSurrogate_toNat,
        isLowSurrogate_toNat, Bool.or_self, Bool.false_eq_true, if_false, Char.ofNat_toNat]
    | cons d cs =>
      rw [List.map_cons] at ih
      simp only [List.map_cons, unitChars?, isHighSurrogate_toNat, isLowSurrogate_toNat,
        Bool.false_eq_true, if_false, ih, Option.map_some, Char.ofNat_toNat]

/-- A written string is read up to its closing quote. -/
theorem string?_escaped (s : String) (rest : List Char) :
    string? (s.toList.flatMap escapedChar ++ '"' :: rest) = some (some s, rest) := by
  simp only [string?, stringUnits?_escaped, Option.map_some, unitChars?_toNat,
    String.ofList_toList]

end EventGraph.Json.Tree
