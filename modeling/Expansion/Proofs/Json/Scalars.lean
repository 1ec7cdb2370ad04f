import Expansion.Json.Printer
import Expansion.Json.Reader

/-!
# Texts and numbers read back

The reader takes from a text what has been written there, and leaves what follows.

* **`takeString_of_writesAll`**: a text in quotes, character by character; each is read back from any
  way to write it (`Writes`), of which the printer's is one (`writes_escapedChar`).
* **`readNumber_toDigits`**: a natural number that 64 bits hold, before anything that does not go on
  as a number (`Stops`). Its digits do not begin with a zero, and no digit is too many.
-/

namespace Expansion.Json

variable {cs rest tail digits : List Char} {n : Nat}

/-! ## Texts -/

/-- The four digits of a control character. -/
theorem takeHex4_hexPair (hn : n < 0x20) :
    takeHex4 ('0' :: '0' :: hexPair n) = .ok (n, []) ∧ isLowSurrogate n = false ∧
      isHighSurrogate n = false := by
  have hdigits : ∀ k : Fin 0x20,
      hexDigitValue? ((Nat.toDigits 16 (k.val / 16)).headD '0') = some (k.val / 16) ∧
      hexDigitValue? ((Nat.toDigits 16 (k.val % 16)).headD '0') = some (k.val % 16) := by
    decide
  obtain ⟨hhigh, hlow⟩ := hdigits ⟨n, hn⟩
  have hzero : hexDigitValue? '0' = some 0 := rfl
  refine ⟨?_, ?_, ?_⟩
  · simp only [hexPair, takeHex4, hzero, hhigh, hlow]
    congr 2
    omega
  · simp only [isLowSurrogate, Bool.and_eq_false_iff, decide_eq_false_iff_not]
    omega
  · simp only [isHighSurrogate, Bool.and_eq_false_iff, decide_eq_false_iff_not]
    omega

theorem takeHex4_append {a b c d : Char} (h : takeHex4 [a, b, c, d] = .ok (n, []))
    (rest : List Char) : takeHex4 (a :: b :: c :: d :: rest) = .ok (n, rest) := by
  unfold takeHex4 at h ⊢
  dsimp only at h ⊢
  cases ha : hexDigitValue? a with
  | none => rw [ha] at h; cases h
  | some high =>
      cases hb : hexDigitValue? b with
      | none => rw [ha, hb] at h; cases h
      | some second =>
          cases hc : hexDigitValue? c with
          | none => rw [ha, hb, hc] at h; cases h
          | some third =>
              cases hd : hexDigitValue? d with
              | none => rw [ha, hb, hc, hd] at h; cases h
              | some low =>
                  rw [ha, hb, hc, hd] at h
                  dsimp only at h ⊢
                  injection h with h
                  injection h with h
                  rw [h]

/-- The ways to write a character between quotes: as it is, behind a backslash by a letter, or by the
four digits of its number, or of the two halves of its number. -/
inductive Writes (c : Char) : List Char → Prop
  | plain : c ≠ '"' → c ≠ '\\' → ¬c.toNat < 0x20 → Writes c [c]
  | letter {e : Char} : e ≠ 'u' → plainEscape? e = some c → Writes c ['\\', e]
  | digits {d₁ d₂ d₃ d₄ : Char} {n : Nat} : takeHex4 [d₁, d₂, d₃, d₄] = .ok (n, []) →
      isLowSurrogate n = false → isHighSurrogate n = false → c = Char.ofNat n →
      Writes c ['\\', 'u', d₁, d₂, d₃, d₄]
  | halves {d₁ d₂ d₃ d₄ e₁ e₂ e₃ e₄ : Char} {high low : Nat} :
      takeHex4 [d₁, d₂, d₃, d₄] = .ok (high, []) → takeHex4 [e₁, e₂, e₃, e₄] = .ok (low, []) →
      isHighSurrogate high = true → isLowSurrogate low = true →
      c = Char.ofNat ((high - 0xd800) * 0x400 + (low - 0xdc00) + 0x10000) →
      Writes c ['\\', 'u', d₁, d₂, d₃, d₄, '\\', 'u', e₁, e₂, e₃, e₄]

/-- The ways to write characters one after the other. -/
inductive WritesAll : List Char → List Char → Prop
  | nil : WritesAll [] []
  | cons {c : Char} {cs text more : List Char} : Writes c text → WritesAll cs more →
      WritesAll (c :: cs) (text ++ more)

/-- The printer writes every character. -/
theorem writes_escapedChar (c : Char) : Writes c (escapedChar c) := by
  unfold escapedChar
  split
  · rename_i h
    rw [h]
    exact .letter (by decide) rfl
  split
  · rename_i h
    rw [h]
    exact .letter (by decide) rfl
  split
  · rename_i h
    rw [h]
    exact .letter (by decide) rfl
  split
  · rename_i h
    rw [h]
    exact .letter (by decide) rfl
  split
  · rename_i h
    rw [h]
    exact .letter (by decide) rfl
  split
  · rename_i h
    rw [← Char.ofNat_toNat c, h]
    exact .letter (by decide) rfl
  split
  · rename_i h
    rw [← Char.ofNat_toNat c, h]
    exact .letter (by decide) rfl
  split
  · rename_i hcontrol
    obtain ⟨hhex, hlow, hhigh⟩ := takeHex4_hexPair hcontrol
    exact .digits hhex hlow hhigh (Char.ofNat_toNat c).symm
  · rename_i hquote hslash _ _ _ _ _ hcontrol
    exact .plain hquote hslash hcontrol

theorem writesAll_escaped (s : List Char) : WritesAll s (s.flatMap escapedChar) := by
  induction s with
  | nil => exact .nil
  | cons c others ih => exact .cons (writes_escapedChar c) ih

/-- A character is read back from whatever is written for it. -/
theorem readStringFrom_of_writes {c : Char} {text : List Char} (h : Writes c text) (budget : Nat)
    (acc rest : List Char) :
    readStringFrom (budget + 1) acc (text ++ rest) = readStringFrom budget (c :: acc) rest := by
  cases h with
  | plain hquote hslash hcontrol => simp [readStringFrom, hquote, hslash, hcontrol]
  | letter hu hvalue => simp [readStringFrom, hu, hvalue]
  | digits hhex hlow hhigh hc =>
      have hescape := takeHex4_append hhex rest
      simp [readStringFrom, takeUnicodeEscape, bind, Except.bind, hescape, hlow, hhigh, ← hc]
  | @halves d₁ d₂ d₃ d₄ e₁ e₂ e₃ e₄ high low hhigh hlow hishigh hislow hc =>
      have hnotLow : isLowSurrogate high = false := by
        simp only [isLowSurrogate, isHighSurrogate, Bool.and_eq_true, Bool.and_eq_false_iff,
          decide_eq_true_eq, decide_eq_false_iff_not] at hishigh ⊢
        omega
      have hfirst := takeHex4_append hhigh ('\\' :: 'u' :: e₁ :: e₂ :: e₃ :: e₄ :: rest)
      have hsecond := takeHex4_append hlow rest
      simp [readStringFrom, takeUnicodeEscape, bind, Except.bind, hfirst, hsecond, hnotLow, hishigh,
        hislow, ← hc]

theorem WritesAll.length_le {s inner : List Char} (h : WritesAll s inner) :
    s.length ≤ inner.length := by
  induction h with
  | nil => exact Nat.le_refl _
  | @cons c cs text more hc _ ih =>
      have hone : 1 ≤ text.length := by
        cases hc <;> simp
      rw [List.length_append, List.length_cons]
      omega

theorem readStringFrom_of_writesAll {s inner : List Char} (h : WritesAll s inner) (budget : Nat)
    (acc rest : List Char) :
    readStringFrom (budget + s.length + 1) acc (inner ++ '"' :: rest) =
      .ok (String.ofList (acc.reverse ++ s), rest) := by
  induction h generalizing acc with
  | nil => simp [readStringFrom]
  | cons hc _ ih =>
      rw [List.append_assoc, List.length_cons, ← Nat.add_assoc, readStringFrom_of_writes hc, ih,
        List.reverse_cons, List.append_assoc, List.singleton_append]

/-- A text in quotes is read back, once its opening quote has been taken. -/
theorem takeString_of_writesAll {s : String} {inner : List Char} (h : WritesAll s.toList inner)
    (rest : List Char) : takeString (inner ++ '"' :: rest) = .ok (s, rest) := by
  obtain ⟨spare, hspare⟩ := Nat.exists_eq_add_of_le h.length_le
  have hbudget : (inner ++ '"' :: rest).length = spare + rest.length + s.toList.length + 1 := by
    rw [List.length_append, List.length_cons]
    omega
  unfold takeString
  rw [hbudget, readStringFrom_of_writesAll h]
  simp

/-! ## Numbers -/

/-- A text that does not go on as a number. -/
def Stops (tail : List Char) : Prop :=
  ∀ c, tail.head? = some c → c.isDigit = false ∧ c ≠ '.' ∧ c ≠ 'e' ∧ c ≠ 'E'

theorem takeDigits_append (hdigits : ∀ c ∈ digits, c.isDigit = true) (htail : Stops tail) :
    takeDigits (digits ++ tail) = (digits, tail) := by
  have hnone : tail.takeWhile Char.isDigit = [] ∧ tail.dropWhile Char.isDigit = tail := by
    cases tail with
    | nil => exact ⟨rfl, rfl⟩
    | cons c others =>
        have hc := (htail c rfl).1
        simp [hc]
  unfold takeDigits
  rw [List.takeWhile_append_of_pos hdigits, List.dropWhile_append_of_pos hdigits, hnone.1, hnone.2,
    List.append_nil]

/-- Decimal digits begin with a zero only where they are one. -/
theorem toDigits_head (h : n ≠ 0) : (Nat.toDigits 10 n).head? ≠ some '0' := by
  induction n using Nat.strongRecOn with
  | ind n ih =>
      by_cases hsmall : n < 10
      · rw [Nat.toDigits_of_lt_base hsmall]
        have hdigit : ∀ k : Fin 10, k.val ≠ 0 → k.val.digitChar ≠ '0' := by decide
        simpa using hdigit ⟨n, hsmall⟩ h
      · rw [Nat.toDigits_of_base_le (by decide) (by omega)]
        have hfront := ih (n / 10) (by omega) (by omega)
        cases hdigits : Nat.toDigits 10 (n / 10) with
        | nil => exact absurd hdigits Nat.toDigits_ne_nil
        | cons c others =>
            rw [hdigits] at hfront
            exact hfront

theorem takeWhole_toDigits (n : Nat) (htail : Stops tail) :
    takeWhole (Nat.toDigits 10 n ++ tail) = .ok (Nat.toDigits 10 n, tail) := by
  have hdigits : ∀ c ∈ Nat.toDigits 10 n, c.isDigit = true := fun c hc =>
    Nat.isDigit_of_mem_toDigits (by decide) (by decide) hc
  unfold takeWhole
  rw [takeDigits_append hdigits htail]
  split
  · rename_i rest hempty
    injection hempty with hempty
    exact absurd hempty Nat.toDigits_ne_nil
  · rename_i second others rest hzero
    -- A zero in front of another digit: the number is not zero, so it has no zero in front.
    injection hzero with hzero
    have hne : n ≠ 0 := by
      rintro rfl
      rw [Nat.toDigits_zero] at hzero
      cases hzero
    exact absurd (congrArg List.head? hzero) (toDigits_head hne)
  · rename_i digits' rest' _ _ heq
    injection heq with hdigits' hrest'
    rw [hdigits', hrest']

theorem takeFraction_of_stops (htail : Stops tail) : takeFraction tail = .ok ([], tail) := by
  unfold takeFraction
  split
  · rename_i rest
    exact absurd rfl (htail '.' rfl).2.1
  · rfl

theorem takeExponent_of_stops (htail : Stops tail) : takeExponent tail = .ok ([], tail) := by
  unfold takeExponent
  split
  · rename_i c rest
    obtain ⟨-, -, he, hE⟩ := htail c rfl
    simp [he, hE]
  · rfl

theorem takeNumeral_toDigits (n : Nat) (htail : Stops tail) :
    takeNumeral (Nat.toDigits 10 n ++ tail) = .ok (⟨false, Nat.toDigits 10 n, [], []⟩, tail) := by
  have hsign : ∀ c others, Nat.toDigits 10 n ++ tail = c :: others → c ≠ '-' := by
    intro c others hcs hc
    cases hdigits : Nat.toDigits 10 n with
    | nil => exact absurd hdigits Nat.toDigits_ne_nil
    | cons first more =>
        rw [hdigits] at hcs
        injection hcs with hfirst _
        have hdigit := Nat.isDigit_of_mem_toDigits (b := 10) (n := n) (c := first) (by decide)
          (by decide) (by simp [hdigits])
        rw [hfirst, hc] at hdigit
        revert hdigit
        decide
  unfold takeNumeral
  split
  rename_i isNegative cs heq
  have hcs : isNegative = false ∧ cs = Nat.toDigits 10 n ++ tail := by
    split at heq
    · rename_i others hminus
      exact absurd rfl (hsign _ _ hminus)
    · cases heq
      exact ⟨rfl, rfl⟩
  obtain ⟨rfl, rfl⟩ := hcs
  rw [takeWhole_toDigits n htail]
  simp only [bind, Except.bind, takeFraction_of_stops htail, takeExponent_of_stops htail]

/-- Digits whose number 64 bits hold are all taken into the significand. -/
theorem appendWhole_digits (k : Nat) (h : Nat.ofDigitChars 10 digits k < UInt64.size) :
    Scaled.appendWhole ⟨k, 0⟩ digits = ⟨Nat.ofDigitChars 10 digits k, 0⟩ := by
  induction digits generalizing k with
  | nil => rfl
  | cons d others ih =>
      rw [Nat.ofDigitChars_cons] at h ⊢
      have hvalue : k * 10 + digitValue d = 10 * k + (d.toNat - '0'.toNat) := by
        unfold digitValue
        rw [Nat.mul_comm]
        rfl
      have hfits : 10 * k + (d.toNat - '0'.toNat) < UInt64.size := by
        refine Nat.lt_of_le_of_lt ?_ h
        rw [Nat.ofDigitChars_eq_ofDigitChars_zero]
        exact Nat.le_trans (Nat.le_mul_of_pos_left _ (Nat.pow_pos (by decide)))
          (Nat.le_add_right _ _)
      have happend : Scaled.append? ⟨k, 0⟩ d = some (10 * k + (d.toNat - '0'.toNat)) := by
        unfold Scaled.append?
        simp only [hvalue, hfits, if_true]
      unfold Scaled.appendWhole
      rw [happend]
      exact ih _ h

/-- Rounding to 53 bits adds less than the unit of the last one. -/
theorem roundTo53_le (n : Nat) : roundTo53 n ≤ n + Nat.pow 2 (Nat.log2 n - 52) := by
  unfold roundTo53
  dsimp only
  generalize Nat.pow 2 (Nat.log2 n - 52) = unit
  have hbelow : n / unit * unit ≤ n := Nat.div_mul_le_self n unit
  split
  · rw [Nat.add_mul, Nat.one_mul]
    exact Nat.add_le_add_right hbelow unit
  · exact Nat.le_trans hbelow (Nat.le_add_right n unit)

/-- What 64 bits hold is no great number. -/
theorem isTooGreat_of_lt (hn : n < UInt64.size) : Scaled.isTooGreat ⟨n, 0⟩ = false := by
  unfold Scaled.isTooGreat
  by_cases hzero : n = 0
  · simp [hzero]
  · have hlog : Nat.log2 n < 64 := (Nat.log2_lt hzero).mpr hn
    have hunit : Nat.pow 2 (Nat.log2 n - 52) ≤ Nat.pow 2 64 :=
      Nat.pow_le_pow_right (by decide) (by omega)
    have hround : roundTo53 n ≤ Nat.pow 2 65 := by
      refine Nat.le_trans (roundTo53_le n) (Nat.le_trans (Nat.add_le_add (Nat.le_of_lt hn) hunit) ?_)
      decide +kernel
    have hbound : Nat.pow 2 65 < floatBound := by decide +kernel
    have hone : roundTo53 (Nat.pow 10 (0 : Int).toNat) = 1 := by decide +kernel
    have hgreat : ¬(greatestPower : Int) < 0 := by decide
    rw [if_neg (by simp [hzero]), if_neg hgreat, decide_eq_false_iff_not, Nat.not_le]
    rw [hone, Nat.mul_one]
    exact Nat.lt_of_le_of_lt hround hbound

/-- A natural number that 64 bits hold is read back. -/
theorem readNumber_toDigits (hn : n < UInt64.size) (htail : Stops tail) :
    readNumber (Nat.toDigits 10 n ++ tail) = (.natural n, tail) := by
  have hvalue : Nat.ofDigitChars 10 (Nat.toDigits 10 n) 0 = n :=
    Nat.ofDigitChars_toDigits (by decide) (by decide)
  have hwhole : Scaled.appendWhole ⟨0, 0⟩ (Nat.toDigits 10 n) = ⟨n, 0⟩ := by
    rw [appendWhole_digits 0 (by rw [hvalue]; exact hn), hvalue]
  have hscaled : Numeral.scaled ⟨false, Nat.toDigits 10 n, [], []⟩ = ⟨n, 0⟩ := by
    unfold Numeral.scaled
    simp only [hwhole, Scaled.appendFraction, exponentValue, Int.add_zero]
  unfold readNumber
  rw [takeNumeral_toDigits n htail]
  dsimp only
  rw [hscaled, isTooGreat_of_lt hn]
  simp [Numeral.natural?, hscaled]

end Expansion.Json
