import HtGate.Proofs.Text.Codes
import HtGate.Proofs.Text.Trimming
import HtGate.Fault
import Mathlib.Algebra.Group.Nat.Defs
/-!
# Numerals

A number that is written in at most as many digits as a numeral may have is read back as it was, and
every number that is read can be written so. A number is written in one way: as the run of digits with its
value that has no zero in front which it could do without.
-/

namespace HtGate.Text

/-- The value of an ASCII digit. -/
lemma decimalValue?_of_isDigit {c : Char} (h : c.isDigit = true) :
    decimalValue? c = some (c.toNat - 48) := by
  have hascii : c.toNat < 0x80 := by
    simp only [Char.isDigit, Bool.and_eq_true, decide_eq_true_eq] at h
    exact lt_of_le_of_lt (UInt32.le_iff_toNat_le.1 h.2) (by decide)
  revert h
  exact forall_of_codes hascii (by decide)

/-- The value of a decimal digit is less than ten. -/
lemma decimalValue?_lt {c : Char} {d : Nat} (h : decimalValue? c = some d) : d < 10 := by
  obtain ⟨first, hf, rfl⟩ := Option.map_eq_some_iff.1 h
  have := List.find?_some hf
  simp only [Bool.and_eq_true, decide_eq_true_eq] at this
  omega

/-- The digits of a number are ASCII digits. -/
lemma isDigit_of_mem_ofNat {n : Nat} {c : Char} (h : c ∈ ofNat n) : c.isDigit = true :=
  Nat.isDigit_of_mem_toDigits (by decide) (by decide) h

/-- A number is written with a digit at least. -/
lemma ofNat_ne_nil (n : Nat) : ofNat n ≠ [] := Nat.toDigits_ne_nil

/-- The digits of a number are decimal digits. -/
lemma isDecimal_of_mem_ofNat {n : Nat} {c : Char} (h : c ∈ ofNat n) : isDecimal c = true := by
  rw [isDecimal, decimalValue?_of_isDigit (isDigit_of_mem_ofNat h)]
  rfl

/-- The written form of a number is a run of digits. -/
lemma isDigits_ofNat (n : Nat) : isDigits (ofNat n) = true := by
  rw [isDigits, Bool.and_eq_true, List.all_eq_true]
  refine ⟨by simpa using ofNat_ne_nil n, fun c hc => ?_⟩
  rw [isDigit, isDecimal_of_mem_ofNat hc]
  rfl

/-- The code points of the ASCII digits. -/
lemma toNat_of_isDigit {c : Char} (h : c.isDigit = true) : 48 ≤ c.toNat ∧ c.toNat ≤ 57 := by
  simp only [Char.isDigit, Bool.and_eq_true, decide_eq_true_eq] at h
  exact ⟨UInt32.le_iff_toNat_le.1 h.1, UInt32.le_iff_toNat_le.1 h.2⟩

/-- An ASCII digit is no whitespace. -/
lemma not_isWhitespace_of_isDigit {c : Char} (h : c.isDigit = true) :
    isWhitespace c = false ∧ c ≠ '"' := by
  obtain ⟨hlow, hhigh⟩ := toNat_of_isDigit h
  constructor
  · simp only [isWhitespace, inRanges, whitespaceRanges]
    rw [if_neg (by omega), if_neg (by omega), if_pos (by omega), decide_eq_false_iff_not]
    omega
  · rintro rfl
    revert hlow
    decide

/-- The value of ASCII digits, in the library's terms. -/
lemma numeralValue_eq {t : Text} (h : ∀ c ∈ t, c.isDigit = true) :
    numeralValue (t.filterMap decimalValue?) = Nat.ofDigitChars 10 t 0 := by
  suffices hgen : ∀ n, (t.filterMap decimalValue?).foldl (fun n d => 10 * n + d) n =
      Nat.ofDigitChars 10 t n from hgen 0
  induction t with
  | nil => simp
  | cons c t ih =>
    intro n
    rw [List.filterMap_cons_some (decimalValue?_of_isDigit (h c (by simp))), List.foldl_cons,
      ih (fun d hd => h d (by simp [hd])), Nat.ofDigitChars_cons]
    rfl

/-- A run of ASCII digits is read if it is not too long, as the number that it stands for. -/
lemma toNat_eq_ok_iff {t : Text} (hne : t ≠ []) (hdigits : ∀ c ∈ t, c.isDigit = true) {n : Nat} :
    toNat t = .ok n ↔ t.length ≤ maxDigits ∧ Nat.ofDigitChars 10 t 0 = n := by
  have hdecimal : ∀ c ∈ t, isDecimal c = true := by
    intro c hc
    rw [isDecimal, decimalValue?_of_isDigit (hdigits c hc)]
    rfl
  have htake : t.takeWhile isDecimal = t := List.takeWhile_eq_self_iff.2 hdecimal
  simp only [toNat, htake, numeralValue_eq hdigits]
  by_cases hlong : maxDigits < t.length
  · simp [hlong, Nat.not_le.2 hlong]
  · simp [hlong, hne, Nat.not_lt.1 hlong]

/-- A number with no more digits than a numeral may have is read back. -/
lemma toNat_ofNat {n : Nat} (h : n < 10 ^ maxDigits) : toNat (ofNat n) = .ok n := by
  have hlen : (ofNat n).length ≤ maxDigits :=
    (Nat.length_toDigits_le_iff (by decide) (by decide)).2 h
  exact (toNat_eq_ok_iff (ofNat_ne_nil n) fun c hc => isDigit_of_mem_ofNat hc).2
    ⟨hlen, Nat.ofDigitChars_ten_toDigits⟩

/-- The value of a run of decimal digits has no more digits than the run. -/
lemma numeralValue_lt {ds : List Nat} (h : ∀ d ∈ ds, d < 10) : numeralValue ds < 10 ^ ds.length := by
  suffices hgen : ∀ n, ds.foldl (fun n d => 10 * n + d) n < (n + 1) * 10 ^ ds.length by
    have := hgen 0
    rwa [Nat.zero_add, Nat.one_mul] at this
  induction ds with
  | nil => simp
  | cons d ds ih =>
    intro n
    have hd := h d (by simp)
    calc (d :: ds).foldl (fun n d => 10 * n + d) n
        < (10 * n + d + 1) * 10 ^ ds.length := ih (fun e he => h e (by simp [he])) _
      _ ≤ ((n + 1) * 10) * 10 ^ ds.length := Nat.mul_le_mul_right _ (by omega)
      _ = (n + 1) * 10 ^ (d :: ds).length := by
        rw [List.length_cons, Nat.pow_succ, Nat.mul_assoc, Nat.mul_comm 10]

/-- A number that is read has no more digits than a numeral may have. -/
lemma lt_of_toNat {t : Text} {n : Nat} (h : toNat t = .ok n) : n < 10 ^ maxDigits := by
  simp only [toNat] at h
  split at h
  · cases h
  · rename_i hlen
    split at h
    · cases h
    · cases h
      refine lt_of_lt_of_le (numeralValue_lt ?_) (Nat.pow_le_pow_right (by decide) ?_)
      · intro d hd
        obtain ⟨c, -, hc⟩ := List.mem_filterMap.1 hd
        exact decimalValue?_lt hc
      · exact (List.length_filterMap_le _ _).trans (by omega)

/-- An ASCII digit is the digit of its value. -/
lemma digitChar_of_isDigit {c : Char} (h : c.isDigit = true) : (c.toNat - 48).digitChar = c := by
  have hcodes : ∀ n < 10, n.digitChar = Char.ofNat (n + 48) := by decide
  obtain ⟨hlow, hhigh⟩ := toNat_of_isDigit h
  rw [hcodes _ (by omega), Nat.sub_add_cancel hlow, Char.ofNat_toNat]

/-- Whether a run of digits begins with a zero that it could do without. -/
def HasLeadingZero (t : Text) : Prop := 1 < t.length ∧ t.head? = some '0'

/-- No number is written with a zero that it could do without. -/
lemma not_hasLeadingZero_ofNat (n : Nat) : ¬HasLeadingZero (ofNat n) := by
  induction n using Nat.strongRecOn with
  | ind n ih =>
    rw [ofNat]
    by_cases hn : n < 10
    · rw [Nat.toDigits_of_lt_base hn]
      rintro ⟨hlong, -⟩
      exact Nat.lt_irrefl 1 hlong
    · -- the first digit is that of a tenth of the number
      rw [Nat.toDigits_of_base_le (by decide) (by omega)]
      rintro ⟨-, hhead⟩
      rw [List.head?_append_of_ne_nil _ Nat.toDigits_ne_nil] at hhead
      by_cases hten : n / 10 < 10
      · have hcodes : ∀ m < 10, m.digitChar = '0' → m = 0 := by decide
        rw [Nat.toDigits_of_lt_base hten] at hhead
        have := hcodes _ hten (Option.some.inj hhead)
        omega
      · refine ih (n / 10) (by omega) ⟨?_, hhead⟩
        rw [ofNat, Nat.toDigits_of_base_le (by decide) (by omega), List.length_append]
        have := List.length_pos_of_ne_nil (Nat.toDigits_ne_nil (b := 10) (n := n / 10 / 10))
        simpa using this

/-- Digits after a number that is not zero stand in the written form of what they make of it. -/
lemma ofNat_append {t : Text} (hdigits : ∀ c ∈ t, c.isDigit = true) {n : Nat} (hn : 0 < n) :
    ofNat n ++ t = ofNat (Nat.ofDigitChars 10 t n) := by
  -- each digit in turn goes over from the text to the number
  induction t generalizing n with
  | nil => simp
  | cons c t ih =>
    have hc : c.isDigit = true := hdigits c (by simp)
    have hlast : c.toNat - 48 < 10 := by
      have := toNat_of_isDigit hc
      omega
    calc ofNat n ++ c :: t
        = (ofNat n ++ Nat.toDigits 10 (c.toNat - 48)) ++ t := by
          rw [Nat.toDigits_of_lt_base hlast, digitChar_of_isDigit hc]
          simp
      _ = ofNat (10 * n + (c.toNat - 48)) ++ t := by
          rw [ofNat, Nat.toDigits_append_toDigits (by decide) hn hlast, ofNat]
      _ = ofNat (Nat.ofDigitChars 10 (c :: t) n) := by
          rw [ih (fun d hd => hdigits d (by simp [hd])) (by omega), Nat.ofDigitChars_cons]
          rfl

/-- A run of digits without a zero that it could do without is how its value is written. -/
lemma ofNat_ofDigitChars {t : Text} (hne : t ≠ []) (hdigits : ∀ c ∈ t, c.isDigit = true)
    (hzero : ¬HasLeadingZero t) : ofNat (Nat.ofDigitChars 10 t 0) = t := by
  obtain ⟨c, u, rfl⟩ := List.exists_cons_of_ne_nil hne
  by_cases hc : c = '0'
  · -- such a run is no longer than its zero
    obtain rfl : u = [] := by
      by_contra hu
      exact hzero ⟨by simpa using List.length_pos_of_ne_nil hu, by rw [hc]; rfl⟩
    rw [hc]
    rfl
  · have hdigit : c.isDigit = true := hdigits c (by simp)
    have hfirst : [c] = ofNat (c.toNat - 48) := by
      have := toNat_of_isDigit hdigit
      rw [ofNat, Nat.toDigits_of_lt_base (by omega), digitChar_of_isDigit hdigit]
    have hpos : 0 < c.toNat - 48 := by
      rw [Nat.pos_iff_ne_zero]
      intro hvalue
      have := digitChar_of_isDigit hdigit
      rw [hvalue] at this
      exact hc this.symm
    calc ofNat (Nat.ofDigitChars 10 (c :: u) 0)
        = ofNat (Nat.ofDigitChars 10 u (c.toNat - 48)) := by
          rw [Nat.ofDigitChars_cons, Nat.mul_zero, Nat.zero_add]
          rfl
      _ = ofNat (c.toNat - 48) ++ u :=
          (ofNat_append (fun d hd => hdigits d (by simp [hd])) hpos).symm
      _ = c :: u := by rw [← hfirst]; rfl

/-- Each number is written in one way: the run of digits of that value without a zero it could do without. -/
lemma eq_ofNat_iff {t : Text} {n : Nat} :
    t = ofNat n ↔ t ≠ [] ∧ (∀ c ∈ t, c.isDigit = true) ∧ ¬HasLeadingZero t ∧
      Nat.ofDigitChars 10 t 0 = n := by
  constructor
  · rintro rfl
    exact ⟨ofNat_ne_nil n, fun c hc => isDigit_of_mem_ofNat hc, not_hasLeadingZero_ofNat n,
      Nat.ofDigitChars_ten_toDigits⟩
  · rintro ⟨hne, hdigits, hzero, rfl⟩
    exact (ofNat_ofDigitChars hne hdigits hzero).symm

end HtGate.Text
