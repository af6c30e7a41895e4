import HtGate.Text.Whitespace
import Mathlib.Tactic.Lemma
/-!
# Characters by their code points

What is to be shown of the characters with small code points, or of the whitespace characters, can be tried out
on each of their code points.
-/

namespace HtGate.Text

/-- What holds of the characters at all code points below a bound holds of the characters with such code
points. -/
@[elab_as_elim]
lemma forall_of_codes {P : Char → Prop} {bound : Nat} {c : Char} (hc : c.toNat < bound)
    (h : ∀ n < bound, P (Char.ofNat n)) : P c := by
  have hcode := h _ hc
  rwa [Char.ofNat_toNat] at hcode

/-- A code point in a table lies in one of its ranges. -/
lemma exists_range_of_inRanges {n : Nat} {ranges : List (Nat × Nat)} (h : inRanges n ranges = true) :
    ∃ r ∈ ranges, r.1 ≤ n ∧ n ≤ r.2 := by
  induction ranges with
  | nil => cases h
  | cons r ranges ih =>
    obtain ⟨low, high⟩ := r
    rw [inRanges] at h
    split at h
    · exact ⟨(low, high), by simp, of_decide_eq_true h, ‹n ≤ high›⟩
    · obtain ⟨r, hr, hn⟩ := ih h
      exact ⟨r, by simp [hr], hn⟩

/-- The code points of whitespace. -/
def whitespaceCodes : List Nat :=
  whitespaceRanges.flatMap fun r => List.range' r.1 (r.2 + 1 - r.1)

/-- The code point of a whitespace character is one of them. -/
lemma toNat_mem_whitespaceCodes {c : Char} (h : isWhitespace c = true) :
    c.toNat ∈ whitespaceCodes := by
  obtain ⟨r, hr, hlow, hhigh⟩ := exists_range_of_inRanges h
  exact List.mem_flatMap.2 ⟨r, hr, List.mem_range'_1.2 ⟨hlow, by omega⟩⟩

/-- What holds of the characters at these code points holds of whitespace. -/
@[elab_as_elim]
lemma forall_of_whitespaceCodes {P : Char → Prop} {c : Char} (hc : isWhitespace c = true)
    (h : ∀ n ∈ whitespaceCodes, P (Char.ofNat n)) : P c := by
  have hcode := h _ (toNat_mem_whitespaceCodes hc)
  rwa [Char.ofNat_toNat] at hcode

end HtGate.Text
