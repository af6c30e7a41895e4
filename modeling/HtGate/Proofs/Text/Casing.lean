import HtGate.Proofs.Text.Codes
import HtGate.Proofs.Text.Trimming
import HtGate.Text.Case
/-!
# Lower case

The lower-case form of an ASCII text is its letters in lower case one by one, whatever stands after it.
Whitespace and double quotes have no case, so that they stand in the lower-case form of every text they
stand in. Most ASCII letters are the lower-case form of ASCII letters alone: a word of them is recognised in
the upper and lower case of ASCII and in no other spelling.
-/

namespace HtGate.Text

/-- The lower-case form of an ASCII character. -/
lemma lowerChar_ascii {c : Char} (h : c.toNat < 0x80) : lowerChar c = [c.toLower] := by
  have hne : (c == '\u0130') = false := by
    rw [beq_eq_false_iff_ne]
    rintro rfl
    revert h
    decide
  rw [lowerChar, hne, lowerOne, if_pos h]
  rfl

/-- The lower-case form of a text that begins with ASCII characters. -/
lemma lowerAfter_ascii_append (before : Text) {s : Text} (h : ∀ c ∈ s, c.toNat < 0x80) (t : Text) :
    lowerAfter before (s ++ t) = s.map Char.toLower ++ lowerAfter (s.reverse ++ before) t := by
  induction s generalizing before with
  | nil => rfl
  | cons c s ih =>
    have hc : c.toNat < 0x80 := h c (by simp)
    have hne : (c == 'Σ') = false := by
      rw [beq_eq_false_iff_ne]
      rintro rfl
      revert hc
      decide
    rw [List.cons_append, lowerAfter, hne, lowerChar_ascii hc,
      ih (c :: before) (fun d hd => h d (by simp [hd]))]
    simp

/-- The lower-case form of an ASCII text. -/
lemma lower_ascii {s : Text} (h : ∀ c ∈ s, c.toNat < 0x80) : lower s = s.map Char.toLower := by
  have := lowerAfter_ascii_append [] h []
  rwa [List.append_nil, lowerAfter, List.append_nil] at this

/-- Whether a character is whitespace or a double quote. -/
def IsCaseless (c : Char) : Prop := isWhitespace c = true ∨ c = '"'

/-- Whitespace and the double quote are their own lower-case forms. -/
lemma lowerChar_caseless {c : Char} (h : IsCaseless c) : lowerChar c = [c] := by
  rcases h with h | rfl
  · exact forall_of_whitespaceCodes h (by decide)
  · rfl

/-- Whitespace and double quotes of a text stand in its lower-case form. -/
lemma mem_lowerAfter {c : Char} (hc : IsCaseless c) {t : Text} (h : c ∈ t) (before : Text) :
    c ∈ lowerAfter before t := by
  induction t generalizing before with
  | nil => cases h
  | cons d t ih =>
    rw [lowerAfter, List.mem_append]
    rcases List.mem_cons.1 h with rfl | h
    · -- the one letter whose form depends on its place is not caseless
      left
      have hne : (c == 'Σ') = false := by
        rw [beq_eq_false_iff_ne]
        rintro rfl
        rcases hc with hc | hc <;> revert hc <;> decide
      rw [hne, lowerChar_caseless hc]
      simp
    · exact .inr (ih h _)

/-- Whitespace and double quotes of a text stand in its lower-case form. -/
lemma mem_lower {c : Char} (hc : IsCaseless c) {t : Text} (h : c ∈ t) : c ∈ lower t :=
  mem_lowerAfter hc h []

/-- A text whose lower-case form is an ASCII text is as long as that: the one character with a longer form has
no ASCII form. -/
lemma length_lower_of_ascii {t : Text} (h : ∀ c ∈ lower t, c.toNat < 0x80) :
    (lower t).length = t.length := by
  have hafter : ∀ t before : Text, (∀ c ∈ lowerAfter before t, c.toNat < 0x80) →
      (lowerAfter before t).length = t.length := by
    intro t
    induction t with
    | nil => exact fun _ _ => rfl
    | cons c t ih =>
      intro before hascii
      rw [lowerAfter] at hascii ⊢
      obtain ⟨hfirst, hrest⟩ := List.forall_mem_append.1 hascii
      rw [List.length_append, ih _ hrest, List.length_cons, Nat.add_comm]
      split at hfirst
      · rename_i hsigma
        rw [if_pos hsigma, List.length_singleton]
      · rename_i hsigma
        rw [if_neg hsigma]
        rw [lowerChar] at hfirst ⊢
        split at hfirst
        · -- the one letter that grows leaves ASCII
          exact absurd (hfirst '\u0307' (by simp)) (by decide)
        · rename_i hdotted
          rw [if_neg hdotted, List.length_singleton]
  exact hafter t [] h

/-- A text has neither whitespace nor double quotes if its lower-case form has none. -/
lemma not_isCaseless_of_lower {t u : Text} (h : lower t = u)
    (hu : u.all (fun c => !isWhitespace c && c != '"') = true) :
    ∀ c ∈ t, isWhitespace c = false ∧ c ≠ '"' := by
  simp only [List.all_eq_true, Bool.and_eq_true, Bool.not_eq_true', bne_iff_ne] at hu
  intro c hc
  constructor
  · by_contra hw
    rw [Bool.not_eq_false] at hw
    have hm := mem_lower (.inl hw) hc
    rw [h] at hm
    rw [(hu c hm).1] at hw
    cases hw
  · rintro rfl
    have hm := mem_lower (.inr rfl) hc
    rw [h] at hm
    exact (hu _ hm).2 rfl

/-- A code point that a table maps is in one of its runs. -/
lemma exists_run_of_shifted? {runs : List (Nat × Nat × Nat × Int)} {n m : Nat}
    (h : shifted? runs n = some m) :
    ∃ first last step shift, (first, last, step, shift) ∈ runs ∧ first ≤ n ∧ n ≤ last ∧
      (n - first) % step = 0 ∧ m = ((n : Int) + shift).toNat := by
  obtain ⟨⟨first, last, step, shift⟩, hfind, rfl⟩ := Option.map_eq_some_iff.1 h
  have hrun := List.find?_some hfind
  simp only [Bool.and_eq_true, decide_eq_true_eq, beq_iff_eq] at hrun
  exact ⟨first, last, step, shift, List.mem_of_find?_eq_some hfind, hrun.1.1, hrun.1.2, hrun.2, rfl⟩

/-- Beyond ASCII, two characters alone have a lower-case form in ASCII. -/
lemma shifted?_spec {n m : Nat} (h : shifted? lowerRuns n = some m) :
    m = 'i'.toNat ∨ m = 'k'.toNat ∨ 0x80 ≤ m := by
  have table : lowerRuns.all (fun r => decide (r.1 = r.2.1 ∧ (r.1 + r.2.2.2 = 'i'.toNat ∨
      r.1 + r.2.2.2 = 'k'.toNat) ∨ (0x80 : Int) ≤ r.1 + r.2.2.2)) = true := by decide
  obtain ⟨first, last, step, shift, hmem, hlow, hhigh, -, rfl⟩ := exists_run_of_shifted? h
  have hshift := List.all_eq_true.1 table _ hmem
  simp only [decide_eq_true_eq] at hshift
  rcases hshift with ⟨rfl, hshift⟩ | hshift
  · obtain rfl : n = first := by omega
    omega
  · omega

/-- The lower-case code points are those of characters. -/
lemma isValidChar_of_shifted? {n m : Nat} (h : shifted? lowerRuns n = some m) : m.isValidChar := by
  have table : lowerRuns.all (fun r => decide (0 ≤ r.1 + r.2.2.2 ∧ r.2.1 + r.2.2.2 < 0xD800 ∨
      0xE000 ≤ r.1 + r.2.2.2 ∧ r.2.1 + r.2.2.2 < 0x110000)) = true := by decide
  obtain ⟨first, last, step, shift, hmem, hlow, hhigh, -, rfl⟩ := exists_run_of_shifted? h
  have hshift := List.all_eq_true.1 table _ hmem
  simp only [decide_eq_true_eq] at hshift
  rcases hshift with hshift | hshift
  · left
    omega
  · right
    omega

/-- No other character has the long s for its lower-case form. -/
lemma shifted?_ne_longS {n m : Nat} (h : shifted? lowerRuns n = some m) : m ≠ 0x17F := by
  have table : lowerRuns.all (fun r => decide ((0x17F : Int) < r.1 + r.2.2.2 ∨
      r.2.1 + r.2.2.2 < 0x17F ∨ ((0x17F : Int) - r.2.2.2 - r.1) % r.2.2.1 ≠ 0)) = true := by
    decide
  obtain ⟨first, last, step, shift, hmem, hlow, hhigh, hstep, rfl⟩ := exists_run_of_shifted? h
  have hshift := List.all_eq_true.1 table _ hmem
  simp only [decide_eq_true_eq] at hshift
  intro heq
  rcases hshift with hshift | hshift | hshift
  · omega
  · omega
  · -- the code point would stand where its run has none
    have hplace : (0x17F : Int) - shift - first = ((n - first : Nat) : Int) := by omega
    rw [hplace] at hshift
    exact hshift (by exact_mod_cast hstep)

/-- The lower-case form of a character is blank exactly if the character is. -/
lemma isBlank_lowerOne (c : Char) : isBlank (lowerOne c) = isBlank c := by
  by_cases hascii : c.toNat < 0x80
  · rw [lowerOne, if_pos hascii]
    exact forall_of_codes hascii (by decide)
  · have hlarge {d : Char} (hd : 0x20 < d.toNat ∨ d.toNat = 0) : isBlank d = false := by
      rw [isBlank, Bool.or_eq_false_iff, beq_eq_false_iff_ne, beq_eq_false_iff_ne]
      constructor <;> rintro rfl <;> revert hd <;> decide
    rw [lowerOne, if_neg hascii, hlarge (d := c) (.inl (by omega))]
    -- outside ASCII no character is a blank, and none has a blank as its lower-case form
    cases hshift : shifted? lowerRuns c.toNat with
    | none => exact hlarge (d := c) (.inl (by omega))
    | some m =>
      have hm : 0x20 < m := by
        rcases shifted?_spec hshift with rfl | rfl | hm
        · decide
        · decide
        · omega
      refine hlarge (d := Char.ofNat m) ?_
      by_cases hvalid : m.isValidChar
      · rw [Char.ofNat, dif_pos hvalid]
        exact .inl hm
      · rw [Char.ofNat, dif_neg hvalid]
        exact .inr rfl

/-- Lower case makes and takes no blanks. -/
lemma exists_mem_lower_iff {b : Bool} {t : Text} :
    (∃ d ∈ lower t, isBlank d = b) ↔ ∃ c ∈ t, isBlank c = b := by
  -- every character becomes blanks or no blanks alike
  have piece (before rest : Text) (c : Char) :
      ∃ d u, (if c == 'Σ' then [if startsCased before && !startsCased rest then 'ς' else 'σ']
        else lowerChar c) = d :: u ∧ ∀ e ∈ d :: u, isBlank e = isBlank c := by
    split
    · rename_i hc
      cases eq_of_beq hc
      split <;> exact ⟨_, _, rfl, List.forall_mem_singleton.2 rfl⟩
    · rw [lowerChar]
      split
      · rename_i hc
        cases eq_of_beq hc
        exact ⟨_, _, rfl, List.forall_mem_cons.2 ⟨rfl, List.forall_mem_singleton.2 rfl⟩⟩
      · exact ⟨_, _, rfl, List.forall_mem_singleton.2 (isBlank_lowerOne c)⟩
  have hafter (before : Text) :
      (∃ d ∈ lowerAfter before t, isBlank d = b) ↔ ∃ c ∈ t, isBlank c = b := by
    induction t generalizing before with
    | nil => simp [lowerAfter]
    | cons c t ih =>
      obtain ⟨d, u, hpiece, hall⟩ := piece before t c
      have hfirst : (∃ e ∈ d :: u, isBlank e = b) ↔ isBlank c = b := by
        constructor
        · rintro ⟨e, he, rfl⟩
          exact (hall e he).symm
        · rintro rfl
          exact ⟨d, by simp, hall d (by simp)⟩
      rw [lowerAfter, hpiece]
      simp only [List.mem_append, or_and_right, exists_or, hfirst, ih, List.exists_mem_cons_iff]
  exact hafter []

/-- Whether an ASCII character is the lower-case form of ASCII characters alone. -/
def OnlyOfAscii (d : Char) : Prop := 0 < d.toNat ∧ d.toNat < 0x80 ∧ d ≠ 'i' ∧ d ≠ 'k'

/-- The lower-case form of a character beyond ASCII is not that of ASCII characters alone. -/
lemma ascii_of_lowerOne {c : Char} (h : OnlyOfAscii (lowerOne c)) : c.toNat < 0x80 := by
  by_contra hc
  obtain ⟨hpos, hlt, hi, hk⟩ := h
  rw [lowerOne, if_neg hc] at hpos hlt hi hk
  cases hshift : shifted? lowerRuns c.toNat with
  | none =>
    rw [hshift] at hlt
    exact hc hlt
  | some m =>
    rw [hshift, Option.map_some, Option.getD_some] at hpos hlt hi hk
    -- outside ASCII only two letters have a lower-case form in it, an i and a k, which are excluded
    rcases shifted?_spec hshift with rfl | rfl | hm
    · exact hi rfl
    · exact hk rfl
    · by_cases hvalid : m.isValidChar
      · have hcode : (Char.ofNat m).toNat = m := by
          rw [Char.ofNat, dif_pos hvalid]
          rfl
        omega
      · rw [Char.ofNat, dif_neg hvalid] at hpos
        exact Nat.lt_irrefl 0 hpos

/-- A text whose lower-case form is of such characters is an ASCII text. -/
lemma ascii_of_lowerAfter {before t : Text} (h : ∀ d ∈ lowerAfter before t, OnlyOfAscii d) :
    ∀ c ∈ t, c.toNat < 0x80 := by
  induction t generalizing before with
  | nil => simp
  | cons c t ih =>
    rw [lowerAfter] at h
    obtain ⟨hfirst, hrest⟩ := List.forall_mem_append.1 h
    refine List.forall_mem_cons.2 ⟨?_, ih hrest⟩
    split at hfirst
    · -- neither form of the sigma is such a character
      have hsigma := List.forall_mem_singleton.1 hfirst
      split at hsigma <;> exact absurd hsigma.2.1 (by decide)
    · rw [lowerChar] at hfirst
      split at hfirst
      · exact absurd rfl (hfirst 'i' (by simp)).2.2.1
      · exact ascii_of_lowerOne (List.forall_mem_singleton.1 hfirst)

/-- A lower-case form of such characters has only the spellings that differ from it in the case of ASCII
letters. -/
lemma lower_eq_iff {t u : Text} (hu : ∀ d ∈ u, OnlyOfAscii d) :
    lower t = u ↔ t.map Char.toLower = u := by
  constructor
  · rintro rfl
    exact (lower_ascii (ascii_of_lowerAfter hu)).symm
  · rintro rfl
    refine lower_ascii fun c hc => ?_
    have hlow : c.toLower.toNat < 0x80 := (hu c.toLower (List.mem_map_of_mem hc)).2.1
    unfold Char.toLower at hlow
    split at hlow
    · rename_i hupper
      exact lt_of_le_of_lt (UInt32.le_iff_toNat_le.1 hupper.2) (by decide)
    · exact hlow

end HtGate.Text
