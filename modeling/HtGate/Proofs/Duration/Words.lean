import HtGate.Duration
import HtGate.Pattern.Node
import HtGate.Proofs.Text.Casing
import Mathlib.Data.List.Forall2
/-!
# The words of durations

The leading words are recognised in the spellings that patterns have for them where case is ignored: letter by
letter in either case, with the long s for the s. A unit is recognised in the singular and the plural, in the
ASCII letters of either case.
-/

namespace HtGate

namespace Text

/-- A character that is an ASCII letter in lower case is an ASCII letter. -/
lemma isAsciiLetter_of_toLower {c : Char} (h : isAsciiLetter c.toLower = true) :
    isAsciiLetter c = true := by
  unfold Char.toLower at h
  split at h
  · rename_i hupper
    rw [isAsciiLetter, Bool.or_eq_true]
    right
    rw [Bool.and_eq_true, decide_eq_true_eq, decide_eq_true_eq]
    exact hupper
  · exact h

/-- ASCII letters are ASCII characters. -/
lemma toNat_lt_of_isAsciiLetter {c : Char} (h : isAsciiLetter c = true) : c.toNat < 0x80 := by
  simp only [isAsciiLetter, Bool.or_eq_true, Bool.and_eq_true, decide_eq_true_eq] at h
  rcases h with ⟨-, h⟩ | ⟨-, h⟩ <;> exact lt_of_le_of_lt (UInt32.le_iff_toNat_le.1 h) (by decide)

/-- ASCII letters are no whitespace. -/
lemma not_isWhitespace_of_isAsciiLetter {c : Char} (h : isAsciiLetter c = true) :
    isWhitespace c = false := by
  have hascii := toNat_lt_of_isAsciiLetter h
  revert h
  exact forall_of_codes hascii (by decide)

end Text

namespace Pattern

/-- Where case is ignored, a character counts as its lower-case form. -/
lemma foldCode_toNat (c : Char) : foldCode false c.toNat = (Text.lowerOne c).toNat := by
  rw [foldCode, Text.lowerOne]
  split
  · rename_i hascii
    exact Text.forall_of_codes hascii (by decide)
  · rw [if_neg Bool.false_ne_true]
    cases hshift : Text.shifted? Text.lowerRuns c.toNat with
    | none => rfl
    | some m =>
      rw [Option.map_some, Option.getD_some, Option.getD_some, Char.ofNat,
        dif_pos (Text.isValidChar_of_shifted? hshift)]
      rfl

/-- The long s alone counts as the long s. -/
lemma foldCode_eq_longS_iff (c : Char) : foldCode false c.toNat = 0x17F ↔ c = 'ſ' := by
  constructor
  · intro h
    have hcode : c.toNat = 0x17F := by
      rw [foldCode] at h
      split at h
      · split at h <;> omega
      · rw [if_neg Bool.false_ne_true] at h
        cases hshift : Text.shifted? Text.lowerRuns c.toNat with
        | none => rwa [hshift] at h
        | some m =>
          rw [hshift] at h
          exact absurd h (Text.shifted?_ne_longS hshift)
    rw [← Char.ofNat_toNat c, hcode]
  · rintro rfl
    decide

end Pattern

namespace Duration

/-- Whether a text is a word in one of the spellings that a pattern has for its letters where case is
ignored. -/
def IsWord (word t : Text) : Prop :=
  List.Forall₂
    (fun letter c => (Pattern.singleChar { ignoreCase := true } false letter.toNat).test c = true) word t

/-- The letters of the leading words. -/
def leadLetters : List Char := "access".toList ++ "plus".toList

/-- A letter of a leading word stands for the characters that it stands for in a pattern. -/
lemma sameLetter_iff {letter : Char} (h : letter ∈ leadLetters) (c : Char) :
    sameLetter letter c = true ↔
      (Pattern.singleChar { ignoreCase := true } false letter.toNat).test c = true := by
  have hlower : (Text.lowerOne c == letter) = (Pattern.foldCode false c.toNat == letter.toNat) := by
    rw [Bool.eq_iff_iff, beq_iff_eq, beq_iff_eq, Pattern.foldCode_toNat]
    exact ⟨congrArg Char.toNat, fun h => Char.ext (UInt32.toNat_inj.1 h)⟩
  have hlong : (c == 'ſ') = (Pattern.foldCode false c.toNat == 0x17F) := by
    rw [Bool.eq_iff_iff, beq_iff_eq, beq_iff_eq, Pattern.foldCode_eq_longS_iff]
  -- the s alone counts as another letter, which is the long s
  have hforms : leadLetters.all (fun letter => decide (
      Pattern.isFoldedChar { ignoreCase := true } letter.toNat = true ∧
      Pattern.foldGroup false (Pattern.foldCode false letter.toNat) =
        if letter = 's' then ['s'.toNat, 0x17F] else [letter.toNat])) = true := by decide
  obtain ⟨hfolded, hgroup⟩ := of_decide_eq_true (List.all_eq_true.1 hforms letter h)
  rw [sameLetter, hlower, hlong, Pattern.singleChar, if_pos hfolded]
  dsimp only
  rw [hgroup]
  by_cases hs : letter = 's'
  · subst hs
    simp
  · simp [hs]

/-- After a word to its end, all that is left follows it, where that is nothing or begins with whitespace. -/
lemma afterWord?_nil_eq_some_iff {s rest : Text} :
    afterWord? [] s = some rest ↔ s = rest ∧ ∀ c ∈ rest.head?, Text.isWhitespace c = true := by
  cases s with
  | nil =>
    constructor
    · rintro ⟨⟩
      exact ⟨rfl, by simp⟩
    · rintro ⟨rfl, -⟩
      rfl
  | cons c s =>
    rw [afterWord?]
    split
    · rename_i hc
      constructor
      · rintro ⟨⟩
        exact ⟨rfl, by simpa using hc⟩
      · rintro ⟨rfl, -⟩
        rfl
    · rename_i hc
      refine iff_of_false nofun ?_
      rintro ⟨rfl, hrest⟩
      exact hc (hrest c rfl)

/-- What follows a leading word is what follows one of its spellings, where that is nothing or whitespace. -/
lemma afterWord?_eq_some_iff {word s rest : Text} (hword : ∀ letter ∈ word, letter ∈ leadLetters) :
    afterWord? word s = some rest ↔
      ∃ t, IsWord word t ∧ s = t ++ rest ∧ ∀ c ∈ rest.head?, Text.isWhitespace c = true := by
  -- the word and the text are taken apart together, a letter and a character at a time
  induction word generalizing s with
  | nil =>
    simp only [IsWord, List.forall₂_nil_left_iff, exists_eq_left, List.nil_append]
    exact afterWord?_nil_eq_some_iff
  | cons letter word ih =>
    have hletter := sameLetter_iff (hword letter (by simp))
    have hrest : ∀ l ∈ word, l ∈ leadLetters := fun l hl => hword l (by simp [hl])
    cases s with
    | nil =>
      refine iff_of_false nofun ?_
      rintro ⟨t, ht, hs, -⟩
      cases ht
      cases hs
    | cons c s =>
      rw [afterWord?]
      split
      · rename_i hc
        rw [ih hrest]
        constructor
        · rintro ⟨t, ht, rfl, hends⟩
          exact ⟨c :: t, .cons ((hletter c).1 hc) ht, rfl, hends⟩
        · rintro ⟨t, ht, hs, hends⟩
          cases ht with
          | cons _ ht =>
            cases hs
            exact ⟨_, ht, rfl, hends⟩
      · rename_i hc
        refine iff_of_false nofun ?_
        rintro ⟨t, ht, hs, -⟩
        cases ht with
        | cons hfirst _ =>
          cases hs
          exact hc ((hletter c).2 hfirst)

/-- A letter of a leading word is no whitespace in any spelling. -/
lemma not_isWhitespace_of_sameLetter {letter c : Char} (hletter : letter ∈ leadLetters)
    (h : sameLetter letter c = true) : Text.isWhitespace c = false := by
  have hsolid : leadLetters.all (fun letter => decide (Text.isWhitespace letter = false)) = true := by decide
  by_contra hblank
  rw [Bool.not_eq_false] at hblank
  have hlower : Text.lowerOne c = c := by
    have hkept := Text.lowerChar_caseless (.inl hblank)
    rw [Text.lowerChar] at hkept
    split at hkept
    · cases hkept
    · exact (List.cons.inj hkept).1
  simp only [sameLetter, hlower, Bool.or_eq_true, Bool.and_eq_true, beq_iff_eq] at h
  rcases h with rfl | ⟨-, rfl⟩
  · rw [of_decide_eq_true (List.all_eq_true.1 hsolid c hletter)] at hblank
    cases hblank
  · revert hblank
    decide

/-- A leading word begins with no whitespace in any spelling. -/
lemma IsWord.startsSolid {letter : Char} {word t : Text} (hletter : letter ∈ leadLetters)
    (h : IsWord (letter :: word) t) : Text.StartsSolid t := by
  cases h with
  | @cons _ c _ _ hc _ =>
    exact ⟨c, rfl, not_isWhitespace_of_sameLetter hletter ((sameLetter_iff hletter c).2 hc)⟩

/-- Whether a text is a unit of so many seconds, in the singular or the plural and in ASCII letters of either
case. -/
def IsUnit (word : Text) (seconds : Nat) : Prop :=
  ∃ name, (name, seconds) ∈ units ∧
    (word.map Char.toLower = name ∨ word.map Char.toLower = name ++ ['s'])

/-- A unit consists of ASCII letters. -/
lemma IsUnit.letters {word : Text} {seconds : Nat} (h : IsUnit word seconds) :
    word ≠ [] ∧ ∀ c ∈ word, Text.isAsciiLetter c = true := by
  have hnames : ∀ u ∈ units, u.1 ≠ [] ∧ (u.1 ++ ['s']).all Text.isAsciiLetter = true := by decide
  obtain ⟨name, hmem, hword⟩ := h
  obtain ⟨hne, hall⟩ := hnames _ hmem
  rw [List.all_eq_true] at hall
  constructor
  · rintro rfl
    rcases hword with hword | hword
    · exact hne hword.symm
    · simp at hword
  · intro c hc
    have hlower : c.toLower ∈ word.map Char.toLower := List.mem_map_of_mem hc
    refine Text.isAsciiLetter_of_toLower (hall _ ?_)
    rcases hword with hword | hword
    · exact List.mem_append_left _ (hword ▸ hlower)
    · exact hword ▸ hlower

/-- The word for a unit has no whitespace. -/
lemma IsUnit.solid {word : Text} {seconds : Nat} (h : IsUnit word seconds) :
    ∀ c ∈ word, Text.isWhitespace c = false :=
  fun c hc => Text.not_isWhitespace_of_isAsciiLetter (h.letters.2 c hc)

/-- A name has seconds exactly if it is that of a unit. -/
lemma secondsOf?_eq_some_iff {name : Text} {seconds : Nat} :
    secondsOf? name = some seconds ↔ (name, seconds) ∈ units := by
  constructor
  · intro h
    obtain ⟨⟨found, n⟩, hfind, rfl⟩ := Option.map_eq_some_iff.1 h
    obtain rfl : found = name := by simpa using List.find?_some hfind
    exact List.mem_of_find?_eq_some hfind
  · intro h
    have hfound : ∀ u ∈ units, secondsOf? u.1 = some u.2 := by decide
    exact hfound _ h

/-- A unit in the plural is none in the singular. -/
lemma secondsOf?_plural {name : Text} {seconds : Nat} (h : (name, seconds) ∈ units) :
    secondsOf? (name ++ ['s']) = none := by
  have hnone : ∀ u ∈ units, secondsOf? (u.1 ++ ['s']) = none := by decide
  exact hnone _ h

/-- A word of ASCII letters is read as the unit that it is. -/
lemma unitSeconds?_eq_some_iff {word : Text} {seconds : Nat}
    (hletters : ∀ c ∈ word, Text.isAsciiLetter c = true) :
    unitSeconds? word = some seconds ↔ IsUnit word seconds := by
  have hlower : Text.lower word = word.map Char.toLower :=
    Text.lower_ascii fun c hc => Text.toNat_lt_of_isAsciiLetter (hletters c hc)
  rw [unitSeconds?, hlower, IsUnit]
  -- the case of the letters is settled, so that the rest is about the names of the units
  generalize word.map Char.toLower = low
  constructor
  · intro h
    split at h
    · rename_i n hsingular
      cases h
      exact ⟨low, secondsOf?_eq_some_iff.1 hsingular, .inl rfl⟩
    · split at h
      · rename_i hlast
        have hplural : low = low.dropLast ++ ['s'] :=
          (List.dropLast_append_getLast? _ (by simpa using hlast)).symm
        exact ⟨low.dropLast, secondsOf?_eq_some_iff.1 h, .inr hplural⟩
      · cases h
  · rintro ⟨name, hmem, rfl | rfl⟩
    · rw [secondsOf?_eq_some_iff.2 hmem]
    · rw [secondsOf?_plural hmem]
      simp [secondsOf?_eq_some_iff.2 hmem]

end Duration

end HtGate
