import HtGate.Proofs.Address.Spelling
import HtGate.Proofs.Directive.Numerals
import HtGate.Proofs.Duration.Words
/-!
# Durations as they are written

A text is read as a duration exactly if it is the two leading words and pairs of a quantity and a unit, with
whitespace where it has to stand. The seconds are the sum of what the pairs come to, so that the seconds of
two lists of pairs, one after the other, are those of the one and of the other together.
-/

namespace HtGate.Duration

open Ipv4 (IsRun)

/-- Whether a text is a run of whitespace. -/
structure IsGap (t : Text) : Prop where
  ne_nil : t ≠ []
  whitespace : ∀ c ∈ t, Text.isWhitespace c = true

/-- Whether a text is a quantity and a unit that come to so many seconds. -/
inductive Pair : Text → Nat → Prop
  | intro {digits gap unit : Text} {seconds : Nat} : IsRun digits → digits.length ≤ Text.maxDigits →
    IsGap gap → IsUnit unit seconds →
    Pair (digits ++ (gap ++ unit)) (Nat.ofDigitChars 10 digits 0 * seconds)

/-- Whether a text is a list of pairs that come to so many seconds together. Between two pairs there may be
whitespace. -/
inductive Pairs : Text → Nat → Prop
  | one {pair : Text} {n : Nat} : Pair pair n → Pairs pair n
  | more {pair gap rest : Text} {m n : Nat} : Pair pair m → (∀ c ∈ gap, Text.isWhitespace c = true) →
    Pairs rest n → Pairs (pair ++ (gap ++ rest)) (m + n)

/-- Whether a text is the leading words with whitespace behind each of them. -/
inductive Lead : Text → Prop
  | intro {access gap plus gap' : Text} : IsWord "access".toList access → IsGap gap →
    IsWord "plus".toList plus → IsGap gap' → Lead (access ++ (gap ++ (plus ++ gap')))

/-- Whitespace is neither digit nor letter. -/
lemma not_digit_of_isWhitespace {c : Char} (h : Text.isWhitespace c = true) :
    Text.isAsciiDigit c = false ∧ Text.isAsciiLetter c = false :=
  Text.forall_of_whitespaceCodes h (by decide)

/-- A digit is no letter. -/
lemma not_letter_of_isDigit {c : Char} (h : c.isDigit = true) : Text.isAsciiLetter c = false := by
  have hcode : c.toNat < 58 := Nat.lt_succ_of_le (Text.toNat_of_isDigit h).2
  exact Text.forall_of_codes hcode (by decide)

/-- A text with a gap in front begins with whitespace. -/
lemma IsGap.head_append {gap : Text} (h : IsGap gap) (rest : Text) :
    ∀ c ∈ (gap ++ rest).head?, Text.isWhitespace c = true := by
  obtain ⟨c, gap, rfl⟩ := List.exists_cons_of_ne_nil h.ne_nil
  rintro d ⟨⟩
  exact h.whitespace c (by simp)

section Quantities

variable {text digits gap unit after rest : Text} {seconds n : Nat}

/-- A quantity and a unit are read up to where no letter follows. -/
lemma quantity?_append (hrun : IsRun digits) (hgap : IsGap gap) (hunit : IsUnit unit seconds)
    (hafter : ∀ c ∈ after.head?, Text.isAsciiLetter c = false) :
    quantity? (digits ++ (gap ++ (unit ++ after))) = some (digits, seconds, Text.trimStart after) := by
  obtain ⟨hne, hletters⟩ := hunit.letters
  have hfirst : ∀ c ∈ (gap ++ (unit ++ after)).head?, Text.isAsciiDigit c = false :=
    fun c hc => (not_digit_of_isWhitespace (hgap.head_append _ c hc)).1
  have hsolid : Text.StartsSolid (unit ++ after) := (Text.startsSolid_of_all hne hunit.solid).append after
  have hdigits : (digits ++ (gap ++ (unit ++ after))).takeWhile Text.isAsciiDigit = digits :=
    (Text.span_append hrun.digits hfirst).1
  have hspace := hsolid.trimStart_append hgap.whitespace
  have hword := (Text.span_append hletters hafter).1
  simp only [quantity?, hdigits, List.drop_left, hspace, hword]
  rw [if_neg, (unitSeconds?_eq_some_iff hletters).2 hunit]
  · rfl
  · simp [hrun.ne_nil, hgap.ne_nil, hne]

/-- What is read as a quantity and a unit is one, with whitespace between them. -/
lemma exists_of_quantity? (h : quantity? text = some (digits, seconds, rest)) :
    ∃ gap unit after, text = digits ++ (gap ++ (unit ++ after)) ∧ IsRun digits ∧ IsGap gap ∧
      IsUnit unit seconds ∧ rest = Text.trimStart after := by
  obtain ⟨hdigits, hne, afterSpace, unit, hspace, hword, hunit, hrest, hnot⟩ := quantity?_eq_some h
  have hafter : text.drop digits.length = text.dropWhile Text.isAsciiDigit := by
    rw [hdigits, Text.drop_length_takeWhile]
  have hbehind : afterSpace.drop unit.length = afterSpace.dropWhile Text.isAsciiLetter := by
    rw [hword, Text.drop_length_takeWhile]
  rw [hafter] at hspace hnot
  -- each run is the longest, and the text is what they make one after another
  have htext : text = digits ++ ((text.dropWhile Text.isAsciiDigit).takeWhile Text.isWhitespace ++
      (unit ++ afterSpace.dropWhile Text.isAsciiLetter)) := by
    rw [hword, List.takeWhile_append_dropWhile, hspace, Text.trimStart, List.takeWhile_append_dropWhile,
      hdigits, List.takeWhile_append_dropWhile]
  have hgap : (text.dropWhile Text.isAsciiDigit).takeWhile Text.isWhitespace ≠ [] := by
    intro hnil
    have hsame := List.takeWhile_append_dropWhile (p := Text.isWhitespace)
      (l := text.dropWhile Text.isAsciiDigit)
    rw [hnil, List.nil_append] at hsame
    rw [hspace, Text.trimStart, hsame] at hnot
    simp at hnot
  have hletters : ∀ c ∈ unit, Text.isAsciiLetter c = true := by
    intro c hc
    rw [hword] at hc
    exact List.mem_takeWhile_imp hc
  refine ⟨_, unit, _, htext, ⟨hne, ?_⟩, ⟨hgap, fun c hc => List.mem_takeWhile_imp hc⟩,
    (unitSeconds?_eq_some_iff hletters).1 hunit, by rw [hrest, hbehind]⟩
  intro c hc
  rw [hdigits] at hc
  exact List.mem_takeWhile_imp hc

end Quantities

section Sums

variable {pair pairs gap text after : Text} {n : Nat}

/-- A sum goes on behind a pair with what the pair comes to. -/
lemma Pair.sumPairs (h : Pair pair n) (hafter : ∀ c ∈ after.head?, Text.isAsciiLetter c = false)
    (fuel count total : Nat) :
    sumPairs (fuel + 1) (pair ++ after) count total =
      sumPairs fuel (Text.trimStart after) (count + 1) (total + n) := by
  cases h with
  | @intro digits gap unit seconds hrun hlength hgap hunit =>
    have hread : Fault.readNumeral digits = .ok (Nat.ofDigitChars 10 digits 0) :=
      Fault.readNumeral_eq_ok_iff.2 ((Text.toNat_eq_ok_iff hrun.ne_nil hrun.digits).2 ⟨hlength, rfl⟩)
    rw [List.append_assoc, List.append_assoc,
      sumPairs_of_quantity? (quantity?_append hrun hgap hunit hafter), hread]

/-- A pair begins with a digit. -/
lemma Pair.head (h : Pair pair n) : ∃ c rest, pair = c :: rest ∧ c.isDigit = true := by
  cases h with
  | intro hrun =>
    obtain ⟨c, digits, rfl⟩ := List.exists_cons_of_ne_nil hrun.ne_nil
    exact ⟨c, _, rfl, hrun.digits c (by simp)⟩

/-- A pair is not empty. -/
lemma Pair.length_pos (h : Pair pair n) : 0 < pair.length := by
  obtain ⟨c, rest, rfl, -⟩ := h.head
  exact Nat.succ_pos _

/-- A pair ends in a letter, and so not in whitespace. -/
lemma Pair.endsSolid (h : Pair pair n) : Text.EndsSolid pair := by
  cases h with
  | intro _ _ _ hunit =>
    exact ((Text.endsSolid_of_all hunit.letters.1 hunit.solid).append _).append _

/-- A list of pairs begins with a digit. -/
lemma Pairs.head (h : Pairs pairs n) : ∃ c rest, pairs = c :: rest ∧ c.isDigit = true := by
  cases h with
  | one hpair => exact hpair.head
  | more hpair =>
    obtain ⟨c, rest, rfl, hc⟩ := hpair.head
    exact ⟨c, _, rfl, hc⟩

/-- Pairs end as the last of them does. -/
lemma Pairs.endsSolid (h : Pairs pairs n) : Text.EndsSolid pairs := by
  induction h with
  | one hpair => exact hpair.endsSolid
  | more _ _ _ ih => exact (ih.append _).append _

/-- Pairs begin with a digit, and so not with whitespace. -/
lemma Pairs.startsSolid (h : Pairs pairs n) : Text.StartsSolid pairs := by
  obtain ⟨c, rest, rfl, hc⟩ := h.head
  exact ⟨c, rfl, (Text.not_isWhitespace_of_isDigit hc).1⟩

/-- No letter stands where a list of pairs begins, with or without whitespace in front of it. -/
lemma Pairs.not_letter (h : Pairs pairs n) (hgap : ∀ c ∈ gap, Text.isWhitespace c = true) :
    ∀ c ∈ (gap ++ pairs).head?, Text.isAsciiLetter c = false := by
  cases gap with
  | nil =>
    obtain ⟨c, rest, rfl, hc⟩ := h.head
    rintro d ⟨⟩
    exact not_letter_of_isDigit hc
  | cons c gap =>
    rintro d ⟨⟩
    exact (not_digit_of_isWhitespace (hgap c (by simp))).2

/-- Two lists of pairs make one, with or without whitespace between them. -/
lemma Pairs.append {rest : Text} {m : Nat} (h : Pairs pairs m)
    (hgap : ∀ c ∈ gap, Text.isWhitespace c = true) (hrest : Pairs rest n) :
    Pairs (pairs ++ (gap ++ rest)) (m + n) := by
  induction h with
  | one hpair => exact .more hpair hgap hrest
  | more hpair hgap' _ ih =>
    rw [List.append_assoc, List.append_assoc, Nat.add_assoc]
    exact .more hpair hgap' ih

/-- The sum of a list of pairs is what they come to. -/
lemma Pairs.sumPairs (h : Pairs pairs n) {fuel : Nat} (hfuel : pairs.length ≤ fuel) (count total : Nat) :
    ∃ found, count < found ∧ sumPairs fuel pairs count total = .ok (.ok (found, total + n)) := by
  induction h generalizing fuel count total with
  | one hpair =>
    have hpos := hpair.length_pos
    obtain ⟨fuel, rfl⟩ : ∃ f, fuel = f + 1 := ⟨fuel - 1, by omega⟩
    have hsum := hpair.sumPairs (by simp : ∀ c ∈ ([] : Text).head?, _) fuel count total
    rw [List.append_nil] at hsum
    exact ⟨count + 1, Nat.lt_succ_self _, hsum.trans (sumPairs_nil _ _ _)⟩
  | @more pair gap rest m n hpair hgap hrest ih =>
    -- the fuel lasts, because a pair takes at least one character
    have hpos := hpair.length_pos
    rw [List.length_append, List.length_append] at hfuel
    obtain ⟨fuel, rfl⟩ : ∃ f, fuel = f + 1 := ⟨fuel - 1, by omega⟩
    rw [hpair.sumPairs (hrest.not_letter hgap), hrest.startsSolid.trimStart_append hgap]
    have hlast : rest.length ≤ fuel := by omega
    obtain ⟨found, hlt, hsum⟩ := ih hlast (count + 1) (total + m)
    exact ⟨found, by omega, by rw [hsum, Nat.add_assoc]⟩

/-- Where there is a sum, it is that of a list of pairs, and nothing but whitespace follows the list. -/
lemma exists_pairs_of_sumPairs {fuel count total found sum : Nat}
    (h : sumPairs fuel text count total = .ok (.ok (found, sum))) (hne : text ≠ []) :
    ∃ pairs q n, Pairs pairs n ∧ (∀ c ∈ q, Text.isWhitespace c = true) ∧ text = pairs ++ q ∧
      sum = total + n := by
  induction fuel generalizing text count total with
  | zero =>
    cases text with
    | nil => exact absurd rfl hne
    | cons => cases h
  | succ fuel ih =>
    cases hq : quantity? text with
    | none =>
      obtain ⟨reason, hreason⟩ := sumPairs_of_no_quantity hq hne (fuel + 1) count total
      rw [hreason] at h
      cases h
    | some read =>
      obtain ⟨digits, seconds, rest⟩ := read
      rw [sumPairs_of_quantity? hq] at h
      cases hread : Fault.readNumeral digits with
      | error fault =>
        rw [hread] at h
        cases h
      | ok k =>
        rw [hread] at h
        obtain ⟨gap, unit, after, rfl, hrun, hgap, hunit, rfl⟩ := exists_of_quantity? hq
        obtain ⟨hlength, rfl⟩ :=
          (Text.toNat_eq_ok_iff hrun.ne_nil hrun.digits).1 (Fault.readNumeral_eq_ok_iff.1 hread)
        have hpair := Pair.intro hrun hlength hgap hunit
        -- the pair is the last one, or others follow it
        by_cases hlast : Text.trimStart after = []
        · rw [hlast] at h
          dsimp only at h
          rw [sumPairs_nil] at h
          cases h
          exact ⟨_, after, _, .one hpair, List.dropWhile_eq_nil_iff.1 hlast, by simp, rfl⟩
        · obtain ⟨pairs, q, n, hpairs, hblank, hrest, rfl⟩ := ih h hlast
          have hafter : after = after.takeWhile Text.isWhitespace ++ (pairs ++ q) := by
            rw [← hrest, Text.trimStart, List.takeWhile_append_dropWhile]
          have hgap' : ∀ c ∈ after.takeWhile Text.isWhitespace, Text.isWhitespace c = true :=
            fun c hc => List.mem_takeWhile_imp hc
          refine ⟨_, q, _, .more hpair hgap' hpairs, hblank, ?_, by rw [Nat.add_assoc]⟩
          conv_lhs => rw [hafter]
          simp only [List.append_assoc]

end Sums

/-- What follows the leading words of a text and the whitespace behind them. -/
def behindLead? (t : Text) : Option Text :=
  (afterWord? "access".toList t).bind fun rest =>
    (afterWord? "plus".toList (Text.trimStart rest)).map Text.trimStart

section Leading

variable {lead pairs rest t : Text} {n : Nat}

/-- The first leading word is made of leading letters. -/
lemma access_subset : ∀ letter ∈ "access".toList, letter ∈ leadLetters :=
  fun _ h => List.mem_append_left _ h

/-- The second leading word is made of leading letters. -/
lemma plus_subset : ∀ letter ∈ "plus".toList, letter ∈ leadLetters :=
  fun _ h => List.mem_append_right _ h

/-- The leading words do not begin with whitespace. -/
lemma Lead.startsSolid (h : Lead lead) : Text.StartsSolid lead := by
  cases h with
  | intro haccess => exact (IsWord.startsSolid (by decide) haccess).append _

/-- The whitespace in front of what is trimmed at the start is a run, if the text begins with it. -/
lemma isGap_takeWhile (hfirst : ∀ c ∈ t.head?, Text.isWhitespace c = true)
    (hne : Text.trimStart t ≠ []) : IsGap (t.takeWhile Text.isWhitespace) := by
  refine ⟨?_, fun c hc => List.mem_takeWhile_imp hc⟩
  cases t with
  | nil => exact absurd rfl hne
  | cons c t =>
    rw [List.takeWhile_cons_of_pos (hfirst c rfl)]
    exact List.cons_ne_nil _ _

/-- The pairs follow the leading words. -/
lemma behindLead?_append (h : Lead lead) (hpairs : Pairs pairs n) :
    behindLead? (lead ++ pairs) = some pairs := by
  cases h with
  | @intro access gap plus gap' haccess hgap hplus hgap' =>
    have hbehind : afterWord? "access".toList (access ++ (gap ++ (plus ++ gap')) ++ pairs) =
        some (gap ++ (plus ++ (gap' ++ pairs))) :=
      (afterWord?_eq_some_iff access_subset).2 ⟨access, haccess, by simp, hgap.head_append _⟩
    have hbehind' : afterWord? "plus".toList (plus ++ (gap' ++ pairs)) = some (gap' ++ pairs) :=
      (afterWord?_eq_some_iff plus_subset).2 ⟨plus, hplus, rfl, hgap'.head_append _⟩
    have hsolid : Text.StartsSolid plus := IsWord.startsSolid (by decide) hplus
    rw [behindLead?, hbehind, Option.bind_some, (hsolid.append _).trimStart_append hgap.whitespace,
      hbehind', Option.map_some, hpairs.startsSolid.trimStart_append hgap'.whitespace]

/-- What follows the leading words is behind whitespace, if there is anything. -/
lemma exists_lead_of_behindLead? (h : behindLead? t = some rest) (hne : rest ≠ []) :
    ∃ lead, Lead lead ∧ t = lead ++ rest := by
  obtain ⟨u, hbehind, h⟩ := Option.bind_eq_some_iff.1 h
  obtain ⟨v, hbehind', rfl⟩ := Option.map_eq_some_iff.1 h
  obtain ⟨access, haccess, rfl, hends⟩ := (afterWord?_eq_some_iff access_subset).1 hbehind
  obtain ⟨plus, hplus, htrim, hends'⟩ := (afterWord?_eq_some_iff plus_subset).1 hbehind'
  have hne' : Text.trimStart u ≠ [] := by
    rw [htrim]
    exact ((IsWord.startsSolid (by decide) hplus).append v).ne_nil
  have hu : u.takeWhile Text.isWhitespace ++ (plus ++ v) = u := by
    rw [← htrim, Text.trimStart, List.takeWhile_append_dropWhile]
  have hv : v.takeWhile Text.isWhitespace ++ Text.trimStart v = v := List.takeWhile_append_dropWhile
  refine ⟨_, .intro haccess (isGap_takeWhile hends hne') hplus (isGap_takeWhile hends' hne), ?_⟩
  rw [List.append_assoc, List.append_assoc, List.append_assoc, hv, hu]

/-- There is a duration where there are leading words and a sum of at least one pair. -/
lemma parse_eq_ok_iff : parse (some t) = .ok (.ok n) ↔
    ∃ rest found, behindLead? (Text.trim t) = some rest ∧ 0 < found ∧
      sumPairs rest.length rest 0 0 = .ok (.ok (found, n)) := by
  simp only [parse, Option.getD_some, behindLead?]
  split
  · rename_i hempty
    rw [List.isEmpty_iff.1 hempty]
    refine iff_of_false (by simp) ?_
    rintro ⟨rest, found, hbehind, -⟩
    cases hbehind
  · cases haccess : afterWord? "access".toList (Text.trim t) with
    | none => simp
    | some rest =>
      cases hplus : afterWord? "plus".toList (Text.trimStart rest) with
      | none =>
        simp only [hplus, Option.bind_some, Option.map_none]
        refine iff_of_false (by simp) ?_
        rintro ⟨rest, found, hbehind, -⟩
        cases hbehind
      | some rest' =>
        simp only [hplus, Option.bind_some, Option.map_some, Option.some.injEq, exists_and_left,
          exists_eq_left']
        cases hsum : sumPairs (Text.trimStart rest').length (Text.trimStart rest') 0 0 with
        | error fault => simp
        | ok outcome =>
          cases outcome with
          | error reason => simp
          | ok found =>
            -- without a pair there is no sum, though its seconds would be 0
            obtain ⟨_ | count, total⟩ := found <;> simp

/-- What is read as a duration is the leading words and pairs, with whitespace around it. -/
lemma exists_pairs_of_parse (h : parse (some t) = .ok (.ok n)) :
    ∃ lead pairs, Lead lead ∧ Pairs pairs n ∧ Text.trim t = lead ++ pairs := by
  obtain ⟨rest, found, hbehind, hpos, hsum⟩ := parse_eq_ok_iff.1 h
  have hne : rest ≠ [] := by
    rintro rfl
    rw [sumPairs_nil] at hsum
    cases hsum
    exact Nat.lt_irrefl 0 hpos
  obtain ⟨lead, hlead, htrim⟩ := exists_lead_of_behindLead? hbehind hne
  obtain ⟨pairs, q, n, hpairs, hblank, rfl, rfl⟩ := exists_pairs_of_sumPairs hsum hne
  rw [← List.append_assoc] at htrim
  -- nothing follows the pairs, because it would have been trimmed
  have hkept : Text.trimEnd (Text.trim t) = Text.trim t :=
    Text.trimEnd_eq_self_iff.2 ((Text.trim_solid t).imp_right And.right)
  rw [htrim, Text.trimEnd_append_right hblank,
    Text.trimEnd_eq_self_iff.2 (.inr (hpairs.endsSolid.append lead))] at hkept
  exact ⟨lead, pairs, hlead, by rwa [Nat.zero_add], htrim.trans hkept.symm⟩

/-- The leading words and pairs are read as what the pairs come to, whatever whitespace is around them. -/
lemma parse_of_trim (hlead : Lead lead) (hpairs : Pairs pairs n) (htrim : Text.trim t = lead ++ pairs) :
    parse (some t) = .ok (.ok n) := by
  obtain ⟨found, hpos, hsum⟩ := hpairs.sumPairs (Nat.le_refl _) 0 0
  rw [Nat.zero_add] at hsum
  exact parse_eq_ok_iff.2 ⟨pairs, found, by rw [htrim, behindLead?_append hlead hpairs], hpos, hsum⟩

/-- The leading words and pairs are read as what the pairs come to. -/
lemma Lead.parse (hlead : Lead lead) (hpairs : Pairs pairs n) :
    parse (some (lead ++ pairs)) = .ok (.ok n) := by
  refine parse_of_trim hlead hpairs (Text.trim_eq_self_iff.2 (.inr ?_))
  exact ⟨hlead.startsSolid.append pairs, hpairs.endsSolid.append lead⟩

end Leading

/-- A text is a duration of so many seconds exactly if it is the leading words and pairs that come to them,
with whitespace around it. So two lists of pairs, one after the other, come to the sum of the seconds of the
one and of the other. -/
theorem parse_iff_written :
    (∀ t n, parse (some t) = .ok (.ok n) ↔
      ∃ lead pairs, Lead lead ∧ Pairs pairs n ∧ Text.trim t = lead ++ pairs) ∧
    ∀ lead p gap q m n, Lead lead → Pairs p m → Pairs q n → (∀ c ∈ gap, Text.isWhitespace c = true) →
      parse (some (lead ++ p)) = .ok (.ok m) ∧ parse (some (lead ++ q)) = .ok (.ok n) ∧
        parse (some (lead ++ (p ++ (gap ++ q)))) = .ok (.ok (m + n)) := by
  refine ⟨fun t n => ⟨exists_pairs_of_parse, ?_⟩, ?_⟩
  · rintro ⟨lead, pairs, hlead, hpairs, htrim⟩
    exact parse_of_trim hlead hpairs htrim
  · intro lead p gap q m n hlead hp hq hgap
    exact ⟨hlead.parse hp, hlead.parse hq, hlead.parse (hp.append hgap hq)⟩

/-- A day and two hours, in letters of both cases and without whitespace between the pairs. -/
theorem parse_dayAndHours :
    parse (some "ACCEſS\tplus 1 day".toList) = .ok (.ok 86400) ∧
      parse (some "ACCEſS\tplus 2 Hours".toList) = .ok (.ok 7200) ∧
      parse (some "ACCEſS\tplus 1 day2 Hours".toList) = .ok (.ok (86400 + 7200)) := by
  have hblank : IsGap " ".toList := ⟨by simp, List.forall_mem_singleton.2 rfl⟩
  have htab : IsGap "\t".toList := ⟨by simp, List.forall_mem_singleton.2 rfl⟩
  have haccess : IsWord "access".toList "ACCEſS".toList := by
    unfold IsWord
    decide
  have hplus : IsWord "plus".toList "plus".toList := by
    unfold IsWord
    decide
  have hone : IsRun "1".toList := ⟨by simp, by simp⟩
  have htwo : IsRun "2".toList := ⟨by simp, by simp⟩
  have hday : IsUnit "day".toList 86400 := ⟨"day".toList, by decide, .inl (by decide)⟩
  have hhours : IsUnit "Hours".toList 3600 := ⟨"hour".toList, by decide, .inr (by decide)⟩
  exact parse_iff_written.2 _ _ [] _ _ _ (.intro haccess htab hplus hblank)
    (.one (.intro hone (by decide) hblank hday)) (.one (.intro htwo (by decide) hblank hhours)) (by simp)

end HtGate.Duration
