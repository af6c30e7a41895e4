import HtGate.Proofs.Line.Keyword
import HtGate.Proofs.Text.Numeral
/-!
# Numerals that lines ask for

Behind some keywords a word of digits is read as a number, and lifetimes are made of numbers. A run of digits
need not be a numeral: one of them may have no place in a numeral, or there may be too many. That is the only
thing at which the reading of a line stops. What is shown of each reader of the keyword table is that it stops
at the numerals that stand behind its keyword, if they cannot be read, and nowhere else.
-/

namespace HtGate

namespace Text

/-- Whether a text is a numeral that can be read. -/
structure Legible (t : Text) : Prop where
  ne_nil : t ≠ []
  decimal : ∀ c ∈ t, isDecimal c = true
  length_le : t.length ≤ maxDigits

/-- A numeral can be read exactly if it has a number. -/
lemma legible_iff {t : Text} : t.Legible ↔ ∃ n, toNat t = .ok n := by
  constructor
  · intro ⟨hne, hdecimal, hlength⟩
    have htake : t.takeWhile isDecimal = t := List.takeWhile_eq_self_iff.2 hdecimal
    refine ⟨numeralValue (t.filterMap decimalValue?), ?_⟩
    simp only [toNat, htake]
    rw [if_neg (by omega), if_neg (by simp [hne])]
  · rintro ⟨n, h⟩
    simp only [toNat] at h
    split at h
    · cases h
    · rename_i hlong
      split at h
      · cases h
      · rename_i hall
        rw [Bool.or_eq_true, decide_eq_true_eq, not_or] at hall
        have htake : t.takeWhile isDecimal = t :=
          (List.takeWhile_prefix isDecimal).eq_of_length_le (by omega)
        rw [htake] at hlong
        exact ⟨by simpa using hall.2, List.takeWhile_eq_self_iff.1 htake, by omega⟩

end Text

namespace Fault

/-- A numeral cannot be read exactly if there is a fault when it is read. -/
lemma not_legible_iff {t : Text} : ¬t.Legible ↔ ∃ fault, readNumeral t = .error fault := by
  rw [Text.legible_iff, readNumeral]
  cases Text.toNat t with
  | ok n => simp
  | error reason => cases reason <;> simp

/-- A numeral that cannot be read is a value that is not acceptable. -/
lemma category_of_readNumeral {t : Text} {fault : Fault} (h : readNumeral t = .error fault) :
    fault.category = .value := by
  rw [readNumeral] at h
  split at h <;> cases h <;> rfl

end Fault

namespace Duration

/-- The quantity at the front of a text, the seconds of its unit and what follows them, if the text begins
with a quantity and a unit. -/
def quantity? (text : Text) : Option (Text × Nat × Text) :=
  let digits := text.takeWhile Text.isAsciiDigit
  let afterDigits := text.drop digits.length
  let afterSpace := Text.trimStart afterDigits
  let word := afterSpace.takeWhile Text.isAsciiLetter
  if digits.isEmpty || afterSpace.length == afterDigits.length || word.isEmpty then none
  else (unitSeconds? word).map fun seconds =>
    (digits, seconds, Text.trimStart (afterSpace.drop word.length))

/-- Whether a numeral is one of the quantities with units that stand one after another in a text. -/
inductive Counts : Text → Text → Prop
  | first {text digits rest : Text} {seconds : Nat} :
    quantity? text = some (digits, seconds, rest) → Counts text digits
  | later {text digits rest numeral : Text} {seconds : Nat} :
    quantity? text = some (digits, seconds, rest) → Counts rest numeral → Counts text numeral

/-- Whether a lifetime asks for a numeral: it is a quantity behind the leading words. -/
def Asks (value numeral : Text) : Prop :=
  ∃ rest rest', afterWord? "access".toList (Text.trim value) = some rest ∧
    afterWord? "plus".toList (Text.trimStart rest) = some rest' ∧ Counts (Text.trimStart rest') numeral

/-- The ten ASCII digits are digits. -/
lemma isDigit_of_isAsciiDigit {c : Char} (h : Text.isAsciiDigit c = true) : Text.isDigit c = true := by
  have hdigit : c.isDigit = true := h
  rw [Text.isDigit, Text.isDecimal, Text.decimalValue?_of_isDigit hdigit]
  rfl

/-- What it takes for a quantity with a unit to be at the front of a text. -/
lemma quantity?_eq_some {text digits rest : Text} {seconds : Nat}
    (h : quantity? text = some (digits, seconds, rest)) :
    digits = text.takeWhile Text.isAsciiDigit ∧ digits ≠ [] ∧
    ∃ afterSpace word, afterSpace = Text.trimStart (text.drop digits.length) ∧
      word = afterSpace.takeWhile Text.isAsciiLetter ∧ unitSeconds? word = some seconds ∧
      rest = Text.trimStart (afterSpace.drop word.length) ∧
      (digits.isEmpty || afterSpace.length == (text.drop digits.length).length || word.isEmpty) =
        false := by
  simp only [quantity?] at h
  split at h
  · cases h
  · rename_i hnot
    obtain ⟨seconds', hunit, hsome⟩ := Option.map_eq_some_iff.1 h
    cases hsome
    rw [Bool.not_eq_true] at hnot
    refine ⟨rfl, ?_, _, _, rfl, rfl, hunit, rfl, hnot⟩
    rw [Bool.or_eq_false_iff, Bool.or_eq_false_iff] at hnot
    simpa using hnot.1.1

/-- What follows a quantity is shorter than the text. -/
lemma length_of_quantity? {text digits rest : Text} {seconds : Nat}
    (h : quantity? text = some (digits, seconds, rest)) : rest.length < text.length := by
  obtain ⟨hdigits, hne, afterSpace, word, hspace, -, -, hrest, -⟩ := quantity?_eq_some h
  have htrim (t : Text) : (Text.trimStart t).length ≤ t.length := (List.dropWhile_sublist _).length_le
  have hpos : 0 < digits.length := List.length_pos_of_ne_nil hne
  have hle : digits.length ≤ text.length := hdigits ▸ (List.takeWhile_sublist _).length_le
  have hspace_le : afterSpace.length ≤ text.length - digits.length := by
    rw [hspace, ← List.length_drop]
    exact htrim _
  have hrest_le : rest.length ≤ afterSpace.length - word.length := by
    rw [hrest, ← List.length_drop]
    exact htrim _
  omega

/-- A sum goes on behind a quantity that can be read. -/
lemma sumPairs_of_quantity? {text digits rest : Text} {seconds : Nat}
    (h : quantity? text = some (digits, seconds, rest)) (fuel pairs total : Nat) :
    sumPairs (fuel + 1) text pairs total =
      match Fault.readNumeral digits with
      | .error fault => .error fault
      | .ok n => sumPairs fuel rest (pairs + 1) (total + n * seconds) := by
  obtain ⟨rfl, hne, afterSpace, word, rfl, rfl, hunit, rfl, hnot⟩ := quantity?_eq_some h
  cases text with
  | nil => cases hne rfl
  | cons c r =>
    have hc : Text.isAsciiDigit c = true := by
      by_contra hc
      exact hne (List.takeWhile_cons_of_neg hc)
    rw [sumPairs]
    cases hread : Fault.readNumeral ((c :: r).takeWhile Text.isAsciiDigit) <;>
      simp only [isDigit_of_isAsciiDigit hc, Bool.not_true, Bool.false_eq_true, if_false, hnot, hunit, hread]

/-- A sum ends where the text does. -/
lemma sumPairs_nil (fuel pairs total : Nat) : sumPairs fuel [] pairs total = .ok (.ok (pairs, total)) := by
  cases fuel <;> rfl

/-- There is no sum where something else than a quantity with a unit follows. -/
lemma sumPairs_of_no_quantity {text : Text} (h : quantity? text = none) (hne : text ≠ [])
    (fuel pairs total : Nat) : ∃ reason, sumPairs fuel text pairs total = .ok (.error reason) := by
  cases text with
  | nil => exact absurd rfl hne
  | cons c r =>
    cases fuel with
    | zero => exact ⟨_, rfl⟩
    | succ fuel =>
      -- the readings of a pair and of the sum give up at the same places
      simp only [quantity?] at h
      simp only [sumPairs]
      split
      · exact ⟨_, rfl⟩
      · split
        · exact ⟨_, rfl⟩
        · rename_i hnot
          rw [if_neg hnot, Option.map_eq_none_iff] at h
          rw [h]
          exact ⟨_, rfl⟩

variable {text value numeral : Text} {fault : Fault}

/-- A sum stops at a quantity that cannot be read and nowhere else. -/
lemma exists_counts_of_sumPairs {fuel pairs total : Nat}
    (h : sumPairs fuel text pairs total = .error fault) :
    ∃ numeral, Counts text numeral ∧ Fault.readNumeral numeral = .error fault := by
  induction fuel generalizing text pairs total with
  | zero => cases text <;> cases h
  | succ fuel ih =>
    cases hq : quantity? text with
    | none =>
      have hne : text ≠ [] := by
        rintro rfl
        cases h
      obtain ⟨reason, hreason⟩ := sumPairs_of_no_quantity hq hne (fuel + 1) pairs total
      rw [hreason] at h
      cases h
    | some found =>
      obtain ⟨digits, seconds, rest⟩ := found
      rw [sumPairs_of_quantity? hq] at h
      -- the sum stops at this numeral, or at one behind it
      cases hread : Fault.readNumeral digits with
      | error _ =>
        rw [hread] at h
        cases h
        exact ⟨digits, .first hq, hread⟩
      | ok n =>
        rw [hread] at h
        obtain ⟨numeral, hcounts, hnumeral⟩ := ih h
        exact ⟨numeral, .later hq hcounts, hnumeral⟩

/-- A sum stops if one of the quantities cannot be read. -/
lemma Counts.sumPairs (h : Counts text numeral) (hbad : ¬numeral.Legible) {fuel : Nat}
    (hfuel : text.length ≤ fuel) (pairs total : Nat) :
    ∃ fault, sumPairs fuel text pairs total = .error fault := by
  induction h generalizing fuel pairs total with
  | first hq =>
    obtain ⟨fault, hread⟩ := Fault.not_legible_iff.1 hbad
    have hlt := length_of_quantity? hq
    obtain ⟨fuel, rfl⟩ : ∃ n, fuel = n + 1 := ⟨fuel - 1, by omega⟩
    rw [sumPairs_of_quantity? hq, hread]
    exact ⟨fault, rfl⟩
  | later hq _ ih =>
    -- the fuel lasts, because a quantity takes at least one character
    have hlt := length_of_quantity? hq
    obtain ⟨fuel, rfl⟩ : ∃ n, fuel = n + 1 := ⟨fuel - 1, by omega⟩
    rw [sumPairs_of_quantity? hq]
    split
    · exact ⟨_, rfl⟩
    · exact ih hbad (by omega) _ _

/-- A lifetime stops at a numeral that it asks for and that cannot be read. -/
lemma exists_asks_of_parse (h : parse (some value) = .error fault) :
    ∃ numeral, Asks value numeral ∧ Fault.readNumeral numeral = .error fault := by
  simp only [parse, Option.getD_some] at h
  split at h
  · cases h
  · split at h
    · cases h
    · rename_i rest haccess
      split at h
      · cases h
      · rename_i rest' hplus
        split at h
        · rename_i fault' hsum
          cases h
          obtain ⟨numeral, hcounts, hread⟩ := exists_counts_of_sumPairs hsum
          exact ⟨numeral, ⟨rest, rest', haccess, hplus, hcounts⟩, hread⟩
        all_goals cases h

/-- A lifetime that asks for a numeral that cannot be read stops. -/
lemma Asks.parse (h : Asks value numeral) (hbad : ¬numeral.Legible) :
    ∃ fault, parse (some value) = .error fault := by
  obtain ⟨rest, rest', haccess, hplus, hcounts⟩ := h
  have hne : (Text.trim value).isEmpty = false := by
    rw [List.isEmpty_eq_false_iff]
    intro hnil
    rw [hnil] at haccess
    cases haccess
  obtain ⟨fault, hsum⟩ := hcounts.sumPairs hbad (Nat.le_refl _) 0 0
  simp only [Duration.parse, Option.getD_some]
  rw [if_neg (by simp [hne]), haccess]
  dsimp only
  rw [hplus]
  dsimp only
  rw [hsum]
  exact ⟨fault, rfl⟩

end Duration

namespace RuleReader

/-- The keywords behind which a word of digits is read as a number. -/
def counting : List Text :=
  ["Redirect".toList, "RedirectMatch".toList, "ErrorDocument".toList,
    "BruteForceAllowedAttempts".toList, "BruteForceWindow".toList,
    "BruteForceThrottleDuration".toList]

/-- Whether what stands behind a keyword asks for a numeral. -/
inductive AsksBehind : Text → Cursor → Text → Prop
  /-- It is the next word. -/
  | word {kw t : Text} {c : Cursor} : kw ∈ counting → c.token.1 = some t → Text.isDigits t = true →
    AsksBehind kw c t
  /-- It is in the lifetime of all content. -/
  | default {c : Cursor} {value t : Text} : c.rest? = some value → Duration.Asks value t →
    AsksBehind "ExpiresDefault".toList c t
  /-- It is in the lifetime of a content type. -/
  | byType {c c' : Cursor} {name value t : Text} : c.word? = some (name, c') →
    c'.rest? = some value → Duration.Asks value t → AsksBehind "ExpiresByType".toList c t

/-- Whether a line asks for a numeral. -/
def Asks (line numeral : Text) : Prop :=
  ∃ kw c, (Cursor.start line).keyword kw = (true, c) ∧ AsksBehind kw c numeral

/-- Whether the reader behind a keyword stops at the numerals that it is asked to read and cannot, and
nowhere else. -/
structure Stops (kw : Text) (reader : RuleReader) : Prop where
  exists_asks : ∀ {c fault}, reader c = .error fault →
    ∃ numeral, AsksBehind kw c numeral ∧ Fault.readNumeral numeral = .error fault
  error : ∀ {c numeral}, AsksBehind kw c numeral → ¬numeral.Legible → ∃ fault, reader c = .error fault

/-- The keywords behind which there may be numerals. -/
def asking : List Text := counting ++ ["ExpiresDefault".toList, "ExpiresByType".toList]

/-- Numerals are asked for behind the asking keywords only. -/
lemma AsksBehind.mem_asking {kw numeral : Text} {c : Cursor} (h : AsksBehind kw c numeral) :
    kw ∈ asking := by
  cases h with
  | word hk => exact List.mem_append_left _ hk
  | default => simp [asking]
  | byType => simp [asking]

section Readers

variable {kw : Text} {reader : RuleReader}

/-- A reader that never stops, behind a keyword that asks for no numeral. -/
lemma stops_of_ok (hkw : kw ∉ asking) (h : ∀ c, ∃ found, reader c = .ok found) : Stops kw reader where
  exists_asks {c fault} hfault := by
    obtain ⟨found, hfound⟩ := h c
    rw [hfound] at hfault
    cases hfault
  error hasks _ := absurd hasks.mem_asking hkw

/-- A plain reader stops nowhere, and nothing is asked for behind its keyword. -/
lemma stops_plain (hkw : kw ∉ asking) (read : Cursor → Option Rule) : Stops kw (plain read) :=
  stops_of_ok hkw fun _ => ⟨_, rfl⟩

/-- The reader of features stops nowhere, whatever it remarks on. -/
lemma stops_options : Stops "Options".toList options := by
  refine stops_of_ok (by decide) fun c => ?_
  rw [options]
  split <;> exact ⟨_, rfl⟩

/-- A reader that stops exactly where the next word, if it is of digits, cannot be read. -/
lemma stops_of_word (hkw : kw ∈ counting)
    (h : ∀ c fault, reader c = .error fault ↔
      ∃ t, c.token.1 = some t ∧ Text.isDigits t = true ∧ Fault.readNumeral t = .error fault) :
    Stops kw reader where
  exists_asks {c fault} hfault := by
    obtain ⟨t, ht, hdigits, hread⟩ := (h c fault).1 hfault
    exact ⟨t, .word hkw ht hdigits, hread⟩
  error {c numeral} hasks hbad := by
    obtain ⟨fault, hread⟩ := Fault.not_legible_iff.1 hbad
    cases hasks with
    | word _ ht hdigits => exact ⟨fault, (h c fault).2 ⟨_, ht, hdigits, hread⟩⟩
    | default => exact absurd hkw (by decide)
    | byType => exact absurd hkw (by decide)

/-- A word of digits stops its reader exactly if it cannot be read; any other word is passed over. -/
lemma digits?_eq_error_iff {t : Text} {fault : Fault} :
    digits? t = .error fault ↔ Text.isDigits t = true ∧ Fault.readNumeral t = .error fault := by
  rw [digits?]
  split
  · rename_i hdigits
    rw [and_iff_right hdigits]
    cases Fault.readNumeral t <;> simp [Except.map]
  · rename_i hnot
    simp [hnot]

/-- A word stops the reading of a status exactly if it is of digits and cannot be read. -/
lemma status?_eq_error_iff {t : Text} {fault : Fault} :
    status? t = .error fault ↔ Text.isDigits t = true ∧ Fault.readNumeral t = .error fault := by
  rw [← digits?_eq_error_iff, status?]
  cases digits? t <;> simp [Except.map]

/-- A word stops the reading of a positive number exactly if it is of digits and cannot be read. -/
lemma positive?_eq_error_iff {t : Text} {fault : Fault} :
    positive? t = .error fault ↔ Text.isDigits t = true ∧ Fault.readNumeral t = .error fault := by
  rw [← digits?_eq_error_iff, positive?]
  cases digits? t <;> simp [Except.map]

/-- A word that may be missing is of digits only if it is there. -/
lemma isDigits_getD_iff {word : Option Text} {fault : Fault} :
    (Text.isDigits (word.getD []) = true ∧ Fault.readNumeral (word.getD []) = .error fault) ↔
      ∃ t, word = some t ∧ Text.isDigits t = true ∧ Fault.readNumeral t = .error fault := by
  cases word with
  | none => simp [Text.isDigits]
  | some t => simp

/-- The reader of redirects stops at the first word, where that is of digits. -/
lemma stops_redirect {kind : Kind} (hkw : kw ∈ counting) : Stops kw (redirect kind) := by
  refine stops_of_word hkw fun c fault => ?_
  rw [redirect]
  cases hword : c.word? with
  | none =>
    refine iff_of_false (by simp) ?_
    rintro ⟨t, ht, hdigits, -⟩
    rw [Cursor.eq_nil_of_word? hword ht] at hdigits
    cases hdigits
  | some found =>
    obtain ⟨first, c'⟩ := found
    have hstatus : (∃ t, c.token.1 = some t ∧ Text.isDigits t = true ∧
        Fault.readNumeral t = .error fault) ↔ status? first = .error fault := by
      rw [status?_eq_error_iff, (Cursor.word?_spec hword).1]
      simp
    rw [hstatus]
    dsimp only
    cases status? first with
    | error _ => simp [bind, Except.bind]
    | ok found => cases found <;> simp [bind, Except.bind]

/-- The reader of error documents stops at the status. -/
lemma stops_errorDocument : Stops "ErrorDocument".toList errorDocument := by
  refine stops_of_word (by decide) fun c fault => ?_
  rw [← isDigits_getD_iff, ← status?_eq_error_iff, errorDocument]
  dsimp only
  cases status? (c.token.1.getD []) with
  | error _ => simp [bind, Except.bind]
  | ok found => cases found <;> simp [bind, Except.bind]

/-- The reader of a positive number stops at the number. -/
lemma stops_guardNumber (hkw : kw ∈ counting) (setting : GuardSetting) (values : Nat → GuardValues) :
    Stops kw (guardNumber setting values) := by
  refine stops_of_word hkw fun c fault => ?_
  rw [← isDigits_getD_iff, ← positive?_eq_error_iff, guardNumber]
  cases positive? (c.token.1.getD []) with
  | error _ => simp [bind, Except.bind]
  | ok found => cases found <;> simp [bind, Except.bind]

section Lifetime

variable {kind : Kind} {name : Option Text} {c : Cursor} {value numeral : Text} {fault : Fault}

/-- The reader of lifetimes stops at a numeral that the rest of the line asks for. -/
lemma exists_asks_of_lifetime (h : lifetime kind name c = .error fault) :
    ∃ value numeral, c.rest? = some value ∧ Duration.Asks value numeral ∧
      Fault.readNumeral numeral = .error fault := by
  rw [lifetime] at h
  split at h
  · cases h
  · rename_i value hvalue
    cases hparse : Duration.parse (some value) with
    | error fault' =>
      rw [hparse] at h
      cases h
      obtain ⟨numeral, hasks, hread⟩ := Duration.exists_asks_of_parse hparse
      exact ⟨value, numeral, hvalue, hasks, hread⟩
    | ok found =>
      rw [hparse] at h
      cases found <;> cases h

/-- The reader of lifetimes stops where the rest of the line asks for a numeral that cannot be read. -/
lemma lifetime_of_asks (hvalue : c.rest? = some value) (hasks : Duration.Asks value numeral)
    (hbad : ¬numeral.Legible) : ∃ fault, lifetime kind name c = .error fault := by
  obtain ⟨fault, hparse⟩ := hasks.parse hbad
  rw [lifetime, hvalue]
  dsimp only
  rw [hparse]
  exact ⟨fault, rfl⟩

end Lifetime

/-- The reader of the default lifetime stops at the numerals of the lifetime. -/
lemma stops_expiresDefault : Stops "ExpiresDefault".toList expiresDefault where
  exists_asks h := by
    obtain ⟨value, numeral, hvalue, hasks, hread⟩ := exists_asks_of_lifetime h
    exact ⟨numeral, .default hvalue hasks, hread⟩
  error hasks hbad := by
    generalize hkw : "ExpiresDefault".toList = kw at hasks
    cases hasks with
    | word hmem => exact absurd (hkw ▸ hmem) (by decide)
    | default hvalue hasks => exact lifetime_of_asks hvalue hasks hbad
    | byType => exact absurd hkw (by decide)

/-- The reader of the lifetime of a type stops at the numerals behind the type. -/
lemma stops_expiresByType : Stops "ExpiresByType".toList expiresByType where
  exists_asks {c fault} h := by
    rw [expiresByType] at h
    split at h
    · cases h
    · rename_i hword
      obtain ⟨value, numeral, hvalue, hasks, hread⟩ := exists_asks_of_lifetime h
      exact ⟨numeral, .byType hword hvalue hasks, hread⟩
  error {c numeral} hasks hbad := by
    generalize hkw : "ExpiresByType".toList = kw at hasks
    cases hasks with
    | word hmem => exact absurd (hkw ▸ hmem) (by decide)
    | default => exact absurd hkw (by decide)
    | byType hword hvalue hasks =>
      rw [expiresByType, hword]
      exact lifetime_of_asks hvalue hasks hbad

/-- Every reader of the table stops at numerals only. -/
lemma stops_of_mem_table : ∀ e ∈ table, Stops e.1 e.2 := by
  simp only [table, List.forall_mem_cons, List.not_mem_nil, false_imp_iff, implies_true, and_true]
  refine ⟨?_, ?_, ?_, ?_, ?_, ?_, ?_, ?_, ?_, stops_redirect (by decide), stops_redirect (by decide),
    stops_errorDocument, ?_, stops_expiresByType, stops_expiresDefault, ?_, ?_, ?_, ?_,
    stops_guardNumber (by decide) _ _, stops_guardNumber (by decide) _ _, ?_,
    stops_guardNumber (by decide) _ _, ?_, ?_, ?_, stops_options, ?_, ?_, ?_, ?_, ?_, ?_, ?_, ?_, ?_,
    ?_, ?_⟩
  all_goals exact stops_plain (by decide) _

end Readers

variable {line numeral : Text} {fault : Fault}

/-- What stops a line is a numeral that it asks for and that cannot be read. -/
lemma exists_asks_of_read (h : read line = .error fault) :
    ∃ numeral, Asks line numeral ∧ Fault.readNumeral numeral = .error fault := by
  rcases readBy_cases table line with hnone | ⟨e, he, c, hc, hreader⟩
  · rw [read, hnone] at h
    cases h
  · rw [read, hreader] at h
    obtain ⟨numeral, hasks, hread⟩ := (stops_of_mem_table e he).exists_asks h
    exact ⟨numeral, ⟨e.1, c, hc, hasks⟩, hread⟩

/-- Each asking keyword has a reader in the table. -/
lemma asking_subset_table : ∀ kw ∈ asking, ∃ reader, (kw, reader) ∈ table := by
  have hwords : ∀ kw ∈ asking, kw ∈ table.map (·.1) := by decide
  intro kw hkw
  obtain ⟨⟨_, reader⟩, hmem, rfl⟩ := List.mem_map.1 (hwords kw hkw)
  exact ⟨reader, hmem⟩

/-- A line stops at a numeral that it asks for and that cannot be read. -/
lemma Asks.read (h : Asks line numeral) (hbad : ¬numeral.Legible) :
    ∃ fault, read line = .error fault := by
  obtain ⟨kw, c, hc, hasks⟩ := h
  obtain ⟨reader, hmem⟩ := asking_subset_table kw hasks.mem_asking
  rw [RuleReader.read, readBy_of_standing isKeyword_of_mem_table distinct_table hmem hc]
  exact (stops_of_mem_table _ hmem).error hasks hbad

end RuleReader

end HtGate
