import HtGate.Text.Whitespace
import Mathlib.Data.List.DropRight
import Mathlib.Tactic.Lemma
/-!
# Trimming

What trimming leaves alone and what it takes away. A text is solid at an end if the character there is
no whitespace: trimming changes exactly the texts that are not solid at both ends.
-/

namespace HtGate.Text

/-- A blank is whitespace. -/
lemma isWhitespace_of_isBlank {c : Char} (h : isBlank c = true) : isWhitespace c = true := by
  simp only [isBlank, Bool.or_eq_true, beq_iff_eq] at h
  rcases h with rfl | rfl <;> rfl

/-- What is no whitespace is no blank. -/
lemma isBlank_of_not_isWhitespace {c : Char} (h : isWhitespace c = false) : isBlank c = false := by
  cases hb : isBlank c with
  | false => rfl
  | true => rw [isWhitespace_of_isBlank hb] at h; cases h

/-- Whether a text begins with a character that is no whitespace. -/
def StartsSolid (t : Text) : Prop := ∃ c ∈ t.head?, isWhitespace c = false

/-- Whether a text ends with a character that is no whitespace. -/
def EndsSolid (t : Text) : Prop := ∃ c ∈ t.getLast?, isWhitespace c = false

/-- A text keeps its solid start when something is added at its end. -/
lemma StartsSolid.append {t : Text} (h : StartsSolid t) (u : Text) : StartsSolid (t ++ u) := by
  obtain ⟨c, hc, hs⟩ := h
  refine ⟨c, ?_, hs⟩
  cases t with
  | nil => cases hc
  | cons d t => exact hc

/-- A text keeps its solid end when something is added at its start. -/
lemma EndsSolid.append {t : Text} (h : EndsSolid t) (u : Text) : EndsSolid (u ++ t) := by
  obtain ⟨c, hc, hs⟩ := h
  refine ⟨c, ?_, hs⟩
  rw [List.getLast?_append, Option.mem_def.1 hc]
  rfl

/-- A text keeps its solid end when a character is added at its start. -/
lemma EndsSolid.cons {t : Text} (h : EndsSolid t) (c : Char) : EndsSolid (c :: t) :=
  h.append [c]

/-- A text ends solid if its last character is no whitespace. -/
lemma endsSolid_concat (t : Text) {c : Char} (h : isWhitespace c = false) :
    EndsSolid (t ++ [c]) :=
  ⟨c, by simp, h⟩

/-- A text that starts solid has a first character. -/
lemma StartsSolid.ne_nil {t : Text} (h : StartsSolid t) : t ≠ [] := by
  rintro rfl
  obtain ⟨c, hc, -⟩ := h
  cases hc

/-- A non-empty text without whitespace is solid at its start. -/
lemma startsSolid_of_all {t : Text} (hne : t ≠ []) (h : ∀ c ∈ t, isWhitespace c = false) :
    StartsSolid t := by
  cases t with
  | nil => exact absurd rfl hne
  | cons c t => exact ⟨c, rfl, h c (by simp)⟩

/-- A non-empty text without whitespace is solid at its end. -/
lemma endsSolid_of_all {t : Text} (hne : t ≠ []) (h : ∀ c ∈ t, isWhitespace c = false) :
    EndsSolid t :=
  ⟨t.getLast hne, List.getLast?_eq_some_getLast hne, h _ (List.getLast_mem hne)⟩

/-- Trimming at the start does nothing exactly to texts that are empty or start solid. -/
lemma trimStart_eq_self_iff {t : Text} : trimStart t = t ↔ t = [] ∨ StartsSolid t := by
  cases t with
  | nil => simp [trimStart]
  | cons c t =>
    constructor
    · intro h
      refine .inr ⟨c, rfl, ?_⟩
      by_contra hc
      rw [Bool.not_eq_false] at hc
      have hlen := congrArg List.length h
      have hle := (List.dropWhile_sublist isWhitespace (l := t)).length_le
      rw [trimStart, List.dropWhile_cons_of_pos hc, List.length_cons] at hlen
      omega
    · rintro (h | ⟨d, hd, hs⟩)
      · cases h
      · cases hd
        rw [trimStart, List.dropWhile_cons_of_neg (by simp [hs])]

/-- Whitespace in front of a solid start is trimmed, and nothing else. -/
lemma StartsSolid.trimStart_append {t p : Text} (h : StartsSolid t)
    (hp : ∀ c ∈ p, isWhitespace c = true) : trimStart (p ++ t) = t := by
  rw [trimStart, List.dropWhile_append_of_pos hp]
  exact trimStart_eq_self_iff.2 (.inr h)

/-- Trimming at the end does nothing exactly to texts that are empty or end solid. -/
lemma trimEnd_eq_self_iff {t : Text} : trimEnd t = t ↔ t = [] ∨ EndsSolid t := by
  show t.rdropWhile isWhitespace = t ↔ _
  rw [List.rdropWhile_eq_self_iff]
  constructor
  · intro h
    by_cases ht : t = []
    · exact .inl ht
    · exact .inr ⟨t.getLast ht, List.getLast?_eq_some_getLast ht, by simpa using h ht⟩
  · rintro (rfl | ⟨c, hc, hs⟩) hne
    · exact absurd rfl hne
    · rw [List.getLast?_eq_some_getLast hne] at hc
      cases hc
      simp [hs]

/-- What trimming at the start leaves is empty or starts solid. -/
lemma trimStart_solid (t : Text) : trimStart t = [] ∨ StartsSolid (trimStart t) :=
  trimStart_eq_self_iff.1 (List.dropWhile_idempotent _ _)

/-- What trimming at the end leaves is empty or ends solid. -/
lemma trimEnd_solid (t : Text) : trimEnd t = [] ∨ EndsSolid (trimEnd t) :=
  trimEnd_eq_self_iff.1 (List.rdropWhile_idempotent _ _)

/-- A text is what trimming at the end leaves of it, and whitespace. -/
lemma exists_trimEnd_append (t : Text) : ∃ q, t = trimEnd t ++ q ∧ ∀ c ∈ q, isWhitespace c = true :=
  ⟨t.rtakeWhile isWhitespace, List.rdropWhile_append_rtakeWhile.symm,
    fun _ hc => List.mem_rtakeWhile_imp hc⟩

/-- Whitespace at the end of a text is trimmed. -/
lemma trimEnd_append_right {t q : Text} (h : ∀ c ∈ q, isWhitespace c = true) :
    trimEnd (t ++ q) = trimEnd t := by
  rw [trimEnd, trimEnd, dropTrailing, dropTrailing, List.reverse_append,
    List.dropWhile_append_of_pos fun c hc => h c (List.mem_reverse.1 hc)]

/-- Trimming at the end keeps a solid start unless nothing is left. -/
lemma StartsSolid.trimEnd {t : Text} (h : StartsSolid t) : StartsSolid (trimEnd t) := by
  obtain ⟨c, hc, hs⟩ := h
  cases t with
  | nil => cases hc
  | cons d t =>
    cases hc
    obtain ⟨u, hu⟩ : Text.trimEnd (c :: t) <+: c :: t := List.rdropWhile_prefix _ _
    cases htrim : Text.trimEnd (c :: t) with
    | nil =>
      have hall := List.rdropWhile_eq_nil_iff.1 htrim c (by simp)
      rw [hs] at hall
      cases hall
    | cons e v =>
      rw [htrim, List.cons_append] at hu
      cases hu
      exact ⟨c, rfl, hs⟩

/-- Trimming does nothing exactly to texts that are empty or solid at both ends. -/
lemma trim_eq_self_iff {t : Text} : trim t = t ↔ t = [] ∨ StartsSolid t ∧ EndsSolid t := by
  constructor
  · intro h
    rcases trimStart_solid t with hn | hs
    · rw [trim, hn] at h
      exact .inl h.symm
    · have hst : StartsSolid t := by
        rw [← h, trim]
        exact hs.trimEnd
      refine .inr ⟨hst, ?_⟩
      rw [trim, trimStart_eq_self_iff.2 (.inr hst)] at h
      exact (trimEnd_eq_self_iff.1 h).resolve_left hst.ne_nil
  · rintro (rfl | ⟨hs, he⟩)
    · rfl
    · rw [trim, trimStart_eq_self_iff.2 (.inr hs), trimEnd_eq_self_iff.2 (.inr he)]

/-- What trimming leaves is empty or solid at both ends. -/
lemma trim_solid (t : Text) : trim t = [] ∨ StartsSolid (trim t) ∧ EndsSolid (trim t) := by
  rcases trimStart_solid t with hn | hs
  · left
    rw [trim, hn]
    rfl
  · have hs' : StartsSolid (trim t) := hs.trimEnd
    exact .inr ⟨hs', (trimEnd_solid _).resolve_left hs'.ne_nil⟩

/-- Trimming twice is trimming once. -/
lemma trim_trim (t : Text) : trim (trim t) = trim t := trim_eq_self_iff.2 (trim_solid t)

/-- Whitespace in front of a text is trimmed. -/
lemma trim_append_left {p t : Text} (h : ∀ c ∈ p, isWhitespace c = true) :
    trim (p ++ t) = trim t := by
  rw [trim, trim, trimStart, trimStart, List.dropWhile_append_of_pos h]

/-- A blank in front of a text is trimmed. -/
lemma trim_cons_blank (t : Text) : trim (' ' :: t) = trim t :=
  trim_append_left (List.forall_mem_singleton.2 rfl : ∀ c ∈ [' '], isWhitespace c = true)

/-- Only whitespace is trimmed to nothing. -/
lemma trim_eq_nil_iff {t : Text} : trim t = [] ↔ ∀ c ∈ t, isWhitespace c = true := by
  constructor
  · intro h
    rcases trimStart_solid t with hn | hs
    · exact List.dropWhile_eq_nil_iff.1 hn
    · exact absurd h hs.trimEnd.ne_nil
  · intro h
    have hn : trimStart t = [] := List.dropWhile_eq_nil_iff.2 h
    rw [trim, hn]
    rfl

/-- The characters of a trimmed text stand in the text. -/
lemma mem_of_mem_trim {t : Text} {c : Char} (h : c ∈ trim t) : c ∈ t :=
  (List.dropWhile_sublist _).subset ((List.rdropWhile_prefix _ _).subset h)

/-- Trimming makes no text longer. -/
lemma length_trim_le (t : Text) : (trim t).length ≤ t.length :=
  ((List.rdropWhile_prefix _ _).length_le).trans (List.dropWhile_sublist _).length_le

/-- A text that is as long after trimming has not changed. -/
lemma trim_eq_of_length {t : Text} (h : (trim t).length = t.length) : trim t = t :=
  ((List.rdropWhile_prefix _ _).sublist.trans (List.dropWhile_sublist _)).eq_of_length h

/-- A character that is no whitespace is not trimmed away. -/
lemma mem_trim {t : Text} {c : Char} (h : c ∈ t) (hs : isWhitespace c = false) : c ∈ trim t := by
  have keep {p : Char → Bool} {u : Text} (hu : c ∈ u) (hp : p c = false) : c ∈ u.dropWhile p := by
    rw [← List.takeWhile_append_dropWhile (p := p) (l := u), List.mem_append] at hu
    refine hu.resolve_left fun hc => ?_
    have := List.mem_takeWhile_imp hc
    rw [hp] at this
    cases this
  rw [trim, trimEnd, dropTrailing, List.mem_reverse]
  exact keep (List.mem_reverse.2 (keep h hs)) hs

/-- A text with a character that is no whitespace. -/
def HasSolid (t : Text) : Prop := ∃ c ∈ t, isWhitespace c = false

/-- A text with a solid end has a character that is no whitespace. -/
lemma EndsSolid.hasSolid {t : Text} (h : EndsSolid t) : HasSolid t := by
  obtain ⟨c, hc, hs⟩ := h
  exact ⟨c, List.mem_of_getLast? hc, hs⟩

/-- The start of a text is not trimmed at the end if a character after it is no whitespace. -/
lemma trimEnd_append {t : Text} (h : HasSolid t) (s : Text) : trimEnd (s ++ t) = s ++ trimEnd t := by
  obtain ⟨c, hc, hs⟩ := h
  have hne : t.reverse.dropWhile isWhitespace ≠ [] := by
    intro hn
    have := List.dropWhile_eq_nil_iff.1 hn c (List.mem_reverse.2 hc)
    rw [hs] at this
    cases this
  rw [trimEnd, trimEnd, dropTrailing, dropTrailing, List.reverse_append, List.dropWhile_append,
    if_neg (by simpa using hne), List.reverse_append, List.reverse_reverse]

/-- A text that starts solid is trimmed at the end only. -/
lemma trim_append {s t : Text} (hs : StartsSolid s) (ht : HasSolid t) :
    trim (s ++ t) = s ++ trimEnd t := by
  rw [trim, trimStart_eq_self_iff.2 (.inr (hs.append t)), trimEnd_append ht]

/-- A solid end is not trimmed, whatever follows it. -/
lemma EndsSolid.trimEnd_append {s : Text} (h : EndsSolid s) (t : Text) :
    trimEnd (s ++ t) = s ++ trimEnd t := by
  by_cases ht : HasSolid t
  · exact Text.trimEnd_append ht s
  · have hall : ∀ c ∈ t, isWhitespace c = true := by
      simpa [HasSolid] using ht
    have hnil : trimEnd t = [] := List.rdropWhile_eq_nil_iff.2 hall
    rw [trimEnd_append_right hall, hnil, List.append_nil, trimEnd_eq_self_iff.2 (.inr h)]

/-- Trimming at the end first makes no difference. -/
lemma trim_trimEnd (t : Text) : trim (trimEnd t) = trim t := by
  by_cases h : HasSolid t
  · -- what is trimmed at the start is trimmed before the text ends
    obtain ⟨c, hc, hs⟩ := h
    have hkept : HasSolid (trimStart t) := by
      refine ⟨c, ?_, hs⟩
      rw [← List.takeWhile_append_dropWhile (p := isWhitespace) (l := t), List.mem_append] at hc
      refine hc.resolve_left fun hm => ?_
      rw [List.mem_takeWhile_imp hm] at hs
      cases hs
    have hall : ∀ d ∈ t.takeWhile isWhitespace, isWhitespace d = true :=
      fun d hd => List.mem_takeWhile_imp hd
    have heq : trimEnd t = t.takeWhile isWhitespace ++ trimEnd (trimStart t) := by
      rw [← trimEnd_append hkept, trimStart, List.takeWhile_append_dropWhile]
    rw [heq, trim_append_left hall]
    exact trim_trim t
  · have hall : ∀ c ∈ t, isWhitespace c = true := by
      simpa [HasSolid] using h
    rw [trim_eq_nil_iff.2 hall, trim_eq_nil_iff]
    exact fun c hc => hall c ((List.rdropWhile_prefix _ _).subset hc)

end HtGate.Text
