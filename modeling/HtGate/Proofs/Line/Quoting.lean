import HtGate.Directive.Printer
import HtGate.Proofs.Line.Cursor
/-!
# Quotes

The quotes that the written form puts around a name or a value are those that reading takes away again.
A value up to the end of the line is always read back as it was. A word is, unless it holds a double
quote together with whitespace: it would need quotes, but cannot stand between them.
-/

namespace HtGate

namespace Text

/-- A word as a line can hold it: not empty, not opened by a quote, and without blanks if it holds a
quote. -/
structure IsWord (t : Text) : Prop where
  ne_nil : t ≠ []
  head_ne : t.head? ≠ some '"'
  blankless : '"' ∈ t → ∀ c ∈ t, isBlank c = false

/-- A text without a double quote and whitespace together. -/
def IsPlain (t : Text) : Prop := '"' ∈ t → ∀ c ∈ t, isWhitespace c = false

instance (t : Text) : Decidable t.IsPlain :=
  decidable_of_iff ('"' ∈ t → t.all (fun c => !isWhitespace c) = true) <| by
    simp only [List.all_eq_true, Bool.not_eq_true', IsPlain]

/-- What stands between two double quotes is empty or a word: there is no quote in it, so that blanks do no
harm. -/
lemma isWord_of_not_mem_quote {s : Text} (h : '"' ∉ s) : s = [] ∨ s.IsWord := by
  by_cases hn : s = []
  · exact .inl hn
  · exact .inr ⟨hn, fun hh => h (List.mem_of_mem_head? hh), fun hm => absurd hm h⟩

/-- What stands before the first blank is a word if it begins with no double quote. -/
lemma isWord_takeWhile {d : Char} {u : Text} (hd : d ≠ '"') (hb : isBlank d = false) :
    IsWord ((d :: u).takeWhile fun c => !isBlank c) where
  ne_nil := by
    rw [List.takeWhile_cons_of_pos (by simp [hb])]
    simp
  head_ne := by
    rw [List.takeWhile_cons_of_pos (by simp [hb])]
    simpa using hd
  blankless := fun _ e he => by simpa using List.mem_takeWhile_imp he

end Text

namespace Cursor

/-- The word that is read is empty or a word as a line can hold it. It and what remains after it stand
in the line. -/
lemma token_spec {c c' : Cursor} {t : Text} (h : c.token = (some t, c')) :
    (t = [] ∨ t.IsWord) ∧ t ⊆ c.remaining ∧ c'.remaining ⊆ c.remaining := by
  have hs : c.remaining.dropWhile Text.isBlank ⊆ c.remaining := (List.dropWhile_sublist _).subset
  cases tokenRead h with
  | quoted hr hq =>
    rw [hr] at hs
    exact ⟨Text.isWord_of_not_mem_quote hq, fun x hx => hs (by simp [hx]),
      fun x hx => hs (by simp [hx])⟩
  | unclosed hr hq hr' =>
    rw [hr] at hs
    exact ⟨Text.isWord_of_not_mem_quote hq, fun x hx => hs (by simp [hx]), by simp [hr']⟩
  | bare hr hd hb hr' =>
    rw [hr] at hs
    exact ⟨.inr (Text.isWord_takeWhile hd hb),
      fun x hx => hs ((List.takeWhile_sublist _).subset hx),
      fun x hx => hs ((List.dropWhile_sublist _).subset (hr' ▸ hx))⟩

/-- Nothing remains where there is no word. -/
lemma remaining_of_token_none {c c' : Cursor} (h : c.token = (none, c')) : c'.remaining = [] := by
  cases tokenRead h with
  | blank _ hr' => exact hr'

/-- A text between quotes is what stands between them. -/
lemma unwrap_enclose (t : Text) : unwrap (Printer.enclose t) = t := by
  have hlast : (Printer.enclose t).getLast? = some '"' := List.getLast?_concat
  rw [unwrap, hlast]
  simp [Printer.enclose]

/-- A text is a shorter one between quotes or is left as it is. -/
lemma unwrap_cases (t : Text) :
    unwrap t = t ∧ ¬(2 ≤ t.length ∧ t.head? = some '"' ∧ t.getLast? = some '"') ∨
      ∃ s, t = Printer.enclose s ∧ unwrap t = s := by
  by_cases h : 2 ≤ t.length ∧ t.head? = some '"' ∧ t.getLast? = some '"'
  · right
    obtain ⟨hlen, hhead, hlast⟩ := h
    cases t with
    | nil => cases hhead
    | cons c t =>
      cases hhead
      obtain ⟨s, hs⟩ := List.getLast?_eq_some_iff.1 hlast
      cases s with
      | nil =>
        cases hs
        simp at hlen
      | cons d s =>
        cases hs
        exact ⟨s, rfl, unwrap_enclose s⟩
  · refine .inl ⟨?_, h⟩
    rw [unwrap, if_neg]
    simpa [and_assoc] using h

end Cursor

namespace Printer

/-- A text between quotes is solid at both ends. -/
lemma trim_enclose (t : Text) : Text.trim (enclose t) = enclose t :=
  Text.trim_eq_self_iff.2 (.inr ⟨⟨'"', rfl, rfl⟩, Text.endsSolid_concat ('"' :: t) rfl⟩)

/-- A value that is not put between quotes reads as itself. -/
lemma rest_cases (t : Text) :
    rest t = enclose t ∨
      rest t = t ∧ t ≠ [] ∧ Text.trim t = t ∧
        ¬(2 ≤ t.length ∧ t.head? = some '"' ∧ t.getLast? = some '"') := by
  by_cases h : (t.isEmpty || t != Text.trim t ||
      (2 ≤ t.length && t.head? == some '"' && t.getLast? == some '"')) = true
  · left
    rw [rest, if_pos h]
  · right
    rw [Bool.not_eq_true] at h
    have hrest : rest t = t := by rw [rest, h]; rfl
    simp only [Bool.or_eq_false_iff, List.isEmpty_eq_false_iff, bne_eq_false_iff_eq] at h
    refine ⟨hrest, h.1.1, h.1.2.symm, ?_⟩
    have := h.2
    simpa [and_assoc] using this

/-- A word is put between quotes where it is empty or has whitespace, and is written as it is elsewhere. -/
lemma word_cases (t : Text) :
    word t = enclose t ∧ (t = [] ∨ ∃ c ∈ t, Text.isWhitespace c = true) ∨
      word t = t ∧ t ≠ [] ∧ ∀ c ∈ t, Text.isWhitespace c = false := by
  by_cases h : (t.isEmpty || t.any Text.isWhitespace) = true
  · left
    refine ⟨by rw [word, if_pos h], ?_⟩
    simpa [List.any_eq_true] using h
  · right
    refine ⟨by rw [word, if_neg h], ?_⟩
    simpa [List.any_eq_true] using h

/-- A word in its written form ends solid. -/
lemma endsSolid_word {t : Text} (h : t ≠ []) : Text.EndsSolid (word t) := by
  rcases word_cases t with ⟨hw, -⟩ | ⟨hw, -, hall⟩
  · rw [hw]
    exact Text.endsSolid_concat ('"' :: t) rfl
  · rw [hw]
    exact Text.endsSolid_of_all h hall

/-- A value in its written form ends solid. -/
lemma endsSolid_rest (t : Text) : Text.EndsSolid (rest t) := by
  rcases rest_cases t with hr | ⟨hr, hne, htrim, -⟩
  · rw [hr]
    exact Text.endsSolid_concat ('"' :: t) rfl
  · rw [hr]
    exact ((Text.trim_eq_self_iff.1 htrim).resolve_left hne).2

end Printer

namespace Cursor

/-- A value in its written form is read back as it was. -/
lemma rest?_of_rest {c : Cursor} {t : Text} (h : c.remaining = ' ' :: Printer.rest t) :
    c.rest? = some t := by
  rw [rest?_eq, h, Text.trim_cons_blank]
  rcases Printer.rest_cases t with hr | ⟨hr, hne, htrim, hq⟩
  · rw [hr, Printer.trim_enclose, unwrap_enclose]
    rfl
  · rw [hr, htrim]
    rcases unwrap_cases t with ⟨hu, -⟩ | ⟨s, rfl, -⟩
    · rw [hu]
      simp [hne]
    · exact absurd ⟨by simp [Printer.enclose], rfl, List.getLast?_concat⟩ hq

/-- A value between quotes is read back as it was. -/
lemma rest?_of_enclose {c : Cursor} {t : Text} (h : c.remaining = ' ' :: Printer.enclose t) :
    c.rest? = some t := by
  rw [rest?_eq, h, Text.trim_cons_blank, Printer.trim_enclose, unwrap_enclose]
  rfl

/-- A blank in front of a word that does not begin with one is passed over. -/
lemma dropWhile_blank_cons {t u : Text} (hne : t ≠ []) (hb : ∀ c ∈ t.head?, Text.isBlank c = false) :
    (' ' :: (t ++ u)).dropWhile Text.isBlank = t ++ u := by
  rw [List.dropWhile_cons_of_pos (by rfl)]
  cases t with
  | nil => exact absurd rfl hne
  | cons d t => exact List.dropWhile_cons_of_neg (by simp [hb d rfl])

/-- A word without blanks is read as it stands. -/
lemma token_of_blankless {c : Cursor} {t u : Text} (ht : t.IsWord)
    (hb : ∀ d ∈ t, Text.isBlank d = false) (hu : EndsWord u) (h : c.remaining = ' ' :: (t ++ u)) :
    ∃ c', c.token = (some t, c') ∧ c'.remaining = u := by
  refine token_of_word ?_ ht.ne_nil ht.head_ne hb hu
  rw [h, dropWhile_blank_cons ht.ne_nil fun d hd => hb d (List.mem_of_mem_head? hd)]

/-- A blank in front of a text between quotes is passed over. -/
lemma dropWhile_blank_enclose (t u : Text) :
    (' ' :: (Printer.enclose t ++ u)).dropWhile Text.isBlank = Printer.enclose t ++ u :=
  dropWhile_blank_cons (by simp [Printer.enclose]) (by rintro d ⟨⟩; rfl)

/-- A text between quotes is read up to its first quote. -/
lemma token_of_enclosed {c : Cursor} {t u : Text}
    (h : c.remaining.dropWhile Text.isBlank = Printer.enclose t ++ u) :
    '"' ∉ t ∧ (∃ c', c.token = (some t, c') ∧ c'.remaining = u) ∨
      ∃ s z c', t = s ++ '"' :: z ∧ '"' ∉ s ∧ c.token = (some s, c') ∧
        c'.remaining = z ++ '"' :: u := by
  have hskip : c.remaining.dropWhile Text.isBlank = '"' :: (t ++ '"' :: u) := by
    rw [h]
    simp [Printer.enclose]
  by_cases hq : '"' ∈ t
  · obtain ⟨s, z, rfl, hs⟩ := List.eq_append_cons_of_mem hq
    obtain ⟨c1, h1, hr1⟩ := token_of_quoted (u := z ++ '"' :: u) (by rw [hskip]; simp) hs
    exact .inr ⟨s, z, c1, rfl, hs, h1, hr1⟩
  · exact .inl ⟨hq, token_of_quoted hskip hq⟩

/-- There is no quote in a word that is read from between quotes. -/
lemma not_mem_of_token_quoted {c c' : Cursor} {t u : Text}
    (h : c.remaining.dropWhile Text.isBlank = '"' :: u) (ht : c.token = (some t, c')) : '"' ∉ t := by
  cases tokenRead ht with
  | quoted _ hq | unclosed _ hq => exact hq
  | bare hr hd =>
    cases h.symm.trans hr
    exact absurd rfl hd

/-- There are no blanks in front of the written form of a word. -/
lemma dropWhile_word (t u : Text) :
    (Printer.word t ++ u).dropWhile Text.isBlank = Printer.word t ++ u := by
  rcases Printer.word_cases t with ⟨hw, -⟩ | ⟨hw, hne, hall⟩
  · rw [hw]
    rfl
  · rw [hw]
    cases t with
    | nil => exact absurd rfl hne
    | cons d t =>
      have hd := Text.isBlank_of_not_isWhitespace (hall d (by simp))
      exact List.dropWhile_cons_of_neg (by simp [hd])

/-- The written form of a text that does not begin with a quote, and has no quote or no whitespace, is read back as
the text. -/
lemma token_of_written {c : Cursor} {t u : Text} (hp : t.IsPlain) (hq : t.head? ≠ some '"')
    (hu : EndsWord u) (h : c.remaining.dropWhile Text.isBlank = Printer.word t ++ u) :
    ∃ c', c.token = (some t, c') ∧ c'.remaining = u := by
  rcases Printer.word_cases t with ⟨hw, hcause⟩ | ⟨hw, hne, hall⟩
  · rw [hw] at h
    rcases token_of_enclosed h with ⟨-, hread⟩ | ⟨s, z, c1, rfl, -⟩
    · exact hread
    · -- a quote in the text leaves no room for the whitespace that calls for quotes around it
      rcases hcause with hnil | ⟨d, hd, hdw⟩
      · simp at hnil
      · rw [hp (by simp) d hd] at hdw
        cases hdw
  · rw [hw] at h
    exact token_of_word h hne hq (fun d hd => Text.isBlank_of_not_isWhitespace (hall d hd)) hu

/-- Only such a text is read back as it was. -/
lemma isPlain_of_token_written {c c' : Cursor} {t u : Text}
    (h : c.remaining.dropWhile Text.isBlank = Printer.word t ++ u) (ht : c.token = (some t, c')) :
    t.IsPlain ∧ t.head? ≠ some '"' := by
  rcases Printer.word_cases t with ⟨hw, -⟩ | ⟨hw, -, hall⟩
  · rw [hw] at h
    have hn := not_mem_of_token_quoted h ht
    exact ⟨fun hm => absurd hm hn, fun hh => hn (List.mem_of_mem_head? hh)⟩
  · rw [hw] at h
    refine ⟨fun _ => hall, fun hh => ?_⟩
    -- a word that begins with a quote is read up to the next one
    obtain ⟨v, rfl⟩ := List.head?_eq_some_iff.1 hh
    exact not_mem_of_token_quoted h ht (by simp)

/-- The written form of a word is read back as the word if it has no quote or no whitespace. -/
lemma token_of_plain {c : Cursor} {t u : Text} (ht : t.IsWord) (hp : t.IsPlain) (hu : EndsWord u)
    (h : c.remaining = ' ' :: (Printer.word t ++ u)) :
    ∃ c', c.token = (some t, c') ∧ c'.remaining = u := by
  refine token_of_written hp ht.head_ne hu ?_
  rw [h, List.dropWhile_cons_of_pos (by rfl), dropWhile_word]

/-- The written form of a word with a quote and whitespace is torn at the quote. -/
lemma token_of_not_plain {c : Cursor} {t u : Text} (ht : t.IsWord) (hp : ¬t.IsPlain)
    (h : c.remaining = ' ' :: (Printer.word t ++ u)) :
    ∃ s z c', t = s ++ '"' :: z ∧ s ≠ [] ∧ '"' ∉ s ∧ c.token = (some s, c') ∧
      c'.remaining = z ++ '"' :: u := by
  rcases Printer.word_cases t with ⟨hw, -⟩ | ⟨-, -, hall⟩
  · rw [hw] at h
    rcases token_of_enclosed (by rw [h, dropWhile_blank_enclose]) with
      ⟨hn, -⟩ | ⟨s, z, c1, rfl, hs, h1, hr1⟩
    · exact absurd (fun hq => absurd hq hn) hp
    · refine ⟨s, z, c1, rfl, ?_, hs, h1, hr1⟩
      rintro rfl
      exact ht.head_ne rfl
  · exact absurd (fun _ => hall) hp

/-- The next word, where it is not empty. -/
lemma word?_of_token {c c' : Cursor} {t : Text} (h : c.token = (some t, c')) (hne : t ≠ []) :
    c.word? = some (t, c') := by
  rw [word?, h]
  simp [hne]

/-- A token that is no word is empty. -/
lemma eq_nil_of_word? {c : Cursor} {t : Text} (h : c.word? = none) (ht : c.token.1 = some t) :
    t = [] := by
  by_contra hne
  have htoken : c.token = (some t, c.token.2) := Prod.ext ht rfl
  rw [word?_of_token htoken hne] at h
  cases h

/-- The written form of a word without a quote or without whitespace is read back as the word. -/
lemma word?_of_plain {c : Cursor} {t u : Text} (ht : t.IsWord) (hp : t.IsPlain) (hu : EndsWord u)
    (h : c.remaining = ' ' :: (Printer.word t ++ u)) :
    ∃ c', c.word? = some (t, c') ∧ c'.remaining = u := by
  obtain ⟨c1, h1, hr1⟩ := token_of_plain ht hp hu h
  exact ⟨c1, word?_of_token h1 ht.ne_nil, hr1⟩

/-- The written form of a word with a quote and whitespace is read up to the quote. -/
lemma word?_of_not_plain {c : Cursor} {t u : Text} (ht : t.IsWord) (hp : ¬t.IsPlain)
    (h : c.remaining = ' ' :: (Printer.word t ++ u)) :
    ∃ s z c', t = s ++ '"' :: z ∧ s ≠ [] ∧ '"' ∉ s ∧ c.word? = some (s, c') ∧
      c'.remaining = z ++ '"' :: u := by
  obtain ⟨s, z, c1, rfl, hne, hs, h1, hr1⟩ := token_of_not_plain ht hp h
  exact ⟨s, z, c1, rfl, hne, hs, word?_of_token h1 hne, hr1⟩

/-- A word whose written form is read back as the word has no quote or no whitespace. -/
lemma isPlain_of_word? {c c' : Cursor} {t u : Text} (ht : t.IsWord)
    (h : c.remaining = ' ' :: (Printer.word t ++ u)) (hw : c.word? = some (t, c')) :
    t.IsPlain := by
  by_contra hp
  obtain ⟨s, z, c1, heq, -, -, h1, -⟩ := word?_of_not_plain ht hp h
  rw [h1, Option.some.injEq, Prod.mk.injEq] at hw
  obtain ⟨rfl, -⟩ := hw
  simp at heq

/-- A word that is read is one that a line can hold. -/
lemma word?_spec {c c' : Cursor} {t : Text} (h : c.word? = some (t, c')) :
    c.token = (some t, c') ∧ t.IsWord ∧ t ⊆ c.remaining ∧ c'.remaining ⊆ c.remaining := by
  rw [word?] at h
  split at h
  · rename_i s c1 heq
    split at h
    · cases h
    · rename_i hne
      cases h
      obtain ⟨hw, hsub⟩ := token_spec heq
      exact ⟨heq, hw.resolve_left (by simpa using hne), hsub⟩
  · cases h

/-- The characters of a value up to the end of the line are those of the line. -/
lemma rest?_subset {c : Cursor} {t : Text} (h : c.rest? = some t) : t ⊆ c.remaining := by
  rw [rest?_eq] at h
  split at h
  · cases h
  · cases h
    intro d hd
    refine Text.mem_of_mem_trim ?_
    rcases unwrap_cases (Text.trim c.remaining) with ⟨hu, -⟩ | ⟨s, hs, hu⟩
    · rwa [hu] at hd
    · rw [hu] at hd
      rw [hs]
      simp [Printer.enclose, hd]

/-- There is no blank in a word that is read without quotes. -/
lemma blankless_of_token_bare {c c' : Cursor} {d : Char} {t u : Text}
    (h : c.remaining.dropWhile Text.isBlank = d :: u) (hd : d ≠ '"')
    (ht : c.token = (some t, c')) : ∀ e ∈ t, Text.isBlank e = false := by
  cases tokenRead ht with
  | quoted hr | unclosed hr =>
    cases h.symm.trans hr
    exact absurd rfl hd
  | bare => exact fun e he => by simpa using List.mem_takeWhile_imp he

/-- A word takes a character at least. -/
lemma length_of_token {c c' : Cursor} {t : Text} (ht : c.token = (some t, c')) :
    c'.remaining.length < (c.remaining.dropWhile Text.isBlank).length := by
  cases tokenRead ht with
  | quoted hr =>
    rw [hr]
    simp only [List.length_cons, List.length_append]
    omega
  | unclosed hr _ hr' => simp [hr, hr']
  | bare hr _ hb hr' =>
    rw [hr, hr', List.dropWhile_cons_of_pos (by simp [hb]), List.length_cons]
    exact Nat.lt_succ_of_le (List.dropWhile_sublist _).length_le

/-- A value is not longer than what is left of the line. -/
lemma length_of_rest? {c : Cursor} {t : Text} (h : c.rest? = some t) :
    t.length ≤ c.remaining.length := by
  rw [rest?_eq] at h
  split at h
  · cases h
  · cases h
    have hle := Text.length_trim_le c.remaining
    rcases unwrap_cases (Text.trim c.remaining) with ⟨hu, -⟩ | ⟨s, hs, hu⟩
    · rwa [hu]
    · rw [hs, Printer.enclose, List.length_append, List.length_cons] at hle
      rw [hu]
      omega

/-- What is left of a text between quotes after a word is shorter than the text. -/
lemma length_of_word?_enclosed {c c' : Cursor} {t w v : Text}
    (h : c.remaining.dropWhile Text.isBlank = Printer.enclose t) (hw : c.word? = some (w, c'))
    (hv : c'.rest? = some v) : v.length < t.length := by
  obtain ⟨htoken, hword, -⟩ := word?_spec hw
  have hlen := length_of_rest? hv
  rcases token_of_enclosed (u := []) (by rw [h, List.append_nil]) with
    ⟨-, c1, h1, hr1⟩ | ⟨s, z, c1, rfl, -, h1, hr1⟩
  · -- nothing is left
    rw [h1] at htoken
    cases htoken
    rw [rest?_eq, hr1] at hv
    cases hv
  · rw [h1] at htoken
    cases htoken
    have hpos := List.length_pos_of_ne_nil hword.ne_nil
    simp only [hr1, List.length_append, List.length_cons, List.length_nil] at hlen ⊢
    omega

/-- What is left of the written form of a value after a word is shorter than the value. -/
lemma length_of_word?_rest {c c' : Cursor} {t w v : Text} (h : c.remaining = ' ' :: Printer.rest t)
    (hw : c.word? = some (w, c')) (hv : c'.rest? = some v) : v.length < t.length := by
  rcases Printer.rest_cases t with hr | ⟨hr, hne, htrim, -⟩
  · rw [hr] at h
    refine length_of_word?_enclosed ?_ hw hv
    rw [h]
    simpa using dropWhile_blank_enclose t []
  · obtain ⟨⟨d, hd, hs⟩, -⟩ := (Text.trim_eq_self_iff.1 htrim).resolve_left hne
    have hskip : c.remaining.dropWhile Text.isBlank = t := by
      rw [h, hr, ← List.append_nil t, dropWhile_blank_cons hne]
      intro e he
      rw [hd] at he
      cases he
      exact Text.isBlank_of_not_isWhitespace hs
    have hlt := length_of_token (word?_spec hw).1
    rw [hskip] at hlt
    exact lt_of_le_of_lt (length_of_rest? hv) hlt

end Cursor

namespace Text

/-- A value that is read as one word stays one: in front of it and after it stands no whitespace and
it has no blank, or it is put between quotes and has none itself. -/
def StaysWord (t : Text) : Prop :=
  if trim t = t then ∀ c ∈ t, isBlank c = false else '"' ∉ t

instance (t : Text) : Decidable t.StaysWord :=
  decidable_of_iff (if trim t = t then t.all (fun c => !isBlank c) = true else '"' ∉ t) <| by
    simp only [List.all_eq_true, Bool.not_eq_true', StaysWord]

end Text

namespace Cursor

/-- A value of one word is put between quotes exactly if it is not trimmed. -/
lemma rest_of_isWord {t : Text} (ht : t.IsWord) :
    Printer.rest t = if Text.trim t = t then t else Printer.enclose t := by
  split
  · rename_i htrim
    rw [Printer.rest, if_neg]
    simp only [Bool.or_eq_true, Bool.and_eq_true, List.isEmpty_iff, bne_iff_ne, beq_iff_eq]
    rintro ((h | h) | h)
    · exact ht.ne_nil h
    · exact h htrim.symm
    · exact ht.head_ne h.1.2
  · rename_i htrim
    rcases Printer.rest_cases t with hr | ⟨-, -, h, -⟩
    · exact hr
    · exact absurd h htrim

/-- The written form of a value is read as one word, which is the value exactly if it stays one word. -/
lemma token_of_rest {c : Cursor} {t : Text} (ht : t.IsWord)
    (h : c.remaining = ' ' :: Printer.rest t) :
    ∃ s c', c.token = (some s, c') ∧ s ≠ [] ∧ (s = t ↔ t.StaysWord) := by
  rw [rest_of_isWord ht] at h
  -- trimmed text is written as it is and ends at a blank; any other stands between quotes
  by_cases htrim : Text.trim t = t
  · rw [if_pos htrim] at h
    rw [Text.StaysWord, if_pos htrim]
    obtain ⟨⟨d, hd, hs⟩, -⟩ := (Text.trim_eq_self_iff.1 htrim).resolve_left ht.ne_nil
    have hblank := Text.isBlank_of_not_isWhitespace hs
    cases t with
    | nil => cases hd
    | cons e t =>
      cases hd
      have hskip : c.remaining.dropWhile Text.isBlank = d :: t := by
        rw [h, List.dropWhile_cons_of_pos (by rfl), List.dropWhile_cons_of_neg (by simp [hblank])]
      obtain ⟨c1, h1, -⟩ := token_of_bare hskip fun hq => ht.head_ne (by rw [hq]; rfl)
      refine ⟨_, c1, h1, ?_, ?_⟩
      · rw [List.takeWhile_cons_of_pos (by simp [hblank])]
        simp
      · rw [List.takeWhile_eq_self_iff]
        simp
  · rw [if_neg htrim, ← List.append_nil (Printer.enclose t)] at h
    rw [Text.StaysWord, if_neg htrim]
    rcases token_of_enclosed (by rw [h, dropWhile_blank_enclose]) with
      ⟨hq, c1, h1, -⟩ | ⟨s, z, c1, rfl, hs, h1, -⟩
    · exact ⟨t, c1, h1, ht.ne_nil, iff_of_true rfl hq⟩
    · refine ⟨s, c1, h1, ?_, iff_of_false (by simp) (by simp)⟩
      rintro rfl
      exact ht.head_ne rfl

end Cursor

end HtGate
