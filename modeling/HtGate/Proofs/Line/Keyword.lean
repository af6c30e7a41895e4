import HtGate.Proofs.Line.Quoting
/-!
# Keywords

A keyword stands next exactly where the next word of the line, up to a blank, has the lower-case form of the
keyword, whatever characters the word is made of. A keyword that does not stand next costs nothing but the
blanks in front. So a table of keywords gives the line to the reader of the keyword it begins with, whatever
the order of the table.
-/

namespace HtGate

namespace Text

/-- What a keyword is made of: ASCII characters other than blanks. -/
structure IsKeyword (t : Text) : Prop where
  ne_nil : t ≠ []
  ascii : ∀ c ∈ t, c.toNat < 0x80
  blankless : ∀ c ∈ t, isBlank c = false

instance (t : Text) : Decidable t.IsKeyword :=
  decidable_of_iff (t ≠ [] ∧ t.all (fun c => c.toNat < 0x80 && !isBlank c) = true) <| by
    simp only [List.all_eq_true, Bool.and_eq_true, decide_eq_true_eq, Bool.not_eq_true']
    exact ⟨fun ⟨hne, h⟩ => ⟨hne, fun c hc => (h c hc).1, fun c hc => (h c hc).2⟩,
      fun ⟨hne, hascii, hblank⟩ => ⟨hne, fun c hc => ⟨hascii c hc, hblank c hc⟩⟩⟩

/-- The lower-case form of a keyword is as long as the keyword. -/
lemma IsKeyword.length_lower {t : Text} (h : t.IsKeyword) : (lower t).length = t.length := by
  rw [lower_ascii h.ascii, List.length_map]

/-- The lower-case form of a keyword is an ASCII text. -/
lemma IsKeyword.ascii_lower {t : Text} (h : t.IsKeyword) : ∀ c ∈ lower t, c.toNat < 0x80 := by
  rw [lower_ascii h.ascii]
  intro c hc
  obtain ⟨d, hd, rfl⟩ := List.mem_map.1 hc
  exact forall_of_codes (h.ascii d hd) (by decide)

/-- There are no blanks to skip in front of a keyword. -/
lemma IsKeyword.dropWhile_append {t : Text} (h : t.IsKeyword) (u : Text) :
    (t ++ u).dropWhile isBlank = t ++ u := by
  cases t with
  | nil => exact absurd rfl h.ne_nil
  | cons d t => exact List.dropWhile_cons_of_neg (by simp [h.blankless d (by simp)])

/-- The blank in front of a keyword is skipped. -/
lemma IsKeyword.dropWhile_cons {t : Text} (h : t.IsKeyword) (u : Text) :
    (' ' :: (t ++ u)).dropWhile isBlank = t ++ u := by
  rw [List.dropWhile_cons_of_pos (by rfl), h.dropWhile_append]

/-- A text with the lower-case form of a keyword is as long as the keyword. -/
lemma IsKeyword.length_eq {t u : Text} (ht : t.IsKeyword) (h : lower u = lower t) :
    u.length = t.length := by
  rw [← length_lower_of_ascii (h ▸ ht.ascii_lower), h, ht.length_lower]

/-- The lower-case form of a keyword has no blanks. -/
lemma IsKeyword.not_mem_lower {t : Text} (h : t.IsKeyword) {c : Char} (hc : isBlank c = true) :
    c ∉ lower t := by
  rw [lower_ascii h.ascii, List.mem_map]
  rintro ⟨d, hd, rfl⟩
  have hlow : isBlank d.toLower = isBlank d := forall_of_codes (h.ascii d hd) (by decide)
  rw [hlow, h.blankless d hd] at hc
  cases hc

/-- A text with the lower-case form of a keyword has no blanks. -/
lemma IsKeyword.blankless_of_lower {t u : Text} (ht : t.IsKeyword) (h : lower u = lower t) :
    ∀ c ∈ u, isBlank c = false := by
  intro c hc
  by_contra hb
  rw [Bool.not_eq_false] at hb
  exact ht.not_mem_lower hb (h ▸ mem_lower (.inl (isWhitespace_of_isBlank hb)) hc)

/-- The next word of a text: what stands before the next blank, once the blanks in front are passed over. -/
def nextWord (t : Text) : Text := (t.dropWhile isBlank).takeWhile fun c => !isBlank c

/-- What follows the next word of a text. -/
def afterWord (t : Text) : Text := (t.dropWhile isBlank).dropWhile fun c => !isBlank c

/-- The next word, and what follows it, where the text is known behind the blanks in front. -/
lemma nextWord_eq {t w u : Text} (hw : ∀ c ∈ w, isBlank c = false) (hu : Cursor.EndsWord u)
    (h : t.dropWhile isBlank = w ++ u) : nextWord t = w ∧ afterWord t = u := by
  rw [nextWord, afterWord, h]
  exact span_append (by simpa using hw) (by simpa [Cursor.EndsWord] using hu)

end Text

namespace Cursor

open Text (nextWord afterWord)

/-- A keyword stands at a cursor exactly if what comes before the next blank is the keyword in some case. -/
lemma standsAt_iff {c : Cursor} {word : Text} (hw : word.IsKeyword) :
    c.standsAt word = true ↔
      Text.lower (c.remaining.takeWhile fun d => !Text.isBlank d) = Text.lower word := by
  rw [standsAt, Bool.and_eq_true, beq_iff_eq]
  constructor
  · rintro ⟨hlow, hend⟩
    -- the characters compared are none of them a blank, and a blank or the end follows
    have hstop : ∀ d ∈ (c.remaining.drop word.length).head?, (!Text.isBlank d) = false := by
      intro d hd
      obtain ⟨u, hdrop⟩ := List.head?_eq_some_iff.1 hd
      rw [hdrop] at hend
      simpa using hend
    have hspan := Text.span_append (by simpa using hw.blankless_of_lower hlow) hstop
    rw [List.take_append_drop] at hspan
    rw [hspan.1, hlow]
  · intro hlow
    have hlength := hw.length_eq hlow
    have htake : c.remaining.take word.length = c.remaining.takeWhile fun d => !Text.isBlank d := by
      rw [← hlength]
      exact List.prefix_iff_eq_take.1 (List.takeWhile_prefix _) |>.symm
    refine ⟨by rw [htake, hlow], ?_⟩
    rw [← hlength, Text.drop_length_takeWhile]
    cases hrest : c.remaining.dropWhile fun d => !Text.isBlank d with
    | nil => rfl
    | cons d u =>
      simpa using Text.not_of_dropWhile_eq_cons hrest

variable {c c' : Cursor} {word kw : Text}

/-- A keyword that is the next word in some case is passed over. -/
lemma keyword_of_next (hw : word.IsKeyword)
    (h : Text.lower (nextWord c.remaining) = Text.lower word) :
    ∃ c', c.keyword word = (true, c') ∧ c'.remaining = afterWord c.remaining := by
  have hr := remaining_skipBlanks c
  refine ⟨c.skipBlanks.advance word.length, ?_, ?_⟩
  · simp only [keyword]
    rw [if_pos ((standsAt_iff hw).2 (by rwa [hr]))]
  · rw [remaining_advance, hr, ← hw.length_eq h]
    exact Text.drop_length_takeWhile _ _

/-- A keyword that is not the next word does not stand next, and the blanks are skipped. -/
lemma keyword_of_not_next (hw : word.IsKeyword)
    (h : Text.lower (nextWord c.remaining) ≠ Text.lower word) :
    c.keyword word = (false, c.skipBlanks) := by
  simp only [keyword]
  rw [if_neg fun hs => h ?_]
  rw [nextWord, ← remaining_skipBlanks]
  exact (standsAt_iff hw).1 hs

/-- A keyword that stands next is passed over. -/
lemma keyword_true {tail : Text} (hw : word.IsKeyword) (hk : kw.IsKeyword)
    (hlow : Text.lower word = Text.lower kw) (ht : EndsWord tail)
    (h : c.remaining.dropWhile Text.isBlank = kw ++ tail) :
    ∃ c', c.keyword word = (true, c') ∧ c'.remaining = tail := by
  obtain ⟨hnext, hafter⟩ := Text.nextWord_eq hk.blankless ht h
  obtain ⟨c', hc', hr⟩ := keyword_of_next hw (by rw [hnext, hlow])
  exact ⟨c', hc', hr.trans hafter⟩

/-- A keyword that does not stand next is not passed over. -/
lemma keyword_false {tail : Text} (hw : word.IsKeyword) (hk : kw.IsKeyword)
    (hlow : Text.lower word ≠ Text.lower kw) (ht : EndsWord tail)
    (h : c.remaining.dropWhile Text.isBlank = kw ++ tail) :
    ∃ c', c.keyword word = (false, c') ∧ c'.remaining = kw ++ tail := by
  obtain ⟨hnext, -⟩ := Text.nextWord_eq hk.blankless ht h
  exact ⟨_, keyword_of_not_next hw (by rw [hnext]; exact hlow.symm), (remaining_skipBlanks c).trans h⟩

section Next

variable {word : String}

/-- Reading goes on behind a word that is the next one. -/
lemma after?_of_next (hw : Text.IsKeyword word.toList)
    (h : Text.lower (nextWord c.remaining) = Text.lower word.toList) :
    ∃ c', c.after? word = some c' ∧ c'.remaining = afterWord c.remaining := by
  obtain ⟨c', hc', hr⟩ := keyword_of_next hw h
  exact ⟨c', by rw [after?, hc'], hr⟩

/-- Reading does not go on behind a word that is not the next one. -/
lemma after?_of_not_next (hw : Text.IsKeyword word.toList)
    (h : Text.lower (nextWord c.remaining) ≠ Text.lower word.toList) : c.after? word = none := by
  rw [after?, keyword_of_not_next hw h]

end Next

/-- A word that has to stand next and does. -/
lemma after?_eq_some {c : Cursor} (word : String) {kw tail : Text}
    (hw : Text.IsKeyword word.toList) (hk : kw.IsKeyword)
    (hlow : Text.lower word.toList = Text.lower kw) (ht : EndsWord tail)
    (h : c.remaining.dropWhile Text.isBlank = kw ++ tail) :
    ∃ c', c.after? word = some c' ∧ c'.remaining = tail := by
  obtain ⟨c1, h1, hr1⟩ := keyword_true hw hk hlow ht h
  exact ⟨c1, by rw [after?, h1], hr1⟩

/-- A word that has to stand next where another does. -/
lemma after?_eq_none {c : Cursor} {word : String} {kw tail : Text} (hw : Text.IsKeyword word.toList)
    (hk : kw.IsKeyword) (hlow : Text.lower word.toList ≠ Text.lower kw) (ht : EndsWord tail)
    (h : c.remaining.dropWhile Text.isBlank = kw ++ tail) : c.after? word = none := by
  obtain ⟨c1, h1, -⟩ := keyword_false hw hk hlow ht h
  rw [after?, h1]

/-- A keyword that is read as a word in lower case. -/
lemma lowerToken_of_keyword {c : Cursor} {kw tail : Text} (hk : kw.IsKeyword)
    (hq : kw.head? ≠ some '"') (ht : EndsWord tail)
    (h : c.remaining.dropWhile Text.isBlank = kw ++ tail) :
    ∃ c', c.lowerToken = (Text.lower kw, c') ∧ c'.remaining = tail := by
  obtain ⟨c1, h1, hr1⟩ := token_of_word h hk.ne_nil hq hk.blankless ht
  exact ⟨c1, by rw [lowerToken, h1], hr1⟩

section Standing

/-- Where two keywords stand, they are the same but for case. -/
lemma lower_eq_of_standsAt (hw : word.IsKeyword) (hk : kw.IsKeyword) (h : c.standsAt word = true)
    (h' : c.standsAt kw = true) : Text.lower word = Text.lower kw :=
  ((standsAt_iff hw).1 h).symm.trans ((standsAt_iff hk).1 h')

/-- A keyword that is found stands behind the blanks. -/
lemma standsAt_of_keyword (h : c.keyword word = (true, c')) :
    c.skipBlanks.standsAt word = true := by
  simp only [keyword] at h
  split at h
  · assumption
  · cases h

/-- No keyword stands on an empty line. -/
lemma keyword_nil (hk : kw.IsKeyword) (h : (start []).keyword kw = (true, c')) : False := by
  have hlow := (standsAt_iff hk).1 (standsAt_of_keyword h)
  exact hk.ne_nil (List.eq_nil_of_length_eq_zero (hk.length_eq hlow).symm)

end Standing

end Cursor

namespace RuleReader

/-- Whether no two keywords of a table differ in case alone. -/
def Distinct (table : List (Text × RuleReader)) : Prop :=
  (table.map fun e => Text.lower e.1).Nodup

/-- A line on which a keyword of a table stands is read by the reader of the keyword. -/
lemma readBy_of_standing {table : List (Text × RuleReader)} (htable : ∀ e ∈ table, e.1.IsKeyword)
    (hdistinct : Distinct table) {kw line : Text} {reader : RuleReader} {c : Cursor}
    (hmem : (kw, reader) ∈ table) (h : (Cursor.start line).keyword kw = (true, c)) :
    readBy table line = reader c := by
  induction table with
  | nil => cases hmem
  | cons e table ih =>
    obtain ⟨word, r⟩ := e
    obtain ⟨hfirst, hrest⟩ := List.nodup_cons.1 hdistinct
    rw [readBy]
    rcases List.mem_cons.1 hmem with heq | hmem'
    · cases heq
      rw [h]
    · split
      · rename_i c' hword
        have hlow : Text.lower word = Text.lower kw :=
          Cursor.lower_eq_of_standsAt (htable _ (.head _)) (htable _ hmem)
            (Cursor.standsAt_of_keyword hword) (Cursor.standsAt_of_keyword h)
        exact absurd (List.mem_map.2 ⟨_, hmem', hlow.symm⟩) hfirst
      · exact ih (fun e he => htable e (.tail _ he)) hrest hmem'

/-- A line that begins with a keyword is read by the reader of the keyword. -/
lemma readBy_of_keyword {table : List (Text × RuleReader)} (htable : ∀ e ∈ table, e.1.IsKeyword)
    (hdistinct : Distinct table) {kw tail : Text} {reader : RuleReader}
    (hmem : (kw, reader) ∈ table) (ht : Cursor.EndsWord tail) :
    ∃ c, readBy table (kw ++ tail) = reader c ∧ c.remaining = tail := by
  have hk : kw.IsKeyword := htable _ hmem
  have hstart : (Cursor.start (kw ++ tail)).remaining.dropWhile Text.isBlank = kw ++ tail := by
    exact hk.dropWhile_append tail
  obtain ⟨c, hc, hr⟩ := Cursor.keyword_true hk hk rfl ht hstart
  exact ⟨c, readBy_of_standing htable hdistinct hmem hc, hr⟩

/-- The words of the table are keywords. -/
lemma isKeyword_of_mem_table : ∀ e ∈ table, e.1.IsKeyword := by
  have h : ∀ w ∈ table.map (·.1), w.IsKeyword := by decide
  intro e he
  exact h e.1 (List.mem_map_of_mem he)

/-- No two keywords of the table differ in case alone. -/
lemma distinct_table : Distinct table := by
  have hlower : table.map (fun e => Text.lower e.1) =
      (table.map (·.1)).map fun w => w.map Char.toLower := by
    rw [List.map_map]
    exact List.map_congr_left fun e he => Text.lower_ascii (isKeyword_of_mem_table e he).ascii
  rw [Distinct, hlower]
  decide

/-- A line that begins with a keyword of the table. -/
lemma read_of_keyword {kw tail : Text} {reader : RuleReader} (hmem : (kw, reader) ∈ table)
    (ht : Cursor.EndsWord tail) : ∃ c, read (kw ++ tail) = reader c ∧ c.remaining = tail :=
  readBy_of_keyword isKeyword_of_mem_table distinct_table hmem ht

/-- A line whose first word is a keyword of the table in some case. -/
lemma read_of_next {kw line : Text} {reader : RuleReader} (hmem : (kw, reader) ∈ table)
    (h : Text.lower (Text.nextWord line) = Text.lower kw) :
    ∃ c, read line = reader c ∧ c.remaining = Text.afterWord line := by
  have hstart : (Cursor.start line).remaining = line := rfl
  obtain ⟨c, hc, hr⟩ := Cursor.keyword_of_next (c := Cursor.start line)
    (isKeyword_of_mem_table _ hmem) (by rwa [hstart])
  exact ⟨c, readBy_of_standing isKeyword_of_mem_table distinct_table hmem hc, hr⟩

/-- A line on which no keyword of a table stands is no rule; any other line is read by some reader of the table
behind its keyword. -/
lemma readBy_cases (table : List (Text × RuleReader)) (line : Text) :
    readBy table line = .ok ⟨none, []⟩ ∨
      ∃ e ∈ table, ∃ c, (Cursor.start line).keyword e.1 = (true, c) ∧ readBy table line = e.2 c := by
  induction table with
  | nil => exact .inl rfl
  | cons e table ih =>
    obtain ⟨word, reader⟩ := e
    rw [readBy]
    split
    · rename_i c hc
      exact .inr ⟨_, .head _, c, hc, rfl⟩
    · exact ih.imp_right fun ⟨e, he, hread⟩ => ⟨e, .tail _ he, hread⟩

/-- What a line is read as, some reader of the table reads in it. -/
lemma exists_reader_of_readBy {table : List (Text × RuleReader)} {line : Text} {r : Rule}
    {remarks : List Remark} (h : readBy table line = .ok ⟨some r, remarks⟩) :
    ∃ e ∈ table, ∃ c, e.2 c = .ok ⟨some r, remarks⟩ ∧ c.remaining ⊆ line := by
  rcases readBy_cases table line with hnone | ⟨e, he, c, hc, hread⟩
  · rw [hnone] at h
    cases h
  · refine ⟨e, he, c, hread.symm.trans h, ?_⟩
    have htext : c.text = line := by
      simp only [Cursor.keyword] at hc
      split at hc <;> cases hc
      rfl
    rw [Cursor.remaining, htext]
    exact List.drop_subset _ _

end RuleReader

end HtGate
