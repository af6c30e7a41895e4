import HtGate.Directive.LineReader
import HtGate.Proofs.Text.Casing
import HtGate.Proofs.Text.Cutting
/-!
# Reading at a cursor

What an operation of a cursor gives back and what it leaves depends on nothing but what remains of the
line. Each lemma says both for one form of what remains; the last ones say which words there can be at
all.
-/

namespace HtGate.Cursor

/-- What remains after some characters. -/
lemma remaining_advance (c : Cursor) (n : Nat) : (c.advance n).remaining = c.remaining.drop n := by
  simp [remaining, advance, List.drop_drop]

/-- Nothing remains at the end. -/
lemma remaining_toEnd (c : Cursor) : c.toEnd.remaining = [] := by
  simp [remaining, toEnd]

/-- What remains after blanks. -/
lemma remaining_skipBlanks (c : Cursor) :
    c.skipBlanks.remaining = c.remaining.dropWhile Text.isBlank := by
  rw [skipBlanks, remaining_advance, Text.drop_length_takeWhile]

/-- A cursor is at the end exactly if nothing remains. -/
lemma atEnd_iff (c : Cursor) : c.atEnd = true ↔ c.remaining = [] := by
  simp [atEnd, remaining]

/-- There is no word where only blanks remain. -/
lemma token_of_blank {c : Cursor} (h : c.remaining.dropWhile Text.isBlank = []) :
    ∃ c', c.token = (none, c') ∧ c'.remaining = [] := by
  have hr := (remaining_skipBlanks c).trans h
  refine ⟨c.skipBlanks, ?_, hr⟩
  rw [token, if_pos ((atEnd_iff _).2 hr)]

/-- A quoted word ends at the next quote. -/
lemma token_of_quoted {c : Cursor} {inside u : Text}
    (h : c.remaining.dropWhile Text.isBlank = '"' :: (inside ++ '"' :: u)) (hi : '"' ∉ inside) :
    ∃ c', c.token = (some inside, c') ∧ c'.remaining = u := by
  have hr := (remaining_skipBlanks c).trans h
  refine ⟨c.skipBlanks.advance (inside.length + 2), ?_, ?_⟩
  · rw [token, if_neg (by rw [atEnd_iff, hr]; simp), hr]
    simp [Text.cut_append hi]
  · rw [remaining_advance, hr]
    simp [List.drop_append]

/-- A quoted word without a second quote takes the rest of the line. -/
lemma token_of_unclosed {c : Cursor} {inside : Text}
    (h : c.remaining.dropWhile Text.isBlank = '"' :: inside) (hi : '"' ∉ inside) :
    ∃ c', c.token = (some inside, c') ∧ c'.remaining = [] := by
  have hr := (remaining_skipBlanks c).trans h
  refine ⟨c.skipBlanks.toEnd, ?_, remaining_toEnd _⟩
  rw [token, if_neg (by rw [atEnd_iff, hr]; simp), hr]
  simp [Text.cut_of_not_mem hi]

/-- A word without a quote in front ends before the next blank. -/
lemma token_of_bare {c : Cursor} {d : Char} {u : Text}
    (h : c.remaining.dropWhile Text.isBlank = d :: u) (hd : d ≠ '"') :
    ∃ c', c.token = (some ((d :: u).takeWhile fun e => !Text.isBlank e), c') ∧
      c'.remaining = (d :: u).dropWhile fun e => !Text.isBlank e := by
  have hr := (remaining_skipBlanks c).trans h
  refine ⟨c.skipBlanks.advance ((d :: u).takeWhile fun e => !Text.isBlank e).length, ?_, ?_⟩
  · rw [token, if_neg (by rw [atEnd_iff, hr]; simp), hr]
    split
    · rename_i heq
      cases heq
      exact absurd rfl hd
    · rfl
  · rw [remaining_advance, hr, Text.drop_length_takeWhile]

/-- How a cursor comes by a word, or by none, and where that leaves it. -/
inductive TokenRead (c : Cursor) : Option Text → Cursor → Prop where
  | blank {c' : Cursor} : c.remaining.dropWhile Text.isBlank = [] → c'.remaining = [] →
    TokenRead c none c'
  | quoted {inside : Text} {c' : Cursor} :
    c.remaining.dropWhile Text.isBlank = '"' :: (inside ++ '"' :: c'.remaining) → '"' ∉ inside →
    TokenRead c (some inside) c'
  | unclosed {inside : Text} {c' : Cursor} :
    c.remaining.dropWhile Text.isBlank = '"' :: inside → '"' ∉ inside → c'.remaining = [] →
    TokenRead c (some inside) c'
  | bare {d : Char} {u : Text} {c' : Cursor} :
    c.remaining.dropWhile Text.isBlank = d :: u → d ≠ '"' → Text.isBlank d = false →
    c'.remaining = (d :: u).dropWhile (fun e => !Text.isBlank e) →
    TokenRead c (some ((d :: u).takeWhile fun e => !Text.isBlank e)) c'

/-- Whatever is read as the next word is come by in one of these ways. -/
lemma tokenRead {c c' : Cursor} {t : Option Text} (h : c.token = (t, c')) : TokenRead c t c' := by
  -- the cases follow the first character behind the blanks
  cases hr : c.remaining.dropWhile Text.isBlank with
  | nil =>
    obtain ⟨c1, h1, hr1⟩ := token_of_blank hr
    cases h1.symm.trans h
    exact .blank hr hr1
  | cons d u =>
    by_cases hd : d = '"'
    · subst hd
      rcases Text.cut_cases '"' u with ⟨hu, -⟩ | ⟨s, v, rfl, hq, -⟩
      · obtain ⟨c1, h1, hr1⟩ := token_of_unclosed hr hu
        cases h1.symm.trans h
        exact .unclosed hr hu hr1
      · obtain ⟨c1, h1, rfl⟩ := token_of_quoted hr hq
        cases h1.symm.trans h
        exact .quoted hr hq
    · obtain ⟨c1, h1, hr1⟩ := token_of_bare hr hd
      cases h1.symm.trans h
      exact .bare hr hd (Text.not_of_dropWhile_eq_cons hr) hr1

/-- Whether a word can end before a text: nothing or a blank follows. -/
def EndsWord (t : Text) : Prop := ∀ c ∈ t.head?, Text.isBlank c = true

/-- A word can end where nothing follows. -/
lemma endsWord_nil : EndsWord [] := by
  rintro c ⟨⟩

/-- A word can end before a blank. -/
lemma endsWord_blank (t : Text) : EndsWord (' ' :: t) := by
  rintro c ⟨⟩
  rfl

/-- A run of characters other than blanks, with no quote in front, is a word. -/
lemma token_of_word {c : Cursor} {w u : Text} (h : c.remaining.dropWhile Text.isBlank = w ++ u)
    (hne : w ≠ []) (hq : w.head? ≠ some '"') (hw : ∀ d ∈ w, Text.isBlank d = false)
    (hu : EndsWord u) : ∃ c', c.token = (some w, c') ∧ c'.remaining = u := by
  have hstop : u.takeWhile (fun e => !Text.isBlank e) = [] ∧
      u.dropWhile (fun e => !Text.isBlank e) = u := by
    cases u with
    | nil => exact ⟨rfl, rfl⟩
    | cons d u => simp [hu d rfl]
  have hall : ∀ d ∈ w, (fun e => !Text.isBlank e) d = true := by simpa using hw
  cases w with
  | nil => exact absurd rfl hne
  | cons d w =>
    rw [List.cons_append] at h
    obtain ⟨c1, h1, hr1⟩ := token_of_bare h (fun hd => hq (by rw [hd]; rfl))
    refine ⟨c1, ?_, ?_⟩
    · rw [h1, ← List.cons_append, List.takeWhile_append_of_pos hall, hstop.1, List.append_nil]
    · rw [hr1, ← List.cons_append, List.dropWhile_append_of_pos hall, hstop.2]

/-- The next word depends on nothing but what remains. -/
lemma token_congr {c c' : Cursor} (h : c.remaining = c'.remaining) : c.token.1 = c'.token.1 := by
  have hr : c.skipBlanks.remaining = c'.skipBlanks.remaining := by
    rw [remaining_skipBlanks, remaining_skipBlanks, h]
  have hend : c.skipBlanks.atEnd = c'.skipBlanks.atEnd := by
    rw [Bool.eq_iff_iff, atEnd_iff, atEnd_iff, hr]
  rw [token, token, hend, hr]
  split
  · rfl
  · dsimp only
    split
    · split <;> rfl
    · rfl

/-- What is left of a line as one value. -/
lemma rest?_eq (c : Cursor) :
    c.rest? =
      if (Text.trim c.remaining).isEmpty then none else some (unwrap (Text.trim c.remaining)) := by
  simp only [rest?, rest, restRaw]
  split <;> rfl

/-- What is left of a line with its quotes. -/
lemma restRaw_fst (c : Cursor) :
    c.restRaw.1 = if (Text.trim c.remaining).isEmpty then none else some (Text.trim c.remaining) :=
  rfl

end HtGate.Cursor
