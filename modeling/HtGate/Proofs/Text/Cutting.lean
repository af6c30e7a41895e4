import HtGate.Text.Basic
import Mathlib.Data.List.TakeWhile
import Mathlib.Tactic.Lemma
/-!
# Cutting and splitting

A text either has no separator, and is one piece, or it is the piece before the first separator, the
separator, and what follows.
-/

namespace HtGate.Text

/-- A text without the separator is cut nowhere. -/
lemma cut_of_not_mem {c : Char} {t : Text} (h : c ∉ t) : cut c t = (t, none) := by
  induction t with
  | nil => rfl
  | cons d t ih =>
    have hd : (d == c) = false := by
      rw [beq_eq_false_iff_ne]
      rintro rfl
      exact h (by simp)
    rw [cut, hd, ih (fun ht => h (by simp [ht]))]
    rfl

/-- A text is cut at the first separator. -/
lemma cut_append {c : Char} {s : Text} (h : c ∉ s) (t : Text) :
    cut c (s ++ c :: t) = (s, some t) := by
  induction s with
  | nil => simp [cut]
  | cons d s ih =>
    have hd : (d == c) = false := by
      rw [beq_eq_false_iff_ne]
      rintro rfl
      exact h (by simp)
    rw [List.cons_append, cut, hd, ih (fun hs => h (by simp [hs]))]
    rfl

/-- Every text is of one of the two forms. -/
lemma cut_cases (c : Char) (t : Text) :
    c ∉ t ∧ cut c t = (t, none) ∨ ∃ s u, t = s ++ c :: u ∧ c ∉ s ∧ cut c t = (s, some u) := by
  by_cases h : c ∈ t
  · obtain ⟨s, u, rfl, hs⟩ := List.eq_append_cons_of_mem h
    exact .inr ⟨s, u, rfl, hs, cut_append hs u⟩
  · exact .inl ⟨h, cut_of_not_mem h⟩

/-- What follows the longest start of a text whose characters pass a test. -/
lemma drop_length_takeWhile (p : Char → Bool) (t : Text) :
    t.drop (t.takeWhile p).length = t.dropWhile p := by
  have hdrop : (t.takeWhile p ++ t.dropWhile p).drop (t.takeWhile p).length = t.dropWhile p :=
    List.drop_left
  rwa [List.takeWhile_append_dropWhile] at hdrop

/-- A run ends where a character follows that does not belong to it. -/
lemma span_append {p : Char → Bool} {s t : Text} (hs : ∀ c ∈ s, p c = true)
    (ht : ∀ c ∈ t.head?, p c = false) : (s ++ t).takeWhile p = s ∧ (s ++ t).dropWhile p = t := by
  rw [List.takeWhile_append_of_pos hs, List.dropWhile_append_of_pos hs]
  cases t with
  | nil => simp
  | cons c t => simp [ht c rfl]

/-- What follows a run does not begin with a character of it. -/
lemma not_of_head?_dropWhile {p : Char → Bool} {t : Text} : ∀ c ∈ (t.dropWhile p).head?, p c = false := by
  intro c hc
  have hfirst := List.head?_dropWhile_not p t
  rw [Option.mem_def.1 hc] at hfirst
  simpa using hfirst

/-- What is left begins with a character that is not dropped. -/
lemma not_of_dropWhile_eq_cons {p : Char → Bool} {t u : Text} {c : Char} (h : t.dropWhile p = c :: u) :
    p c = false :=
  not_of_head?_dropWhile c (by rw [h]; rfl)

/-- A text has at least one piece. -/
lemma splitOn_ne_nil (sep : Char → Bool) (t : Text) : splitOn sep t ≠ [] := by
  cases t with
  | nil => simp [splitOn]
  | cons c t =>
    rw [splitOn]
    split
    · simp
    · split <;> simp

/-- A text has a last piece. -/
lemma exists_splitOn_eq_concat (sep : Char → Bool) (t : Text) :
    ∃ front x, splitOn sep t = front ++ [x] :=
  ⟨_, _, (List.dropLast_concat_getLast (splitOn_ne_nil sep t)).symm⟩

/-- The pieces of a text that begins with a separator. -/
lemma splitOn_cons_of_sep {sep : Char → Bool} {c : Char} (h : sep c = true) (t : Text) :
    splitOn sep (c :: t) = [] :: splitOn sep t := by
  rw [splitOn]
  split
  · rename_i hn
    exact absurd hn (splitOn_ne_nil sep t)
  · rename_i piece more hs
    rw [if_pos h, hs]

/-- The first piece grows by a character that is no separator. -/
lemma splitOn_cons_of_not_sep {sep : Char → Bool} {c : Char} (h : sep c = false) {t piece : Text}
    {more : List Text} (ht : splitOn sep t = piece :: more) :
    splitOn sep (c :: t) = (c :: piece) :: more := by
  rw [splitOn, ht]
  simp [h]

/-- A piece ends at the first separator. -/
lemma splitOn_append {sep : Char → Bool} {s : Text} (hs : ∀ c ∈ s, sep c = false) {d : Char}
    (hd : sep d = true) (t : Text) : splitOn sep (s ++ d :: t) = s :: splitOn sep t := by
  induction s with
  | nil => exact splitOn_cons_of_sep hd t
  | cons c s ih =>
    exact splitOn_cons_of_not_sep (hs c (by simp)) (ih fun e he => hs e (by simp [he]))

/-- A text is split at each of its separators. -/
lemma splitOn_append_of_sep {sep : Char → Bool} {d : Char} (hd : sep d = true) (s t : Text) :
    splitOn sep (s ++ d :: t) = splitOn sep s ++ splitOn sep t := by
  induction s with
  | nil => exact splitOn_cons_of_sep hd t
  | cons c s ih =>
    rw [List.cons_append]
    cases hc : sep c with
    | true => rw [splitOn_cons_of_sep hc, splitOn_cons_of_sep hc, ih, List.cons_append]
    | false =>
      obtain ⟨piece, more, hs⟩ := List.exists_cons_of_ne_nil (splitOn_ne_nil sep s)
      rw [splitOn_cons_of_not_sep hc hs, List.cons_append]
      apply splitOn_cons_of_not_sep hc
      rw [ih, hs, List.cons_append]

/-- The characters of a piece stand in the text and are no separators. -/
lemma splitOn_spec {sep : Char → Bool} {t piece : Text} (h : piece ∈ splitOn sep t) :
    ∀ c ∈ piece, c ∈ t ∧ sep c = false := by
  induction t generalizing piece with
  | nil =>
    obtain rfl : piece = [] := by simpa [splitOn] using h
    simp
  | cons c t ih =>
    obtain ⟨first, more, hs⟩ := List.exists_cons_of_ne_nil (splitOn_ne_nil sep t)
    have hlater : ∀ piece ∈ splitOn sep t, ∀ d ∈ piece, d ∈ c :: t ∧ sep d = false :=
      fun piece hpiece d hd => ⟨.tail _ (ih hpiece d hd).1, (ih hpiece d hd).2⟩
    cases hc : sep c with
    | true =>
      rw [splitOn_cons_of_sep hc] at h
      rcases List.mem_cons.1 h with rfl | h
      · simp
      · exact hlater piece h
    | false =>
      rw [splitOn_cons_of_not_sep hc hs] at h
      rcases List.mem_cons.1 h with rfl | h
      · intro d hd
        rcases List.mem_cons.1 hd with rfl | hd
        · exact ⟨.head _, hc⟩
        · exact hlater first (by simp [hs]) d hd
      · exact hlater piece (by simp [hs, h])

/-- No piece holds a separator. -/
lemma not_sep_of_mem_splitOn {sep : Char → Bool} {t piece : Text} (h : piece ∈ splitOn sep t) :
    ∀ c ∈ piece, sep c = false :=
  fun c hc => (splitOn_spec h c hc).2

/-- Where two texts meet, the last piece of the one and the first of the other become one piece. -/
lemma splitOn_append_join {sep : Char → Bool} {s t x y : Text} {front back : List Text}
    (hs : splitOn sep s = front ++ [x]) (ht : splitOn sep t = y :: back) :
    splitOn sep (s ++ t) = front ++ (x ++ y) :: back := by
  -- the last piece of the first text and the first piece of the second one grow together
  induction s generalizing front x with
  | nil =>
    obtain ⟨rfl, rfl⟩ : front = [] ∧ x = [] := by
      cases front <;> simp_all [splitOn]
    exact ht
  | cons c s ih =>
    obtain ⟨first, more, hfirst⟩ := List.exists_cons_of_ne_nil (splitOn_ne_nil sep s)
    cases hc : sep c with
    | true =>
      rw [splitOn_cons_of_sep hc] at hs
      cases front with
      | nil => exact absurd (List.cons.inj hs).2 (splitOn_ne_nil sep s)
      | cons _ front =>
        obtain ⟨rfl, hrest⟩ := List.cons.inj hs
        rw [List.cons_append, splitOn_cons_of_sep hc, ih hrest]
        rfl
    | false =>
      rw [splitOn_cons_of_not_sep hc hfirst] at hs
      cases front with
      | nil =>
        obtain ⟨rfl, rfl⟩ := List.cons.inj hs
        have hjoin : splitOn sep (s ++ t) = [] ++ (first ++ y) :: back := ih hfirst
        exact splitOn_cons_of_not_sep hc hjoin
      | cons _ front =>
        obtain ⟨rfl, rfl⟩ := List.cons.inj hs
        have hjoin : splitOn sep (s ++ t) = (first :: front) ++ (x ++ y) :: back := ih hfirst
        exact splitOn_cons_of_not_sep hc hjoin

/-- A separator ends a run and begins another. -/
lemma fields_append_of_sep {sep : Char → Bool} {d : Char} (hd : sep d = true) (s t : Text) :
    fields sep (s ++ d :: t) = fields sep s ++ fields sep t := by
  rw [fields, splitOn_append_of_sep hd, List.filter_append]
  rfl

/-- Separators at the start of a text belong to no run. -/
lemma fields_append_left {sep : Char → Bool} {w : Text} (hw : ∀ d ∈ w, sep d = true) (t : Text) :
    fields sep (w ++ t) = fields sep t := by
  induction w with
  | nil => rfl
  | cons d w ih =>
    have hfirst : fields sep (d :: (w ++ t)) = fields sep (w ++ t) :=
      fields_append_of_sep (hw d (.head _)) [] (w ++ t)
    rw [List.cons_append, hfirst, ih fun e he => hw e (.tail _ he)]

/-- Two texts with separators between them have the runs of both. -/
lemma fields_append_join {sep : Char → Bool} {w : Text} (hne : w ≠ []) (hw : ∀ d ∈ w, sep d = true)
    (s t : Text) : fields sep (s ++ (w ++ t)) = fields sep s ++ fields sep t := by
  obtain ⟨d, w, rfl⟩ := List.exists_cons_of_ne_nil hne
  rw [List.cons_append, fields_append_of_sep (hw d (.head _)),
    fields_append_left fun e he => hw e (.tail _ he)]

/-- The lines of a text in which every line is ended by a line feed. -/
lemma splitOn_lines {ls : List Text} (h : ∀ l ∈ ls, '\n' ∉ l) :
    splitOn (· == '\n') (ls.flatMap (· ++ ['\n'])) = ls ++ [[]] := by
  induction ls with
  | nil => rfl
  | cons l ls ih =>
    have hl : ∀ c ∈ l, (c == '\n') = false := by
      intro c hc
      rw [beq_eq_false_iff_ne]
      rintro rfl
      exact h l (by simp) hc
    rw [List.flatMap_cons, List.append_assoc, List.singleton_append, splitOn_append hl rfl,
      ih fun m hm => h m (by simp [hm])]
    rfl

/-- A text with a start is the start and what follows it. -/
lemma dropPrefix?_eq_some_iff {t start u : Text} :
    dropPrefix? t start = some u ↔ t = start ++ u := by
  induction start generalizing t with
  | nil =>
    cases t <;> simp [dropPrefix?]
  | cons d start ih =>
    cases t with
    | nil => simp [dropPrefix?]
    | cons c t =>
      rw [dropPrefix?]
      by_cases h : c = d
      · simp [h, ih]
      · simp [h]

end HtGate.Text
