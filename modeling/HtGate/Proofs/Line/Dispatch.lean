import HtGate.Proofs.Line.Keyword
/-!
# The table of keywords

A keyword begins a line exactly if the first word of the line, up to a blank, has the lower-case form of the
keyword, whatever characters the word is made of. No two keywords of the table have the same lower-case form, so
that at most one of them begins a line, though some are the start of others. In whatever order they are tried, the
line is read by the same reader, or by none.
-/

namespace HtGate

namespace RuleReader

/-- Whether the keyword of an entry of a table begins a line. -/
def begins (line : Text) (e : Text × RuleReader) : Bool := ((Cursor.start line).keyword e.1).1

section Order

variable {table table' : List (Text × RuleReader)} {line : Text} {e : Text × RuleReader}

/-- A keyword begins a line exactly if it is the first word of it in some case. -/
lemma begins_iff (he : e.1.IsKeyword) :
    begins line e = true ↔ Text.lower (Text.nextWord line) = Text.lower e.1 := by
  constructor
  · intro hbegins
    by_contra hnext
    rw [begins, Cursor.keyword_of_not_next (c := Cursor.start line) he hnext] at hbegins
    cases hbegins
  · intro hnext
    obtain ⟨c, hc, -⟩ := Cursor.keyword_of_next (c := Cursor.start line) he hnext
    rw [begins, hc]

/-- The keywords that begin a line differ in case alone, so that a table has one of them at most. -/
lemma length_filter_begins (htable : ∀ e ∈ table, e.1.IsKeyword) (hdistinct : Distinct table) :
    (table.filter (begins line)).length ≤ 1 := by
  have hsame : ∀ w ∈ (table.filter (begins line)).map (fun e => Text.lower e.1),
      w = Text.lower (Text.nextWord line) := by
    intro w hw
    obtain ⟨e, he, rfl⟩ := List.mem_map.1 hw
    obtain ⟨hmem, hbegins⟩ := List.mem_filter.1 he
    exact ((begins_iff (htable e hmem)).1 hbegins).symm
  have hnodup : ((table.filter (begins line)).map fun e => Text.lower e.1).Nodup :=
    List.Nodup.sublist (List.filter_sublist.map _) hdistinct
  rw [List.eq_replicate_of_mem hsame, List.nodup_replicate, List.length_map] at hnodup
  exact hnodup

/-- A line that the keyword of an entry begins is read by the entry's reader. -/
lemma readBy_of_begins (htable : ∀ e ∈ table, e.1.IsKeyword) (hdistinct : Distinct table) (he : e ∈ table)
    (hbegins : begins line e = true) :
    readBy table line = e.2 ((Cursor.start line).keyword e.1).2 :=
  readBy_of_standing htable hdistinct he (Prod.ext hbegins rfl)

/-- A line that no keyword begins is no rule. -/
lemma readBy_of_none (hnone : ∀ e ∈ table, begins line e = false) : readBy table line = .ok ⟨none, []⟩ := by
  rcases readBy_cases table line with hread | ⟨e, he, c, hc, -⟩
  · exact hread
  · have hbegins := hnone e he
    rw [begins, hc] at hbegins
    cases hbegins

/-- Keywords are distinct in any order. -/
lemma Distinct.perm (hdistinct : Distinct table) (hperm : table'.Perm table) : Distinct table' :=
  (hperm.map _).nodup_iff.2 hdistinct

/-- The order of a table makes no difference. -/
lemma readBy_perm (htable : ∀ e ∈ table, e.1.IsKeyword) (hdistinct : Distinct table)
    (hperm : table'.Perm table) : readBy table' line = readBy table line := by
  have htable' : ∀ e ∈ table', e.1.IsKeyword := fun e he => htable e (hperm.mem_iff.1 he)
  by_cases hbegins : ∃ e ∈ table, begins line e = true
  · obtain ⟨e, he, hb⟩ := hbegins
    rw [readBy_of_begins htable hdistinct he hb,
      readBy_of_begins htable' (hdistinct.perm hperm) (hperm.mem_iff.2 he) hb]
  · have hnone : ∀ e ∈ table, begins line e = false := fun e he =>
      Bool.eq_false_iff.2 fun hb => hbegins ⟨e, he, hb⟩
    rw [readBy_of_none hnone, readBy_of_none fun e he => hnone e (hperm.mem_iff.1 he)]

end Order

/-- A keyword of the table begins a line exactly if it is the first word of it in some case; at most one keyword
does; and in whatever order the keywords are tried, the line is read alike. -/
theorem read_any_order (line : Text) :
    (∀ e ∈ table, begins line e = true ↔ Text.lower (Text.nextWord line) = Text.lower e.1) ∧
      (table.filter (begins line)).length ≤ 1 ∧
      ∀ table' : List (Text × RuleReader), table'.Perm table → readBy table' line = read line := by
  refine ⟨fun e he => begins_iff (isKeyword_of_mem_table e he),
    length_filter_begins isKeyword_of_mem_table distinct_table, fun table' hperm => ?_⟩
  exact readBy_perm isKeyword_of_mem_table distinct_table hperm

/-- A line whose keyword begins with another keyword. -/
def redirectMatchLine : Text := "RedirectMatch 301 ^/a$ /b".toList

/-- A keyword that is the start of another is not taken for it, whichever of them is tried first. -/
theorem read_reversed_order :
    ("Redirect".toList, redirect .redirect) ∈ table ∧
      (begins redirectMatchLine ("Redirect".toList, redirect .redirect) = true ↔
        Text.lower (Text.nextWord redirectMatchLine) = Text.lower "Redirect".toList) ∧
      (table.filter (begins redirectMatchLine)).length ≤ 1 ∧
      table.reverse.Perm table ∧
      readBy table.reverse redirectMatchLine = read redirectMatchLine ∧
      read redirectMatchLine = .ok ⟨some
        { kind := .redirectMatch, value := "/b".toList, detail := .redirect 301 "^/a$".toList }, []⟩ := by
  obtain ⟨hbegins, hone, hread⟩ := read_any_order redirectMatchLine
  have hmem : ("Redirect".toList, redirect .redirect) ∈ table := by
    simp only [table, List.mem_cons, true_or, or_true]
  have hperm : table.reverse.Perm table := List.reverse_perm table
  exact ⟨hmem, hbegins _ hmem, hone, hperm, hread _ hperm, by rfl⟩

end RuleReader

end HtGate
