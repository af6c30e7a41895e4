import HtGate.Proofs.Line.Attempts
/-!
# Reading written forms back

What the written form puts between quotes, reading takes out of them again. A value up to the end of the line is
read back behind any word, whatever the value is. A text that is written as one word is read back, and the cursor
is left right behind it, unless it begins with a quote or has a quote together with whitespace: those are the texts
that no written form of a word could be made for.
-/

namespace HtGate

namespace Cursor

variable {c c' : Cursor} {t u lead : Text}

/-- Where reading leaves the cursor, if it is known what it leaves of the line. -/
lemma Onward.eq_of_remaining (h : Onward c c') (htext : c.text = t ++ u) (hr : c'.remaining = u) :
    c' = ⟨t ++ u, t.length⟩ := by
  obtain ⟨text, pos⟩ := c'
  obtain rfl : text = t ++ u := h.text.trans htext
  have hwithin := h.within
  have hlength := congrArg List.length hr
  simp only [remaining, List.length_drop, List.length_append] at hwithin hlength
  obtain rfl : pos = t.length := by omega
  rfl

/-- A written word in front of a text is read back exactly if it does not begin with a quote and has no quote or no
whitespace; the cursor is then left behind it. -/
lemma token_start_written_iff (hu : EndsWord u) :
    (start (Printer.word t ++ u)).token = (some t, ⟨Printer.word t ++ u, (Printer.word t).length⟩) ↔
      t.IsPlain ∧ t.head? ≠ some '"' := by
  have hskip : (start (Printer.word t ++ u)).remaining.dropWhile Text.isBlank = Printer.word t ++ u :=
    dropWhile_word t u
  constructor
  · exact isPlain_of_token_written hskip
  · rintro ⟨hp, hq⟩
    obtain ⟨c', hread, hr⟩ := token_of_written hp hq hu hskip
    have honward : (start (Printer.word t ++ u)).Onward c' := by
      have htoken := token_onward (c := start (Printer.word t ++ u)) (Nat.zero_le _)
      rwa [hread] at htoken
    rw [hread, honward.eq_of_remaining rfl hr]

/-- A written value is read back behind a word. -/
lemma rest_behind_word (hsolid : lead.StartsSolid) (hblank : ∀ d ∈ lead, Text.isBlank d = false)
    (hq : lead.head? ≠ some '"') (v : Text) :
    ∃ c', (start (Text.trim (lead ++ ' ' :: Printer.rest v))).token = (some lead, c') ∧
      c'.rest? = some v := by
  have htrim : Text.trim (lead ++ ' ' :: Printer.rest v) = lead ++ ' ' :: Printer.rest v :=
    Text.trim_eq_self_iff.2 <| .inr
      ⟨hsolid.append _, ((Printer.endsSolid_rest v).cons ' ').append lead⟩
  have hskip : (start (lead ++ ' ' :: Printer.rest v)).remaining.dropWhile Text.isBlank =
      lead ++ ' ' :: Printer.rest v := by
    obtain ⟨d, w, rfl⟩ := List.exists_cons_of_ne_nil hsolid.ne_nil
    exact List.dropWhile_cons_of_neg (by simp [hblank d (by simp)])
  obtain ⟨c', hread, hr⟩ := token_of_word hskip hsolid.ne_nil hq hblank (endsWord_blank _)
  rw [htrim]
  exact ⟨c', hread, rest?_of_rest hr⟩

/-- Reading undoes the quotes of written forms: those of every value, and those of the words that have a written
form at all. -/
theorem quoting_undone :
    (∀ v : Text, (start (Text.trim ("x ".toList ++ Printer.rest v))).token.2.rest.1 = some v) ∧
    ∀ s t : Text,
      (start (Printer.word s ++ ' ' :: t)).token =
        (some s, ⟨Printer.word s ++ ' ' :: t, (Printer.word s).length⟩) ↔
      s.IsPlain ∧ s.head? ≠ some '"' := by
  refine ⟨fun v => ?_, fun s t => token_start_written_iff (endsWord_blank t)⟩
  have hsolid : Text.StartsSolid ['x'] := ⟨'x', rfl, rfl⟩
  have hblank : ∀ d ∈ ['x'], Text.isBlank d = false := List.forall_mem_singleton.2 rfl
  obtain ⟨c', hread, hrest⟩ := rest_behind_word hsolid hblank (by decide) v
  have hx : "x ".toList ++ Printer.rest v = ['x'] ++ ' ' :: Printer.rest v := rfl
  rw [hx, hread]
  exact hrest

end Cursor

end HtGate
