import HtGate.Directive.Parser
import HtGate.Proofs.Directive.Forest
import HtGate.Proofs.Directive.HeadLine
import HtGate.Proofs.Directive.RuleRoundTrip
/-!
# Statements and lines

A statement is written as one line, and a line states at most one thing. What a line states is
well-formed, and a well-formed statement is what its line states exactly if it is stable.
-/

namespace HtGate.Statement

/-- The statements that lines make. -/
def WellFormed : Statement → Prop
  | rule r => r.WellFormed
  | opening head => head.WellFormed

/-- Whether the line that a statement is written as says what the statement says. -/
def Stable : Statement → Prop
  | rule r => r.Stable
  | opening head => head.Stable

/-- The line that a statement is written as. -/
def written : Statement → Except Fault Text
  | rule r => Printer.rule r
  | opening head => Printer.openTag head

/-- What a trimmed line states by itself. -/
def ofLine? (line : Text) : Option Statement :=
  match line with
  | [] => none
  | '#' :: _ => none
  | '<' :: '/' :: _ => none
  | '<' :: _ => (BlockTag.read? line).map fun (_, head) => .opening head
  | _ =>
    match RuleReader.read line with
    | .ok ⟨some r, _⟩ => some (.rule r)
    | _ => none

/-- A line without a mark in front states the rule that it is read as. -/
lemma ofLine?_unmarked {line : Text} (hnil : line ≠ []) (hhash : ∀ u, line ≠ '#' :: u)
    (hopen : ∀ u, line ≠ '<' :: u) :
    ofLine? line =
      match RuleReader.read line with
      | .ok ⟨some r, _⟩ => some (.rule r)
      | _ => none := by
  unfold ofLine?
  split
  · exact absurd rfl hnil
  · exact absurd rfl (hhash _)
  · exact absurd rfl (hopen _)
  · exact absurd rfl (hopen _)
  · rfl

/-- A line that begins with a letter states the rule that it is read as. -/
lemma ofLine?_letter {c : Char} {u : Text} (hc : Text.isAsciiLetter c = true) :
    ofLine? (c :: u) =
      match RuleReader.read (c :: u) with
      | .ok ⟨some r, _⟩ => some (.rule r)
      | _ => none := by
  refine ofLine?_unmarked (List.cons_ne_nil c u) ?_ ?_ <;>
    · rintro v ⟨⟩
      cases hc

/-- A line that begins with a bracket states the head of the block that it opens. -/
lemma ofLine?_bracket {c : Char} {u : Text} (hc : c ≠ '/') :
    ofLine? ('<' :: c :: u) =
      (BlockTag.read? ('<' :: c :: u)).map fun (_, head) => .opening head := by
  unfold ofLine?
  split
  · rename_i h
    cases h
  · rename_i h
    cases h
  · rename_i h
    cases h
    exact absurd rfl hc
  · rfl
  · rename_i h
    exact absurd rfl (h _)

/-- A line that states a rule has no mark in front, and is read as the rule. -/
lemma read_of_ofLine? {line : Text} {r : Rule} (h : ofLine? line = some (.rule r)) :
    line ≠ [] ∧ (∀ u, line ≠ '#' :: u) ∧ (∀ u, line ≠ '<' :: u) ∧
      ∃ remarks, RuleReader.read line = .ok ⟨some r, remarks⟩ := by
  unfold ofLine? at h
  split at h
  · cases h
  · cases h
  · cases h
  · obtain ⟨_, -, hx⟩ := Option.map_eq_some_iff.1 h
    cases hx
  · rename_i hnil hhash _ hopen
    split at h
    · rename_i r' remarks hread
      cases h
      exact ⟨hnil, hhash, hopen, remarks, hread⟩
    · cases h

/-- What is read as a rule, with no mark in front, states the rule. -/
lemma ofLine?_of_read {line : Text} {r : Rule} {remarks : List Remark} (hnil : line ≠ [])
    (hhash : ∀ u, line ≠ '#' :: u) (hopen : ∀ u, line ≠ '<' :: u)
    (hread : RuleReader.read line = .ok ⟨some r, remarks⟩) : ofLine? line = some (.rule r) := by
  rw [ofLine?_unmarked hnil hhash hopen, hread]

/-- What is read as an opening tag states the head of the block. -/
lemma ofLine?_of_tag {u tag : Text} {head : BlockHead} (hslash : ∀ v, u ≠ '/' :: v)
    (hread : BlockTag.read? ('<' :: u) = some (tag, head)) :
    ofLine? ('<' :: u) = some (.opening head) := by
  -- the line begins with a bracket, so that it is neither empty nor a comment
  unfold ofLine?
  split
  · rename_i heq
    cases heq
  · rename_i heq
    cases heq
  · rename_i v heq
    cases heq
    exact absurd rfl (hslash v)
  · rw [hread]
    rfl
  · rename_i hnot
    exact absurd rfl (hnot u)

/-- A line that states the head of a block is a tag that is read as the head. -/
lemma tag_of_ofLine? {line : Text} {head : BlockHead} (h : ofLine? line = some (.opening head)) :
    ∃ u tag, line = '<' :: u ∧ (∀ v, u ≠ '/' :: v) ∧ BlockTag.read? line = some (tag, head) := by
  unfold ofLine? at h
  split at h
  · cases h
  · cases h
  · cases h
  · rename_i u hslash
    obtain ⟨⟨tag, head'⟩, hread, hx⟩ := Option.map_eq_some_iff.1 h
    cases hx
    exact ⟨u, tag, rfl, hslash, hread⟩
  · split at h <;> cases h

/-- What a line states is well-formed. -/
lemma wellFormed_of_ofLine? {line : Text} (hline : line.OneLine) {x : Statement}
    (h : ofLine? line = some x) : x.WellFormed := by
  unfold ofLine? at h
  split at h
  · cases h
  · cases h
  · cases h
  · obtain ⟨⟨tag, head⟩, hread, rfl⟩ := Option.map_eq_some_iff.1 h
    exact BlockTag.wellFormed_of_read? hline hread
  · split at h
    · rename_i r remarks hread
      cases h
      exact (RuleReader.wellFormed_of_read hline hread).1
    · cases h

/-- Whether a statement is what some line states. -/
def IsRead (x : Statement) : Prop :=
  ∃ line : Text, line.OneLine ∧ ofLine? (Text.trim line) = some x

/-- What is read is well-formed. -/
lemma IsRead.wellFormed {x : Statement} (h : x.IsRead) : x.WellFormed := by
  obtain ⟨line, hline, hx⟩ := h
  exact wellFormed_of_ofLine? (fun hm => hline (Text.mem_of_mem_trim hm)) hx

/-- A well-formed statement is written as one line, which states it exactly if it is stable. -/
theorem written_of_wellFormed {x : Statement} (h : x.WellFormed) :
    ∃ t, x.written = .ok t ∧ t.OneLine ∧ (ofLine? (Text.trim t) = some x ↔ x.Stable) := by
  cases x with
  | rule r =>
    obtain ⟨reader, u, hline⟩ := Rule.WellFormed.line h
    obtain ⟨t, hprint, ht, c, v, htrim, hc⟩ := hline.written
    refine ⟨t, hprint, ht, ?_⟩
    show _ ↔ r.Stable
    rw [← Rule.readsBack_iff_stable h, Rule.ReadsBack, htrim, ofLine?_letter hc]
    constructor
    · intro hread
      split at hread
      · rename_i r' remarks heq
        cases hread
        exact ⟨t, remarks, hprint, by rw [htrim, heq]⟩
      · cases hread
    · -- a rule has one text, so that the text read back is the one just written
      rintro ⟨t', remarks, hprint', hread⟩
      rw [hprint] at hprint'
      cases hprint'
      rw [htrim] at hread
      rw [hread]
  | opening head =>
    obtain ⟨argument, hopening⟩ := BlockTag.opening_of_wellFormed h
    obtain ⟨c, u, heq, hc, hline, htrim⟩ := hopening.line
    refine ⟨_, hopening.written, ?_, ?_⟩
    · rw [heq]
      exact Text.oneLine_cons.2 ⟨by decide, hline⟩
    · rw [htrim, heq, ofLine?_bracket hc, ← heq]
      simp only [Option.map_eq_some_iff, Prod.exists, opening.injEq, exists_eq_right,
        hopening.read?_iff]
      constructor
      · rintro ⟨_, -, hs⟩
        exact hs
      · exact fun hs => ⟨_, rfl, hs⟩

end HtGate.Statement
