import HtGate.Proofs.Divergence.Rules
/-!
# Heads that make a difference

A head that is not faithful names a module with an exclamation mark in front. A block with that head is
exposed with nothing inside but that all are denied. With that, every statement that is not faithful is
exposed.
-/

namespace HtGate

open Directive (statements statementsOf)
open Printer (print)

namespace Parser.State

/-- A line that states the head of a block opens the block. -/
lemma step_of_opening {raw : Text} {head : BlockHead}
    (h : Statement.ofLine? (Text.trim raw) = some (.opening head)) (s : State) (number : Nat) :
    ∃ tag, closes head.kind.tag ⟨number, tag, head, []⟩ = true ∧
      s.step number raw = .ok { s with frames := ⟨number, tag, head, []⟩ :: s.frames } := by
  obtain ⟨u, tag, hline, hslash, hread⟩ := Statement.tag_of_ofLine? h
  refine ⟨tag, beq_iff_eq.2 (BlockTag.lower_tag_of_read? hread), ?_⟩
  rw [hline] at hread
  have hstep : s.step number raw = .ok (s.openLine number ('<' :: u)) := by
    simp only [step, hline]
  rw [hstep, openLine_eq, hread]

end Parser.State

/-- A block with nothing inside but that all are denied. -/
def denying (head : BlockHead) (a b : Int) : List Directive :=
  [.block a head [.rule b { kind := .requireAllDenied }]]

/-- A line that opens a block, a line that denies all and the line that closes the block are read as the
block. -/
lemma parse_of_opening {line : Text} {head : BlockHead} (hline : line.OneLine)
    (hhead : Statement.ofLine? (Text.trim line) = some (.opening head)) :
    parse ([line, "Require all denied".toList, Printer.closeTag head.kind].flatMap (· ++ ['\n'])) =
      .ok ⟨denying head 1 2, []⟩ := by
  obtain ⟨tag, htag, hopen⟩ := Parser.State.step_of_opening hhead {} 1
  have hlines : ∀ l ∈ [line, "Require all denied".toList, Printer.closeTag head.kind],
      l.OneLine := by
    have hclose : (Printer.closeTag head.kind).OneLine := by cases head.kind <;> decide
    simp [hline, hclose]
  have htrim : Text.trim (Printer.closeTag head.kind) = Printer.closeTag head.kind :=
    Text.trim_eq_self_iff.2 (.inr ⟨⟨'<', rfl, rfl⟩, Text.endsSolid_concat _ rfl⟩)
  have hinner : Parser.State.step { frames := [⟨1, tag, head, []⟩] } 2 "Require all denied".toList =
      .ok { frames := [⟨1, tag, head, [.rule 2 { kind := .requireAllDenied }]⟩] } := rfl
  have hclose : Parser.State.step
      { frames := [⟨1, tag, head, [.rule 2 { kind := .requireAllDenied }]⟩] } 3
        (Printer.closeTag head.kind) = .ok _ := Parser.State.step_closeTag htrim rfl htag
  rw [parse, Text.splitOn_lines hlines]
  simp only [List.cons_append, List.nil_append]
  rw [Parser.State.run_cons_of_step hopen, Parser.State.run_cons_of_step hinner,
    Parser.State.run_cons_of_step hclose]
  rfl

/-- The written form of such a block. -/
lemma print_denying {head : BlockHead} {first : Text} (h : Printer.openTag head = .ok first) (a b : Int) :
    print [] (denying head a b) =
      .ok ([first, "Require all denied".toList, Printer.closeTag head.kind].flatMap (· ++ ['\n'])) := by
  have hlines : Printer.linesAll [] 0 (denying head a b) =
      .ok [first, "Require all denied".toList, Printer.closeTag head.kind] :=
    Printer.linesAll_block_iff.2 ⟨first, ["Require all denied".toList], [], h, rfl, rfl, rfl⟩
  rw [print, hlines]
  rfl

/-- Such a block turns every client away where its head applies. -/
lemma ofDirectives_denying (world : Surroundings) {head : BlockHead} {a b : Int}
    (h : Selection.select world.modules (Evaluation.request none) (denying head a b) =
      .ok [.rule b { kind := .requireAllDenied }]) :
    ∃ e, Evaluation.ofDirectives world (denying head a b) (Evaluation.request none) = .ok e ∧
      e.decision.verdict = .denied := by
  rw [Evaluation.ofDirectives_of_select [.rule b { kind := .requireAllDenied }] h rfl]
  exact Evaluation.ofDirectives_denied world b

/-- Such a block lets every client in where its head does not apply. -/
lemma ofDirectives_skipped (world : Surroundings) {head : BlockHead} {a b : Int}
    (h : Selection.select world.modules (Evaluation.request none) (denying head a b) = .ok []) :
    ∃ e, Evaluation.ofDirectives world (denying head a b) (Evaluation.request none) = .ok e ∧
      e.decision.verdict = .allowed := by
  rw [Evaluation.ofDirectives_of_select [] h rfl]
  exact Evaluation.ofDirectives_nil world

/-- The opening tag of a module whose name begins with a mark states the negation of another module. -/
lemma ofLine?_marked {name : Text} (hne : name ≠ []) (hspace : ∀ c ∈ name, Text.isWhitespace c = false)
    (hquote : '"' ∉ name) :
    Statement.ofLine? (Text.trim ("<IfModule !".toList ++ (name ++ ['>']))) =
      some (.opening { kind := .ifModule, name := some ('!' :: name), negated := true }) := by
  have hmarked : ∀ c ∈ '!' :: name, Text.isWhitespace c = false :=
    List.forall_mem_cons.2 ⟨rfl, hspace⟩
  have htrim : Text.trim ("<IfModule !".toList ++ (name ++ ['>'])) =
      "<IfModule !".toList ++ (name ++ ['>']) :=
    Text.trim_eq_self_iff.2 (.inr ⟨⟨'<', rfl, rfl⟩, (Text.endsSolid_concat name rfl).append _⟩)
  have hargument : BlockTag.argument? (Text.trimStart name) = some name := by
    rw [Text.trimStart_eq_self_iff.2 (.inr (Text.startsSolid_of_all hne hspace))]
    have hany : name.any Text.isWhitespace = false := by simpa using hspace
    unfold BlockTag.argument?
    split
    · exact absurd rfl hne
    · exact absurd List.mem_cons_self hquote
    · rw [hany]
      rfl
  have hargumentTrim : Text.trim ('!' :: name) = '!' :: name :=
    Text.trim_eq_self_iff.2 (.inr ⟨Text.startsSolid_of_all (List.cons_ne_nil _ _) hmarked,
      Text.endsSolid_of_all (List.cons_ne_nil _ _) hmarked⟩)
  have hread : BlockTag.read? ("<IfModule !".toList ++ (name ++ ['>'])) =
      some (BlockKind.ifModule.tag,
        { kind := .ifModule, name := some ('!' :: name), negated := true }) := by
    rw [BlockTag.read?, show "<IfModule !".toList ++ (name ++ ['>']) =
      BlockTag.tagLine ['<'] BlockKind.ifModule.tag (BlockTag.spaced ('!' :: name)) from rfl,
      BlockTag.opening?_tagLine .ifModule hargumentTrim]
    simp [BlockTag.kind?_tag, BlockTag.head?, hargument]
  rw [htrim]
  exact (Statement.ofLine?_bracket (c := 'I') (by decide)).trans (congrArg _ hread)

/-- A block for a module without a name changes: its opening tag cannot be read, and what was inside
stands outside. -/
lemma diverges_of_nameless :
    Directive.Diverges (denying { kind := .ifModule, name := some ['!'] } 1 2) := by
  have hprint : Printer.openTag { kind := .ifModule, name := some ['!'] } =
      .ok "<IfModule !>".toList := rfl
  obtain ⟨p, hparse, hp⟩ : ∃ p, parse "<IfModule !>\nRequire all denied\n</IfModule>\n".toList =
      .ok p ∧ p.directives = [.rule 2 { kind := .requireAllDenied }] := ⟨_, rfl, rfl⟩
  let world : Surroundings := { files := {}, modules := some [] }
  obtain ⟨e, he, hallowed⟩ := ofDirectives_skipped world
    (show Selection.select world.modules _
      (denying { kind := .ifModule, name := some ['!'] } 1 2) = _ from rfl)
  obtain ⟨e', he', hdenied⟩ := Evaluation.ofDirectives_denied world 2
  refine ⟨_, p, world, _, e, e', print_denying hprint 1 2, hparse, he, hp ▸ he', fun hsame => ?_⟩
  cases hdenied.symm.trans (hsame.verdict.trans hallowed)

/-- A block for a module whose name begins with a mark changes: its opening tag is read as the negation of
another module. -/
lemma diverges_of_marked {name : Text} (hne : name ≠ []) (hline : name.OneLine)
    (hspace : ∀ c ∈ name, Text.isWhitespace c = false) (hquote : '"' ∉ name)
    (hprint : Printer.openTag { kind := .ifModule, name := some ('!' :: name) } =
      .ok ("<IfModule !".toList ++ (name ++ ['>']))) :
    Directive.Diverges (denying { kind := .ifModule, name := some ('!' :: name) } 1 2) := by
  have hmarkedLine : Text.OneLine ("<IfModule !".toList ++ (name ++ ['>'])) := by
    simp [hline]
  let world : Surroundings := { files := {} }
  obtain ⟨e, he, hdenied⟩ := ofDirectives_denying world
    (show Selection.select world.modules _
      (denying { kind := .ifModule, name := some ('!' :: name) } 1 2) = _ from rfl)
  obtain ⟨e', he', hallowed⟩ := ofDirectives_skipped world
    (show Selection.select world.modules _
      (denying { kind := .ifModule, name := some ('!' :: name), negated := true } 1 2) = _ from rfl)
  -- with every module taken as loaded, the head lets its rule in and its negation keeps it out
  have hreparse := parse_of_opening hmarkedLine (ofLine?_marked hne hspace hquote)
  refine ⟨_, _, world, _, e, e', print_denying hprint 1 2, hreparse, he, he', fun hsame => ?_⟩
  cases hdenied.symm.trans (hsame.verdict.symm.trans hallowed)

/-- A head that is not stable is exposed: the module that it names is taken for the negation of another,
so that what it keeps inside is let out, or it cannot be read and what was inside holds for all. -/
theorem exposed_of_opening {line : Text} {head : BlockHead} (hline : line.OneLine)
    (hhead : Statement.ofLine? (Text.trim line) = some (.opening head)) (h : ¬head.Stable) :
    (Statement.opening head).Exposed := by
  have hw : head.WellFormed :=
    Statement.wellFormed_of_ofLine? (x := .opening head)
      (fun hm => hline (Text.mem_of_mem_trim hm)) hhead
  rw [BlockHead.Stable] at h
  push Not at h
  obtain ⟨hkind, hplain, t, ht, hmark, hspace⟩ := h
  obtain ⟨name, rfl⟩ := List.head?_eq_some_iff.1 hmark
  -- no head but one for a module can be unstable: its name begins with the mark and has no blank
  cases hw with
  | ifModule hn hquote =>
    cases ht
    have hspace' : ∀ c ∈ '!' :: name, Text.isWhitespace c = false := by simpa using hspace
    have hprint : Printer.openTag { kind := .ifModule, name := some ('!' :: name) } =
        .ok ("<IfModule !".toList ++ (name ++ ['>'])) := by
      have hwritten := (BlockTag.writtenAs_tagArgument hn).2.2 hspace'
      show Except.ok ("<IfModule ".toList ++ Printer.tagArgument ('!' :: name) ++ ['>']) = _
      rw [hwritten]
      simp
    refine ⟨_, _, parse_of_opening hline hhead, by simp [denying, statements, statementsOf], ?_⟩
    rcases eq_or_ne name [] with rfl | hne
    · exact diverges_of_nameless
    · exact diverges_of_marked hne (Text.oneLine_cons.1 hn.oneLine).2
        (fun c hc => hspace' c (List.mem_cons_of_mem _ hc))
        (fun hm => hquote rfl (List.mem_cons_of_mem _ hm)) hprint
  | files | filesMatch => cases hkind
  | ifModuleNot => cases hplain
  | require | limit => cases ht

/-- Every statement of a line that is not faithful is exposed. -/
theorem Statement.exposed_of_not_faithful {x : Statement} (hx : x.IsRead) (h : ¬x.Faithful) :
    x.Exposed := by
  obtain ⟨line, hline, hx⟩ := hx
  cases x with
  | rule r => exact exposed_of_rule hline hx h
  | opening head => exact exposed_of_opening hline hx h

end HtGate
