import HtGate.Directive.BlockTag
import HtGate.Proofs.Directive.WellFormed
/-!
# Heads of blocks that survive writing and reading

The opening tag of a block is read as the same tag again, with the same head exactly if the head is
stable. All heads are but those of a module whose name begins with an exclamation mark and is not put
between quotes: they read as the negation of another module.
-/

namespace HtGate

namespace Text

/-- An argument as a tag can hold it: not empty, not opened by a quote, without whitespace if it holds a
quote, and on one line. -/
structure IsArgument (t : Text) : Prop where
  ne_nil : t ≠ []
  head_ne : t.head? ≠ some '"'
  isPlain : t.IsPlain
  oneLine : t.OneLine

end Text

namespace BlockHead

open Text (IsArgument OneLine)

/-- The heads that opening tags are read as. -/
inductive WellFormed : BlockHead → Prop where
  | files {name} :
    IsArgument name →
    WellFormed { kind := .files, name := some name }
  | filesMatch {pattern} :
    IsArgument pattern →
    WellFormed { kind := .filesMatch, pattern := some pattern }
  | ifModule {name} :
    IsArgument name → (name.head? = some '!' → '"' ∉ name) →
    WellFormed { kind := .ifModule, name := some name }
  | ifModuleNot {name} :
    IsArgument name →
    WellFormed { kind := .ifModule, name := some ('!' :: name), negated := true }
  | require {kind} :
    kind = .requireAny ∨ kind = .requireAll →
    WellFormed { kind }
  | limit {kind methods} :
    kind = .limit ∨ kind = .limitExcept → methods ≠ [] → Text.trim methods = methods →
    OneLine methods →
    WellFormed { kind, methods := some methods }

/-- Whether the opening tag of a block says what its head says: the name of a module does not look like
a negation, unless it is put between quotes. -/
def Stable (head : BlockHead) : Prop :=
  head.kind = .ifModule → head.negated = false →
    ∀ t ∈ head.name, t.head? = some '!' → ∃ c ∈ t, Text.isWhitespace c = true

end BlockHead

namespace BlockTag

open Text (IsArgument OneLine)

/-- The word of an opening tag with the head of the block that it opens. -/
def read? (line : Text) : Option (Text × BlockHead) := do
  let (tag, argument) ← opening? line
  let kind ← kind? tag
  let head ← head? kind argument
  some (tag, head)

/-- An argument stands between quotes, or it has neither whitespace nor a quote in front. -/
lemma argument?_cases {a t : Text} (h : argument? a = some t) :
    t ≠ [] ∧ (a = Printer.enclose t ∧ '"' ∉ t ∨
      a = t ∧ t.head? ≠ some '"' ∧ ∀ c ∈ t, Text.isWhitespace c = false) := by
  unfold argument? at h
  split at h
  · cases h
  · rename_i rest
    simp only [Bool.and_eq_true, Bool.not_eq_true', List.isEmpty_eq_false_iff, beq_iff_eq,
      Option.ite_none_right_eq_some, Option.some.injEq] at h
    obtain ⟨⟨⟨hlast, hquote⟩, hne⟩, rfl⟩ := h
    obtain ⟨u, rfl⟩ := List.getLast?_eq_some_iff.1 hlast
    rw [List.dropLast_concat] at hquote hne ⊢
    refine ⟨hne, .inl ⟨rfl, ?_⟩⟩
    simpa using hquote
  · rename_i hne hquote
    simp only [Option.ite_none_left_eq_some, Option.some.injEq, List.any_eq_true, not_exists,
      not_and, Bool.not_eq_true] at h
    obtain ⟨hspace, rfl⟩ := h
    refine ⟨hne, .inr ⟨rfl, ?_, hspace⟩⟩
    intro hq
    obtain ⟨u, hu⟩ := List.head?_eq_some_iff.1 hq
    exact hquote u hu

/-- What is read as an argument of a tag on one line is one. -/
lemma isArgument_of_argument? {a t : Text} (ha : a.OneLine) (h : argument? a = some t) :
    t.IsArgument := by
  obtain ⟨hne, ⟨rfl, hq⟩ | ⟨rfl, hq, hspace⟩⟩ := argument?_cases h
  · refine ⟨hne, fun hh => hq (List.mem_of_mem_head? hh), fun hm => absurd hm hq, ?_⟩
    simp only [Printer.enclose, Text.oneLine_cons, List.cons_append, Text.oneLine_append] at ha
    exact ha.2.1
  · exact ⟨hne, hq, fun _ => hspace, ha⟩

/-- The head that is read from an argument on one line is well-formed. -/
lemma wellFormed_of_head? {kind : BlockKind} {argument : Text} {head : BlockHead}
    (hline : argument.OneLine) (htrim : Text.trim argument = argument)
    (h : head? kind argument = some head) : head.WellFormed := by
  cases kind with
  | requireAny =>
    simp only [head?, Option.ite_none_right_eq_some, Option.some.injEq] at h
    obtain ⟨-, rfl⟩ := h
    exact .require (.inl rfl)
  | requireAll =>
    simp only [head?, Option.ite_none_right_eq_some, Option.some.injEq] at h
    obtain ⟨-, rfl⟩ := h
    exact .require (.inr rfl)
  | limit =>
    simp only [head?, Option.ite_none_left_eq_some, Option.some.injEq] at h
    obtain ⟨hne, rfl⟩ := h
    exact .limit (.inl rfl) (by simpa using hne) htrim hline
  | limitExcept =>
    simp only [head?, Option.ite_none_left_eq_some, Option.some.injEq] at h
    obtain ⟨hne, rfl⟩ := h
    exact .limit (.inr rfl) (by simpa using hne) htrim hline
  | files =>
    obtain ⟨name, hname, rfl⟩ := Option.map_eq_some_iff.1 h
    exact .files (isArgument_of_argument? hline hname)
  | filesMatch =>
    obtain ⟨pattern, hpattern, rfl⟩ := Option.map_eq_some_iff.1 h
    exact .filesMatch (isArgument_of_argument? hline hpattern)
  | ifModule =>
    simp only [head?] at h
    split at h
    · rename_i rest
      obtain ⟨name, hname, rfl⟩ := Option.map_eq_some_iff.1 h
      have hrest : (Text.trimStart rest).OneLine := fun hm =>
        (Text.oneLine_cons.1 hline).2 ((List.dropWhile_sublist _).subset hm)
      exact .ifModuleNot (isArgument_of_argument? hrest hname)
    · rename_i hmark
      obtain ⟨name, hname, rfl⟩ := Option.map_eq_some_iff.1 h
      refine .ifModule (isArgument_of_argument? hline hname) fun hhead => ?_
      -- a name with a mark in front that is no negation stands between quotes
      obtain ⟨-, ⟨-, hq⟩ | ⟨rfl, -⟩⟩ := argument?_cases hname
      · exact hq
      · obtain ⟨u, hu⟩ := List.head?_eq_some_iff.1 hhead
        exact absurd hu (hmark u)

/-- The argument of an opening tag is trimmed, and its characters stand on the line. -/
lemma opening?_spec {line tag argument : Text} (h : opening? line = some (tag, argument)) :
    Text.trim argument = argument ∧ argument ⊆ line := by
  simp only [opening?, split?, Option.bind_eq_bind, Option.bind_eq_some_iff, Prod.exists,
    Option.ite_none_right_eq_some, Option.some.injEq, Prod.mk.injEq] at h
  obtain ⟨word, rest, ⟨t, ht, -, rfl, rfl⟩, h⟩ := h
  have hsub : (t.drop (t.takeWhile Text.isAsciiLetter).length).dropLast ⊆ line := by
    rw [Text.dropPrefix?_eq_some_iff.1 ht]
    intro c hc
    exact List.mem_append_right _ (List.drop_subset _ _ (List.dropLast_subset _ hc))
  split at h
  · cases h
    exact ⟨rfl, List.nil_subset _⟩
  · split at h
    · cases h
      exact ⟨Text.trim_trim _, fun c hc => hsub (Text.mem_of_mem_trim hc)⟩
    · cases h

/-- The head that is read from a line is well-formed. -/
lemma wellFormed_of_read? {line tag : Text} {head : BlockHead} (hline : line.OneLine)
    (h : read? line = some (tag, head)) : head.WellFormed := by
  simp only [read?, Option.bind_eq_bind, Option.bind_eq_some_iff, Prod.exists, Option.some.injEq,
    Prod.mk.injEq] at h
  obtain ⟨word, argument, hopen, kind, -, head', hhead, -, rfl⟩ := h
  obtain ⟨htrim, hsub⟩ := opening?_spec hopen
  exact wellFormed_of_head? (fun hm => hline (hsub hm)) htrim hhead

/-- The head of a kind is of that kind. -/
lemma kind_of_head? {kind : BlockKind} {argument : Text} {head : BlockHead}
    (h : head? kind argument = some head) : head.kind = kind := by
  cases kind with
  | requireAny | requireAll =>
    simp only [head?, Option.ite_none_right_eq_some, Option.some.injEq] at h
    rw [← h.2]
  | limit | limitExcept =>
    simp only [head?, Option.ite_none_left_eq_some, Option.some.injEq] at h
    rw [← h.2]
  | files | filesMatch =>
    obtain ⟨t, -, rfl⟩ := Option.map_eq_some_iff.1 h
    rfl
  | ifModule =>
    simp only [head?] at h
    split at h
    all_goals
      obtain ⟨t, -, rfl⟩ := Option.map_eq_some_iff.1 h
      rfl

/-- The word of a tag that is read names the kind of the head, in any case. -/
lemma lower_tag_of_read? {line tag : Text} {head : BlockHead} (h : read? line = some (tag, head)) :
    Text.lower tag = Text.lower head.kind.tag := by
  simp only [read?, Option.bind_eq_bind, Option.bind_eq_some_iff, Prod.exists, Option.some.injEq,
    Prod.mk.injEq] at h
  obtain ⟨word, argument, -, kind, hkind, head', hhead, rfl, rfl⟩ := h
  rw [kind_of_head? hhead]
  have hsame := List.find?_some hkind
  exact (eq_of_beq hsame).symm

/-- A tag with its brackets. -/
def tagLine (start tag u : Text) : Text := start ++ (tag ++ (u ++ ['>']))

/-- The word of a tag is letters. -/
lemma isAsciiLetter_of_mem_tag (kind : BlockKind) :
    kind.tag ≠ [] ∧ ∀ c ∈ kind.tag, Text.isAsciiLetter c = true := by
  have h : kind.tag ≠ [] ∧ kind.tag.all Text.isAsciiLetter = true := by cases kind <;> decide
  exact ⟨h.1, List.all_eq_true.1 h.2⟩

/-- The word of a tag names its kind. -/
lemma kind?_tag (kind : BlockKind) : kind? kind.tag = some kind := by
  cases kind <;> decide

/-- A tag is split where its word ends. -/
lemma split?_tagLine (start : Text) (kind : BlockKind) {u : Text}
    (hu : ∀ c ∈ (u ++ ['>']).head?, Text.isAsciiLetter c = false) :
    split? start (tagLine start kind.tag u) = some (kind.tag, u) := by
  obtain ⟨hne, hletters⟩ := isAsciiLetter_of_mem_tag kind
  have hstop : (u ++ ['>']).takeWhile Text.isAsciiLetter = [] := by
    cases hcons : u ++ ['>'] with
    | nil => rfl
    | cons c v =>
      rw [hcons] at hu
      exact List.takeWhile_cons_of_neg (by simp [hu c rfl])
  have hword : (kind.tag ++ (u ++ ['>'])).takeWhile Text.isAsciiLetter = kind.tag := by
    rw [List.takeWhile_append_of_pos hletters, hstop, List.append_nil]
  have hdrop : Text.dropPrefix? (tagLine start kind.tag u) start =
      some (kind.tag ++ (u ++ ['>'])) := Text.dropPrefix?_eq_some_iff.2 rfl
  have hempty : kind.tag.isEmpty = false := by simpa using hne
  simp only [split?, hdrop, Option.bind_eq_bind, Option.bind_some, hword, hempty, List.drop_left]
  simp

/-- The closing tag of a kind is read. -/
lemma closing?_closeTag (kind : BlockKind) :
    closing? (Printer.closeTag kind) = some kind.tag := by
  have hsplit := split?_tagLine ['<', '/'] kind (u := []) (by rintro c ⟨⟩; rfl)
  have hline : Printer.closeTag kind = tagLine ['<', '/'] kind.tag [] := rfl
  rw [closing?, hline, hsplit]
  rfl

/-- What stands between the word of an opening tag and its closing bracket. -/
def spaced (argument : Text) : Text := if argument = [] then [] else ' ' :: argument

/-- The opening tag of a kind is read with a trimmed argument. -/
lemma opening?_tagLine (kind : BlockKind) {argument : Text}
    (h : Text.trim argument = argument) :
    opening? (tagLine ['<'] kind.tag (spaced argument)) = some (kind.tag, argument) := by
  have hspaced : ∀ c ∈ (spaced argument ++ ['>']).head?, Text.isAsciiLetter c = false := by
    rw [spaced]
    split <;> · rintro c ⟨⟩; rfl
  rw [opening?, split?_tagLine ['<'] kind hspaced, spaced]
  by_cases hne : argument = []
  · simp [hne]
  · have hblank : Text.isWhitespace ' ' = true := rfl
    simp [hne, hblank, Text.trim_cons_blank, h]

/-- The two written forms of an argument: between quotes, or as it is. -/
structure WrittenAs (t w : Text) : Prop where
  argument : IsArgument t
  form : w = t ∧ (∀ c ∈ t, Text.isWhitespace c = false) ∨ w = Printer.enclose t ∧ '"' ∉ t

namespace WrittenAs

variable {t w : Text}

/-- The written form of an argument is not empty and needs no trimming. -/
lemma solid (h : WrittenAs t w) : w ≠ [] ∧ Text.StartsSolid w ∧ Text.EndsSolid w := by
  obtain ⟨hne, hhead, hplain, hline⟩ := h.argument
  rcases h.form with ⟨rfl, hspace⟩ | ⟨rfl, -⟩
  · exact ⟨hne, Text.startsSolid_of_all hne hspace, Text.endsSolid_of_all hne hspace⟩
  · exact ⟨nofun, ⟨'"', rfl, rfl⟩, Text.endsSolid_concat ('"' :: t) rfl⟩

/-- The written form of an argument stands on one line. -/
lemma oneLine (h : WrittenAs t w) : w.OneLine := by
  rcases h.form with ⟨rfl, -⟩ | ⟨rfl, -⟩
  · exact h.argument.oneLine
  · simpa [Printer.enclose] using h.argument.oneLine

/-- The written form of an argument is read as the argument. -/
lemma argument? (h : WrittenAs t w) : BlockTag.argument? w = some t := by
  obtain ⟨hne, hhead, hplain, hline⟩ := h.argument
  rcases h.form with ⟨rfl, hspace⟩ | ⟨rfl, hq⟩
  · have hany : w.any Text.isWhitespace = false := by
      simpa using hspace
    unfold BlockTag.argument?
    split
    · exact absurd rfl hne
    · exact absurd rfl hhead
    · rw [hany]
      rfl
  · have hlast : (t ++ ['"']).getLast? = some '"' := List.getLast?_concat
    simp [Printer.enclose, BlockTag.argument?, hq, hne]

end WrittenAs

/-- The form that the argument of a tag is written in. -/
lemma writtenAs_tagArgument {t : Text} (h : IsArgument t) :
    WrittenAs t (Printer.tagArgument t) ∧
      (Printer.tagArgument t = t ↔ ∀ c ∈ t, Text.isWhitespace c = false) := by
  rw [Printer.tagArgument]
  by_cases hq : '"' ∈ t
  · rw [if_pos (by simpa using hq)]
    exact ⟨⟨h, .inl ⟨rfl, h.isPlain hq⟩⟩, iff_of_true rfl (h.isPlain hq)⟩
  · rw [if_neg (by simpa using hq)]
    rcases Printer.word_cases t with ⟨hw, hcause⟩ | ⟨hw, -, hall⟩
    · rw [hw]
      refine ⟨⟨h, .inr ⟨rfl, hq⟩⟩, iff_of_false ?_ ?_⟩
      · intro heq
        have := congrArg List.head? heq
        exact h.head_ne this.symm
      · intro hall
        obtain ⟨c, hc, hs⟩ := hcause.resolve_left h.ne_nil
        rw [hall c hc] at hs
        cases hs
    · rw [hw]
      exact ⟨⟨h, .inl ⟨rfl, hall⟩⟩, iff_of_true rfl hall⟩

/-- The form that the pattern of a tag is written in. -/
lemma writtenAs_pattern {t : Text} (h : IsArgument t) :
    WrittenAs t (if t.contains '"' then t else Printer.enclose t) := by
  by_cases hq : '"' ∈ t
  · rw [if_pos (by simpa using hq)]
    exact ⟨h, .inl ⟨rfl, h.isPlain hq⟩⟩
  · rw [if_neg (by simpa using hq)]
    exact ⟨h, .inr ⟨rfl, hq⟩⟩

/-- An opening tag as it is written, with what is read of its argument. -/
structure OpeningOf (head : BlockHead) (argument : Text) : Prop where
  written : Printer.openTag head = .ok (tagLine ['<'] head.kind.tag (spaced argument))
  trimmed : Text.trim argument = argument
  oneLine : argument.OneLine
  read_iff : head? head.kind argument = some head ↔ head.Stable

/-- A non-empty argument stands after a blank. -/
lemma spaced_of_ne_nil {argument : Text} (h : argument ≠ []) :
    spaced argument = ' ' :: argument := if_neg h

/-- The name of a module that is not negated is read back unless it looks like a negation. -/
lemma head?_ifModule {name : Text} (hn : IsArgument name) :
    head? .ifModule (Printer.tagArgument name) = some { kind := .ifModule, name := some name } ↔
      (name.head? = some '!' → ∃ c ∈ name, Text.isWhitespace c = true) := by
  obtain ⟨hw, hsame⟩ := writtenAs_tagArgument hn
  have hread := hw.argument?
  simp only [head?]
  split
  · -- what is written begins with a mark, so that it is the name
    rename_i rest heq
    have hspace : ∀ c ∈ name, Text.isWhitespace c = false := by
      rcases hw.form with ⟨-, hspace⟩ | ⟨hform, -⟩
      · exact hspace
      · rw [heq] at hform
        cases hform
    have hname : name = '!' :: rest := (hsame.2 hspace).symm.trans heq
    refine iff_of_false ?_ fun h => ?_
    · intro h
      obtain ⟨t, -, ht⟩ := Option.map_eq_some_iff.1 h
      cases ht
    · obtain ⟨c, hc, hs⟩ := h (by rw [hname]; rfl)
      rw [hspace c hc] at hs
      cases hs
  · rename_i hmark
    rw [hread]
    refine iff_of_true rfl fun hhead => ?_
    by_contra hspace
    have hspace : ∀ c ∈ name, Text.isWhitespace c = false := by simpa using hspace
    obtain ⟨rest, hrest⟩ := List.head?_eq_some_iff.1 hhead
    exact hmark rest ((hsame.2 hspace).trans hrest)

/-- An opening tag that holds the written form of an argument after a blank. -/
lemma WrittenAs.openingOf {t w : Text} (hw : WrittenAs t w) {head : BlockHead}
    (hwritten : Printer.openTag head = .ok (tagLine ['<'] head.kind.tag (' ' :: w)))
    (hread : head? head.kind w = some head ↔ head.Stable) : OpeningOf head w where
  written := by rw [hwritten, spaced_of_ne_nil hw.solid.1]
  trimmed := Text.trim_eq_self_iff.2 (.inr hw.solid.2)
  oneLine := hw.oneLine
  read_iff := hread

/-- Every head that a tag can be read as has an opening tag, which is read as the head exactly if the
head is stable. -/
lemma opening_of_wellFormed {head : BlockHead} (h : head.WellFormed) :
    ∃ argument, OpeningOf head argument := by
  cases h with
  | files hn =>
    obtain ⟨hw, -⟩ := writtenAs_tagArgument hn
    refine ⟨_, hw.openingOf rfl (iff_of_true ?_ nofun)⟩
    simp [head?, hw.argument?]
  | filesMatch hp =>
    have hw := writtenAs_pattern hp
    refine ⟨_, hw.openingOf rfl (iff_of_true ?_ nofun)⟩
    simp only [head?, hw.argument?, Option.map_some]
  | ifModule hn hmark =>
    obtain ⟨hw, -⟩ := writtenAs_tagArgument hn
    -- the one head with a condition: a name that begins with the mark is read as a negation
    refine ⟨_, hw.openingOf rfl ((head?_ifModule hn).trans ⟨fun hread _ _ t ht => ?_,
      fun hstable => ?_⟩)⟩
    · cases ht
      exact hread
    · exact hstable rfl rfl _ rfl
  | @ifModuleNot name hn =>
    obtain ⟨hw, -⟩ := writtenAs_tagArgument hn
    obtain ⟨hne, hstart, hend⟩ := hw.solid
    refine ⟨'!' :: Printer.tagArgument name, ?_, ?_, ?_, ?_⟩
    · rw [spaced_of_ne_nil (List.cons_ne_nil _ _)]
      rfl
    · exact Text.trim_eq_self_iff.2 (.inr ⟨⟨'!', rfl, rfl⟩, hend.cons '!'⟩)
    · exact Text.oneLine_cons.2 ⟨by decide, hw.oneLine⟩
    · refine iff_of_true ?_ nofun
      simp [head?, Text.trimStart_eq_self_iff.2 (.inr hstart), hw.argument?]
  | require hk =>
    refine ⟨[], ?_, rfl, Text.oneLine_nil, ?_⟩
    · rcases hk with rfl | rfl <;> rfl
    · rcases hk with rfl | rfl <;> exact iff_of_true rfl nofun
  | @limit kind methods hk hne htrim hline =>
    refine ⟨methods, ?_, htrim, hline, ?_⟩
    · rw [spaced_of_ne_nil hne]
      rcases hk with rfl | rfl <;> rfl
    · rcases hk with rfl | rfl <;> exact iff_of_true (by simp [head?, hne]) nofun

namespace OpeningOf

variable {head : BlockHead} {argument : Text}

/-- An opening tag is a bracket and what follows it, which is no slash, on one line. -/
lemma line (h : OpeningOf head argument) :
    ∃ c u, tagLine ['<'] head.kind.tag (spaced argument) = '<' :: c :: u ∧ c ≠ '/' ∧
      Text.OneLine (c :: u) ∧
      Text.trim (tagLine ['<'] head.kind.tag (spaced argument)) =
        tagLine ['<'] head.kind.tag (spaced argument) := by
  obtain ⟨c, u, htag, hslash⟩ : ∃ c u, head.kind.tag = c :: u ∧ c ≠ '/' := by
    cases head.kind <;> exact ⟨_, _, rfl, by decide⟩
  have htagLine : head.kind.tag.OneLine := by cases head.kind <;> decide
  refine ⟨c, u ++ (spaced argument ++ ['>']), by simp [tagLine, htag], hslash, ?_, ?_⟩
  · rw [htag] at htagLine
    have hspaced : (spaced argument).OneLine := by
      rw [spaced]
      split
      · exact Text.oneLine_nil
      · exact Text.oneLine_cons.2 ⟨by decide, h.oneLine⟩
    simpa [hspaced] using Text.oneLine_cons.1 htagLine
  · refine Text.trim_eq_self_iff.2 (.inr ⟨⟨'<', rfl, rfl⟩, ?_⟩)
    exact ((Text.endsSolid_concat (spaced argument) rfl).append _).append ['<']

/-- An opening tag is read as its word and the head exactly if the head is stable. -/
lemma read?_iff (h : OpeningOf head argument) {tag : Text} :
    read? (tagLine ['<'] head.kind.tag (spaced argument)) = some (tag, head) ↔
      tag = head.kind.tag ∧ head.Stable := by
  rw [← h.read_iff, read?, opening?_tagLine head.kind h.trimmed]
  simp only [Option.bind_eq_bind, Option.bind_some, kind?_tag, Option.bind_eq_some_iff,
    Option.some.injEq, Prod.mk.injEq]
  constructor
  · rintro ⟨head', hread, rfl, rfl⟩
    exact ⟨rfl, hread⟩
  · rintro ⟨rfl, hread⟩
    exact ⟨head, hread, rfl, rfl⟩

end OpeningOf

end BlockTag

end HtGate
