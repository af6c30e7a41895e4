import HtGate.Proofs.Directive.Parsing
/-!
# Access lines

An access line begins with Order, Allow, Deny or Require. What may follow is given by a grammar, one rule of
it for each form. The readers try words in turn at one place of the line, and each of them comes to what the
grammar says, except the reader of orders: it looks at as many characters as an order has and not at the
character behind them, so that a word that runs on behind an order passes for the order. Any other access
line that has none of the forms is reported and skipped.
-/

namespace HtGate

namespace AccessLine

open Text (nextWord afterWord HasSolid)

/-- The words that access lines begin with. -/
inductive Opener where
  | order
  | allow
  | deny
  | require
  deriving DecidableEq, Repr

namespace Opener

/-- The word that a line begins with. -/
def word : Opener → Text
  | order => "Order".toList
  | allow => "Allow".toList
  | deny => "Deny".toList
  | require => "Require".toList

/-- What reads the rest of the line. -/
def reader : Opener → RuleReader
  | order => RuleReader.order
  | allow => RuleReader.hosts .allowFrom
  | deny => RuleReader.hosts .denyFrom
  | require => RuleReader.require

/-- The first words of access lines are keywords of the table, with their readers. -/
lemma mem_table (first : Opener) : (first.word, first.reader) ∈ RuleReader.table := by
  cases first <;> dsimp only [word, reader] <;>
    simp only [RuleReader.table, List.mem_cons, true_or, or_true]

end Opener

/-- Whether a text goes on with a word, in any case. -/
def NextIs (word t : Text) : Prop := Text.lower (nextWord t) = Text.lower word

/-- Whether a text goes on with a word, in any case, which may stand between quotes. -/
def TokenIs (word t : Text) : Prop :=
  ∃ u, (Cursor.start t).token.1 = some u ∧ Text.lower u = Text.lower word

/-- Whether a word is one of the two orders. -/
def IsOrder (o : Text) : Prop := o = AccessOrder.allowDeny ∨ o = AccessOrder.denyAllow

/-- The value that the rest of a line is. -/
def valueOf (t : Text) : Text := Cursor.unwrap (Text.trim t)

/-- The grammar: the rule that a line states by its first word and what follows it. -/
inductive Form : Opener → Text → Rule → Prop
  | order {t o : Text} : IsOrder o → NextIs o t → Form .order t { kind := .order, detail := .order o }
  | allow {t : Text} : NextIs "from".toList t → HasSolid (afterWord t) →
    Form .allow t { kind := .allowFrom, value := valueOf (afterWord t) }
  | deny {t : Text} : NextIs "from".toList t → HasSolid (afterWord t) →
    Form .deny t { kind := .denyFrom, value := valueOf (afterWord t) }
  | granted {t : Text} : NextIs "all".toList t → TokenIs "granted".toList (afterWord t) →
    Form .require t { kind := .requireAllGranted }
  | denied {t : Text} : NextIs "all".toList t → TokenIs "denied".toList (afterWord t) →
    Form .require t { kind := .requireAllDenied }
  | ip {t : Text} : NextIs "ip".toList t → HasSolid (afterWord t) →
    Form .require t { kind := .requireIp, value := valueOf (afterWord t) }
  | notIp {t : Text} : NextIs "not".toList t → NextIs "ip".toList (afterWord t) →
    HasSolid (afterWord (afterWord t)) →
    Form .require t { kind := .requireNotIp, value := valueOf (afterWord (afterWord t)) }
  | validUser {t : Text} : NextIs "valid-user".toList t → Form .require t { kind := .requireValidUser }

/-- The one form beyond the grammar: a word that begins like an order and runs on. -/
inductive RunOn : Opener → Text → Rule → Prop
  | order {t o : Text} : IsOrder o → Text.lower ((nextWord t).take o.length) = o →
    o.length < (nextWord t).length → RunOn .order t { kind := .order, detail := .order o }

section Words

variable {word word' t : Text}

/-- The words that a text goes on with are the same but for their case. -/
lemma NextIs.unique (h : NextIs word t) (h' : NextIs word' t) : Text.lower word = Text.lower word' :=
  h.symm.trans h'

instance : Decidable (NextIs word t) := inferInstanceAs (Decidable (_ = _))

end Words

section Orders

variable {o t : Text}

/-- The two orders are keywords. -/
lemma IsOrder.isKeyword (h : IsOrder o) : o.IsKeyword := by
  rcases h with rfl | rfl <;> decide

/-- The two orders are in lower case. -/
lemma IsOrder.lower (h : IsOrder o) : Text.lower o = o := by
  rw [Text.lower_ascii h.isKeyword.ascii]
  rcases h with rfl | rfl <;> rfl

/-- The two orders have ten characters. -/
lemma IsOrder.length (h : IsOrder o) : o.length = 10 := by
  rcases h with rfl | rfl <;> rfl

/-- Where as many characters as a keyword has are the keyword, the next word begins with them. -/
lemma lower_take_iff {word : Text} (hw : word.IsKeyword) (t : Text) :
    Text.lower ((t.dropWhile Text.isBlank).take word.length) = Text.lower word ↔
      Text.lower ((nextWord t).take word.length) = Text.lower word := by
  generalize hu : t.dropWhile Text.isBlank = u
  have hnext : nextWord t = u.takeWhile fun c => !Text.isBlank c := by rw [nextWord, hu]
  rw [hnext]
  constructor
  · -- the characters that are the keyword are not blanks, so that the word goes on at least as far
    intro h
    have hall : ∀ c ∈ u.take word.length, (!Text.isBlank c) = true := by
      simpa using hw.blankless_of_lower h
    have htake : (u.takeWhile fun c => !Text.isBlank c).take word.length = u.take word.length := by
      conv_lhs => rw [← List.take_append_drop word.length u]
      rw [List.takeWhile_append_of_pos hall]
      exact List.take_left' (hw.length_eq h)
    rw [htake, h]
  · intro h
    obtain ⟨v, hv⟩ := List.takeWhile_prefix (l := u) fun c => !Text.isBlank c
    have hlength := hw.length_eq h
    rw [List.length_take] at hlength
    have htake : u.take word.length = (u.takeWhile fun c => !Text.isBlank c).take word.length := by
      conv_lhs => rw [← hv]
      exact List.take_append_of_le_length (by omega)
    rw [htake, h]

/-- What a word that begins like an order is: the order, or a word that runs on. -/
lemma IsOrder.lower_take_iff (h : IsOrder o) :
    Text.lower ((nextWord t).take o.length) = o ↔
      NextIs o t ∨ Text.lower ((nextWord t).take o.length) = o ∧ o.length < (nextWord t).length := by
  constructor
  · intro htake
    by_cases hlong : o.length < (nextWord t).length
    · exact .inr ⟨htake, hlong⟩
    · -- the word is no longer than the order, so that it is all of it that was looked at
      rw [List.take_of_length_le (by omega)] at htake
      exact .inl (htake.trans h.lower.symm)
  · rintro (hnext | ⟨htake, -⟩)
    · rw [List.take_of_length_le (h.isKeyword.length_eq hnext).le]
      exact hnext.trans h.lower
    · exact htake

/-- A word that runs on has none of the forms. -/
lemma RunOn.not_form {first : Opener} {r : Rule} (h : RunOn first t r) (r' : Rule) :
    ¬Form first t r' := by
  cases h with
  | order ho _ hlong =>
    rintro ⟨ho', hnext⟩
    rw [ho'.isKeyword.length_eq hnext, ho.length, ho'.length] at hlong
    exact Nat.lt_irrefl _ hlong

end Orders

/-- Whether a reader has nothing to remark and reads the rules of which a property holds. -/
def Yields (found : Except Fault LineReading) (p : Rule → Prop) : Prop :=
  ∃ o : Option Rule, found = .ok ⟨o, []⟩ ∧ ∀ r, o = some r ↔ p r

/-- A reader that yields what has a property yields what has the same property in other words. -/
lemma Yields.congr {found : Except Fault LineReading} {p q : Rule → Prop} (h : Yields found p)
    (hpq : ∀ r, p r ↔ q r) : Yields found q := by
  obtain ⟨o, hfound, ho⟩ := h
  exact ⟨o, hfound, fun r => (ho r).trans (hpq r)⟩

section Readers

variable {c : Cursor}

/-- What is left of a line is a value if it is not whitespace alone. -/
lemma value_eq_some_iff {kind : Kind} {r : Rule} :
    (c.rest?.bind fun value => some { kind, value : Rule }) = some r ↔
      HasSolid c.remaining ∧ r = { kind, value := valueOf c.remaining } := by
  have hsolid : HasSolid c.remaining ↔ Text.trim c.remaining ≠ [] := by
    rw [Ne, Text.trim_eq_nil_iff, HasSolid]
    simp
  rw [Cursor.rest?_eq, hsolid]
  cases htrim : Text.trim c.remaining with
  | nil => simp
  | cons d u => simp [valueOf, htrim, eq_comm]

/-- The reader of orders yields what has the form of an order and what runs on behind one. -/
lemma order_yields (c : Cursor) :
    Yields (RuleReader.order c) fun r => Form .order c.remaining r ∨ RunOn .order c.remaining r := by
  have hread (o : Text) (ho : IsOrder o) :
      Text.lower (c.skipBlanks.remaining.take 10) = o ↔
        NextIs o c.remaining ∨ Text.lower ((nextWord c.remaining).take o.length) = o ∧
          o.length < (nextWord c.remaining).length := by
    rw [← ho.lower_take_iff, Cursor.remaining_skipBlanks, ← ho.length]
    have := lower_take_iff ho.isKeyword c.remaining
    rwa [ho.lower] at this
  -- ten characters are looked at, and the word may end there or run on
  refine ⟨_, rfl, fun r => ?_⟩
  dsimp only
  generalize Text.lower (c.skipBlanks.remaining.take 10) = word at hread
  rw [Option.ite_none_right_eq_some, Bool.or_eq_true, beq_iff_eq, beq_iff_eq]
  constructor
  · rintro ⟨ho, ⟨⟩⟩
    rcases (hread word ho).1 rfl with hnext | ⟨htake, hlong⟩
    · exact .inl (.order ho hnext)
    · exact .inr (.order ho htake hlong)
  · rintro (⟨ho, hnext⟩ | ⟨ho, htake, hlong⟩)
    · cases (hread _ ho).2 (.inl hnext)
      exact ⟨ho, rfl⟩
    · cases (hread _ ho).2 (.inr ⟨htake, hlong⟩)
      exact ⟨ho, rfl⟩

/-- A word and a value behind it. -/
lemma worded_eq_some_iff {word : String} (hw : Text.IsKeyword word.toList) {kind : Kind} {r : Rule} :
    ((c.after? word).bind fun c => c.rest?.bind fun value => some { kind, value : Rule }) = some r ↔
      NextIs word.toList c.remaining ∧ HasSolid (afterWord c.remaining) ∧
        r = { kind, value := valueOf (afterWord c.remaining) } := by
  by_cases hnext : NextIs word.toList c.remaining
  · obtain ⟨c', hc', hr⟩ := Cursor.after?_of_next hw hnext
    rw [hc', Option.bind_some, value_eq_some_iff, hr, and_iff_right hnext]
  · rw [Cursor.after?_of_not_next hw hnext]
    simp [hnext]

/-- The reader of hosts yields a value behind the word `from`. -/
lemma hosts_yields (kind : Kind) (c : Cursor) :
    Yields (RuleReader.hosts kind c) fun r =>
      NextIs "from".toList c.remaining ∧ HasSolid (afterWord c.remaining) ∧
        r = { kind, value := valueOf (afterWord c.remaining) } :=
  ⟨_, rfl, fun _ => worded_eq_some_iff (by decide)⟩

/-- The next word in lower case, where it is some word at all. -/
lemma lowerToken_eq_iff {word : Text} (hne : Text.lower word ≠ []) :
    c.lowerToken.1 = Text.lower word ↔ TokenIs word c.remaining := by
  have htoken : (Cursor.start c.remaining).token.1 = c.token.1 := Cursor.token_congr rfl
  rw [TokenIs, htoken, Cursor.lowerToken]
  split
  · rename_i heq
    simp [heq]
  · rename_i heq
    simp [heq, hne.symm]

/-- Where two words are looked for, each of them gives its rule, and no other word gives one. -/
lemma oneOf_eq_some_iff {word w w' : Text} (hne : w ≠ w') {a b r : Rule} :
    (if word == w then some a else if word == w' then some b else none) = some r ↔
      word = w ∧ r = a ∨ word = w' ∧ r = b := by
  by_cases hw : word = w
  · subst hw
    simp [hne, eq_comm]
  · rw [if_neg (by simpa using hw), Option.ite_none_right_eq_some, beq_iff_eq, Option.some_inj,
      or_iff_right fun h => hw h.1, eq_comm (b := r)]

/-- Words tried in turn: the first of them decides where it comes next, and elsewhere the others do. -/
lemma tried_eq_some_iff {word : String} (hw : Text.IsKeyword word.toList) {f : Cursor → Option Rule}
    {others : Option Rule} {r : Rule} {p q : Prop}
    (hfirst : ∀ c', c'.remaining = afterWord c.remaining → (f c' = some r ↔ p))
    (hothers : others = some r ↔ q) (hq : q → ¬NextIs word.toList c.remaining) :
    (match c.after? word with
      | some c' => f c'
      | none => others) = some r ↔ NextIs word.toList c.remaining ∧ p ∨ q := by
  by_cases hnext : NextIs word.toList c.remaining
  · obtain ⟨c', hc', hr⟩ := Cursor.after?_of_next hw hnext
    rw [hc', and_iff_right hnext, or_iff_left fun h => hq h hnext]
    exact hfirst c' hr
  · rw [Cursor.after?_of_not_next hw hnext, or_iff_right fun h => hnext h.1]
    exact hothers

/-- The forms of a line that begins with Require. -/
lemma form_require_iff {t : Text} {r : Rule} :
    Form .require t r ↔
      NextIs "all".toList t ∧
        (TokenIs "granted".toList (afterWord t) ∧ r = { kind := .requireAllGranted } ∨
          TokenIs "denied".toList (afterWord t) ∧ r = { kind := .requireAllDenied }) ∨
      NextIs "not".toList t ∧ (NextIs "ip".toList (afterWord t) ∧ HasSolid (afterWord (afterWord t)) ∧
        r = { kind := .requireNotIp, value := valueOf (afterWord (afterWord t)) }) ∨
      NextIs "ip".toList t ∧ (HasSolid (afterWord t) ∧
        r = { kind := .requireIp, value := valueOf (afterWord t) }) ∨
      NextIs "valid-user".toList t ∧ r = { kind := .requireValidUser } := by
  constructor
  · intro h
    cases h with
    | granted hall htoken => exact .inl ⟨hall, .inl ⟨htoken, rfl⟩⟩
    | denied hall htoken => exact .inl ⟨hall, .inr ⟨htoken, rfl⟩⟩
    | notIp hnot hip hsolid => exact .inr (.inl ⟨hnot, hip, hsolid, rfl⟩)
    | ip hip hsolid => exact .inr (.inr (.inl ⟨hip, hsolid, rfl⟩))
    | validUser huser => exact .inr (.inr (.inr ⟨huser, rfl⟩))
  · rintro (⟨hall, ⟨htoken, rfl⟩ | ⟨htoken, rfl⟩⟩ | ⟨hnot, hip, hsolid, rfl⟩ | ⟨hip, hsolid, rfl⟩ |
      ⟨huser, rfl⟩)
    · exact .granted hall htoken
    · exact .denied hall htoken
    · exact .notIp hnot hip hsolid
    · exact .ip hip hsolid
    · exact .validUser huser

/-- The reader of Require lines yields exactly what the grammar says. -/
lemma require_yields (c : Cursor) : Yields (RuleReader.require c) (Form .require c.remaining) := by
  refine ⟨_, rfl, fun r => ?_⟩
  rw [form_require_iff]
  -- the words that are tried differ, so that at most one of them comes next
  refine tried_eq_some_iff (by decide) (fun c' hr => ?all)
    (tried_eq_some_iff (by decide) (fun c' hr => ?notIp)
      (tried_eq_some_iff (by decide) (fun c' hr => ?ip) ?validUser ?_) ?_) ?_
  case all =>
    have hgranted : Text.lower "granted".toList = "granted".toList := by decide
    have hdenied : Text.lower "denied".toList = "denied".toList := by decide
    rw [← hr, ← lowerToken_eq_iff (by decide), ← lowerToken_eq_iff (by decide), hgranted, hdenied]
    exact oneOf_eq_some_iff (by decide)
  case notIp =>
    rw [← hr]
    exact worded_eq_some_iff (by decide)
  case ip =>
    rw [← hr]
    exact value_eq_some_iff
  case validUser =>
    have hword : Text.IsKeyword "valid-user".toList := by decide
    by_cases huser : NextIs "valid-user".toList c.remaining
    · obtain ⟨c', hc', -⟩ := Cursor.after?_of_next hword huser
      rw [hc', and_iff_right huser]
      exact Option.some_inj.trans eq_comm
    · rw [Cursor.after?_of_not_next hword huser]
      exact ⟨nofun, fun h => absurd h.1 huser⟩
  · exact fun h h' => absurd (h.1.unique h') (by decide)
  · rintro (⟨h, -⟩ | ⟨h, -⟩) h' <;> exact absurd (h.unique h') (by decide)
  · rintro (⟨h, -⟩ | ⟨h, -⟩ | ⟨h, -⟩) h' <;> exact absurd (h.unique h') (by decide)

/-- What follows the first word is read as the grammar says, and after Order also where a word runs on. -/
lemma reader_yields (first : Opener) (c : Cursor) :
    Yields (first.reader c) fun r => Form first c.remaining r ∨ RunOn first c.remaining r := by
  cases first with
  | order => exact order_yields c
  | allow | deny =>
    refine (hosts_yields _ c).congr fun r => ⟨?_, ?_⟩
    · rintro ⟨hfrom, hsolid, rfl⟩
      exact .inl (by constructor <;> assumption)
    · rintro (h | h) <;> cases h
      exact ⟨‹_›, ‹_›, rfl⟩
  | require => exact (require_yields c).congr fun r => (or_iff_left nofun).symm

end Readers

/-- An access line is not marked as a comment or a tag. -/
lemma NextIs.unmarked {first : Opener} {t : Text} (h : NextIs first.word t) :
    t ≠ [] ∧ ∀ c ∈ t.head?, c ≠ '#' ∧ c ≠ '<' := by
  have hmark {c : Char} (u : Text) (hc : c = '#' ∨ c = '<') : ¬NextIs first.word (c :: u) := by
    intro h
    have hblank : Text.isBlank c = false := by rcases hc with rfl | rfl <;> rfl
    have hnext : nextWord (c :: u) = [c] ++ u.takeWhile fun d => !Text.isBlank d := by
      simp [nextWord, hblank]
    have hascii : ∀ d ∈ [c], d.toNat < 0x80 :=
      List.forall_mem_singleton.2 (by rcases hc with rfl | rfl <;> decide)
    rw [NextIs, hnext, Text.lower, Text.lowerAfter_ascii_append [] hascii] at h
    -- the mark is its own lower-case form, and none of the words begins with it
    have hhead := congrArg List.head? h
    rcases hc with rfl | rfl <;> cases first <;> cases hhead
  cases t with
  | nil => cases first <;> cases h
  | cons c u =>
    refine ⟨List.cons_ne_nil c u, ?_⟩
    rintro d ⟨⟩
    exact ⟨fun hc => hmark u (.inl hc) h, fun hc => hmark u (.inr hc) h⟩

/-- An access line adds a rule of its form if it has one, and is reported and skipped otherwise. The grammar
gives all the forms but one: after Order, a word that runs on behind an order is read as the order. -/
theorem step_accessLine (first : Opener) (raw : Text) (h : NextIs first.word (Text.trim raw)) :
    ∃ o : Option Rule,
      (∀ r, o = some r ↔
        Form first (afterWord (Text.trim raw)) r ∨ RunOn first (afterWord (Text.trim raw)) r) ∧
      (∀ r r', RunOn first (afterWord (Text.trim raw)) r →
        ¬Form first (afterWord (Text.trim raw)) r') ∧
      ∀ (s : Parser.State) (number : Nat), s.step number raw =
        .ok (o.elim (s.report number (.unreadable (Text.trim raw))) fun r => s.add (.rule number r)) := by
  obtain ⟨hne, hmark⟩ := h.unmarked
  obtain ⟨c, hread, hr⟩ := RuleReader.read_of_next first.mem_table h
  obtain ⟨o, ho, hforms⟩ := reader_yields first c
  rw [hr] at hforms
  refine ⟨o, hforms, fun r r' hrun => hrun.not_form r', fun s number => ?_⟩
  rw [Parser.State.step_unmarked hne hmark, Parser.State.ruleLine, hread, ho]
  cases o <;> rfl

/-- The words count in any case, and the value is what is left without its quotes. -/
theorem step_requireNotIp :
    NextIs Opener.require.word (Text.trim "\trequire NOT ip \"10.0.0.0/8\" ".toList) ∧
      ∀ (s : Parser.State) (number : Nat), s.step number "\trequire NOT ip \"10.0.0.0/8\" ".toList =
        .ok (s.add (.rule number { kind := .requireNotIp, value := "10.0.0.0/8".toList })) := by
  have hfirst : NextIs Opener.require.word (Text.trim "\trequire NOT ip \"10.0.0.0/8\" ".toList) := by
    decide
  obtain ⟨o, ho, -, hstep⟩ := step_accessLine .require _ hfirst
  have hrule := (ho _).2 (.inl (.notIp (by decide) (by decide) ⟨'1', by decide, by decide⟩))
  rw [hrule] at hstep
  exact ⟨hfirst, hstep⟩

/-- A word that runs on behind an order is not of the grammar, and the line is read as the order. -/
theorem parse_runOnOrder :
    NextIs Opener.order.word (Text.trim "Order allow,denyx".toList) ∧
      (∀ r, ¬Form .order (afterWord (Text.trim "Order allow,denyx".toList)) r) ∧
      parse "Order allow,denyx".toList =
        .ok ⟨[.rule 1 { kind := .order, detail := .order AccessOrder.allowDeny }], []⟩ := by
  have hrun : RunOn .order (afterWord (Text.trim "Order allow,denyx".toList))
      { kind := .order, detail := .order AccessOrder.allowDeny } :=
    .order (.inl rfl) (by decide) (by decide)
  exact ⟨by decide, hrun.not_form, by rfl⟩

end AccessLine

end HtGate
