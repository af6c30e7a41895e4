import HtGate.Proofs.Line.Keyword
/-!
# Attempts

Words are tried in turn at one place of a line. An attempt that fails moves the cursor over blanks and nothing
else, and every operation passes over the blanks in front of what it reads. So nothing that is read later tells
whether the attempt was made, and the next word may be tried where the last attempt ended. In all this the cursor
goes onward and stays in the line: a word that lines are read with is made of ASCII characters, so that it takes
as many characters of the line as it has itself, whatever their lower-case forms are.
-/

namespace HtGate

/-- Blanks in front of a text are trimmed. -/
lemma Text.trim_dropWhile_isBlank (t : Text) : trim (t.dropWhile isBlank) = trim t := by
  have hblank : ∀ c ∈ t.takeWhile isBlank, isWhitespace c = true := fun c hc =>
    isWhitespace_of_isBlank (List.mem_takeWhile_imp hc)
  conv_rhs => rw [← List.takeWhile_append_dropWhile (p := isBlank) (l := t)]
  rw [trim_append_left hblank]

namespace RuleReader

/-- The words that lines are read with: those of the table, and those that are looked for behind them. -/
def keywords : List Text :=
  table.map (·.1) ++ ["always", "from", "all", "not", "ip", "valid-user"].map String.toList

/-- The words that lines are read with are keywords. -/
lemma isKeyword_of_mem_keywords : ∀ word ∈ keywords, word.IsKeyword := by
  refine List.forall_mem_append.2 ⟨?_, by decide⟩
  intro word hword
  obtain ⟨e, he, rfl⟩ := List.mem_map.1 hword
  exact isKeyword_of_mem_table e he

end RuleReader

namespace Cursor

variable {c c' c'' : Cursor}

/-- An operation that reads at a cursor. -/
inductive Operation where
  | keyword (word : Text)
  | token
  | rest
  | restRaw
  deriving DecidableEq, Repr

/-- Whether an operation looks for no other words than those that lines are read with. -/
def Operation.InUse : Operation → Prop
  | keyword word => word ∈ RuleReader.keywords
  | token | rest | restRaw => True

/-- What an operation gives back. -/
inductive Answer where
  | stands (yes : Bool)
  | value (t : Option Text)
  deriving DecidableEq, Repr

/-- What an operation gives back, and the cursor that it leaves. -/
def perform (c : Cursor) : Operation → Answer × Cursor
  | .keyword word => (.stands (c.keyword word).1, (c.keyword word).2)
  | .token => (.value c.token.1, c.token.2)
  | .rest => (.value c.rest.1, c.rest.2)
  | .restRaw => (.value c.restRaw.1, c.restRaw.2)

/-- What operations give back one after another, and the cursor that the last of them leaves. -/
def performAll (c : Cursor) : List Operation → List Answer × Cursor
  | [] => ([], c)
  | op :: more =>
    ((c.perform op).1 :: ((c.perform op).2.performAll more).1, ((c.perform op).2.performAll more).2)

section Blanks

/-- Behind blanks there are no more of them to skip. -/
lemma skipBlanks_skipBlanks (c : Cursor) : c.skipBlanks.skipBlanks = c.skipBlanks := by
  have hnone : c.skipBlanks.remaining.takeWhile Text.isBlank = [] := by
    rw [remaining_skipBlanks]
    cases hr : c.remaining.dropWhile Text.isBlank with
    | nil => rfl
    | cons d u =>
      have hd : Text.isBlank d = false := Text.not_of_dropWhile_eq_cons hr
      exact List.takeWhile_cons_of_neg (by simp [hd])
  show c.skipBlanks.advance (c.skipBlanks.remaining.takeWhile Text.isBlank).length = c.skipBlanks
  rw [hnone]
  rfl

/-- An attempt skips blanks itself. -/
lemma keyword_skipBlanks (c : Cursor) (word : Text) : c.skipBlanks.keyword word = c.keyword word := by
  simp only [keyword, skipBlanks_skipBlanks]

/-- No operation tells a cursor from one behind the blanks in front. -/
lemma perform_skipBlanks (c : Cursor) (op : Operation) : c.skipBlanks.perform op = c.perform op := by
  cases op with
  | keyword word => rw [perform, perform, keyword_skipBlanks]
  | token => simp only [perform, token, skipBlanks_skipBlanks]
  | rest | restRaw =>
    simp only [perform, rest, restRaw, remaining_skipBlanks, Text.trim_dropWhile_isBlank]
    rfl

/-- No sequence of operations tells a cursor from one behind the blanks in front. -/
lemma performAll_skipBlanks (c : Cursor) (ops : List Operation) :
    (c.skipBlanks.performAll ops).1 = (c.performAll ops).1 := by
  cases ops with
  | nil => rfl
  | cons op more => rw [performAll, performAll, perform_skipBlanks]

/-- An attempt that fails passes over blanks alone. -/
lemma keyword_of_fails {word : Text} (h : (c.keyword word).1 = false) :
    c.keyword word = (false, c.skipBlanks) := by
  simp only [keyword] at h ⊢
  split at h
  · cases h
  · rename_i hstands
    rw [if_neg hstands]

end Blanks

/-- Whether a cursor is one that reading comes to from another: in the same line, not before it and not behind the
end. -/
structure Onward (c c' : Cursor) : Prop where
  text : c'.text = c.text
  from_le : c.pos ≤ c'.pos
  le_length : c'.pos ≤ c.text.length

section Onward

/-- A cursor that reading comes to is in the line. -/
lemma Onward.within (h : Onward c c') : c'.pos ≤ c'.text.length := h.text ▸ h.le_length

/-- Reading may stay where it is. -/
lemma Onward.refl (h : c.pos ≤ c.text.length) : Onward c c := ⟨rfl, le_rfl, h⟩

/-- Reading goes onward step by step. -/
lemma Onward.trans (h : Onward c c') (h' : Onward c' c'') : Onward c c'' :=
  ⟨h'.text.trans h.text, h.from_le.trans h'.from_le, h.text ▸ h'.le_length⟩

/-- To advance by characters that are there goes onward. -/
lemma onward_advance {n : Nat} (h : c.pos ≤ c.text.length) (hn : n ≤ c.remaining.length) :
    Onward c (c.advance n) := by
  rw [remaining, List.length_drop] at hn
  exact ⟨rfl, Nat.le_add_right _ _, show c.pos + n ≤ c.text.length by omega⟩

/-- To go to the end goes onward. -/
lemma onward_toEnd (h : c.pos ≤ c.text.length) : Onward c c.toEnd := ⟨rfl, h, le_rfl⟩

/-- To skip blanks goes onward. -/
lemma onward_skipBlanks (h : c.pos ≤ c.text.length) : Onward c c.skipBlanks :=
  onward_advance h (List.takeWhile_sublist _).length_le

/-- A word that stands next takes as many characters of the line as it has. -/
lemma keyword_onward {word : Text} (h : c.pos ≤ c.text.length) (hw : word.IsKeyword) :
    Onward c (c.keyword word).2 := by
  have hskip := onward_skipBlanks h
  simp only [keyword]
  split
  · rename_i hstands
    rw [standsAt, Bool.and_eq_true, beq_iff_eq] at hstands
    have hlength := hw.length_eq hstands.1
    rw [List.length_take] at hlength
    exact hskip.trans (onward_advance hskip.within (by omega))
  · exact hskip

/-- To read a word goes onward, between quotes or not. -/
lemma token_onward (h : c.pos ≤ c.text.length) : Onward c c.token.2 := by
  have hskip := onward_skipBlanks h
  simp only [token]
  split
  · exact hskip
  · split
    · rename_i rest hr
      rcases Text.cut_cases '"' rest with ⟨-, hcut⟩ | ⟨inside, u, rfl, -, hcut⟩
      · rw [hcut]
        exact hskip.trans (onward_toEnd hskip.within)
      · rw [hcut]
        refine hskip.trans (onward_advance hskip.within ?_)
        simp only [hr, List.length_cons, List.length_append]
        omega
    · exact hskip.trans (onward_advance hskip.within (List.takeWhile_sublist _).length_le)

/-- Every operation goes onward. -/
lemma perform_onward {op : Operation} (h : c.pos ≤ c.text.length) (hop : op.InUse) :
    Onward c (c.perform op).2 := by
  cases op with
  | keyword word => exact keyword_onward h (RuleReader.isKeyword_of_mem_keywords word hop)
  | token => exact token_onward h
  | rest | restRaw => exact onward_toEnd h

/-- Operations go onward one after another. -/
lemma performAll_onward {ops : List Operation} (h : c.pos ≤ c.text.length) (hops : ∀ op ∈ ops, op.InUse) :
    Onward c (c.performAll ops).2 := by
  induction ops generalizing c with
  | nil => exact Onward.refl h
  | cons op more ih =>
    obtain ⟨hop, hmore⟩ := List.forall_mem_cons.1 hops
    have hstep := perform_onward h hop
    exact hstep.trans (ih hstep.within hmore)

end Onward

/-- Once a word is found not to stand next, all operations give back what they do where it was never tried; and
operations go onward in the line, whatever characters it is made of. -/
theorem failed_keyword_unseen (c : Cursor) :
    (∀ word : Text, (c.keyword word).1 = false → ∀ ops : List Operation,
      ((c.keyword word).2.performAll ops).1 = (c.performAll ops).1) ∧
    (c.pos ≤ c.text.length → ∀ ops : List Operation, (∀ op ∈ ops, op.InUse) →
      Onward c (c.performAll ops).2) := by
  refine ⟨fun word hfails ops => ?_, fun h ops hops => performAll_onward h hops⟩
  rw [keyword_of_fails hfails]
  exact performAll_skipBlanks c ops

/-- A requirement whose word begins with a capital I with a dot, read up to the word. -/
def dottedRequirement : Cursor := ⟨"Require \u0130p x ".toList, 7⟩

/-- What reads it on where no hosts are found. -/
def readingsBehindHosts : List Operation := [.keyword "valid-user".toList, .token, .restRaw]

/-- The lower-case form of such a letter is two characters long, and the word is not the one looked for. -/
theorem failed_dottedRequirement_unseen :
    (dottedRequirement.keyword "ip".toList).1 = false ∧
      ((dottedRequirement.keyword "ip".toList).2.performAll readingsBehindHosts).1 =
        (dottedRequirement.performAll readingsBehindHosts).1 ∧
      (dottedRequirement.performAll readingsBehindHosts).1 =
        [.stands false, .value (some "\u0130p".toList), .value (some "x".toList)] ∧
      dottedRequirement.pos ≤ dottedRequirement.text.length ∧ (∀ op ∈ readingsBehindHosts, op.InUse) ∧
      Onward dottedRequirement (dottedRequirement.performAll readingsBehindHosts).2 := by
  have hfails : (dottedRequirement.keyword "ip".toList).1 = false := by decide
  have hwithin : dottedRequirement.pos ≤ dottedRequirement.text.length := by decide
  have hops : ∀ op ∈ readingsBehindHosts, op.InUse :=
    List.forall_mem_cons.2 ⟨List.mem_append_right _ (by decide),
      List.forall_mem_cons.2 ⟨trivial, List.forall_mem_singleton.2 trivial⟩⟩
  obtain ⟨hunseen, honward⟩ := failed_keyword_unseen dottedRequirement
  exact ⟨hfails, hunseen _ hfails _, by decide, hwithin, hops, honward hwithin _ hops⟩

/-- A word of other characters can go beyond the end of the line. -/
example : (start ['\u0130']).keyword ['i', '\u0307'] = (true, ⟨['\u0130'], 2⟩) := by decide

end Cursor

namespace RuleReader

/-- Reads by the first keyword of a table that stands next, each of them tried where the attempts before it have
left the cursor. -/
def readOn (c : Cursor) : List (Text × RuleReader) → Except Fault LineReading
  | [] => .ok ⟨none, []⟩
  | (word, reader) :: more =>
    match c.keyword word with
    | (true, c) => reader c
    | (false, c) => readOn c more

/-- The first keyword of a table may be tried behind the blanks. -/
lemma readOn_skipBlanks (c : Cursor) (table : List (Text × RuleReader)) :
    readOn c.skipBlanks table = readOn c table := by
  cases table with
  | nil => rfl
  | cons e more => rw [readOn, readOn, Cursor.keyword_skipBlanks]

/-- The keywords behind one that does not stand next may be tried where it was. -/
lemma readOn_cons (c : Cursor) (word : Text) (reader : RuleReader) (more : List (Text × RuleReader)) :
    readOn c ((word, reader) :: more) =
      match c.keyword word with
      | (true, c') => reader c'
      | (false, _) => readOn c more := by
  rw [readOn]
  cases hkeyword : c.keyword word with
  | mk stands c' =>
    cases stands with
    | true => rfl
    | false =>
      -- a keyword that fails leaves the blanks behind, which the next one would skip anyway
      have hc' : c' = c.skipBlanks :=
        congrArg Prod.snd (hkeyword.symm.trans (Cursor.keyword_of_fails (congrArg Prod.fst hkeyword)))
      rw [hc']
      exact readOn_skipBlanks c more

/-- A line is read by a table in the same way with one cursor for all the keywords as with a new one for each. -/
theorem readOn_start (table : List (Text × RuleReader)) (line : Text) :
    readOn (Cursor.start line) table = readBy table line := by
  induction table with
  | nil => rfl
  | cons e more ih =>
    obtain ⟨word, reader⟩ := e
    have hcons := readOn_cons (Cursor.start line) word reader more
    rw [ih] at hcons
    exact hcons

/-- The words of requirements with the readers of what follows them. -/
def requirements : List (Text × RuleReader) :=
  [("all".toList, plain fun c =>
      let word := c.lowerToken.1
      if word == "granted".toList then some { kind := .requireAllGranted }
      else if word == "denied".toList then some { kind := .requireAllDenied }
      else none),
    ("not".toList, plain fun c => do
      let c ← c.after? "ip"
      let value ← c.rest?
      some { kind := .requireNotIp, value }),
    ("ip".toList, valueRest .requireIp),
    ("valid-user".toList, plain fun _ => some { kind := .requireValidUser })]

/-- A requirement is read in the same way when each of its words is tried where the last attempt ended. -/
theorem require_eq_readOn (c : Cursor) : require c = readOn c requirements := by
  simp only [requirements, readOn_cons, require, plain, Cursor.after?]
  cases c.keyword "all".toList with
  | mk stands c' =>
    cases stands with
    | true => rfl
    | false =>
      cases c.keyword "not".toList with
      | mk stands c' =>
        cases stands with
        | true => rfl
        | false =>
          cases c.keyword "ip".toList with
          | mk stands c' =>
            cases stands with
            | true => rfl
            | false =>
              cases c.keyword "valid-user".toList with
              | mk stands c' => cases stands <;> rfl

end RuleReader

end HtGate
