import HtGate.Expires
import HtGate.Proofs.Directive.StatementLine
/-!
# Complete directives

A directive that is written, selected or evaluated is looked at for the parts that its kind calls for, and
nobody asks first whether they are there. A rule or a head of a block is complete if they are. What lines
are read as is complete: every reader puts down all that the kind of its rules calls for.
-/

namespace HtGate

namespace Kind

/-- Every kind that lines are read as is in the list of kinds. -/
lemma mem_all {kind : Kind} (h : ∀ name, kind ≠ .other name) : kind ∈ all := by
  cases kind with
  | header always action => cases always <;> cases action <;> decide
  | phpValue admin => cases admin <;> decide
  | phpFlag admin => cases admin <;> decide
  | guard setting => cases setting <;> decide
  | other name => exact absurd rfl (h name)
  | _ => decide

/-- No kind of rules with a name of its own has the name of a kind of blocks. -/
lemma name_ne {kind : Kind} (h : ∀ name, kind ≠ .other name) (block : BlockKind) :
    kind.name ≠ block.name := by
  have hnames : ∀ k ∈ all, ∀ b ∈ BlockKind.all, k.name ≠ b.name := by decide +kernel
  exact hnames kind (mem_all h) block (by cases block <;> decide)

end Kind

namespace Rule

/-- What a rule of each kind carries. -/
def Carries (r : Rule) : Prop :=
  match r.kind with
  | .redirect => ∃ status target url, r.detail = .redirect status none ∧ 100 ≤ status ∧
    status ≤ 599 ∧ r.name = some target ∧ target ≠ [] ∧ r.value = some url
  | .redirectMatch => ∃ status pattern url, r.detail = .redirect status (some pattern) ∧
    100 ≤ status ∧ status ≤ 599 ∧ pattern ≠ [] ∧ r.value = some url
  | .errorDocument => ∃ code document, r.detail = .errorDocument code ∧ 100 ≤ code ∧ code ≤ 599 ∧
    r.value = some document ∧ document ≠ [] ∧ Text.trim document = document
  | .order => ∃ order, r.detail = .order order ∧
    (order = AccessOrder.allowDeny ∨ order = AccessOrder.denyAllow)
  | .expiresActive => ∃ active seconds, r.detail = .expires active seconds
  -- the lifetime of a rule is the duration that its value names, even where that is read again
  | .expiresByType | .expiresDefault => ∃ seconds : Nat, r.detail = .expires false seconds ∧
    Duration.parse r.value = .ok (.ok seconds) ∧ Expires.lifetime r = .ok (.ok seconds)
  | .guard .allowedAttempts => ∃ values, r.detail = .guard values ∧ 0 < values.allowedAttempts
  | .guard .window => ∃ values, r.detail = .guard values ∧ 0 < values.windowSeconds
  | .guard .throttleDuration => ∃ values, r.detail = .guard values ∧ 0 < values.throttleMillis
  | .guard .protection | .guard .action | .guard .forwardedFor => ∃ values, r.detail = .guard values
  | .header _ .unset | .requestHeaderUnset => ∃ name, r.name = some name ∧ name ≠ [] ∧ r.value = none
  | .header _ _ | .requestHeaderSet => ∃ name value, r.name = some name ∧ name ≠ [] ∧
    r.value = some value
  | _ => True

/-- Whether a rule is of no kind of blocks and has all that its kind calls for. -/
structure Complete (r : Rule) : Prop where
  notBlock : ∀ kind : BlockKind, r.kind.name ≠ kind.name
  carries : r.Carries

variable {r : Rule}

/-- The stored seconds of a rule are those of its value, whether they are taken as they are or read
again. -/
lemma lifetime_of_parse {active : Bool} {seconds : Nat} (hdetail : r.detail = .expires active seconds)
    (hparse : Duration.parse r.value = .ok (.ok seconds)) :
    Expires.lifetime r = .ok (.ok seconds) := by
  rw [Expires.lifetime, hdetail]
  dsimp only
  split
  · rfl
  · rw [hparse]
    rfl

/-- No line is read as a rule of another kind than those with names of their own. -/
lemma WellFormed.kind_ne_other (h : r.WellFormed) (name : Text) : r.kind ≠ .other name := by
  intro hk
  cases h <;> simp_all [Kind.nameValueKinds, Kind.valueWordKinds, Kind.valueRestKinds,
    Kind.nameListKinds, Kind.bareKinds]

/-- The kinds of rules that carry nothing in particular. -/
def plainKinds : List Kind :=
  Kind.nameValueKinds ++ Kind.valueWordKinds ++ Kind.valueRestKinds ++ Kind.nameListKinds
    ++ Kind.bareKinds

/-- Rules of plain kinds carry all that is called for, which is nothing. -/
lemma carries_of_plain (h : r.kind ∈ plainKinds) : r.Carries := by
  rw [Carries]
  split <;> simp_all [plainKinds, Kind.nameValueKinds, Kind.valueWordKinds, Kind.valueRestKinds,
    Kind.nameListKinds, Kind.bareKinds]

/-- Well-formed rules carry what their kind calls for. -/
lemma WellFormed.carries (h : r.WellFormed) : r.Carries := by
  cases h with
  | redirect hmin hmax htarget _ =>
    exact ⟨_, _, _, rfl, by omega, by omega, rfl, htarget.ne_nil, rfl⟩
  | redirectMatch hmin hmax htarget _ =>
    exact ⟨_, _, _, rfl, by omega, by omega, htarget.ne_nil, rfl⟩
  | errorDocument hmin hmax hne htrim _ =>
    exact ⟨_, _, rfl, by omega, by omega, rfl, hne, htrim⟩
  | order horder => exact ⟨_, rfl, horder⟩
  | expiresActive => exact ⟨_, _, rfl⟩
  | expiresByType _ _ hparse => exact ⟨_, rfl, hparse, lifetime_of_parse rfl hparse⟩
  | expiresDefault _ hparse => exact ⟨_, rfl, hparse, lifetime_of_parse rfl hparse⟩
  | allowedAttempts hpos _ => exact ⟨_, rfl, Int.natCast_pos.2 hpos⟩
  | window hpos _ => exact ⟨_, rfl, Int.natCast_pos.2 hpos⟩
  | throttleDuration hpos _ => exact ⟨_, rfl, Int.natCast_pos.2 hpos⟩
  | guardSwitch hs => rcases hs with rfl | rfl <;> exact ⟨_, rfl⟩
  | guardAction _ => exact ⟨_, rfl⟩
  | @header always action name value hset hname _ =>
    cases action with
    | unset => exact absurd rfl hset
    | _ => exact ⟨name, value, rfl, hname.ne_nil, rfl⟩
  | headerUnset hname => exact ⟨_, rfl, hname.ne_nil, rfl⟩
  | requestHeaderSet hname _ => exact ⟨_, _, rfl, hname.ne_nil, rfl⟩
  | requestHeaderUnset hname => exact ⟨_, rfl, hname.ne_nil, rfl⟩
  | nameValue hk | valueWord hk | valueRest hk | nameList hk | bare hk =>
    exact carries_of_plain (by simp [plainKinds, hk])
  | nameFlag | setEnvIf | browserMatch | options => trivial

/-- What a line is read as is complete. -/
lemma WellFormed.complete (h : r.WellFormed) : r.Complete :=
  ⟨Kind.name_ne h.kind_ne_other, h.carries⟩

end Rule

namespace BlockHead

/-- What the head of a block of each kind carries. -/
def Carries (head : BlockHead) : Prop :=
  match head.kind with
  | .files | .ifModule => ∃ name, head.name = some name ∧ name ≠ []
  | .filesMatch => ∃ pattern, head.pattern = some pattern ∧ pattern ≠ []
  | .limit | .limitExcept => ∃ methods, head.methods = some methods ∧ methods ≠ []
  | .requireAny | .requireAll => True

/-- Whether the head of a block has all that its kind calls for, and is negated by a mark before the name of
a module only. -/
structure Complete (head : BlockHead) : Prop where
  carries : head.Carries
  negated : head.negated = true → head.kind = .ifModule ∧
    ∃ name, head.name = some ('!' :: name) ∧ name ≠ []

/-- What a tag is read as is complete. -/
lemma WellFormed.complete {head : BlockHead} (h : head.WellFormed) : head.Complete := by
  cases h with
  | files hname | ifModule hname => exact ⟨⟨_, rfl, hname.ne_nil⟩, nofun⟩
  | filesMatch hpattern => exact ⟨⟨_, rfl, hpattern.ne_nil⟩, nofun⟩
  | ifModuleNot hname => exact ⟨⟨_, rfl, nofun⟩, fun _ => ⟨rfl, _, rfl, hname.ne_nil⟩⟩
  | require hk => rcases hk with rfl | rfl <;> exact ⟨trivial, nofun⟩
  | limit hk hne => rcases hk with rfl | rfl <;> exact ⟨⟨_, rfl, hne⟩, nofun⟩

end BlockHead

namespace Statement

/-- Whether a statement has all that its kind calls for. -/
def Complete : Statement → Prop
  | rule r => r.Complete
  | opening head => head.Complete

/-- What a line states is complete. -/
lemma WellFormed.complete {x : Statement} (h : x.WellFormed) : x.Complete := by
  cases x with
  | rule r => exact Rule.WellFormed.complete h
  | opening head => exact BlockHead.WellFormed.complete h

end Statement

end HtGate
