import HtGate.Proofs.Access.Course
/-!
# What a selection reaches

A directive is reached by a request if every block around it is conditional and its condition holds. What
is selected are the reached directives that are no conditional blocks, in the order in which they are
written. So a selection is made piece by piece, to select from a selection changes nothing, and neither does
a conditional block around directives that stand next to one another, if its condition holds.
-/

namespace HtGate

namespace Directive

/-- A directive with the heads of the blocks around it, the outermost first. -/
structure Standing where
  above : List BlockHead
  directive : Directive

mutual

/-- A directive and all that is inside it, in the order in which they are written. -/
def standingsOf (above : List BlockHead) : Directive → List Standing
  | .rule line r => [⟨above, .rule line r⟩]
  | .block line head children =>
    ⟨above, .block line head children⟩ :: standings (above ++ [head]) children

/-- The directives of a sequence and all that is inside them, in the order in which they are written. -/
def standings (above : List BlockHead) : List Directive → List Standing
  | [] => []
  | d :: ds => standingsOf above d ++ standings above ds

end

/-- Whether a directive is no conditional block. -/
def stays : Directive → Bool
  | .rule _ _ => true
  | .block _ head _ => head.kind.isRequire

/-- More blocks around a sequence are more blocks around whatever stands in it. -/
lemma standings_append (above inner : List BlockHead) (ds : List Directive) :
    standings (above ++ inner) ds =
      (standings inner ds).map fun p => ⟨above ++ p.above, p.directive⟩ := by
  induction ds using forest_induction generalizing inner with
  | nil => rfl
  | rule line r ds ih =>
    rw [standings, standings, ih]
    rfl
  | block line head children ds ihc ih =>
    have hchildren := ihc (inner ++ [head])
    rw [← List.append_assoc] at hchildren
    rw [standings, standings, standingsOf, standingsOf, hchildren, ih, List.map_append]
    rfl

end Directive

open Directive

variable {modules : Modules} {s : Session}

namespace Condition

/-- It can be said of every block whether it applies, except where a pattern cannot be searched for and where
the module has no name. -/
lemma of_applies_error {head : BlockHead} {fault : Fault}
    (h : applies modules s head = .error fault) :
    (head.kind = .filesMatch ∧ s.filename.isSome = true) ∨
      (head.kind = .ifModule ∧ head.name = none) := by
  rw [applies, check] at h
  cases hk : head.kind with
  | filesMatch =>
    cases hname : s.filename with
    | none =>
      rw [hk, hname] at h
      cases h
    | some name => exact .inl ⟨rfl, rfl⟩
  | ifModule =>
    cases hname : head.name with
    | none => exact .inr ⟨rfl, rfl⟩
    | some name =>
      rw [hk, hname] at h
      cases h
  | files | limit | limitExcept | requireAny | requireAll =>
    rw [hk] at h
    cases h

end Condition

namespace Selection

/-- Whether a block is conditional and its condition holds. -/
def opens (modules : Modules) (s : Session) (head : BlockHead) : Bool :=
  !head.kind.isRequire &&
    match Condition.applies modules s head with
    | .ok holds => holds
    | .error _ => false

/-- The directives of a sequence, at whatever depth, that stand in no blocks but conditional ones whose
conditions hold. -/
def reached (modules : Modules) (s : Session) (ds : List Directive) : List Directive :=
  ((standings [] ds).filter fun p => p.above.all (opens modules s)).map (·.directive)

/-- Why it cannot be said whether a block applies. -/
def undecided? (modules : Modules) (s : Session) : Directive → Option Fault
  | .rule _ _ => none
  | .block _ head _ =>
    match Condition.applies modules s head with
    | .ok _ => none
    | .error fault => some fault

/-- Whether the second sequence is the first one with a block around some directives that stand next to one
another, at the top or at any depth outside of Require nodes. -/
inductive Wrapped (line : Int) (head : BlockHead) : List Directive → List Directive → Prop
  | here (before run after : List Directive) :
    Wrapped line head (before ++ run ++ after) (before ++ .block line head run :: after)
  | inside {children children' : List Directive} (before after : List Directive) (line' : Int)
    {head' : BlockHead} : head'.kind.isRequire = false → Wrapped line head children children' →
    Wrapped line head (before ++ .block line' head' children :: after)
      (before ++ .block line' head' children' :: after)

section Reached

variable {line : Int} {head : BlockHead} {children ds es : List Directive}

/-- A rule is reached, and then what follows it. -/
lemma reached_rule (r : Rule) :
    reached modules s (.rule line r :: ds) = .rule line r :: reached modules s ds := rfl

/-- What is inside a block is reached if the block opens. -/
lemma reached_block :
    reached modules s (.block line head children :: ds) = .block line head children ::
      ((if opens modules s head then reached modules s children else []) ++ reached modules s ds) := by
  have hinside : ((standings [head] children).filter fun p => p.above.all (opens modules s)).map
      (·.directive) = if opens modules s head then reached modules s children else [] := by
    have hbelow := standings_append [head] [] children
    rw [List.append_nil] at hbelow
    rw [hbelow, List.filter_map, List.map_map]
    cases hopens : opens modules s head with
    | true => simp [reached, hopens, Function.comp_def]
    | false => simp [hopens, Function.comp_def]
  rw [reached, standings, standingsOf, List.nil_append, List.cons_append, List.filter_cons_of_pos rfl,
    List.map_cons, List.filter_append, List.map_append, hinside]
  rfl

/-- A selection is what is reached, without the conditional blocks. It fails at the first condition that is
reached and cannot be decided. -/
lemma select_eq_reached (modules : Modules) (s : Session) (ds : List Directive) :
    select modules s ds = match (reached modules s ds).findSome? (undecided? modules s) with
      | some fault => .error fault
      | none => .ok ((reached modules s ds).filter stays) := by
  induction ds using node_induction with
  | nil => rfl
  | rule line r ds ih =>
    rw [select, ofDirective, ih, reached_rule, List.findSome?_cons, undecided?]
    cases (reached modules s ds).findSome? (undecided? modules s) <;> rfl
  | node line head children ds hr ihc ih =>
    -- a Require node is reached, stays as it is, and hides what is inside it
    have hcloses : opens modules s head = false := by rw [opens, hr]; rfl
    have hdecided : Condition.applies modules s head = .ok false := by
      rw [Condition.applies, Condition.check]
      cases hk : head.kind <;> simp_all [BlockKind.isRequire, Except.map]
    have hstays : (Directive.block line head children).stays = true := hr
    rw [select, ofDirective, if_pos hr, ih, reached_block, hcloses, List.findSome?_cons, undecided?,
      hdecided, if_neg Bool.false_ne_true, List.nil_append, List.filter_cons_of_pos hstays]
    cases (reached modules s ds).findSome? (undecided? modules s) <;> rfl
  | condition line head children ds hr ihc ih =>
    have hgoes : ¬(Directive.block line head children).stays = true := by simp [stays, hr]
    rw [select, ofDirective, if_neg (by simp [hr]), ihc, ih, reached_block, List.findSome?_cons,
      undecided?, List.filter_cons_of_neg hgoes]
    cases happlies : Condition.applies modules s head with
    | error fault => rfl
    | ok holds =>
      have hopens : opens modules s head = holds := by rw [opens, hr, happlies]; rfl
      dsimp only
      rw [hopens]
      cases holds with
      | false =>
        rw [if_neg Bool.false_ne_true, List.nil_append]
        cases (reached modules s ds).findSome? (undecided? modules s) <;> rfl
      | true =>
        -- the faults of the children come before those of what follows the block
        rw [if_pos rfl, List.findSome?_append, List.filter_append]
        cases (reached modules s children).findSome? (undecided? modules s) with
        | some fault => rfl
        | none => cases (reached modules s ds).findSome? (undecided? modules s) <;> rfl

/-- A selection from two sequences put together is one from each. -/
lemma select_append (ds es : List Directive) :
    select modules s (ds ++ es) =
      (select modules s ds).bind fun as => (select modules s es).map (as ++ ·) := by
  induction ds with
  | nil =>
    rw [List.nil_append, select]
    cases select modules s es <;> rfl
  | cons d ds ih =>
    rw [List.cons_append, select, select, ih]
    cases ofDirective modules s d with
    | error fault => rfl
    | ok first =>
      cases select modules s ds with
      | error fault => rfl
      | ok as =>
        cases select modules s es with
        | error fault => rfl
        | ok bs => simp [Except.bind, Except.map]

/-- Where no directive is a conditional block, all are selected. -/
lemma select_of_stays (h : ∀ d ∈ ds, d.stays = true) : select modules s ds = .ok ds := by
  induction ds with
  | nil => rfl
  | cons d ds ih =>
    obtain ⟨hd, hds⟩ := List.forall_mem_cons.1 h
    have hfirst : ofDirective modules s d = .ok [d] := by
      cases d with
      | rule line r => rfl
      | block line head children =>
        rw [ofDirective, if_pos (show head.kind.isRequire = true from hd)]
    rw [select, hfirst, ih hds]
    rfl

/-- No conditional blocks are left in a selection. -/
lemma stays_of_select {as : List Directive} (h : select modules s ds = .ok as) :
    ∀ d ∈ as, d.stays = true := by
  rw [select_eq_reached] at h
  split at h
  · cases h
  · cases h
    intro d hd
    exact (List.mem_filter.1 hd).2

/-- A block that opens stands for what is inside it. -/
lemma ofDirective_of_opens (hkind : head.kind.isRequire = false)
    (h : Condition.applies modules s head = .ok true) :
    ofDirective modules s (.block line head children) = select modules s children := by
  rw [ofDirective, if_neg (by simp [hkind]), h]

/-- A selection is what the first directive stands for and the selection from what follows it. -/
lemma select_cons (d : Directive) (ds : List Directive) :
    select modules s (d :: ds) =
      (ofDirective modules s d).bind fun as => (select modules s ds).map (as ++ ·) := by
  rw [select]
  cases ofDirective modules s d with
  | error fault => rfl
  | ok first => cases select modules s ds <;> rfl

/-- A block that opens makes no difference where it stands in no Require node. -/
lemma select_wrapped (hkind : head.kind.isRequire = false)
    (happlies : Condition.applies modules s head = .ok true) (h : Wrapped line head ds es) :
    select modules s es = select modules s ds := by
  induction h with
  | here before run after =>
    rw [List.append_assoc, select_append, select_append, select_append, select_cons,
      ofDirective_of_opens hkind happlies]
  | @inside children children' before after line' head' hkind' _ ih =>
    have hsame : ofDirective modules s (.block line' head' children') =
        ofDirective modules s (.block line' head' children) := by
      rw [ofDirective, ofDirective, ih]
      simp [hkind']
    rw [select_append, select_append, select_cons, select_cons, hsame]

end Reached

/-- A selection is what is reached, without the conditional blocks, in the order in which it is written; it
fails only at a condition that cannot be decided, with the fault of the first one that is reached. It is made
piece by piece, it selects all of itself, and a conditional block whose condition holds makes no difference
around directives that stand next to one another outside of Require nodes. -/
theorem select_reaches (modules : Modules) (s : Session) :
    (∀ ds, select modules s ds = match (reached modules s ds).findSome? (undecided? modules s) with
      | some fault => .error fault
      | none => .ok ((reached modules s ds).filter stays)) ∧
    (∀ line head children fault, undecided? modules s (.block line head children) = some fault →
      (head.kind = .filesMatch ∧ s.filename.isSome = true) ∨
        (head.kind = .ifModule ∧ head.name = none)) ∧
    (∀ ds es, select modules s (ds ++ es) =
      (select modules s ds).bind fun as => (select modules s es).map (as ++ ·)) ∧
    (∀ ds as, select modules s ds = .ok as → select modules s as = .ok as) ∧
    ∀ line head ds es, head.kind.isRequire = false → Condition.applies modules s head = .ok true →
      Wrapped line head ds es → select modules s es = select modules s ds := by
  refine ⟨select_eq_reached modules s, ?_, select_append, ?_, ?_⟩
  · intro line head children fault h
    rw [undecided?] at h
    cases happlies : Condition.applies modules s head with
    | ok holds => simp [happlies] at h
    | error fault' => exact Condition.of_applies_error happlies
  · intro ds as h
    exact select_of_stays (stays_of_select h)
  · intro line head ds es hkind happlies h
    exact select_wrapped hkind happlies h

/-- A rule, a condition that holds with a Require node and a condition that fails inside, and a rule. -/
def layeredRules : List Directive :=
  [.rule 1 { kind := .authName, value := some "r".toList },
    .block 2 { kind := .limit, methods := some "GET".toList }
      [.block 3 { kind := .requireAny } [.block 4 { kind := .files, name := some "x".toList } []],
        .block 5 { kind := .files, name := some "x".toList } [.rule 6 { kind := .requireAllDenied }]],
    .rule 7 { kind := .requireAllGranted }]

/-- What is selected of them is selected again, and is not changed by a condition around the last two of
them. A condition without a pattern cannot be decided for a request that names a file. -/
theorem select_layeredRules_reaches :
    ∃ as es, select none {} layeredRules = .ok as ∧ as.map Directive.line = [1, 3, 7] ∧
      select none {} as = .ok as ∧
      Wrapped 9 { kind := .ifModule, name := some "m".toList } layeredRules es ∧
      select none {} es = .ok as ∧
      undecided? none { filename := some [] } (.block 0 { kind := .filesMatch } []) =
        some .missingText ∧
      ((BlockKind.filesMatch = .filesMatch ∧ (some [] : Option Text).isSome = true) ∨
        (BlockKind.filesMatch = .ifModule ∧ (none : Option Text) = none)) := by
  obtain ⟨-, -, -, hagain, hwrapped⟩ := select_reaches none {}
  have has : select none {} layeredRules = .ok
      [.rule 1 { kind := .authName, value := some "r".toList },
        .block 3 { kind := .requireAny } [.block 4 { kind := .files, name := some "x".toList } []],
        .rule 7 { kind := .requireAllGranted }] := rfl
  have hwrap : Wrapped 9 { kind := .ifModule, name := some "m".toList } layeredRules _ :=
    .here (layeredRules.take 1) (layeredRules.drop 1) []
  have hundecided : undecided? none { filename := some [] } (.block 0 { kind := .filesMatch } []) =
      some .missingText := rfl
  refine ⟨_, _, has, rfl, hagain _ _ has, hwrap, ?_, hundecided, ?_⟩
  · rw [hwrapped _ _ _ _ rfl rfl hwrap]
    exact has
  · exact (select_reaches none { filename := some [] }).2.1 _ _ _ _ hundecided

end Selection

end HtGate
