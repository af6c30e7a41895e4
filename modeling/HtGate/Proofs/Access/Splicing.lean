import HtGate.Proofs.Access.Thinning
/-!
# Conditions inside Require nodes

Outside Require nodes a conditional block stands for its children if its condition holds, and for nothing
if it does not. Inside Require nodes it stands for nothing either way: its condition is not looked at, and
the node decides by its other children. So a request gets the same answer if the conditional blocks inside
Require nodes are struck out first and the others are then replaced at every depth; it may get another one
if those inside are replaced too.
-/

namespace HtGate

namespace Selection

mutual

/-- What a directive stands for in a session if conditions count inside Require nodes as they do outside. -/
def spliceOf (modules : Modules) (s : Session) : Directive → Except Fault (List Directive)
  | .rule line r => .ok [.rule line r]
  | .block line head children =>
    if head.kind.isRequire then
      (splice modules s children).map fun inside => [.block line head inside]
    else
      match Condition.applies modules s head with
      | .error fault => .error fault
      | .ok true => splice modules s children
      | .ok false => .ok []

/-- A sequence with every conditional block, at every depth, replaced by what it stands for. -/
def splice (modules : Modules) (s : Session) : List Directive → Except Fault (List Directive)
  | [] => .ok []
  | d :: ds =>
    match spliceOf modules s d with
    | .error fault => .error fault
    | .ok first =>
      match splice modules s ds with
      | .error fault => .error fault
      | .ok rest => .ok (first ++ rest)

end

mutual

/-- What remains of a directive that stands inside a Require node or outside of all of them, without the
conditional blocks inside Require nodes. -/
def bareOf (inside : Bool) : Directive → List Directive
  | .rule line r => [.rule line r]
  | .block line head children =>
    if head.kind.isRequire then [.block line head (bare true children)]
    else if inside then []
    else [.block line head (bare false children)]

/-- A sequence without the conditional blocks inside Require nodes. -/
def bare (inside : Bool) : List Directive → List Directive
  | [] => []
  | d :: ds => bareOf inside d ++ bare inside ds

end

section Bare

variable {line : Int} {r : Rule} {head : BlockHead} {children ds : List Directive} {inside : Bool}

/-- Nothing remains of nothing. -/
@[simp]
lemma bare_nil : bare inside [] = [] := rfl

/-- A rule remains. -/
@[simp]
lemma bare_rule : bare inside (.rule line r :: ds) = .rule line r :: bare inside ds := rfl

/-- A Require node remains, with what remains inside it. -/
lemma bare_node (h : head.kind.isRequire = true) :
    bare inside (.block line head children :: ds) =
      .block line head (bare true children) :: bare inside ds := by
  simp [bare, bareOf, h]

/-- A conditional block inside a Require node is struck out. -/
lemma bare_condition_inside (h : head.kind.isRequire = false) :
    bare true (.block line head children :: ds) = bare true ds := by
  simp [bare, bareOf, h]

/-- A conditional block outside of Require nodes remains, with what remains inside it. -/
lemma bare_condition_outside (h : head.kind.isRequire = false) :
    bare false (.block line head children :: ds) =
      .block line head (bare false children) :: bare false ds := by
  simp [bare, bareOf, h]

/-- What remains of two sequences put together is what remains of each. -/
@[simp]
lemma bare_append (ds es : List Directive) :
    bare inside (ds ++ es) = bare inside ds ++ bare inside es := by
  induction ds with
  | nil => rfl
  | cons d ds ih => simp [bare, ih]

end Bare

/-- Whether a sequence has no conditional blocks at any depth. -/
def Unconditional (ds : List Directive) : Prop :=
  Directive.Everywhere (fun
    | .rule _ => True
    | .opening head => head.kind.isRequire = true) ds

/-- What remains inside Require nodes is unconditional. -/
lemma unconditional_bare (ds : List Directive) : Unconditional (bare true ds) := by
  induction ds using Directive.node_induction with
  | nil => exact Directive.everywhere_nil
  | rule line r ds ih => exact Directive.everywhere_rule.2 ⟨trivial, ih⟩
  | node line head children ds hr ihc ih =>
    rw [bare_node hr]
    exact Directive.everywhere_block.2 ⟨hr, ihc, ih⟩
  | condition line head children ds hr ihc ih => rwa [bare_condition_inside hr]

section Unconditional

variable {modules : Modules} {s : Session} {ds : List Directive}

/-- Where nothing is conditional, everything stands for itself. -/
lemma splice_of_unconditional (h : Unconditional ds) : splice modules s ds = .ok ds := by
  induction ds using Directive.forest_induction with
  | nil => rfl
  | rule line r ds ih => simp [splice, spliceOf, ih (Directive.everywhere_rule.1 h).2]
  | block line head children ds ihc ih =>
    obtain ⟨hr, hc, hds⟩ := Directive.everywhere_block.1 h
    have hkind : head.kind.isRequire = true := hr
    simp [splice, spliceOf, hkind, ihc hc, ih hds, Except.map]

/-- Where nothing is conditional, everything is selected. -/
lemma select_of_unconditional (h : Unconditional ds) : select modules s ds = .ok ds := by
  induction ds using Directive.forest_induction with
  | nil => rfl
  | rule line r ds ih => simp [select, ofDirective, ih (Directive.everywhere_rule.1 h).2]
  | block line head children ds ihc ih =>
    obtain ⟨hr, -, hds⟩ := Directive.everywhere_block.1 h
    have hkind : head.kind.isRequire = true := hr
    simp [select, ofDirective, hkind, ih hds]

/-- With the conditional blocks inside Require nodes struck out, to replace the others at every depth is to
select, and to strike out those inside what is selected. -/
lemma splice_bare (modules : Modules) (s : Session) (ds : List Directive) :
    splice modules s (bare false ds) = (select modules s ds).map (bare true) := by
  induction ds using Directive.node_induction with
  | nil => rfl
  | rule line r ds ih =>
    rw [bare_rule, splice, spliceOf, select, ofDirective, ih]
    cases select modules s ds <;> rfl
  | node line head children ds hr ihc ih =>
    rw [bare_node hr, splice, spliceOf, if_pos hr,
      splice_of_unconditional (unconditional_bare children), select, ofDirective, if_pos hr, ih]
    cases select modules s ds with
    | error fault => rfl
    | ok rest => simp [Except.map, bare_node hr]
  | condition line head children ds hr ihc ih =>
    have hnot : ¬head.kind.isRequire = true := by simp [hr]
    rw [bare_condition_outside hr, splice, spliceOf, if_neg hnot, select, ofDirective, if_neg hnot,
      ihc, ih]
    -- the condition is the same on both sides
    cases Condition.applies modules s head with
    | error fault => rfl
    | ok holds =>
      cases holds with
      | false => cases select modules s ds <;> rfl
      | true =>
        cases select modules s children with
        | error fault => rfl
        | ok first =>
          cases select modules s ds with
          | error fault => rfl
          | ok rest => simp [Except.map]

end Unconditional

end Selection

open Selection

namespace Access

/-- A conditional block that has not been replaced says nothing to access control. -/
lemma silent_condition {head : BlockHead} (h : head.kind.isRequire = false) (line : Int)
    (children : List Directive) : Silent (.block line head children) := by
  constructor
  · intro ip
    rw [Require.judge]
    split <;> simp_all [BlockKind.isRequire]
  · exact h
  · intro rules
    rfl
  · intro setup
    rfl

/-- To strike out conditional blocks inside Require nodes is to leave out silent directives. -/
lemma thinned_bare (ds : List Directive) : Thinned ds (bare true ds) := by
  induction ds using Directive.node_induction with
  | nil => exact .nil
  | rule line r ds ih => exact .rule line r ih
  | node line head children ds hr ihc ih =>
    rw [bare_node hr]
    exact .block line head ihc ih
  | condition line head children ds hr ihc ih =>
    rw [bare_condition_inside hr]
    exact .drop (silent_condition hr line children) ih

/-- The decision does not depend on the conditional blocks inside Require nodes, and neither does the session
that is left. -/
lemma decide_bare (verify : Authentication.Verifier) (files : Files) (ds : List Directive)
    (s : Session) :
    (decideWith verify files (bare true ds) s).result = (decideWith verify files ds s).result ∧
      (decideWith verify files (bare true ds) s).session = (decideWith verify files ds s).session :=
  (thinned_bare ds).decision verify files s

/-- With the conditional blocks inside Require nodes struck out, a request gets the same answer and leaves
the same session whether the other conditional blocks are replaced by what they stand for or not. Where
one of them cannot be replaced, the request ends in the same fault. All this holds for any test of hashes. -/
theorem check_splice_bare (verify : Authentication.Verifier) (files : Files) (modules : Modules)
    (ds : List Directive) (s : Session) :
    (∀ fault, splice modules s (bare false ds) = .error fault →
      (checkWith verify files modules ds s).result = .error fault) ∧
    ∀ es, splice modules s (bare false ds) = .ok es →
      (checkWith verify files modules es s).result = (checkWith verify files modules ds s).result ∧
      (checkWith verify files modules es s).session =
        (checkWith verify files modules ds s).session := by
  -- what is left of the whole sequence is what is left of the part that is selected
  rw [splice_bare]
  cases hs : select modules s ds with
  | error fault =>
    refine ⟨fun fault' h => ?_, fun es h => ?_⟩
    · cases h
      exact (check_of_select_error verify files hs).1
    · cases h
  | ok as =>
    refine ⟨fun fault' h => ?_, fun es h => ?_⟩
    · cases h
    · cases h
      -- in what is left nothing is conditional, so that all of it is selected
      have hself : select modules s (bare true as) = .ok (bare true as) :=
        select_of_unconditional (unconditional_bare as)
      obtain ⟨hresult, hsession⟩ := check_of_select verify files hs
      obtain ⟨hresult', hsession'⟩ := check_of_select verify files hself
      obtain ⟨hdecision, hleft⟩ := decide_bare verify files as s
      exact ⟨hresult'.trans (hdecision.trans hresult.symm),
        hsession'.trans (hleft.trans hsession.symm)⟩

/-- A RequireAll in which a rule that turns everybody away is conditional. -/
def limitedRules : List Directive :=
  [.block 1 { kind := .requireAll }
    [.block 2 { kind := .limit, methods := some "GET".toList }
      [.rule 3 { kind := .requireAllDenied }]]]

/-- The same under a condition. -/
def enclosedRules : List Directive :=
  [.block 0 { kind := .limit, methods := some "GET".toList } limitedRules]

/-- A block whose condition has no pattern. -/
def unreadableRules : List Directive := [.block 0 { kind := .filesMatch } []]

/-- A request for a page by a client with an address. -/
def pageSession : Session := { clientIp := some "10.0.0.1".toList }

/-- A request for a file without a name. -/
def fileSession : Session := { filename := some [] }

/-- A client is let in by a RequireAll that says so. -/
lemma addressAnswer_requireAll (children : List Directive)
    (h : Require.firstGrant (167772161 : Nat) [.block 1 { kind := .requireAll } children] =
      .ok (some (.block 1 { kind := .requireAll } children))) :
    ∃ a, addressAnswer [.block 1 { kind := .requireAll } children] pageSession.clientIp = .ok a ∧
      a.verdict = .allowed := by
  have hip : Ipv4.parse pageSession.clientIp = .ok (.ok 167772161) := rfl
  exact ⟨_, addressAnswer_of_firstGrant rfl hip h, rfl⟩

/-- A RequireAll under a condition that holds is reached, and what is conditional inside it is passed over;
a condition that cannot be read is a fault. -/
theorem check_enclosedRules_bare :
    (∃ d, splice none pageSession (bare false enclosedRules) =
        .ok [.block 1 { kind := .requireAll } []] ∧
      (check {} none [.block 1 { kind := .requireAll } []] pageSession).result = .ok d ∧
      (check {} none enclosedRules pageSession).result = .ok d ∧ d.verdict = .allowed) ∧
    splice none fileSession (bare false unreadableRules) = .error .missingText ∧
      (check {} none unreadableRules fileSession).result = .error .missingText := by
  constructor
  · have hsplice : splice none pageSession (bare false enclosedRules) =
        .ok [.block 1 { kind := .requireAll } []] := rfl
    have hs : select none pageSession [.block 1 { kind := .requireAll } []] =
        .ok [.block 1 { kind := .requireAll } []] := rfl
    -- the emptied node still governs, and everyone is granted
    obtain ⟨a, ha, hallowed⟩ := addressAnswer_requireAll [] rfl
    have hd := check_of_answer Password.verify {} hs rfl ha
    obtain ⟨hresult, -⟩ :=
      (check_splice_bare Password.verify {} none enclosedRules pageSession).2 _ hsplice
    exact ⟨a, hsplice, hd, hresult.symm.trans hd, hallowed⟩
  · have hsplice : splice none fileSession (bare false unreadableRules) =
        .error .missingText := rfl
    exact ⟨hsplice,
      (check_splice_bare Password.verify {} none unreadableRules fileSession).1 _ hsplice⟩

/-- A rule inside a RequireAll that turns everybody away is passed over because it is conditional, though
its condition holds: the request is let in, and would not be if the rule stood there by itself. -/
theorem check_limitedRules_not_spliced :
    ∃ es d e, parse "<RequireAll>\n<Limit GET>\nRequire all denied\n</Limit>\n</RequireAll>".toList =
        .ok ⟨limitedRules, []⟩ ∧
      splice none pageSession limitedRules = .ok es ∧
      (check {} none limitedRules pageSession).result = .ok d ∧ d.verdict = .allowed ∧
      (check {} none es pageSession).result = .ok e ∧ e.verdict = .denied := by
  have hs : select none pageSession limitedRules = .ok limitedRules := rfl
  have hsplice : splice none pageSession limitedRules =
      .ok [.block 1 { kind := .requireAll } [.rule 3 { kind := .requireAllDenied }]] := rfl
  obtain ⟨a, ha, hallowed⟩ := addressAnswer_requireAll [.block 2
    { kind := .limit, methods := some "GET".toList } [.rule 3 { kind := .requireAllDenied }]] rfl
  have hd := check_of_answer Password.verify {} hs rfl ha
  -- with the rule in place of its block, no node lets the client in
  have hself : select none pageSession
      [.block 1 { kind := .requireAll } [.rule 3 { kind := .requireAllDenied }]] =
      .ok [.block 1 { kind := .requireAll } [.rule 3 { kind := .requireAllDenied }]] := rfl
  have hip : Ipv4.parse pageSession.clientIp = .ok (.ok 167772161) := rfl
  have hgrant : Require.firstGrant (167772161 : Nat)
      [.block 1 { kind := .requireAll } [.rule 3 { kind := .requireAllDenied }]] = .ok none := rfl
  have he := check_of_answer Password.verify {} hself rfl (addressAnswer_of_firstGrant rfl hip hgrant)
  exact ⟨_, a, _, rfl, hsplice, hd, hallowed, he, rfl⟩

end Access

end HtGate
