import HtGate.Proofs.Access.Reach
/-!
# Directives that access control does not look at

A directive is silent if it says nothing about an address, puts nothing into the hands of the Require nodes,
adds nothing to the legacy rules and asks for no user. A sequence may be thinned by leaving silent directives
out, at the top and inside of blocks: requests take the same course, whatever the test of hashes and whatever
the files are. In particular a request gets the same decision, for the same reason, from the rules of access
control alone.
-/

namespace HtGate.Access

open Authentication Directive

/-- Whether a directive says nothing to any stage of access control. -/
structure Silent (d : Directive) : Prop where
  judge : ∀ ip, Require.judge ip d = .ok none
  governs : Require.governs d = false
  legacy : ∀ rules, Legacy.Rules.add rules d = .ok rules
  setup : ∀ setup, Setup.add setup d = setup

/-- Whether the second sequence is the first one without some silent directives, at whatever depth. -/
inductive Thinned : List Directive → List Directive → Prop
  | nil : Thinned [] []
  | drop {d : Directive} {ds es : List Directive} : Silent d → Thinned ds es → Thinned (d :: ds) es
  | rule {ds es : List Directive} (line : Int) (r : Rule) : Thinned ds es →
    Thinned (.rule line r :: ds) (.rule line r :: es)
  | block {children children' ds es : List Directive} (line : Int) (head : BlockHead) :
    Thinned children children' → Thinned ds es →
    Thinned (.block line head children :: ds) (.block line head children' :: es)

namespace Thinned

variable {ds es : List Directive}

/-- Nodes grant and deny the same. -/
lemma anySays (h : Thinned ds es) (answer : Bool) (ip : Int) :
    Require.anySays answer ip es = Require.anySays answer ip ds := by
  induction h generalizing answer with
  | nil => rfl
  | drop hd _ ih =>
    rw [Require.anySays, hd.judge, ih]
    rfl
  | rule line r _ ih => rw [Require.anySays, Require.anySays, ih]
  | block line head _ _ ihc ih =>
    rw [Require.anySays, Require.anySays, Require.judge, Require.judge, ihc, ihc, ih]

/-- The first node that grants is of the same kind and on the same line. -/
lemma firstGrant (h : Thinned ds es) (client : Option Text) (ip : Int) :
    (Require.firstGrant ip es).map (Require.Finding.ofGrant client) =
      (Require.firstGrant ip ds).map (Require.Finding.ofGrant client) := by
  -- what follows a node counts only if the node does not grant
  have hcons {d e : Directive} {ds es : List Directive} (hjudge : Require.judge ip e = Require.judge ip d)
      (hgrant : Require.Finding.ofGrant client (some e) = Require.Finding.ofGrant client (some d))
      (hrest : (Require.firstGrant ip es).map (Require.Finding.ofGrant client) =
        (Require.firstGrant ip ds).map (Require.Finding.ofGrant client)) :
      (Require.firstGrant ip (e :: es)).map (Require.Finding.ofGrant client) =
        (Require.firstGrant ip (d :: ds)).map (Require.Finding.ofGrant client) := by
    rw [Require.firstGrant, Require.firstGrant, hjudge]
    cases Require.judge ip d with
    | error fault => rfl
    | ok verdict =>
      dsimp only
      split
      · exact congrArg Except.ok hgrant
      · exact hrest
  induction h with
  | nil => rfl
  | drop hd _ ih =>
    rw [Require.firstGrant, hd.judge]
    exact ih
  | rule line r _ ih => exact hcons rfl rfl ih
  | block line head hc _ _ ih =>
    apply hcons
    · rw [Require.judge, Require.judge, hc.anySays, hc.anySays]
    · rfl
    · exact ih

/-- There are Require nodes in a thinned sequence if there were before. -/
lemma any_governs (h : Thinned ds es) : es.any Require.governs = ds.any Require.governs := by
  induction h with
  | nil => rfl
  | drop hd _ ih => rw [List.any_cons, hd.governs, Bool.false_or, ih]
  | rule line r _ ih => rw [List.any_cons, List.any_cons, ih]
  | block line head _ _ _ ih =>
    rw [List.any_cons, List.any_cons, ih]
    rfl

/-- What the Require nodes say about a client is the same. -/
lemma find (h : Thinned ds es) (ip : Option Text) : Require.find es ip = Require.find ds ip := by
  have hmap : (Require.find es ip).map id = (Require.find ds ip).map id := by
    apply Require.find_congr id h.any_governs
    intro address
    rw [h.firstGrant]
  rwa [Except.map_id] at hmap

/-- The legacy rules of a thinned sequence are those that there were before. -/
lemma legacyRules (h : Thinned ds es) :
    Legacy.Rules.ofDirectives es = Legacy.Rules.ofDirectives ds := by
  rw [Legacy.Rules.ofDirectives, Legacy.Rules.ofDirectives]
  generalize ({} : Legacy.Rules) = rules
  induction h generalizing rules with
  | nil => rfl
  | drop hd _ ih =>
    rw [List.foldlM_cons, hd.legacy]
    exact ih rules
  | rule line r _ ih =>
    rw [List.foldlM_cons, List.foldlM_cons]
    exact bind_congr ih
  | block line head _ _ _ ih =>
    rw [List.foldlM_cons, List.foldlM_cons]
    exact ih rules

/-- A thinned sequence asks for a user as it did before. -/
lemma setup (h : Thinned ds es) : Setup.ofDirectives es = Setup.ofDirectives ds := by
  rw [Setup.ofDirectives, Setup.ofDirectives]
  generalize ({} : Setup) = setup
  induction h generalizing setup with
  | nil => rfl
  | drop hd _ ih =>
    rw [List.foldl_cons, hd.setup]
    exact ih setup
  | rule line r _ ih => exact ih (setup.add (.rule line r))
  | block line head _ _ _ ih => exact ih setup

/-- Requests take the same course. -/
lemma course (h : Thinned ds es) (verify : Verifier) (files : Files) (ip header : Option Text) :
    course verify files es ip header = course verify files ds ip header := by
  have hlegacy : Legacy.find es ip = Legacy.find ds ip := by
    rw [Legacy.find, Legacy.find, h.legacyRules]
  rw [Access.course, Access.course, addressAnswer, addressAnswer, h.find, hlegacy, h.setup]

/-- Requests get the same decision and leave the same session. -/
lemma decision (h : Thinned ds es) (verify : Verifier) (files : Files) (s : Session) :
    (decideWith verify files es s).result = (decideWith verify files ds s).result ∧
      (decideWith verify files es s).session = (decideWith verify files ds s).session := by
  obtain ⟨hresult, hsession⟩ := decideWith_outcome verify files es s
  rw [h.course, h.setup] at hsession
  rw [h.course] at hresult
  obtain ⟨hresult', hsession'⟩ := decideWith_outcome verify files ds s
  exact ⟨hresult.trans hresult'.symm, hsession.trans hsession'.symm⟩

end Thinned

end HtGate.Access

namespace HtGate

/-- The kinds of the rules of access control. -/
def Kind.isAccess : Kind → Bool
  | .order | .allowFrom | .denyFrom | .requireAllGranted | .requireAllDenied | .requireIp
  | .requireNotIp | .requireValidUser | .authType | .authName | .authUserFile => true
  | _ => false

namespace Directive

mutual

/-- What remains of a directive without the rules that are none of access control. -/
def accessOf : Directive → List Directive
  | .rule line r => if r.kind.isAccess then [.rule line r] else []
  | .block line head children => [.block line head (accessOnly children)]

/-- A sequence without the rules, at whatever depth, that are none of access control. -/
def accessOnly : List Directive → List Directive
  | [] => []
  | d :: ds => accessOf d ++ accessOnly ds

end

/-- The rules of access control in two sequences put together are those of each. -/
@[simp]
lemma accessOnly_append (ds es : List Directive) :
    accessOnly (ds ++ es) = accessOnly ds ++ accessOnly es := by
  induction ds with
  | nil => rfl
  | cons d ds ih => rw [List.cons_append, accessOnly, accessOnly, ih, List.append_assoc]

end Directive

open Directive

namespace Access

/-- A rule that is none of access control is silent. -/
lemma silent_rule {r : Rule} (h : r.kind.isAccess = false) (line : Int) : Silent (.rule line r) := by
  constructor
  · intro ip
    rw [Require.judge, Require.judgeRule]
    cases hk : r.kind <;> simp_all [Kind.isAccess]
  · rw [Require.governs]
    cases hk : r.kind <;> simp_all [Kind.isAccess, Kind.isRequireAccess]
  · intro rules
    rw [Legacy.Rules.add]
    cases hk : r.kind <;> simp_all [Kind.isAccess]
  · intro setup
    rw [Authentication.Setup.add]
    cases hk : r.kind <;> simp_all [Kind.isAccess]

/-- To leave out the rules that are none of access control is to leave out silent directives. -/
lemma thinned_accessOnly (ds : List Directive) : Thinned ds (accessOnly ds) := by
  induction ds using Directive.forest_induction with
  | nil => exact .nil
  | rule line r ds ih =>
    rw [accessOnly, accessOf]
    cases hr : r.kind.isAccess with
    | true => exact .rule line r ih
    | false => exact .drop (silent_rule hr line) ih
  | block line head children ds ihc ih => exact .block line head ihc ih

end Access

namespace Selection

variable {modules : Modules} {s : Session}

/-- The step of the induction: a first directive and what follows it are each selected from as they were. -/
lemma select_accessOnly_cons {d : Directive} {ds : List Directive}
    (hd : select modules s (accessOf d) = (ofDirective modules s d).map accessOnly)
    (hds : select modules s (accessOnly ds) = (select modules s ds).map accessOnly) :
    select modules s (accessOnly (d :: ds)) = (select modules s (d :: ds)).map accessOnly := by
  rw [accessOnly, select_append, select_cons, hd, hds]
  cases ofDirective modules s d with
  | error fault => rfl
  | ok first =>
    cases select modules s ds with
    | error fault => rfl
    | ok rest => simp [Except.bind, Except.map]

/-- The rules of access control that apply to a request are those among all that applies. -/
lemma select_accessOnly (modules : Modules) (s : Session) (ds : List Directive) :
    select modules s (accessOnly ds) = (select modules s ds).map accessOnly := by
  induction ds using Directive.forest_induction with
  | nil => rfl
  | rule line r ds ih =>
    refine select_accessOnly_cons ?_ ih
    rw [ofDirective, accessOf, Except.map, accessOnly, accessOf, accessOnly, List.append_nil]
    apply select_of_stays
    intro d hd
    split at hd
    · cases List.mem_singleton.1 hd
      rfl
    · cases hd
  | block line head children ds ihc ih =>
    refine select_accessOnly_cons ?_ ih
    rw [accessOf, select_cons, ofDirective, ofDirective, ihc]
    -- the head alone decides whether the block stays, is opened or is left out
    cases head.kind.isRequire with
    | true => rfl
    | false =>
      cases Condition.applies modules s head with
      | error fault => rfl
      | ok holds =>
        cases holds with
        | false => rfl
        | true =>
          cases select modules s children with
          | error fault => rfl
          | ok as => simp [Except.bind, Except.map, select]

end Selection

namespace Access

/-- Access control depends on its own rules only. Without all other rules, at whatever depth, a request gets
the same decision for the same reason, or ends in the same fault, and leaves the same session, whatever the
test of hashes is. -/
theorem check_accessOnly (verify : Authentication.Verifier) (files : Files) (modules : Modules)
    (ds : List Directive) (s : Session) :
    (checkWith verify files modules (accessOnly ds) s).result =
        (checkWith verify files modules ds s).result ∧
      (checkWith verify files modules (accessOnly ds) s).session =
        (checkWith verify files modules ds s).session := by
  have hselect := Selection.select_accessOnly modules s ds
  cases hs : Selection.select modules s ds with
  | error fault =>
    rw [hs] at hselect
    obtain ⟨hresult, hsession⟩ := check_of_select_error verify files hs
    obtain ⟨hresult', hsession'⟩ := check_of_select_error verify files hselect
    exact ⟨hresult'.trans hresult.symm, hsession'.trans hsession.symm⟩
  | ok as =>
    rw [hs] at hselect
    obtain ⟨hresult, hsession⟩ := check_of_select verify files hs
    obtain ⟨hresult', hsession'⟩ := check_of_select verify files hselect
    obtain ⟨hdecision, hleft⟩ := (thinned_accessOnly as).decision verify files s
    exact ⟨hresult'.trans (hdecision.trans hresult.symm),
      hsession'.trans (hleft.trans hsession.symm)⟩

end Access

end HtGate
