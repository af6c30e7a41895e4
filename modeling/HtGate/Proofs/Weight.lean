import HtGate.Directive.Overlay
import HtGate.Proofs.Access.Course
import HtGate.Proofs.Evaluability
/-!
# What counts of a selection

Access control and lifetimes look at a selection with different eyes. Require nodes and what says how to ask
for a user are taken in turn, and no directive replaces them. Of the host lists it counts which there are, of
the orders and the switches for lifetimes which comes last, and of the lifetimes for a content type which
comes first. Two selections that agree on these things get the same decision and the same lifetime for every
request.
-/

namespace HtGate

open Directive (Everywhere)
open Overlay

namespace Directive

/-- What a directive says beyond its name and value, if it is a rule. -/
def detail : Directive → Detail
  | rule _ r => r.detail
  | block _ _ _ => .none

mutual

/-- The rules that requests may select from a directive. -/
def selectable : Directive → List Rule
  | rule _ r => [r]
  | block _ head children => if head.kind.isRequire then [] else selectableAll children

/-- The rules that requests may select from a sequence. -/
def selectableAll : List Directive → List Rule
  | [] => []
  | d :: ds => selectable d ++ selectableAll ds

end

end Directive

namespace Selection

variable {modules : Modules} {s : Session}

/-- What a directive stands for in a session; nothing if that cannot be said. -/
def pieces (modules : Modules) (s : Session) (d : Directive) : List Directive :=
  match ofDirective modules s d with
  | .error _ => []
  | .ok first => first

/-- Why it cannot be said what a directive stands for in a session. -/
def failure? (modules : Modules) (s : Session) (d : Directive) : Option Fault :=
  match ofDirective modules s d with
  | .error fault => some fault
  | .ok _ => none

/-- A rule stands for itself. -/
@[simp]
lemma pieces_rule (line : Int) (r : Rule) : pieces modules s (.rule line r) = [.rule line r] := by
  rw [pieces, ofDirective]

/-- It can always be said what a rule stands for. -/
@[simp]
lemma failure?_rule (line : Int) (r : Rule) : failure? modules s (.rule line r) = none := by
  rw [failure?, ofDirective]

/-- A selection is what the directives stand for, unless that cannot be said of one of them. -/
lemma select_eq (modules : Modules) (s : Session) (ds : List Directive) :
    select modules s ds = match ds.findSome? (failure? modules s) with
      | some fault => .error fault
      | none => .ok (ds.flatMap (pieces modules s)) := by
  induction ds with
  | nil => rw [select]; rfl
  | cons d ds ih =>
    rw [select, ih, List.findSome?_cons, List.flatMap_cons, failure?, pieces]
    cases ofDirective modules s d with
    | error fault => rfl
    | ok first => cases ds.findSome? (failure? modules s) <;> rfl

/-- A selection is what the directives stand for. -/
lemma eq_of_select {ds as : List Directive} (h : select modules s ds = .ok as) :
    as = ds.flatMap (pieces modules s) := by
  rw [select_eq] at h
  split at h
  · cases h
  · exact (Except.ok.inj h).symm

/-- The rules of a selection are selectable. -/
lemma selectable_of_select {ds as : List Directive} (h : select modules s ds = .ok as) {line : Int}
    {r : Rule} (hr : .rule line r ∈ as) : r ∈ Directive.selectableAll ds := by
  induction ds using Directive.forest_induction generalizing as with
  | nil =>
    cases h
    cases hr
  | rule line' r' ds ih =>
    obtain ⟨first, more, hfirst, hmore, rfl⟩ := select_cons_iff.1 h
    cases hfirst
    rcases List.mem_cons.1 hr with heq | hr
    · cases heq
      simp [Directive.selectableAll, Directive.selectable]
    · simp [Directive.selectableAll, ih hmore hr]
  | block line' head children ds ihc ih =>
    obtain ⟨first, more, hfirst, hmore, rfl⟩ := select_cons_iff.1 h
    rw [Directive.selectableAll, Directive.selectable, List.mem_append]
    rcases List.mem_append.1 hr with hr | hr
    · -- what is inside Require nodes is not selected
      rw [ofDirective] at hfirst
      cases hrequire : head.kind.isRequire with
      | true =>
        rw [if_pos hrequire] at hfirst
        cases hfirst
        simp at hr
      | false =>
        rw [if_neg (by simp [hrequire])] at hfirst
        rw [if_neg Bool.false_ne_true]
        split at hfirst
        · cases hfirst
        · exact .inl (ihc hfirst hr)
        · cases hfirst
          cases hr
    · exact .inr (ih hmore hr)

/-- The rules that a directive stands for can be selected from it. -/
lemma selectable_of_pieces {d : Directive} {line : Int} {r : Rule}
    (h : .rule line r ∈ pieces modules s d) : r ∈ d.selectable := by
  rw [pieces] at h
  split at h
  · cases h
  · rename_i first hfirst
    have hselect : select modules s [d] = .ok (first ++ []) :=
      select_cons_iff.2 ⟨first, [], hfirst, by rw [select], rfl⟩
    simpa [Directive.selectableAll] using selectable_of_select hselect (by simpa using h)

end Selection

namespace Overlay

/-- Whether nothing replaces a directive. -/
def free (d : Directive) : Bool := d.overrideKey.isNone

end Overlay

namespace Require

/-- A directive that may be replaced says nothing about an address. -/
lemma judge_of_not_free {d : Directive} (h : free d = false) (ip : Int) : judge ip d = .ok none := by
  cases d with
  | rule line r =>
    rw [free, Directive.overrideKey, OverrideKey.ofRule] at h
    rw [judge, judgeRule]
    cases hk : r.kind <;> simp_all [OverrideKey.isNamed, OverrideKey.isSingle]
  | block line head children =>
    rw [free, Directive.overrideKey] at h
    rw [judge]
    cases hk : head.kind <;> simp_all

/-- A directive that may be replaced is no Require node. -/
lemma governs_of_not_free {d : Directive} (h : free d = false) : governs d = false := by
  cases d with
  | rule line r =>
    rw [free, Directive.overrideKey, OverrideKey.ofRule] at h
    rw [governs]
    cases hk : r.kind <;>
      simp_all [OverrideKey.isNamed, OverrideKey.isSingle, Kind.isRequireAccess]
  | block line head children =>
    rw [free, Directive.overrideKey] at h
    rw [governs]
    cases hk : head.kind <;> simp_all [BlockKind.isRequire]

/-- The first node that grants is found among those that nothing replaces. -/
lemma firstGrant_filter_free (ip : Int) (ds : List Directive) :
    firstGrant ip (ds.filter free) = firstGrant ip ds := by
  induction ds with
  | nil => rfl
  | cons d ds ih =>
    cases hd : free d with
    | true => rw [List.filter_cons_of_pos hd, firstGrant, firstGrant, ih]
    | false =>
      rw [List.filter_cons_of_neg (by simp [hd]), firstGrant, judge_of_not_free hd]
      exact ih

/-- Require nodes are never replaced. -/
lemma find_filter_free (ds : List Directive) (ip : Option Text) :
    find (ds.filter free) ip = find ds ip := by
  have hany : (ds.filter free).any governs = ds.any governs := by
    rw [List.any_filter]
    congr 1
    funext d
    cases hd : free d with
    | true => rfl
    | false => rw [governs_of_not_free hd]; rfl
  rw [find, find, hany]
  simp only [firstGrant_filter_free]

end Require

namespace Authentication.Setup

/-- A directive that may be replaced does not say how to ask for a user. -/
lemma add_of_not_free {d : Directive} (h : free d = false) (setup : Setup) : setup.add d = setup := by
  cases d with
  | rule line r =>
    rw [free, Directive.overrideKey, OverrideKey.ofRule] at h
    rw [add]
    cases hk : r.kind <;> simp_all [OverrideKey.isNamed, OverrideKey.isSingle]
  | block line head children => rfl

/-- What says how to ask for a user is never replaced. -/
lemma ofDirectives_filter_free (ds : List Directive) :
    ofDirectives (ds.filter free) = ofDirectives ds := by
  rw [ofDirectives, ofDirectives, List.foldl_filter]
  congr 1
  funext setup d
  cases hd : free d with
  | true => rfl
  | false => rw [if_neg Bool.false_ne_true, add_of_not_free hd]

end Authentication.Setup

namespace Legacy

/-- What host lists come to for an address, and whether there are any. -/
def weigh (ip : Int) (lists : List (Option Text)) : Bool × Except Fault Bool :=
  (lists.isEmpty, anyContains ip lists)

/-- Host lists are searched through to the end of the first part before the second one is. -/
lemma anyContains_append (ip : Int) (xs ys : List (Option Text)) :
    anyContains ip (xs ++ ys) = match anyContains ip xs with
      | .ok false => anyContains ip ys
      | answer => answer := by
  induction xs with
  | nil => rfl
  | cons x xs ih =>
    rw [List.cons_append, anyContains, anyContains]
    cases HostList.contains x ip with
    | error fault => rfl
    | ok found =>
      cases found with
      | true => rfl
      | false => exact ih

/-- No host list contains an address exactly if none of them does. -/
lemma anyContains_eq_false_iff {ip : Int} {lists : List (Option Text)} :
    anyContains ip lists = .ok false ↔ ∀ list ∈ lists, HostList.contains list ip = .ok false := by
  induction lists with
  | nil => exact ⟨fun _ _ h => (List.not_mem_nil h).elim, fun _ => rfl⟩
  | cons list more ih =>
    rw [anyContains, List.forall_mem_cons]
    cases HostList.contains list ip with
    | error fault => simp
    | ok found => cases found <;> simp [ih]

/-- Host lists that weigh the same do so with others behind them. -/
lemma weigh_append {ip : Int} {xs ys : List (Option Text)} (h : weigh ip xs = weigh ip ys)
    (zs : List (Option Text)) : weigh ip (xs ++ zs) = weigh ip (ys ++ zs) := by
  obtain ⟨hempty, hany⟩ := Prod.mk.injEq .. ▸ h
  have hempty' : (xs ++ zs).isEmpty = (ys ++ zs).isEmpty := by
    cases xs <;> cases ys <;> simp_all
  rw [weigh, weigh, anyContains_append, anyContains_append, hany, hempty']

/-- Host lists that have come before add nothing. -/
lemma weigh_append_of_subset {ip : Int} {xs zs : List (Option Text)} (h : zs ⊆ xs) :
    weigh ip (xs ++ zs) = weigh ip xs := by
  -- what is appended is there already, so that nothing new is asked
  have hempty : (xs ++ zs).isEmpty = xs.isEmpty := by
    cases xs with
    | nil => rw [List.subset_nil.1 h]; rfl
    | cons x xs => rfl
  have hany : anyContains ip (xs ++ zs) = anyContains ip xs := by
    rw [anyContains_append]
    cases hxs : anyContains ip xs with
    | error fault => rfl
    | ok found =>
      cases found with
      | true => rfl
      | false =>
        exact anyContains_eq_false_iff.2 fun list hlist => anyContains_eq_false_iff.1 hxs list (h hlist)
  rw [weigh, weigh, hempty, hany]

end Legacy

namespace Expires

/-- Whether a rule gives the lifetime of a content type. -/
def isFor (type : Text) (r : Rule) : Bool :=
  r.kind == .expiresByType &&
    r.name.any fun name => !name.isEmpty && Text.lower name == Text.lower type

/-- Whether a rule gives the lifetime of all other content. -/
def isDefault (r : Rule) : Bool := r.kind == .expiresDefault

/-- The lifetime that a directive states, if it is a rule of a sort. -/
def statedBy (p : Rule → Bool) : Directive → List Int
  | .rule _ r => if p r then [stated r] else []
  | .block _ _ _ => []

/-- The lifetimes for a content type are those that its rules state, in their order. -/
lemma rulesFor_stated (type : Text) (ds : List Directive) :
    (rulesFor type ds).map (fun e => stated e.2) = ds.flatMap (statedBy (isFor type)) := by
  induction ds with
  | nil => rfl
  | cons d ds ih =>
    rw [List.flatMap_cons, ← ih, rulesFor, List.filterMap_cons]
    cases d with
    | block line head children => rfl
    | rule line r =>
      simp only [statedBy]
      cases hfor : isFor type r <;> rw [isFor] at hfor <;> simp only [hfor] <;> rfl

/-- The lifetimes for all other content are those that its rules state, in their order. -/
lemma defaultRules_stated (ds : List Directive) :
    (defaultRules ds).map (fun e => stated e.2) = ds.flatMap (statedBy isDefault) := by
  induction ds with
  | nil => rfl
  | cons d ds ih =>
    rw [List.flatMap_cons, ← ih, defaultRules, List.filterMap_cons]
    cases d with
    | block line head children => rfl
    | rule line r =>
      simp only [statedBy]
      cases hdefault : isDefault r <;> rw [isDefault] at hdefault <;> simp only [hdefault] <;> rfl

/-- The first lifetime that a complete sequence states for the response of a session. -/
lemma first_candidates_stated {ds : List Directive} (h : Everywhere Statement.Complete ds)
    (s : Session) :
    first (candidates ds s) = .ok ((ds.flatMap (statedBy (isFor (contentType s)))).head?.or
      (ds.flatMap (statedBy isDefault)).head?) := by
  rw [first_candidates_eq h, ← List.head?_map, candidates, List.map_append, rulesFor_stated,
    defaultRules_stated, List.head?_append]

end Expires

/-- Whether two selections weigh the same for access and lifetimes. -/
structure SameWeight (as bs : List Directive) : Prop where
  free : as.filter free = bs.filter free
  order : as.reverse.findSome? (·.word? .order Detail.order?) =
    bs.reverse.findSome? (·.word? .order Detail.order?)
  hosts : ∀ kind, kind = .allowFrom ∨ kind = .denyFrom → ∀ ip,
    Legacy.weigh ip (as.flatMap (Legacy.hosts kind)) = Legacy.weigh ip (bs.flatMap (Legacy.hosts kind))
  active : as.reverse.findSome? (·.word? .expiresActive Detail.active?) =
    bs.reverse.findSome? (·.word? .expiresActive Detail.active?)
  lifetime : ∀ type, (as.flatMap (Expires.statedBy (Expires.isFor type))).head? =
    (bs.flatMap (Expires.statedBy (Expires.isFor type))).head?
  default : as.flatMap (Expires.statedBy Expires.isDefault) =
    bs.flatMap (Expires.statedBy Expires.isDefault)

namespace SameWeight

variable {as bs : List Directive} (h : SameWeight as bs)

include h

/-- Selections that weigh the same ask for a user in the same way. -/
lemma setup : Authentication.Setup.ofDirectives as = Authentication.Setup.ofDirectives bs := by
  rw [← Authentication.Setup.ofDirectives_filter_free as, h.free,
    Authentication.Setup.ofDirectives_filter_free]

variable (ha : Everywhere Statement.Complete as) (hb : Everywhere Statement.Complete bs)

include ha hb

/-- The legacy rules find the same in selections that weigh the same. -/
lemma legacy_find (ip : Option Text) : Legacy.find as ip = Legacy.find bs ip := by
  obtain ⟨hallow, hanyAllow⟩ := forall_and.1 fun ip => Prod.mk.injEq .. ▸ h.hosts _ (.inl rfl) ip
  obtain ⟨hdeny, hanyDeny⟩ := forall_and.1 fun ip => Prod.mk.injEq .. ▸ h.hosts _ (.inr rfl) ip
  -- whether there are host lists is the same for every address, so that any address shows it
  rw [Legacy.find, Legacy.find, Legacy.ofDirectives_eq ha, Legacy.ofDirectives_eq hb, h.order]
  simp only [bind, Except.bind, Legacy.Rules.isEmpty, Legacy.Rules.effectiveOrder, hallow 0, hdeny 0,
    hanyAllow, hanyDeny]
  rfl

/-- Requests take the same course. -/
lemma course (verify : Authentication.Verifier) (files : Files) (ip header : Option Text) :
    Access.course verify files as ip header = Access.course verify files bs ip header := by
  have hrequire : Require.find as ip = Require.find bs ip := by
    rw [← Require.find_filter_free as, h.free, Require.find_filter_free]
  rw [Access.course, Access.course, Access.addressAnswer, Access.addressAnswer, hrequire, h.setup,
    h.legacy_find ha hb]

/-- A response gets the same lifetime, and the same headers with it. -/
lemma apply (now : Rat) (s : Session) :
    (Expires.apply now as s).result = (Expires.apply now bs s).result ∧
      (Expires.apply now as s).session = (Expires.apply now bs s).session := by
  have hresult : (Expires.find as s).result = (Expires.find bs s).result := by
    rw [Expires.find, Expires.find, Expires.isActive_eq ha, Expires.isActive_eq hb, h.active]
    cases (bs.reverse.findSome? (·.word? .expiresActive Detail.active?)).getD false with
    | false => rfl
    | true =>
      show Expires.first _ = Expires.first _
      rw [Expires.first_candidates_stated ha, Expires.first_candidates_stated hb, h.lifetime,
        h.default]
  have hsession (ds : List Directive) : (Expires.find ds s).session = s := by
    rw [Expires.find]
    split <;> rfl
  rw [Expires.apply, Expires.apply, Outcome.andThen, Outcome.andThen, hresult, hsession, hsession]
  split <;> exact ⟨rfl, rfl⟩

end SameWeight

end HtGate
