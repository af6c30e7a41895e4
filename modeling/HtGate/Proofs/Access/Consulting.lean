import HtGate.Proofs.Access.Course
import HtGate.Proofs.Access.Likeness
import HtGate.Proofs.Evaluability
/-!
# Consulted host lists

Hosts, host lists and Require nodes are searched one after another, and only until the answer is known. So a
host that cannot be read does no harm where the search does not come to it. A decision by the address fails
exactly if the address itself cannot be read or if a list that is consulted has such a host.
-/

namespace HtGate

open Directive (Everywhere)

/-- Whether a search comes to an element: it does not hold of any element before. -/
inductive ComesTo {α : Type} (f : α → Except Fault Bool) : List α → α → Prop where
  | here {a l} : ComesTo f (a :: l) a
  | later {a b l} : f b = .ok false → ComesTo f l a → ComesTo f (b :: l) a

section Search

variable {α β : Type} {f : α → Except Fault Bool} {a : α} {l : List α} {fault : Fault}

/-- A search through two lists goes on to the second if it does not hold of any element of the first. -/
lemma anyM_append (f : α → Except Fault Bool) (l l' : List α) :
    (l ++ l').anyM f = (l.anyM f).bind fun found => if found then .ok true else l'.anyM f := by
  induction l with
  | nil => rfl
  | cons a l ih =>
    rw [List.cons_append, List.anyM_cons, List.anyM_cons, ih]
    cases f a with
    | error fault => rfl
    | ok found => cases found <;> rfl

/-- A search that comes to an end finds out whether an element has a property, if looking at one does. -/
lemma anyM_eq_ok {P : α → Prop} (hP : ∀ a b, f a = .ok b → (b = true ↔ P a)) {b : Bool}
    (h : l.anyM f = .ok b) : b = true ↔ ∃ a ∈ l, P a := by
  induction l with
  | nil =>
    cases h
    simp
  | cons a l ih =>
    rw [List.anyM_cons] at h
    rw [List.exists_mem_cons_iff]
    cases ha : f a with
    | error fault => simp [ha, bind, Except.bind] at h
    | ok found =>
      cases found with
      | true =>
        obtain rfl : true = b := by simpa [ha, bind, Except.bind, pure, Except.pure] using h
        exact ⟨fun _ => .inl ((hP a true ha).1 rfl), fun _ => rfl⟩
      | false =>
        have hnot : ¬P a := fun hPa => Bool.false_ne_true ((hP a false ha).2 hPa)
        rw [ih (by simpa [ha, bind, Except.bind, pure, Except.pure] using h)]
        simp [hnot]

end Search

namespace HostList

/-- Whether a host is a network to which an address belongs. -/
def names (ip : Int) (host : Text) : Except Fault Bool :=
  (Network.parse (some host)).map fun reading => reading.toOption.any (·.contains ip)

/-- The items of a list are searched for one that names the address. -/
lemma anyContains_eq_anyM (ip : Int) (hosts : List Text) :
    anyContains ip hosts = hosts.anyM (names ip) := by
  induction hosts with
  | nil => rfl
  | cons host more ih =>
    rw [anyContains, List.anyM_cons, names, ih]
    cases Network.parse (some host) with
    | error fault => rfl
    | ok reading =>
      cases reading with
      | error reason => rfl
      | ok network =>
        cases hfound : network.contains ip <;>
          simp [hfound, Except.map, Except.toOption, bind, Except.bind, pure, Except.pure]

end HostList

namespace Legacy

/-- Host lists are searched for one that contains the address. -/
lemma anyContains_eq_anyM (ip : Int) (lists : List (Option Text)) :
    anyContains ip lists = lists.anyM (HostList.contains · ip) := by
  induction lists with
  | nil => rfl
  | cons list more ih =>
    rw [anyContains, List.anyM_cons, ih]
    cases HostList.contains list ip with
    | error fault => rfl
    | ok found => cases found <;> rfl

/-- For an address that can be read, both kinds of host lists are searched, whichever comes first in order. -/
lemma find_of_readable {ds : List Directive} {ip : Option Text} {address : Nat} {rules : Rules}
    (hrules : Rules.ofDirectives ds = .ok rules) (hsome : rules.isEmpty = false)
    (hip : Ipv4.parse ip = .ok (.ok address)) :
    find ds ip = (anyContains address rules.allow).bind fun allowed =>
      (anyContains address rules.deny).map fun denied =>
        .matched ip rules.effectiveOrder allowed denied := by
  simp only [find, hrules, hsome, hip, bind, Except.bind, pure, Except.pure]
  cases anyContains address rules.allow with
  | error fault => rfl
  | ok allowed => cases anyContains address rules.deny <;> rfl

end Legacy

namespace Require

variable {ip : Int} {ds : List Directive} {fault : Fault}

/-- Whether a node answers so. -/
def answers (answer : Bool) (ip : Int) (d : Directive) : Except Fault Bool :=
  (judge ip d).map (· == some answer)

/-- Whether a search for an answer among nodes, and among the nodes inside them, comes to a host list.
Inside a node the answer is sought that decides about the node. -/
inductive Consults (ip : Int) : Bool → List Directive → Option Text → Prop where
  | host {answer ds line r} : ComesTo (answers answer ip) ds (.rule line r) →
    r.kind = .requireIp ∨ r.kind = .requireNotIp → Consults ip answer ds r.value
  | anyOf {answer ds line head children list} :
    ComesTo (answers answer ip) ds (.block line head children) → head.kind = .requireAny →
    Consults ip true children list → Consults ip answer ds list
  | allOf {answer ds line head children list} :
    ComesTo (answers answer ip) ds (.block line head children) → head.kind = .requireAll →
    Consults ip false children list → Consults ip answer ds list

/-- A list that is consulted behind a node is consulted if the node does not give the answer. -/
lemma Consults.later {answer : Bool} {d : Directive} {list : Option Text}
    (hd : answers answer ip d = .ok false) (h : Consults ip answer ds list) :
    Consults ip answer (d :: ds) list := by
  cases h with
  | host hcomes hk => exact .host (.later hd hcomes) hk
  | anyOf hcomes hk h => exact .anyOf (.later hd hcomes) hk h
  | allOf hcomes hk h => exact .allOf (.later hd hcomes) hk h

end Require

namespace Access

section Deciding

variable {ds : List Directive} {ip : Option Text} {fault : Fault}

/-- Whether a decision by an address consults a host list. The legacy lists are consulted where there are no
Require nodes. -/
inductive Consults (ip : Int) (ds : List Directive) : Option Text → Prop where
  | require {list} : ds.any Require.governs = true → Require.Consults ip true ds list →
    Consults ip ds list
  | allow {list} : ds.any Require.governs = false →
    ComesTo (HostList.contains · ip) (ds.flatMap (Legacy.hosts .allowFrom)) list → Consults ip ds list
  | deny {list} : ds.any Require.governs = false →
    ComesTo (HostList.contains · ip) (ds.flatMap (Legacy.hosts .denyFrom)) list → Consults ip ds list

end Deciding

end Access

end HtGate
