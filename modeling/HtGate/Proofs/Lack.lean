import HtGate.Access.Credentials
import HtGate.Address.Network
import HtGate.Expires
import Mathlib.Tactic.Lemma
/-!
# Want of something

A fault may say that something is absent that is needed, or that it is of the wrong type. To read addresses
and host lists, to look at credentials and to date a response never ends with such a fault, whatever the
text and the time are.
-/

namespace HtGate

/-- Whether a fault says that something is absent or of the wrong type. -/
def Fault.IsLack (fault : Fault) : Prop := fault.category = .attribute ∨ fault.category = .type

instance : DecidablePred Fault.IsLack :=
  fun fault => inferInstanceAs (Decidable (fault.category = .attribute ∨ fault.category = .type))

/-- Whether a result is none that says that something is absent or of the wrong type. -/
def NeverLacks {α : Type} (x : Except Fault α) : Prop := ∀ fault, x = .error fault → ¬fault.IsLack

section NeverLacks

variable {α β : Type} {x : Except Fault α}

/-- A result that there is lacks nothing. -/
lemma neverLacks_ok (a : α) : NeverLacks (.ok a) := nofun

/-- A fault that is no lack may be the result. -/
lemma neverLacks_error {fault : Fault} (h : ¬fault.IsLack) :
    NeverLacks (.error fault : Except Fault α) := by
  intro fault' hfault
  cases hfault
  exact h

/-- A fault that is passed on is that of the result that it comes from. -/
lemma NeverLacks.passOn (h : NeverLacks x) {fault : Fault} (hx : x = .error fault) :
    NeverLacks (.error fault : Except Fault β) :=
  neverLacks_error (h fault hx)

/-- Two steps lack nothing if the first one does not and the second one does not after it. -/
lemma NeverLacks.bind (h : NeverLacks x) {f : α → Except Fault β}
    (hf : ∀ a, x = .ok a → NeverLacks (f a)) : NeverLacks (x >>= f) := by
  cases x with
  | error fault => exact h.passOn rfl
  | ok a => exact hf a rfl

/-- A result lacks no more after a change of its value. -/
lemma NeverLacks.map (h : NeverLacks x) (f : α → β) : NeverLacks (x.map f) := by
  cases x with
  | error fault => exact h.passOn rfl
  | ok a => exact neverLacks_ok (f a)

/-- Steps lack nothing if the first one does not and the following ones do not from there on. -/
lemma NeverLacks.andThen {o : Outcome α} (h : NeverLacks o.result) {next : α → Session → Outcome β}
    (hnext : ∀ a, o.result = .ok a → NeverLacks (next a o.session).result) :
    NeverLacks (o.andThen next).result := by
  rw [Outcome.andThen]
  split
  · rename_i hfault
    exact h.passOn hfault
  · rename_i a ha
    exact hnext a ha

end NeverLacks

/-- A numeral may be none or have too many digits, and neither is a lack. -/
lemma neverLacks_readNumeral (t : Text) : NeverLacks (Fault.readNumeral t) := by
  rw [Fault.readNumeral]
  split
  · exact neverLacks_ok _
  · exact neverLacks_error (by rintro (h | h) <;> cases h)
  · exact neverLacks_error (by rintro (h | h) <;> cases h)

namespace Ipv4

/-- To read an octet lacks nothing. -/
lemma neverLacks_octet (digits : Text) : NeverLacks (octet digits) := by
  rw [octet]
  split
  · exact neverLacks_ok _
  · split
    · rename_i hfault
      exact (neverLacks_readNumeral digits).passOn hfault
    · split <;> exact neverLacks_ok _

/-- To gather octets into an address lacks nothing, by induction on the octets. -/
lemma neverLacks_gather (octets : List Text) (address : Nat) :
    NeverLacks (gather address octets) := by
  induction octets generalizing address with
  | nil => exact neverLacks_ok _
  | cons digits more ih =>
    rw [gather]
    split
    · rename_i hfault
      exact (neverLacks_octet digits).passOn hfault
    · exact neverLacks_ok _
    · exact ih _

/-- To read four octets from the start of a text lacks nothing. -/
lemma neverLacks_readQuad (t : Text) : NeverLacks (readQuad t) := by
  rw [readQuad]
  split
  · exact neverLacks_ok _
  · rename_i octets rest _
    split
    · rename_i hfault
      exact (neverLacks_gather octets 0).passOn hfault
    · exact neverLacks_ok _
    · exact neverLacks_ok _

/-- To read an address lacks nothing. -/
lemma neverLacks_parse (t : Option Text) : NeverLacks (parse t) := by
  rw [parse]
  split
  · exact neverLacks_ok _
  · split
    · rename_i hfault
      exact (neverLacks_readQuad _).passOn hfault
    all_goals exact neverLacks_ok _

end Ipv4

namespace Network

/-- To read what stands behind the address of a network lacks nothing. -/
lemma neverLacks_withSuffix (t : Text) (address : Nat) (rest : Text) :
    NeverLacks (withSuffix t address rest) := by
  rw [withSuffix.eq_def]
  split
  · rename_i after
    dsimp only
    split
    · exact neverLacks_ok _
    · split
      · rename_i hfault
        exact (neverLacks_readNumeral _).passOn hfault
      · repeat' split
        all_goals exact neverLacks_ok _
  · split <;> exact neverLacks_ok _

/-- To read a network lacks nothing. -/
lemma neverLacks_parse (t : Option Text) : NeverLacks (parse t) := by
  rw [parse.eq_def]
  split
  · exact neverLacks_ok _
  · dsimp only
    split
    · exact neverLacks_ok _
    · split
      · exact neverLacks_ok _
      · split
        · rename_i hfault
          exact (Ipv4.neverLacks_readQuad _).passOn hfault
        · exact neverLacks_ok _
        · exact neverLacks_withSuffix _ _ _

end Network

namespace HostList

/-- To look for an address in the items of a list lacks nothing, by induction on them. -/
lemma neverLacks_anyContains (ip : Int) (items : List Text) : NeverLacks (anyContains ip items) := by
  induction items with
  | nil => exact neverLacks_ok _
  | cons item more ih =>
    rw [anyContains]
    split
    · rename_i hfault
      exact (Network.neverLacks_parse _).passOn hfault
    · exact ih
    · split
      · exact neverLacks_ok _
      · exact ih

/-- To look for an address in a host list lacks nothing. -/
lemma neverLacks_contains (list : Option Text) (ip : Int) : NeverLacks (contains list ip) :=
  neverLacks_anyContains ip _

end HostList

namespace Credentials

/-- To look at credentials lacks nothing. -/
lemma neverLacks_ofHeader (header : Option Text) : NeverLacks (ofHeader header) := by
  rw [ofHeader.eq_def]
  split
  · exact neverLacks_ok _
  · split
    · exact neverLacks_ok _
    · rw [ofToken]
      split
      · exact neverLacks_ok _
      · exact neverLacks_error (by decide)

end Credentials

namespace Instant

/-- A time that is too far away to be reached is no lack. -/
lemma neverLacks_after (now : Rat) (seconds : Int) : NeverLacks (after now seconds) := by
  rw [after]
  split
  · exact neverLacks_error (by decide)
  · split
    · exact neverLacks_error (by decide)
    · exact neverLacks_ok _

/-- A time without a date is no lack. -/
lemma neverLacks_date (instant : Rat) : NeverLacks (date instant) := by
  rw [date, dateOf]
  split
  · exact neverLacks_error (by decide)
  · dsimp only
    split
    · exact neverLacks_error (by decide)
    · split
      · exact neverLacks_error (by rintro (h | h) <;> cases h)
      · exact neverLacks_ok _

end Instant

namespace Expires

/-- To date a response lacks nothing. -/
lemma neverLacks_stamp (now : Rat) (seconds : Int) (s : Session) :
    NeverLacks (stamp now seconds s).result := by
  rw [stamp, Fault.writeNumeral]
  split
  · rename_i hfault
    split at hfault
    · cases hfault
      exact neverLacks_error (by decide)
    · cases hfault
  · dsimp only
    split
    · rename_i hfault
      exact ((Instant.neverLacks_after now seconds).bind
        fun _ _ => Instant.neverLacks_date _).passOn hfault
    · exact neverLacks_ok _

end Expires

end HtGate
