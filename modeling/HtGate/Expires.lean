import HtGate.Access.Decision
import HtGate.Duration
import HtGate.Text.Case
import HtGate.Time.Instant
/-!
# Lifetimes

How long a response may be kept. Where lifetimes are on, the first lifetime for the response's content
type counts, or else the first default; it is written to two headers, as a number of seconds and as a
date.
-/

namespace HtGate.Expires

/-- The name under which lifetimes write to the log. -/
def source : Text := "htgate.expires".toList

/-- The content type of a response that has none. -/
def defaultContentType : Text := "application/octet-stream".toList

/-- The content type of a session without its parameters. -/
def contentType (s : Session) : Text :=
  let full := match s.contentType with
    | none | some [] => defaultContentType
    | some t => t
  Text.trim (Text.cut ';' full).1

/-- Takes up a directive that may turn lifetimes on or off. -/
def takeUp (active : Bool) : Directive → Except Fault Bool
  | .rule _ r =>
    match r.kind, r.detail with
    | .expiresActive, .expires active _ => .ok active
    | .expiresActive, _ => .error .missingDetail
    | _, _ => .ok active
  | .block _ _ _ => .ok active

/-- Whether lifetimes are on: the last directive that says so counts. -/
def isActive (ds : List Directive) : Except Fault Bool := ds.foldlM takeUp false

/-- The rules for a content type, with their lines. -/
def rulesFor (type : Text) (ds : List Directive) : List (Int × Rule) :=
  ds.filterMap fun
    | .rule line r =>
      let named := r.name.any fun name => !name.isEmpty && Text.lower name == Text.lower type
      if r.kind == .expiresByType && named then some (line, r) else none
    | .block _ _ _ => none

/-- The rules for all other content, with their lines. -/
def defaultRules (ds : List Directive) : List (Int × Rule) :=
  ds.filterMap fun
    | .rule line r => if r.kind == .expiresDefault then some (line, r) else none
    | .block _ _ _ => none

/-- The lifetime of a rule. One that carries none of its own has that of its value, if the value is a
duration. -/
def lifetime (r : Rule) : Except Fault (Except DurationError Int) :=
  match r.detail with
  | .expires _ seconds =>
    if 0 < seconds || (r.value.getD []).isEmpty then .ok (.ok seconds)
    else (Duration.parse r.value).map fun reading => reading.map Int.ofNat
  | _ => .error .missingDetail

/-- The first lifetime of a list of rules. -/
def first : List (Int × Rule) → Except Fault (Option Int)
  | [] => .ok none
  | (_, r) :: more =>
    match lifetime r with
    | .error fault => .error fault
    | .ok (.ok seconds) => .ok (some seconds)
    | .ok (.error _) => first more

/-- The records of the rules without a lifetime that come before the first one. -/
def warnings : List (Int × Rule) → List Log.Record
  | [] => []
  | (line, r) :: more =>
    match lifetime r with
    | .ok (.error reason) =>
      ⟨.warning, source,
        "Line ".toList ++ Text.ofInt line ++ ": invalid expires duration ".toList
          ++ Text.quotedOrNone r.value ++ ": ".toList ++ reason.message⟩ :: warnings more
    | _ => []

/-- The rules that are asked in turn. -/
def candidates (ds : List Directive) (s : Session) : List (Int × Rule) :=
  rulesFor (contentType s) ds ++ defaultRules ds

/-- The lifetime of a response, if lifetimes are on and there is one. -/
def find (ds : List Directive) (s : Session) : Outcome (Option Int) :=
  match isActive ds with
  | .error fault => ⟨.error fault, s, []⟩
  | .ok false => ⟨.ok none, s, []⟩
  | .ok true => ⟨first (candidates ds s), s, warnings (candidates ds s)⟩

/-- The header for a number of seconds. -/
def ageHeader : Text := "Cache-Control".toList

/-- The header for a date. -/
def dateHeader : Text := "Expires".toList

/-- Sets the headers for a lifetime that begins now. -/
def stamp (now : Rat) (seconds : Int) (s : Session) : Outcome Int :=
  match Fault.writeNumeral seconds with
  | .error fault => ⟨.error fault, s, []⟩
  | .ok numeral =>
    let aged := s.withHeader ageHeader ("max-age=".toList ++ numeral)
    match (Instant.after now seconds).bind Instant.date with
    | .error fault => ⟨.error fault, aged, []⟩
    | .ok date =>
      ⟨.ok seconds, aged.withHeader dateHeader date.headerText,
        [⟨.debug, source,
          "Expires for ".toList ++ contentType s ++ ": ".toList ++ numeral ++ ['s']⟩]⟩

/-- Sets the headers for the lifetime of a response, if there is one. -/
def apply (now : Rat) (ds : List Directive) (s : Session) : Outcome (Option Int) :=
  (find ds s).andThen fun seconds s =>
    match seconds with
    | none => ⟨.ok none, s, []⟩
    | some seconds => (stamp now seconds s).andThen fun n s => ⟨.ok (some n), s, []⟩

end HtGate.Expires
