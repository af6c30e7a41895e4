import HtGate.Fault
import HtGate.Text.Case
import HtGate.Text.Whitespace
/-!
# Durations

A duration is written `access plus` and one or more quantities with their units, and counts in
seconds. Months have 30 days and years 365.
-/

namespace HtGate

/-- Why a text is no duration. -/
inductive DurationError where
  /-- There is no text. -/
  | empty
  /-- One of the two leading words is missing. -/
  | keyword (word whole : Text)
  /-- A quantity is expected. -/
  | quantity (rest : Text)
  /-- A quantity has no unit. -/
  | noUnit (rest : Text)
  /-- The unit is none. -/
  | unknownUnit (word : Text)
  /-- There is no quantity at all. -/
  | noPairs (whole : Text)
  deriving DecidableEq, Repr

namespace DurationError

/-- The kind of a failure. -/
def kind : DurationError → Text
  | empty => "empty".toList
  | keyword _ _ => "keyword".toList
  | quantity _ => "quantity".toList
  | noUnit _ | unknownUnit _ => "unit".toList
  | noPairs _ => "no_pairs".toList

/-- The wording of a failure. -/
def message : DurationError → Text
  | empty => "empty duration".toList
  | keyword word whole =>
    "expected '".toList ++ word ++ "' in duration: ".toList ++ Text.quoted whole
  | quantity rest => "expected a number at ".toList ++ Text.quoted rest
  | noUnit rest => "expected a unit after number at ".toList ++ Text.quoted rest
  | unknownUnit word => "unknown duration unit: ".toList ++ word
  | noPairs whole => "duration has no quantity/unit pairs: ".toList ++ Text.quoted whole

end DurationError

namespace Duration

/-- The units in the singular, with their seconds. -/
def units : List (Text × Nat) :=
  [("second".toList, 1), ("minute".toList, 60), ("hour".toList, 3600), ("day".toList, 86400),
    ("month".toList, 2592000), ("year".toList, 31536000)]

/-- The seconds of a unit in the singular. -/
def secondsOf? (unit : Text) : Option Nat := (units.find? (·.1 == unit)).map (·.2)

/-- The seconds of a unit in the singular or plural, in any case. -/
def unitSeconds? (word : Text) : Option Nat :=
  let word := Text.lower word
  match secondsOf? word with
  | some n => some n
  | none => if word.getLast? == some 's' then secondsOf? word.dropLast else none

/-- Whether a character stands for a letter of a leading word when case is ignored. The long s counts
as an s. -/
def sameLetter (letter c : Char) : Bool :=
  Text.lowerOne c == letter || (letter == 's' && c == 'ſ')

/-- What follows a leading word, if the text begins with it and whitespace or the end comes next. -/
def afterWord? : Text → Text → Option Text
  | [], [] => some []
  | [], c :: rest => if Text.isWhitespace c then some (c :: rest) else none
  | _ :: _, [] => none
  | letter :: word, c :: rest => if sameLetter letter c then afterWord? word rest else none

/-- The seconds of the pairs of a text without whitespace around it, given how many pairs came before
and their sum. -/
def sumPairs : Nat → Text → Nat → Nat → Except Fault (Except DurationError (Nat × Nat))
  | _, [], pairs, total => .ok (.ok (pairs, total))
  | 0, rest, _, _ => .ok (.error (.quantity rest))
  | fuel + 1, c :: r, pairs, total =>
    let rest := c :: r
    if !Text.isDigit c then .ok (.error (.quantity rest))
    else
      let digits := rest.takeWhile Text.isAsciiDigit
      let afterDigits := rest.drop digits.length
      let afterSpace := Text.trimStart afterDigits
      let word := afterSpace.takeWhile Text.isAsciiLetter
      if digits.isEmpty || afterSpace.length == afterDigits.length || word.isEmpty then
        .ok (.error (.noUnit rest))
      else
        match unitSeconds? word with
        | none => .ok (.error (.unknownUnit word))
        | some seconds =>
          match Fault.readNumeral digits with
          | .error fault => .error fault
          | .ok n =>
            sumPairs fuel (Text.trimStart (afterSpace.drop word.length)) (pairs + 1)
              (total + n * seconds)

/-- The seconds that a text names. -/
def parse (t : Option Text) : Except Fault (Except DurationError Nat) :=
  let whole := t.getD []
  let s := Text.trim whole
  if s.isEmpty then .ok (.error .empty)
  else
    match afterWord? "access".toList s with
    | none => .ok (.error (.keyword "access".toList whole))
    | some rest =>
      match afterWord? "plus".toList (Text.trimStart rest) with
      | none => .ok (.error (.keyword "plus".toList whole))
      | some rest =>
        let rest := Text.trimStart rest
        match sumPairs rest.length rest 0 0 with
        | .error fault => .error fault
        | .ok (.error reason) => .ok (.error reason)
        | .ok (.ok (0, _)) => .ok (.error (.noPairs whole))
        | .ok (.ok (_, total)) => .ok (.ok total)

end Duration

end HtGate
