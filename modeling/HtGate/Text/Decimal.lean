import HtGate.Text.Digit
import HtGate.Text.Whitespace
/-!
# Decimal numerals

Numbers are written in ASCII digits without leading zeros and read in the digits of any script. A
numeral has at most 4300 digits, leading zeros counted, in both directions.
-/

namespace HtGate.Text

/-- The longest numeral that is read or written. -/
def maxDigits : Nat := 4300

/-- The digits of a natural number. -/
def ofNat (n : Nat) : Text := Nat.toDigits 10 n

/-- An integer in digits, with a minus sign where it is negative. -/
def ofInt : Int → Text
  | .ofNat n => ofNat n
  | .negSucc n => '-' :: ofNat (n + 1)

/-- The value of a run of decimal digits. -/
def numeralValue (digits : List Nat) : Nat := digits.foldl (fun n d => 10 * n + d) 0

/-- Why a run of digits is no numeral. -/
inductive NumeralError where
  /-- A character has no value as a decimal digit. -/
  | notDecimal
  /-- There are more digits than a numeral may have. -/
  | tooLong (digits : Nat)
  deriving DecidableEq, Repr

/-- Reads a numeral. Its length is looked at before what follows the last decimal digit. -/
def toNat (t : Text) : Except NumeralError Nat :=
  let digits := t.takeWhile isDecimal
  if maxDigits < digits.length then .error (.tooLong digits.length)
  else if digits.length < t.length || t.isEmpty then .error .notDecimal
  else .ok (numeralValue (digits.filterMap decimalValue?))

/-- Decimal digits with single underscores between them, without the underscores. -/
def ungrouped? : Text → Option Text
  | [] => none
  | [c] => if isDecimal c then some [c] else none
  | c :: '_' :: d :: rest =>
    if isDecimal c then (ungrouped? (d :: rest)).map (c :: ·) else none
  | c :: rest => if isDecimal c then (ungrouped? rest).map (c :: ·) else none

/-- Reads an integer: whitespace around it, a sign in front and underscores between digits are allowed. -/
def toInt? (t : Text) : Option Int :=
  let (sign, digits) : Int × Text := match trim t with
    | '-' :: rest => (-1, rest)
    | '+' :: rest => (1, rest)
    | rest => (1, rest)
  match (ungrouped? digits).map toNat with
  | some (.ok n) => some (sign * n)
  | _ => none

end HtGate.Text
