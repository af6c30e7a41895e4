import HtGate.Text.Digit
import HtGate.Text.Malformed
import HtGate.Text.Percent
/-!
# Targets of requests

What a request is sent to: a path, or a whole address with a scheme and a server before the path. A query
and a fragment may follow; neither counts.
-/

namespace HtGate.Web.Target

/-- The text without controls and spaces at its start, and without tabs and line ends anywhere. -/
def cleaned (t : Text) : Text :=
  (t.dropWhile (·.toNat ≤ 0x20)).filter fun c => c != '\t' && c != '\r' && c != '\n'

/-- Whether a character may stand in a scheme, behind the letter with which it begins. -/
def isSchemeChar (c : Char) : Bool :=
  Text.isAsciiLetter c || Text.isAsciiDigit c || c == '+' || c == '-' || c == '.'

/-- What follows the scheme and its colon. -/
def afterScheme (t : Text) : Text :=
  match Text.cut ':' t with
  | (first :: more, some rest) =>
    if Text.isAsciiLetter first && more.all isSchemeChar then rest else t
  | _ => t

/-- What follows two slashes and the server. -/
def afterServer : Text → Text
  | '/' :: '/' :: rest => rest.dropWhile fun c => c != '/' && c != '?' && c != '#'
  | t => t

/-- What stands before the fragment and the query. -/
def beforeQuery (t : Text) : Text := (Text.cut '?' (Text.cut '#' t).1).1

/-- The path in a target. -/
def pathIn (t : Text) : Text := beforeQuery (afterServer (afterScheme (cleaned t)))

/-- The path that a target stands for. What is found in a target may be an address once more. -/
def path (t : Text) : Text := Percent.resolve Utf8.lenient (pathIn (pathIn t))

end HtGate.Web.Target
