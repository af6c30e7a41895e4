import HtGate.Fault
import HtGate.Text.Base64
import HtGate.Text.Case
import HtGate.Text.Whitespace
/-!
# Credentials

A user and a password, as they stand in the header by which a client proves an identity: the word of
the scheme, and the base64 form of the UTF-8 form of both with a colon between them. The user has no
colon, so that the first colon ends it.
-/

namespace HtGate

/-- A user and a password. -/
structure Credentials where
  user : Text
  password : Text
  deriving DecidableEq, Repr

namespace Credentials

/-- The word of the scheme with the blank after it, in lower case. -/
def scheme : Text := "basic ".toList

/-- The header for a text of a user, a colon and a password. -/
def header (pair : Text) : Text := "Basic ".toList ++ Base64.encode (Utf8.encode pair)

/-- The user before the first colon and the password after it. -/
def ofPair? (pair : Text) : Option Credentials :=
  match Text.cut ':' pair with
  | (user, some password) => some ⟨user, password⟩
  | (_, none) => none

/-- The credentials that a token stands for. -/
def ofToken (token : Text) : Except Fault (Option Credentials) :=
  if token.all (·.toNat < 0x80) then .ok ((Base64.decode token).bind Utf8.decode |>.bind ofPair?)
  else .error .credentialsNotAscii

/-- The credentials in a header. There are none in a header of another scheme or without a token, or
if the token is no written form of a user and a password. -/
def ofHeader (header : Option Text) : Except Fault (Option Credentials) :=
  match header with
  | none => .ok none
  | some h =>
    if h.length < 7 || Text.lower (h.take 6) != scheme then .ok none
    else ofToken (Text.trim (h.drop 6))

end Credentials

end HtGate
