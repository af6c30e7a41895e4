import HtGate.Digest.Sha1
import HtGate.Password.Bcrypt
import HtGate.Password.DesCrypt
import HtGate.Password.Md5Crypt
import HtGate.Password.Sha2Crypt
import HtGate.Text.Base64
/-!
# Password hashes

A hash begins with the mark of its scheme; one without a mark is of the oldest scheme. A text that is no
hash of any scheme is the hash of no password.
-/

namespace HtGate.Password

/-- The longest password that is looked at, in characters. -/
def maxLength : Nat := 4096

/-- The hash of a password by one round of SHA-1. -/
def sha1Hash (password : Bytes) : Text :=
  "\x7bSHA\x7d".toList ++ Base64.encode (Digest.Sha1.digest password)

/-- A scheme of password hashes with the mark that its hashes begin with. -/
def marked : List (Text × (Text → Bytes → Bool)) :=
  [("$2$".toList, Bcrypt.verify true),
    ("$2a$".toList, Bcrypt.verify false),
    ("$2y$".toList, Bcrypt.verify false),
    ("$2b$".toList, Bcrypt.verify false),
    ("$apr1$".toList, Md5Crypt.verify "$apr1$"),
    ("$6$".toList, Sha2Crypt.verify Sha2Crypt.sha512),
    ("$5$".toList, Sha2Crypt.verify Sha2Crypt.sha256),
    ("$1$".toList, Md5Crypt.verify "$1$")]

/-- Whether a hash is that of a password. -/
def verify (hash password : Text) : Bool :=
  let bytes := Utf8.encode password
  password.length ≤ maxLength &&
    match marked.findSome? fun (mark, check) => (Text.dropPrefix? hash mark).map (check · bytes) with
    | some answer => answer
    | none => hash == sha1Hash bytes || DesCrypt.verify hash bytes

end HtGate.Password
