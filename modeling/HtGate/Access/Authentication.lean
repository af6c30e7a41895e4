import HtGate.Access.Credentials
import HtGate.Access.Decision
import HtGate.Files.Basic
import HtGate.Password.Basic
import HtGate.Text.Malformed
/-!
# Authentication

A configuration may ask for a user who proves an identity. The user's credentials are looked up in a
file of users and password hashes, one to a line with a colon between them. A user may have several
lines; one with the hash of the password is enough. A user who proves no identity is challenged, and a
file that cannot be read is the server's failure.

Which hashes are hashes of a password is a parameter of all but the last definition.
-/

namespace HtGate.Authentication

/-- What a sequence of directives says about authentication. The last directive of a kind counts. -/
structure Setup where
  type : Option Text := none
  realm : Option Text := none
  userFile : Option Text := none
  /-- Whether a user is asked for. -/
  validUser : Bool := false
  deriving DecidableEq, Repr

namespace Setup

/-- Takes up a directive. -/
def add (setup : Setup) : Directive → Setup
  | .rule _ r =>
    match r.kind with
    | .authType => { setup with type := r.value }
    | .authName => { setup with realm := r.value }
    | .authUserFile => { setup with userFile := r.value }
    | .requireValidUser => { setup with validUser := true }
    | _ => setup
  | .block _ _ _ => setup

/-- The setup of a sequence. -/
def ofDirectives (ds : List Directive) : Setup := ds.foldl add {}

/-- Whether a user has to send credentials. -/
def isBasic (setup : Setup) : Bool :=
  setup.validUser && setup.type.any fun t => Text.lower t == "basic".toList

end Setup

/-- Says of a hash and a password whether the one is a hash of the other. -/
abbrev Verifier := Text → Text → Bool

/-- Whether a line is one of the user's and has the hash of the password. -/
def lineAccepts (verify : Verifier) (c : Credentials) (line : Text) : Bool :=
  match Text.cut ':' line with
  | (user, some hash) => user == c.user && verify (Text.trim hash) c.password
  | (_, none) => false

/-- What comes out about a user. -/
inductive Finding where
  /-- No file of users is named. -/
  | noUserFile
  /-- No credentials were sent. -/
  | noCredentials
  /-- The file of users cannot be read. -/
  | unreadable (file why : Text)
  /-- The user has proved an identity. -/
  | authenticated (user file : Text)
  /-- The user has not. -/
  | rejected (user : Text)
  deriving DecidableEq, Repr

/-- What a file of users says about credentials. -/
def lookUp (verify : Verifier) (file : Text) (bytes : Bytes) (c : Credentials) : Finding :=
  match Utf8.defect? bytes with
  | some defect => .unreadable file defect.message
  | none =>
    if (Text.lines ((Utf8.decode bytes).getD [])).any (lineAccepts verify c) then
      .authenticated c.user file
    else .rejected c.user

/-- What comes out about the sender of a header. -/
def findUser (verify : Verifier) (files : Files) (file : Option Text) (header : Option Text) :
    Except Fault Finding :=
  match file with
  | none | some [] => .ok .noUserFile
  | some file =>
    match Credentials.ofHeader header with
    | .error fault => .error fault
    | .ok none => .ok .noCredentials
    | .ok (some c) =>
      match files.read file with
      | .ok bytes => .ok (lookUp verify file bytes c)
      | .error .nulInPath => .error .nulInPath
      | .error fault => .ok (.unreadable file fault.message)

/-- What comes out about the sender of a header, if a user is asked for. -/
def find (verify : Verifier) (files : Files) (setup : Setup) (header : Option Text) :
    Except Fault (Option Finding) :=
  if setup.isBasic then (findUser verify files setup.userFile header).map some else .ok none

namespace Finding

/-- The status that a finding turns the client away with. -/
def status? : Finding → Option Int
  | noUserFile | unreadable _ _ => some 500
  | noCredentials | rejected _ => some 401
  | authenticated _ _ => none

/-- The reason that goes with a finding. -/
def reason : Finding → Text
  | noUserFile => "AuthUserFile not specified".toList
  | noCredentials => "no valid Basic credentials".toList
  | unreadable file _ => "cannot read AuthUserFile ".toList ++ file
  | authenticated user _ => "authenticated as ".toList ++ user
  | rejected user => "authentication failed for ".toList ++ Text.quoted user

/-- The decision that follows from a finding. -/
def decision (f : Finding) : Decision :=
  match f.status? with
  | some status => .deny status f.reason
  | none => .allow f.reason

/-- The header of a challenge. -/
def challengeHeader : Text := "WWW-Authenticate".toList

/-- The variable that holds the name of the user. -/
def userVariable : Text := "REMOTE_USER".toList

/-- The session with a challenge for a realm, unless the realm has no name. -/
def challenge (realm : Option Text) (s : Session) : Session :=
  match realm with
  | none | some [] => s
  | some realm => s.withHeader challengeHeader ("Basic realm=\"".toList ++ realm ++ ['"'])

/-- The session after a finding. -/
def apply (realm : Option Text) (f : Finding) (s : Session) : Session :=
  match f with
  | noUserFile | unreadable _ _ => s.withStatus 500
  | noCredentials | rejected _ => (challenge realm s).withStatus 401
  | authenticated user _ => s.withEnv userVariable user

/-- What a finding writes to the log. -/
def records (source : Text) (f : Finding) : List Log.Record :=
  let failure (status : String) : Log.Record :=
    ⟨.debug, source, "Auth failed (".toList ++ status.toList ++ "): ".toList ++ f.reason⟩
  match f with
  | noUserFile =>
    [⟨.error, source, "[htaccess] AuthUserFile not specified".toList⟩, failure "500"]
  | unreadable file why =>
    [⟨.error, source,
      "[htaccess] Cannot open AuthUserFile: ".toList ++ file ++ " (".toList ++ why ++ ")".toList⟩,
      failure "500"]
  | noCredentials | rejected _ => [failure "401"]
  | authenticated user file =>
    [⟨.debug, source,
      "Authenticated ".toList ++ Text.quoted user ++ " against ".toList ++ file⟩]

end Finding

/-- Decides about a session's user, if the directives ask for one. -/
def evaluateWith (verify : Verifier) (source : Text) (files : Files) (ds : List Directive)
    (s : Session) : Outcome (Option Decision) :=
  let setup := Setup.ofDirectives ds
  match find verify files setup s.authorization with
  | .error fault => ⟨.error fault, s, []⟩
  | .ok none => ⟨.ok none, s, []⟩
  | .ok (some f) => ⟨.ok (some f.decision), f.apply setup.realm s, f.records source⟩

/-- Decides about a session's user by the hashes of all schemes. -/
def evaluate : Text → Files → List Directive → Session → Outcome (Option Decision) :=
  evaluateWith Password.verify

end HtGate.Authentication
