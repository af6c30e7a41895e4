import HtGate.Text.Basic
/-!
# Sessions

A session is a request as far as a configuration can see it, with the response as far as a
configuration can change it. Response headers and environment variables are tables in the order in
which their keys were first set.
-/

namespace HtGate

/-- A table of texts, in the order in which its keys were first set. -/
abbrev Table := List (Text × Text)

namespace Table

/-- The value at a key. -/
def get? (key : Text) : Table → Option Text
  | [] => none
  | (k, v) :: rest => if k == key then some v else get? key rest

/-- Sets the value at a key, which keeps its place if it is there. -/
def put (key value : Text) : Table → Table
  | [] => [(key, value)]
  | (k, v) :: rest => if k == key then (k, value) :: rest else (k, v) :: put key value rest

end Table

/-- A request and the response to it. -/
structure Session where
  /-- The address of the client. -/
  clientIp : Option Text := none
  /-- The request method. -/
  method : Option Text := some "GET".toList
  /-- The path that is asked for. -/
  uri : Option Text := some "/".toList
  /-- The name of the file that is asked for. -/
  filename : Option Text := none
  /-- The content type of the response. -/
  contentType : Option Text := none
  /-- The status of the response. -/
  status : Int := 200
  /-- The headers of the response. -/
  responseHeaders : Table := []
  /-- The environment of the request. -/
  env : Table := []
  /-- The header by which the client proves an identity. -/
  authorization : Option Text := none
  deriving DecidableEq, Repr

namespace Session

/-- The session with another status. -/
def withStatus (s : Session) (status : Int) : Session := { s with status }

/-- The session with a response header set. -/
def withHeader (s : Session) (name value : Text) : Session :=
  { s with responseHeaders := s.responseHeaders.put name value }

/-- The session with an environment variable set. -/
def withEnv (s : Session) (name value : Text) : Session := { s with env := s.env.put name value }

end Session

end HtGate
