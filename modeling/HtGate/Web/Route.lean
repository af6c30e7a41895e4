import HtGate.Text.Basic
/-!
# Routes

Which part of the interface answers a request, by its method and its path. A path that has too many slashes,
or none, is sent elsewhere, if something takes the method there.
-/

namespace HtGate.Web

/-- The parts of the interface. -/
inductive Route where
  | index
  | directives
  | parse
  | evaluate
  /-- A file for a browser. There are none. -/
  | file
  deriving DecidableEq, Repr

/-- What a method and a path lead to. -/
inductive Destination where
  | route (route : Route)
  /-- There is no such path. -/
  | missing
  /-- The path is there, but does not take the method. -/
  | refused
  /-- The path is another one. -/
  | moved
  deriving DecidableEq, Repr

namespace Route

/-- Whether a text names a file: something that is not under the root and stands on one line. -/
def isFileName : Text → Bool
  | [] => false
  | first :: more => first != '/' && more.all (· != '\n')

/-- The route of a path. -/
def ofPath? (path : Text) : Option Route :=
  if path == "/".toList then some index
  else if path == "/api/directives".toList then some directives
  else if path == "/api/parse".toList then some parse
  else if path == "/api/evaluate".toList then some evaluate
  else (Text.dropPrefix? path "/static/".toList).bind fun name =>
    if isFileName name then some file else none

/-- The methods that a route takes: some routes wait for what is sent to them, the others only answer. -/
def methods : Route → List Text
  | index | directives | file => ["GET".toList, "HEAD".toList, "OPTIONS".toList]
  | parse | evaluate => ["POST".toList, "OPTIONS".toList]

/-- Whether a route takes a method. -/
def takes (route : Route) (method : Text) : Bool := route.methods.contains method

/-- The path with one slash for all at its start. -/
def rooted (path : Text) : Text := '/' :: path.dropWhile (· == '/')

/-- The path with one slash for every two. -/
def withFewerSlashes : Text → Text
  | '/' :: '/' :: rest => '/' :: withFewerSlashes rest
  | c :: rest => c :: withFewerSlashes rest
  | [] => []

end Route

/-- What a method and a path lead to. -/
def Destination.of (method path : Text) : Destination :=
  if path.isEmpty then if Route.index.takes method then moved else missing
  else
    let path := Route.rooted path
    match Route.ofPath? path with
    | some found => if found.takes method then route found else refused
    | none =>
      match Route.ofPath? (Route.withFewerSlashes path) with
      | some found => if found.takes method then moved else refused
      | none => missing

end HtGate.Web
