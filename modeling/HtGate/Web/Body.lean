import HtGate.Fault
import HtGate.Json.Encoding
import HtGate.Json.Reader
import HtGate.Number.Double
import HtGate.Web.Form
import HtGate.Web.Multipart
/-!
# Bodies of requests

What a request brings in its body: fields, from a JSON object or a form, and perhaps a file. A JSON value
that counts as nothing leaves the fields to the form.
-/

namespace HtGate.Web

/-- The fields of a request. -/
inductive Payload where
  /-- A JSON value, which should be an object. -/
  | json (value : Json)
  /-- Nothing, since the body is more than can be read. -/
  | refused (cause : Fault)
  /-- The fields of a form. -/
  | form (fields : List (Text × Text))

/-- Whether a JSON value counts as something: null, false, zero and whatever is empty do not. -/
def isTruthy : Json → Bool
  | .null => false
  | .bool b => b
  | .int n => n != 0
  | .decimal mantissa exponent => !Number.vanishes mantissa.natAbs exponent
  | .nonFinite _ => true
  | .text t => !t.isEmpty
  | .list elements => !elements.isEmpty
  | .object members => !members.isEmpty

namespace Payload

/-- The value of a field. Of several with one name the first counts. -/
def get? (name : Text) : Payload → Except Fault (Option Json)
  | json (.object members) => .ok ((members.find? (·.1 == name)).map (·.2))
  | json _ => .error .missingDetail
  | refused cause => .error cause
  | form fields => .ok ((fields.find? (·.1 == name)).map fun f => .text f.2)

/-- The value of a field that is not left empty. -/
def parameter? (name : String) (p : Payload) : Except Fault (Option Json) :=
  (p.get? name.toList).map fun
    | some .null | some (.text []) => none
    | value => value

end Payload

/-- What a body brings. -/
structure Body where
  payload : Payload
  /-- The file in the field for configurations. -/
  upload : Option Multipart.Part := none

namespace Body

/-- The field for configurations. -/
def uploadField : Text := "config_file".toList

/-- A body that brings nothing. -/
def nothing : Body := { payload := .form [] }

/-- Whether a media type is JSON. -/
def isJsonType (type : Text) : Bool :=
  type == "application/json".toList
    || ("application/".toList.isPrefixOf type && "+json".toList.isSuffixOf type)

/-- How deep lists and objects may stand in one another. -/
def maxNesting : Nat := 978

/-- The body of a JSON text. -/
def ofJson (bytes : Bytes) : Body :=
  match (Json.decode bytes).map (Json.readWithin maxNesting) with
  | some (.ok value) => if isTruthy value then { payload := .json value } else nothing
  | some (.error .tooDeep) => { payload := .refused .nestedTooDeep }
  | some (.error .malformed) | none => nothing

/-- How many bytes a form, or a field of one, may have. -/
def maxFormBytes : Nat := 500000

/-- How many parts a form may have. -/
def maxParts : Nat := 1000

/-- The body of a form in the form for addresses. -/
def ofForm (bytes : Bytes) : Body :=
  if maxFormBytes < bytes.length then { payload := .refused .formTooLarge }
  else { payload := .form (Form.fields ((Utf8.decode bytes).getD [])) }

/-- The body of several parts. -/
def ofParts (parts : List Multipart.Part) : Body :=
  let (fields, files) := parts.partition (·.filename.isNone)
  if maxParts < parts.length || fields.any (maxFormBytes < ·.data.length) then
    { payload := .refused .formTooLarge }
  else
    { payload := .form (fields.map fun p => (p.name, p.text))
      upload := files.find? (·.name == uploadField) }

/-- The bytes of the mark between parts, which is not empty and in ASCII. -/
def boundaryOf (parameters : List (Text × Text)) : Option Bytes :=
  match Header.parameter? "boundary" parameters with
  | none | some [] => none
  | some boundary => if boundary.all (·.toNat < 0x80) then some (Utf8.encode boundary) else none

/-- The body of bytes with a content type. -/
def ofBytes (contentType : Text) (bytes : Bytes) : Body :=
  let (type, parameters) := Header.read contentType
  let type := Text.lower type
  if isJsonType type then ofJson bytes
  else if type == "application/x-www-form-urlencoded".toList then ofForm bytes
  else if type == "multipart/form-data".toList then
    match boundaryOf parameters with
    | some boundary => ((Multipart.parts boundary bytes).map ofParts).getD nothing
    | none => nothing
  else nothing

end Body

end HtGate.Web
