import HtGate.Text.Basic
/-!
# JSON values

A JSON value. Objects keep their members in order, and numbers stay exact: a whole number is an
integer, any other numeral a decimal.
-/

namespace HtGate

/-- A JSON value. -/
inductive Json where
  | null
  | bool (value : Bool)
  | int (value : Int)
  /-- The number `mantissa * 10 ^ exponent`, written with a fraction or an exponent. -/
  | decimal (mantissa exponent : Int)
  /-- A number that is none or that is infinite, by its name. -/
  | nonFinite (name : Text)
  | text (value : Text)
  | list (elements : List Json)
  | object (members : List (Text × Json))
  deriving Inhabited

namespace Json

/-- A text that may be absent. -/
def ofText? : Option Text → Json
  | none => null
  | some t => text t

/-- An integer that may be absent. -/
def ofInt? : Option Int → Json
  | none => null
  | some n => int n

/-- The members with `value` under `key`: in its place where the key is there, else at the end. -/
def setMember (key : Text) (value : Json) : List (Text × Json) → List (Text × Json)
  | [] => [(key, value)]
  | (k, v) :: more => if k == key then (k, value) :: more else (k, v) :: setMember key value more

/-- The member of an object under `key`. -/
def member? (key : Text) : Json → Option Json
  | object members => (members.find? (·.1 == key)).map (·.2)
  | _ => none

end Json

end HtGate
