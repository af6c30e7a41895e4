import HtGate.Text.Malformed
import HtGate.Text.Percent
/-!
# Form fields

The fields of a form in the form for addresses: fields with ampersands between them, each a name and a
value with an equals sign between them, blanks as plus signs, and other bytes in hexadecimal after a percent
sign. Bytes that are not UTF-8 stay as they are written.
-/

namespace HtGate.Form

/-- The text that a name or value stands for. -/
def resolve (t : Text) : Text :=
  Percent.resolve (Utf8.mended (·.flatMap Percent.encodeByte))
    (t.map fun c => if c == '+' then ' ' else c)

/-- One field. -/
def field (t : Text) : Text × Text :=
  let (name, value) := Text.cut '=' t
  (resolve name, resolve (value.getD []))

/-- The fields of a form. -/
def fields (t : Text) : List (Text × Text) := (Text.fields (· == '&') t).map field

end HtGate.Form
