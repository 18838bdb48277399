import SignIn.Datum.Basic
import SignIn.Number.Shortest
import SignIn.Text.Quoted

/-!
# The text of a dynamic value

Messages and normalised tokens show values as text. A text is shown as it is when it stands alone
and in quotes inside a list or a record.
-/

namespace SignIn

namespace Datum

mutual

/-- The text of a value in which every text stands in quotes. -/
def quoted : Datum → Text
  | .null => "None"
  | .bool true => "True"
  | .bool false => "False"
  | .int n => Text.ofInt n
  | .real x => x.toText
  | .text t => Quoted.text t
  | .octets o => Quoted.octets o
  | .list items => ("[" : Text) ++ Text.joinWith ", " (quotedItems items) ++ ("]" : Text)
  | .record fields =>
    ("\x7b" : Text) ++ Text.joinWith ", " (quotedFields fields) ++ ("\x7d" : Text)

def quotedItems : List Datum → List Text
  | [] => []
  | d :: ds => quoted d :: quotedItems ds

def quotedFields : List (Text × Datum) → List Text
  | [] => []
  | (name, d) :: fs => (Quoted.text name ++ (": " : Text) ++ quoted d) :: quotedFields fs

end

def display : Datum → Text
  | .text t => t
  | d => quoted d

@[simp] theorem display_text (t : Text) : display (.text t) = t := rfl

example : quoted (.list [.text "a", .null, .record [("k", .real (.finite true 0))]]) =
    ("['a', None, \x7b'k': -0.0\x7d]" : Text) := by decide +kernel

end Datum

end SignIn
