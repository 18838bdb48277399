import SignIn.Error
import SignIn.Text.Blank
import SignIn.Validation.Reading

/-!
# Requests

What the library sees of the current request: its parameters, and a key under which the caller wants
the pending login to be kept. A parameter that is blank counts as absent.
-/

namespace SignIn

structure Request where
  params : List (Text × Text)
  cacheKey : Option Text
deriving DecidableEq

namespace Request

open Reading in
def ofRecord (fields : Record) : Validated Request :=
  Request.mk <$> field fields "params" [] textRecord <*> optionalText fields "cache_key"

/-- The value of a parameter that is present and not blank. -/
def get (r : Request) (name : Text) : Option Text := Text.present? (r.params.lookup name)

/-- The value of the parameter that a value names. What is no text names none, and a list or a
record is no name. -/
def getBy (r : Request) (name : Datum) : Except Fault (Option Text) :=
  match name with
  | .text name => .ok (r.get name)
  | .list _ => .error .wrongType
  | .record _ => .error .wrongType
  | _ => .ok none

def withoutBlanks (r : Request) : Request :=
  { r with params := r.params.filter fun p => !p.2.isBlank }

def record (r : Request) : Record := r.params.map fun p => (p.1, .text p.2)

end Request

end SignIn
