import SignIn.Text.Basic

/-!
# Validation issues

Configuration, requests and identities come in as dynamic values and are read field by field. All
issues of a value are collected in the order of its fields; a value without issues is valid.
-/

namespace SignIn

/-- What is wrong with a value. -/
inductive IssueKind where
  | missing
  | stringType
  | stringUnicode
  | boolType
  | boolParsing
  | intType
  | intParsing
  | intParsingSize
  | intFromFloat
  | finiteNumber
  | greaterThan
  | enum
  | literalError
  | dictType
  | modelType
  | jsonType
  | jsonInvalid
  | valueError
  | timeDeltaType
  | timeDeltaParsing
deriving DecidableEq

def IssueKind.name : IssueKind → String
  | .missing => "missing"
  | .stringType => "string_type"
  | .stringUnicode => "string_unicode"
  | .boolType => "bool_type"
  | .boolParsing => "bool_parsing"
  | .intType => "int_type"
  | .intParsing => "int_parsing"
  | .intParsingSize => "int_parsing_size"
  | .intFromFloat => "int_from_float"
  | .finiteNumber => "finite_number"
  | .greaterThan => "greater_than"
  | .enum => "enum"
  | .literalError => "literal_error"
  | .dictType => "dict_type"
  | .modelType => "model_type"
  | .jsonType => "json_type"
  | .jsonInvalid => "json_invalid"
  | .valueError => "value_error"
  | .timeDeltaType => "time_delta_type"
  | .timeDeltaParsing => "time_delta_parsing"

/-- An issue and the path of field names to the value that has it. -/
structure Issue where
  location : List Text
  kind : IssueKind
deriving DecidableEq

/-- A value or what stands in its way. -/
inductive Validated (α : Type) where
  | valid (value : α)
  | invalid (issues : List Issue)
  /-- A value is too large to be held, which ends the reading whatever else is wrong. -/
  | overflow
deriving DecidableEq

namespace Validated

/-- The one issue of a value at the place where it is read. -/
def issue {α : Type} (kind : IssueKind) : Validated α := .invalid [⟨[], kind⟩]

/-- Applies a function to a value; issues stay. -/
def map {α β : Type} (f : α → β) : Validated α → Validated β
  | .valid a => .valid (f a)
  | .invalid issues => .invalid issues
  | .overflow => .overflow

/-- Applies a function to a value, collecting the issues of both. -/
def apply {α β : Type} : Validated (α → β) → Validated α → Validated β
  | .valid f, .valid a => .valid (f a)
  | .valid _, .invalid issues => .invalid issues
  | .invalid issues, .valid _ => .invalid issues
  | .invalid first, .invalid second => .invalid (first ++ second)
  | .overflow, _ => .overflow
  | _, .overflow => .overflow

instance : Functor Validated where
  map := map

instance : Applicative Validated where
  pure := .valid
  seq f a := apply f (a ())

/-- Goes on with a value only if it has no issue. -/
def andThen {α β : Type} (a : Validated α) (f : α → Validated β) : Validated β :=
  match a with
  | .valid value => f value
  | .invalid issues => .invalid issues
  | .overflow => .overflow

/-- Places issues below a field. -/
def below {α : Type} (name : Text) : Validated α → Validated α
  | .valid a => .valid a
  | .invalid issues => .invalid (issues.map fun i => ⟨name :: i.location, i.kind⟩)
  | .overflow => .overflow

/-- The values of a list, collecting the issues of all. -/
def all {α β : Type} (read : α → Validated β) : List α → Validated (List β)
  | [] => .valid []
  | a :: rest => (List.cons <$> read a) <*> all read rest

end Validated

end SignIn
