import TypeAtlas.Data.Json

/-!
Violations: where plain data does not have the shape a reader asks for, and readers that go on after
a violation so that all of them are reported, in order.
-/

namespace TypeAtlas

inductive Step where
  | key (name : String)
  | item (index : Nat)
deriving DecidableEq, Repr, Inhabited

def Step.text : Step → String
  | .key name => name
  | .item index => toString index

inductive Rule where
  | objectOrTagged
  | tagAbsent
  | tagUnknown
  | model (name : String)
  | required
  | oneOf (expected : String)
  | string
  | list
  | mapping
  | bool
  | boolText
  | int
  | intText
  | intWhole
  | intRange
  | finite
  | float
  /-- The home of a user is not known. Unlike the others, this stops a reading altogether. -/
  | homeless
  | check (text : String)
  | extra
deriving DecidableEq, Repr, Inhabited

namespace Rule

def code : Rule → String
  | objectOrTagged => "model_attributes_type"
  | tagAbsent => "union_tag_not_found"
  | tagUnknown => "union_tag_invalid"
  | model _ => "model_type"
  | required => "missing"
  | oneOf _ => "literal_error"
  | string => "string_type"
  | list => "list_type"
  | mapping => "dict_type"
  | bool => "bool_type"
  | boolText => "bool_parsing"
  | int => "int_type"
  | intText => "int_parsing"
  | intWhole => "int_from_float"
  | intRange => "int_parsing_size"
  | finite => "finite_number"
  | float => "float_type"
  | homeless => "home_unknown"
  | check _ => "value_error"
  | extra => "extra_forbidden"

def message : Rule → String
  | objectOrTagged => "Input should be a valid dictionary or object to extract fields from"
  | tagAbsent => "Unable to extract tag using discriminator 'kind'"
  | tagUnknown => "Input tag does not match any of the expected tags"
  | model name => "Input should be a valid dictionary or instance of " ++ name
  | required => "Field required"
  | oneOf expected => "Input should be " ++ expected
  | string => "Input should be a valid string"
  | list => "Input should be a valid list"
  | mapping => "Input should be a valid dictionary"
  | bool => "Input should be a valid boolean"
  | boolText => "Input should be a valid boolean, unable to interpret input"
  | int => "Input should be a valid integer"
  | intText => "Input should be a valid integer, unable to parse string as an integer"
  | intWhole => "Input should be a valid integer, got a number with a fractional part"
  | intRange => "Unable to parse input string as an integer, exceeded maximum size"
  | finite => "Input should be a finite number"
  | float => "Input should be a valid number"
  | homeless => "Could not determine home directory."
  | check text => "Value error, " ++ text
  | extra => "Extra inputs are not permitted"

end Rule

structure Violation where
  rule : Rule
  path : List Step := []
  input : Data := .null
deriving Inhabited

def Violation.under (step : Step) (v : Violation) : Violation := { v with path := step :: v.path }

/-- A value, or all the violations found instead. -/
inductive Checked (α : Type) where
  | ok (value : α)
  | bad (violations : List Violation)
deriving Inhabited

namespace Checked

variable {α β : Type}

def fail (rule : Rule) (input : Data) : Checked α := bad [{ rule, input }]

def map (f : α → β) : Checked α → Checked β
  | ok value => ok (f value)
  | bad violations => bad violations

def seq (f : Checked (α → β)) (x : Unit → Checked α) : Checked β :=
  match f, x () with
  | ok g, ok value => ok (g value)
  | ok _, bad violations => bad violations
  | bad violations, ok _ => bad violations
  | bad first, bad second => bad (first ++ second)

instance : Applicative Checked where
  pure := ok
  map := map
  seq := seq

def andThen (x : Checked α) (next : α → Checked β) : Checked β :=
  match x with
  | ok value => next value
  | bad violations => bad violations

def under (step : Step) : Checked α → Checked α
  | ok value => ok value
  | bad violations => bad (violations.map (·.under step))

def eachFrom (read : Data → Checked α) : Nat → List Data → Checked (List α)
  | _, [] => ok []
  | index, item :: rest =>
    List.cons <$> (read item).under (.item index) <*> eachFrom read (index + 1) rest

def inOrder : List (Checked α) → Checked (List α)
  | [] => ok []
  | item :: rest => List.cons <$> item <*> inOrder rest

def each (read : Data → Checked α) (items : List Data) : Checked (List α) := eachFrom read 0 items

end Checked

end TypeAtlas
