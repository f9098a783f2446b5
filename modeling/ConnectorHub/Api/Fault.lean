import ConnectorHub.Json.Writer

/-! Faults of the bodies of requests. Every fault of a body is told, with the place where it is. -/
namespace ConnectorHub.Api

/-- A step on the way to a place in a body. -/
inductive Step
  | member (name : String)
  | item (n : Nat)
  deriving DecidableEq, Repr

inductive FaultKind
  | notText
  | notList
  | notDictionary
  | notObject
  | missing
  | notInteger
  | unreadableInteger
  | fractional
  | infinite
  | oversized
  | tooSmall
  | tooLarge
  | notJson
  deriving DecidableEq, Repr

/-- The names of kinds in answers. -/
def FaultKind.name : FaultKind → String
  | notText => "string_type"
  | notList => "list_type"
  | notDictionary => "dict_type"
  | notObject => "model_attributes_type"
  | missing => "missing"
  | notInteger => "int_type"
  | unreadableInteger => "int_parsing"
  | fractional => "int_from_float"
  | infinite => "finite_number"
  | oversized => "int_parsing_size"
  | tooSmall => "greater_than_equal"
  | tooLarge => "less_than_equal"
  | notJson => "json_invalid"

/-- A fault at a place in the body, and the value that has it. -/
structure Fault where
  place : List Step
  kind : FaultKind
  value : Json
  deriving Repr

namespace Fault

def stepJson : Step → Json
  | .member name => .text name
  | .item n => .integer n

/-- A fault in an answer: its place, seen from the request, and its kind. -/
def json (f : Fault) : Json :=
  .array [.array (.text "body" :: f.place.map stepJson), .text f.kind.name]

/-- Faults in the order of their texts. -/
def sort (fs : List Fault) : List Fault := fs.mergeSort fun a b => decide (a.json.write ≤ b.json.write)

end Fault

/-- A value, or all faults that hinder it. -/
abbrev Checked (α : Type) := Except (List Fault) α

namespace Checked

def fault (place : List Step) (kind : FaultKind) (value : Json) : Checked α :=
  .error [⟨place, kind, value⟩]

/-- Combines two values; the faults of both are told. -/
def both (f : α → β → γ) : Checked α → Checked β → Checked γ
  | .ok a, .ok b => .ok (f a b)
  | .error e, .ok _ => .error e
  | .ok _, .error e => .error e
  | .error e, .error e' => .error (e ++ e')

/-- Checks every one of some values. -/
def all (check : α → Checked β) : List α → Checked (List β)
  | [] => .ok []
  | a :: r => both (· :: ·) (check a) (all check r)

end Checked

end ConnectorHub.Api
