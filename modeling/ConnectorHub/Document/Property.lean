import ConnectorHub.Json.Basic
import ConnectorHub.Number.Integer
import ConnectorHub.Number.Shortest
import ConnectorHub.Text.Quoted

/-! Documents are bags of properties. A property that is asked for as a text is the text of its value,
or of the first one if it has several. A whole number with too many digits has no text, and neither has
a value with such a number in it. No limit is set here to how deep values may be nested. -/
namespace ConnectorHub

open Number Text

/-- The properties of a document by name. -/
abbrev Document := List (String × Json)

namespace Document

/-- What a list of pieces looks like between brackets. -/
def commaSeparated (pieces : List (List Char)) : List Char := [',', ' '].intercalate pieces

mutual

/-- The text of a value inside another one: texts stand between quotes. -/
def innerText : Json → Except IntegerError (List Char)
  | .null => .ok "None".toList
  | .bool b => .ok (if b then "True" else "False").toList
  | .integer n => (writeInteger n).map (·.toList)
  | .real x => .ok x.text.toList
  | .text s => .ok (Quoted.encode s.toList)
  | .array xs => (innerTexts xs).map fun pieces => '[' :: commaSeparated pieces ++ [']']
  | .object ms => (memberTexts ms).map fun pieces => '\x7b' :: commaSeparated pieces ++ ['\x7d']

def innerTexts : List Json → Except IntegerError (List (List Char))
  | [] => .ok []
  | x :: xs => (innerText x).bind fun piece => (innerTexts xs).map (piece :: ·)

def memberTexts : List (String × Json) → Except IntegerError (List (List Char))
  | [] => .ok []
  | (k, v) :: ms => (innerText v).bind fun piece =>
    (memberTexts ms).map ((Quoted.encode k.toList ++ ':' :: ' ' :: piece) :: ·)

end

/-- The text of a value. -/
def textOf : Json → Except IntegerError String
  | .text s => .ok s
  | v => (innerText v).map String.ofList

/-- The one value that counts: of an array the first item. -/
def firstValue : Json → Json
  | .array [] => .null
  | .array (x :: _) => x
  | v => v

/-- The text of a property, none if it is unset, null or empty. -/
def text? (d : Document) (name : String) : Except IntegerError (Option String) :=
  match firstValue ((Json.member? name d).getD .null) with
  | .null => .ok none
  | v => (textOf v).map fun s => if s = "" then none else some s

end Document

end ConnectorHub
