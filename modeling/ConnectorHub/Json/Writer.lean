import ConnectorHub.Json.Basic
import ConnectorHub.Number.Shortest
import ConnectorHub.Text.Quoted

/-! Writing JSON texts in ASCII. -/
namespace ConnectorHub.Json

open ConnectorHub.Text

/-- The code units of a character in UTF-16. -/
def codeUnits (c : Char) : List Nat :=
  if c.toNat < 0x10000 then [c.toNat]
  else [0xd800 + (c.toNat - 0x10000) / 0x400, 0xdc00 + (c.toNat - 0x10000) % 0x400]

/-- A character of a string: quotes, backslashes, control characters and all that is not ASCII are
escaped. -/
def escape (c : Char) : List Char :=
  if c = '"' ∨ c = '\\' then ['\\', c]
  else if c = '\n' then ['\\', 'n']
  else if c = '\r' then ['\\', 'r']
  else if c = '\t' then ['\\', 't']
  else if c = '\x0c' then ['\\', 'f']
  else if c = '\x08' then ['\\', 'b']
  else if 0x20 ≤ c.toNat ∧ c.toNat < 0x7f then [c]
  else (codeUnits c).flatMap fun u => '\\' :: 'u' :: hex 4 u

def stringText (s : String) : List Char := '"' :: s.toList.flatMap escape ++ ['"']

/-- A number with a fraction; what is not finite is written as a word. -/
def realText : Number.Binary64 → String
  | .nan => "NaN"
  | .infinite negative => if negative then "-Infinity" else "Infinity"
  | x => x.text

mutual

/-- A value on one line, with a space after each comma and colon. -/
def lineText : Json → List Char
  | .null => "null".toList
  | .bool b => (if b then "true" else "false").toList
  | .integer n => (toString n).toList
  | .real x => (realText x).toList
  | .text s => stringText s
  | .array [] => ['[', ']']
  | .array (x :: xs) => '[' :: lineText x ++ itemsText xs ++ [']']
  | .object [] => ['\x7b', '\x7d']
  | .object ((k, v) :: ms) =>
    '\x7b' :: stringText k ++ ':' :: ' ' :: lineText v ++ membersText ms ++ ['\x7d']

def itemsText : List Json → List Char
  | [] => []
  | x :: xs => ',' :: ' ' :: lineText x ++ itemsText xs

def membersText : List (String × Json) → List Char
  | [] => []
  | (k, v) :: ms => ',' :: ' ' :: stringText k ++ ':' :: ' ' :: lineText v ++ membersText ms

end

/-- A value on one line. -/
def write (v : Json) : String := String.ofList v.lineText

/-- An object of simple values with each member on a line of its own. -/
def writeMembers (ms : List (String × Json)) : String :=
  String.ofList ('\x7b' :: '\n' ::
    [',', '\n'].intercalate (ms.map fun (k, v) =>
      ' ' :: ' ' :: stringText k ++ ':' :: ' ' :: v.lineText) ++ ['\n', '\x7d'])

example : write (.array [.text "é\n", .object [("a", .integer (-1))]]) =
    "[\"\\u00e9\\n\", \x7b\"a\": -1\x7d]" := by decide +kernel

end ConnectorHub.Json
