import ConnectorHub.Api.Fault
import ConnectorHub.Number.Integer
import ConnectorHub.Store.Table

/-! How values in the bodies of requests are read. A whole number may be given in any form that leaves
no doubt about it. -/
namespace ConnectorHub.Api

open Text Number Store

/-- How a value at a place is read. -/
abbrev Reading (α : Type) := List Step → Json → Checked α

namespace Reading

open Checked

def text : Reading String
  | _, .text s => .ok s
  | place, v => fault place .notText v

/-- Null stands for no value. -/
def optional (read : Reading α) : Reading (Option α)
  | _, .null => .ok none
  | place, v => (read place v).map some

def list (read : Reading α) : Reading (List α)
  | place, .array items => all (fun (v, n) => read (place ++ [.item n]) v) items.zipIdx
  | place, v => fault place .notList v

/-- An object whose members are all of one kind. -/
def dictionary (read : Reading α) : Reading (Table α)
  | place, .object members =>
    (all (fun (k, v) => (read (place ++ [.member k]) v).map (k, ·)) members).map .ofList
  | place, v => fault place .notDictionary v

/-- A text without the point and the zeros at its end. -/
def dropZeroFraction (cs : List Char) : List Char :=
  match cut '.' cs with
  | (whole, some fraction) => if fraction.all (· == '0') then whole else cs
  | (_, none) => cs

/-- Groups of ASCII digits with single underscores between them. -/
def isGrouped (cs : List Char) : Bool :=
  (splitOn (· == '_') cs).all fun g => !g.isEmpty && g.all isAsciiDigit

/-- The number that a text writes: between blanks a sign, digits, and perhaps a fraction of
zeros. -/
def integerOfText (place : List Step) (s : String) : Checked Int :=
  let body := trim isNumberBlank s.toList
  let (negative, digits) := unsigned (dropZeroFraction body)
  if body.length > maxDigits then fault place .oversized (.text s)
  else if isGrouped digits then .ok (signed negative (digitsValue (digits.filter (· ≠ '_'))))
  else fault place .unreadableInteger (.text s)

/-- The number and its opposite have 64 bits. -/
def isWord (n : Int) : Bool := -9223372036854775808 < n && n < 9223372036854775808

/-- A number without fraction as a whole number, if it is not too large. -/
def integerOfReal (place : List Step) : Binary64 → Checked Int
  | .finite negative m e =>
    if !Binary64.isWhole m e then fault place .fractional (.real (.finite negative m e))
    else
      let n := Binary64.truncate negative m e
      if isWord n then .ok n else fault place .oversized (.real (.finite negative m e))
  | x => fault place .infinite (.real x)

def integer : Reading Int
  | _, .integer n => .ok n
  | _, .bool b => .ok (if b then 1 else 0)
  | place, .real x => integerOfReal place x
  | place, .text s => integerOfText place s
  | place, v => fault place .notInteger v

def integerWithin (low high : Int) : Reading Int := fun place v =>
  (integer place v).bind fun n =>
    if n < low then fault place .tooSmall v
    else if high < n then fault place .tooLarge v
    else .ok n

end Reading

end ConnectorHub.Api
