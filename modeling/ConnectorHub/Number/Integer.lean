import ConnectorHub.Text.Blank
import ConnectorHub.Text.Digit
import ConnectorHub.Text.Split
import ConnectorHub.Text.Quoted

/-! Whole numbers as texts. A literal may stand between blanks and have a sign; its digits may be
of any script, with single underscores between them. Neither reading nor writing goes beyond
`maxDigits` digits. -/
namespace ConnectorHub.Number

open ConnectorHub.Text

/-- The most digits that a number may have as text. -/
def maxDigits : Nat := 4300

/-- Why a text is not read as a whole number, or a number not written. -/
inductive IntegerError
  | malformed (text : String)
  | tooLong (digits : Nat)
  | unprintable
  deriving DecidableEq, Repr

def IntegerError.message : IntegerError → String
  | .malformed text => "invalid literal for int() with base 10: " ++ quoted text
  | .tooLong digits =>
    "Exceeds the limit (4300 digits) for integer string conversion: value has "
      ++ toString digits ++ " digits; use sys.set_int_max_str_digits() to increase the limit"
  | .unprintable =>
    "Exceeds the limit (4300 digits) for integer string conversion; "
      ++ "use sys.set_int_max_str_digits() to increase the limit"

/-- A text without its sign, and whether the sign was a minus. -/
def unsigned : List Char → Bool × List Char
  | '-' :: r => (true, r)
  | '+' :: r => (false, r)
  | cs => (false, cs)

/-- A character that the digits of a literal may hold. -/
def isDigitOrGap (c : Char) : Bool := isDigit c || c == '_'

/-- Groups of digits with single underscores between them. -/
def isGrouped (cs : List Char) : Bool :=
  (splitOn (· == '_') cs).all fun g => !g.isEmpty && g.all isDigit

def signed (negative : Bool) (n : Nat) : Int := if negative then -(n : Int) else n

/-- The number that a literal writes. -/
def readInteger (text : String) : Except IntegerError Int :=
  let (negative, body) := unsigned (trim isNumberBlank text.toList)
  let run := body.takeWhile isDigitOrGap
  let digits := run.filter isDigit
  if !isGrouped run then .error (.malformed text)
  else if digits.length > maxDigits then .error (.tooLong digits.length)
  else if run.length < body.length then .error (.malformed text)
  else .ok (signed negative (digitsValue digits))

/-- The decimal text of a number. -/
def decimal (n : Int) : String := toString n

/-- The decimal text of a number that is not too long to be written. -/
def writeInteger (n : Int) : Except IntegerError String :=
  if (toString n.natAbs).length > maxDigits then .error .unprintable else .ok (decimal n)

end ConnectorHub.Number
