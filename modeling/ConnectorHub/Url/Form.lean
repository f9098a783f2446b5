import ConnectorHub.Text.Blank
import ConnectorHub.Text.Digit
import ConnectorHub.Text.Quoted
import ConnectorHub.Text.Split
import ConnectorHub.Text.Utf8

/-! Form data: names and values joined by `=` and `&`, with a space written as a plus sign and every
other character that is not unreserved as the bytes of its UTF-8 form. -/
namespace ConnectorHub.Url

open ConnectorHub.Text

/-- The characters that form data shows as they are. -/
def isUnreserved (c : Char) : Bool :=
  isAsciiDigit c || ('a' ≤ c && c ≤ 'z') || ('A' ≤ c && c ≤ 'Z')
    || c == '_' || c == '.' || c == '-' || c == '~'

/-- The digit of value `n` in upper case. -/
def upperHexDigit (n : Nat) : Char :=
  if n < 10 then Char.ofNat (48 + n) else Char.ofNat (55 + n)

/-- A byte as a percent sign and two digits. -/
def percentByte (b : UInt8) : List Char :=
  ['%', upperHexDigit (b.toNat / 16), upperHexDigit (b.toNat % 16)]

/-- A character in form data. -/
def encodeChar (c : Char) : List Char :=
  if c = ' ' then ['+']
  else if isUnreserved c then [c]
  else (Utf8.encodeChar c).flatMap percentByte

/-- A name or a value in form data. -/
def encodeComponent (s : String) : String := String.ofList (s.toList.flatMap encodeChar)

/-- Pairs of names and values as form data. -/
def encodeForm (fields : List (String × String)) : String :=
  join "&" (fields.map fun (name, value) => encodeComponent name ++ "=" ++ encodeComponent value)

/-- The bytes that a text with percent signs stands for. A percent sign without two digits after it
stands for itself. -/
def percentBytes : List Char → List UInt8
  | [] => []
  | '%' :: a :: b :: r =>
    match hexValue? a, hexValue? b with
    | some m, some n => UInt8.ofNat (m * 16 + n) :: percentBytes r
    | _, _ => 0x25 :: percentBytes (a :: b :: r)
  | c :: r => Utf8.encodeChar c ++ percentBytes r

/-- The text that a text with percent signs stands for. -/
def percentDecode (cs : List Char) : String := Utf8.decodeLossy (percentBytes cs)

/-- The name or value that a component of form data stands for. -/
def decodeComponent (cs : List Char) : String :=
  percentDecode (cs.map fun c => if c = '+' then ' ' else c)

/-- The pairs that form data writes; a piece without `=` is a name with an empty value. -/
def decodeForm (cs : List Char) : List (String × String) :=
  ((splitOn (· == '&') cs).filter (!·.isEmpty)).map fun piece =>
    let (name, value) := cut '=' piece
    (decodeComponent name, decodeComponent (value.getD []))

/-- Appends a parameter to an address: after `&` if there is a question mark already, else after
`?`. The name is written as it is. -/
def appendParameter (url name value : String) : String :=
  url ++ (if '?' ∈ url.toList then "&" else "?") ++ name ++ "=" ++ encodeComponent value

example : encodeComponent "日 &+~" = "%E6%97%A5+%26%2B~" := by decide +kernel
example : decodeForm "a=%20de&b".toList = [("a", " de"), ("b", "")] := by decide +kernel

end ConnectorHub.Url
