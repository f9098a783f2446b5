import ConnectorHub.Number.Integer
import ConnectorHub.Number.Shortest

/-! Numbers with a fraction and an exponent as texts. -/
namespace ConnectorHub.Number

open ConnectorHub.Text

/-- The text is not a number. -/
structure RealError where
  text : String
  deriving DecidableEq, Repr

def RealError.message (e : RealError) : String :=
  "could not convert string to float: " ++ quoted e.text

/-- A digit of any script as the ASCII digit of the same value. -/
def asciiDigit (c : Char) : Char :=
  match digitValue? c with
  | some d => Char.ofNat (48 + d)
  | none => c

/-- Takes out the underscores, each of which has to stand between two digits. `before` is the
character in front. -/
def ungroup (before : Option Char) : List Char → Option (List Char)
  | [] => some []
  | c :: r =>
    if c == '_' then
      if (before.map isAsciiDigit).getD false && (r.head?.map isAsciiDigit).getD false then
        ungroup (some c) r
      else none
    else (ungroup (some c) r).map (c :: ·)

/-- The digits in front and the rest. -/
def spanDigits (cs : List Char) : List Char × List Char :=
  (cs.takeWhile isAsciiDigit, cs.dropWhile isAsciiDigit)

/-- The exponent of a literal, 0 if nothing is left. -/
def readExponent : List Char → Option Int
  | [] => some 0
  | e :: r =>
    let (negative, digits) := unsigned r
    if (e == 'e' || e == 'E') && !digits.isEmpty && digits.all isAsciiDigit then
      some (signed negative (digitsValue digits))
    else none

/-- A number without sign: digits with at most one point among them, at least one digit, and
perhaps an exponent. -/
def readMagnitude (negative : Bool) (cs : List Char) : Option Binary64 :=
  let (whole, r) := spanDigits cs
  let (fraction, r) := match r with
    | '.' :: r => spanDigits r
    | r => ([], r)
  if whole.isEmpty && fraction.isEmpty then none
  else (readExponent r).map fun e =>
    .ofDecimal negative (digitsValue (whole ++ fraction)) (e - fraction.length)

/-- The number that a text writes; `inf`, `infinity` and `nan` are numbers, in any case. -/
def readReal (text : String) : Except RealError Binary64 :=
  let (negative, body) := unsigned ((trim isNumberBlank text.toList).map asciiDigit)
  let word := lowered body
  if word = "inf".toList ∨ word = "infinity".toList then .ok (.infinite negative)
  else if word = "nan".toList then .ok .nan
  else match (ungroup none body).bind (readMagnitude negative) with
    | some x => .ok x
    | none => .error ⟨text⟩
where
  lowered (cs : List Char) : List Char := cs.map Char.toLower

example : (readReal " 1_0.2_5 ").toOption = some (.finite false (41 * twoTo 47) (-49)) := by decide +kernel

end ConnectorHub.Number
