import ConnectorHub.Text.LetterCase.Table

/-! Whole texts in capital and in small letters. A character may become several, and a capital
sigma becomes the final small one where it ends a word. -/
namespace ConnectorHub.Text

def isCased (c : Char) : Bool := CodeRange.covers casedRanges c.toNat

def isCaseIgnorable (c : Char) : Bool := CodeRange.covers caseIgnorableRanges c.toNat

/-- A sigma ends a word: the nearest character before it that counts is a letter with case, the
nearest after it is none. `before` is in reverse order. -/
def endsWord (before after : List Char) : Bool :=
  match before.dropWhile isCaseIgnorable with
  | [] => false
  | b :: _ =>
    isCased b &&
      match after.dropWhile isCaseIgnorable with
      | [] => true
      | a :: _ => !isCased a

/-- A character in small letters, apart from the choice between the two sigmas. -/
def lowerChar (c : Char) : List Char :=
  if c = 'İ' then ['i', '\u0307'] else [Char.ofNat (CaseShift.apply lowerShifts c.toNat)]

/-- A character in capital letters. -/
def upperChar (c : Char) : List Char :=
  match upperExpansions.find? (·.1 == c.toNat) with
  | some (_, cs) => cs.map Char.ofNat
  | none => [Char.ofNat (CaseShift.apply upperShifts c.toNat)]

/-- `before` holds the characters already read, the nearest first. -/
def lowerFrom (before : List Char) : List Char → List Char
  | [] => []
  | c :: r =>
    (if c = 'Σ' then [if endsWord before r then 'ς' else 'σ'] else lowerChar c) ++
      lowerFrom (c :: before) r

/-- The text in small letters. -/
def lower (s : String) : String := String.ofList (lowerFrom [] s.toList)

/-- The text in capital letters. -/
def upper (s : String) : String := String.ofList (s.toList.flatMap upperChar)

/-- Every character is in ASCII. -/
def isAscii (s : String) : Bool := s.toList.all (·.toNat < 0x80)

/-- An ASCII letter in small letters, any other character as it is. -/
def asciiLower (s : String) : String := String.ofList (s.toList.map Char.toLower)

end ConnectorHub.Text
