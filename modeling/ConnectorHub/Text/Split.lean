/-! Cutting a text at separators. -/
namespace ConnectorHub.Text

/-- Puts a character in front of the first piece. -/
def consHead (c : Char) : List (List Char) → List (List Char)
  | [] => [[c]]
  | p :: ps => (c :: p) :: ps

/-- The pieces between the characters of the class, one more than there are such characters. -/
def splitOn (p : Char → Bool) : List Char → List (List Char)
  | [] => [[]]
  | c :: r => if p c then [] :: splitOn p r else consHead c (splitOn p r)

/-- As `splitOn`, cutting only at the first `n` characters of the class. -/
def splitAtMost (p : Char → Bool) : Nat → List Char → List (List Char)
  | 0, cs => [cs]
  | _ + 1, [] => [[]]
  | n + 1, c :: r =>
    if p c then [] :: splitAtMost p n r else consHead c (splitAtMost p (n + 1) r)

/-- What stands before the first `sep`, and what stands after it if there is one. -/
def cut (sep : Char) : List Char → List Char × Option (List Char)
  | [] => ([], none)
  | c :: r => if c = sep then ([], some r) else let (a, b) := cut sep r; (c :: a, b)

/-- What stands after the last `sep`, the whole text if there is none. -/
def afterLast (sep : Char) (cs : List Char) : List Char :=
  (cs.reverse.takeWhile (· ≠ sep)).reverse

/-- What stands before the last `sep`, nothing if there is none. -/
def beforeLast (sep : Char) (cs : List Char) : List Char :=
  ((cs.reverse.dropWhile (· ≠ sep)).drop 1).reverse

/-- `part` stands somewhere in the text. -/
def contains (part : List Char) : List Char → Bool
  | [] => part.isEmpty
  | c :: r => part.isPrefixOf (c :: r) || contains part r

/-- The text up to the first place where `part` stands, the whole text if it stands nowhere. -/
def upTo (part : List Char) : List Char → List Char
  | [] => []
  | c :: r => if part.isPrefixOf (c :: r) then [] else c :: upTo part r

/-- The texts joined by `sep`. -/
def join (sep : String) (parts : List String) : String := sep.intercalate parts

theorem splitOn_ne_nil (p : Char → Bool) (cs : List Char) : splitOn p cs ≠ [] := by
  induction cs with
  | nil => simp [splitOn]
  | cons c r ih =>
    simp only [splitOn]
    split
    · simp
    · cases h : splitOn p r <;> simp [consHead]

end ConnectorHub.Text
