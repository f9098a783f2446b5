import ConnectorHub.Text.CodeRange

/-! White space, and cutting it off both ends of a text. -/
namespace ConnectorHub.Text

/-- The characters that count as white space: the Unicode property, and the four information
separators U+001C to U+001F. -/
def blankRanges : List CodeRange :=
  [⟨0x9, 0xd⟩, ⟨0x1c, 0x20⟩, ⟨0x85, 0x85⟩, ⟨0xa0, 0xa0⟩, ⟨0x1680, 0x1680⟩, ⟨0x2000, 0x200a⟩,
   ⟨0x2028, 0x2029⟩, ⟨0x202f, 0x202f⟩, ⟨0x205f, 0x205f⟩, ⟨0x3000, 0x3000⟩]

def isBlank (c : Char) : Bool := CodeRange.covers blankRanges c.toNat

/-- White space around a number: all of it but the information separators. -/
def isNumberBlank (c : Char) : Bool := isBlank c && !(0x1c ≤ c.toNat && c.toNat ≤ 0x1f)

/-- The text without the longest end whose characters are all in the class. -/
def trimEnd (p : Char → Bool) : List Char → List Char
  | [] => []
  | c :: r =>
    match trimEnd p r with
    | [] => if p c then [] else [c]
    | d :: t => c :: d :: t

/-- The text without the longest start and the longest end in the class. -/
def trim (p : Char → Bool) (cs : List Char) : List Char := trimEnd p (cs.dropWhile p)

/-- The text without the white space around it. -/
def strip (s : String) : String := String.ofList (trim isBlank s.toList)

theorem trimEnd_eq_nil_iff {p : Char → Bool} {cs : List Char} :
    trimEnd p cs = [] ↔ ∀ c ∈ cs, p c = true := by
  induction cs with
  | nil => simp [trimEnd]
  | cons c r ih =>
    cases h : trimEnd p r with
    | nil => by_cases hc : p c = true <;> simp_all [trimEnd]
    | cons d t =>
      simp only [trimEnd, h, List.mem_cons, forall_eq_or_imp, reduceCtorEq, false_iff]
      intro hall
      rw [ih.2 hall.2] at h
      simp at h

end ConnectorHub.Text
