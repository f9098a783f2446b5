/-! Properties of characters given as lists of ranges of code points. -/
namespace ConnectorHub.Text

/-- The code points from `first` to `last`, both included. -/
structure CodeRange where
  first : Nat
  last : Nat
  deriving DecidableEq, Repr

/-- Some range of the list holds the code point `n`. -/
def CodeRange.covers (ranges : List CodeRange) (n : Nat) : Bool :=
  ranges.any fun r => r.first ≤ n && n ≤ r.last

end ConnectorHub.Text
