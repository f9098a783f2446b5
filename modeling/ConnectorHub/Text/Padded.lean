/-! Numbers written with leading zeros. -/
namespace ConnectorHub.Text

/-- The decimal digits of `n`, with zeros in front up to `width` places. -/
def padded (width n : Nat) : List Char :=
  let digits := (toString n).toList
  List.replicate (width - digits.length) '0' ++ digits

end ConnectorHub.Text
