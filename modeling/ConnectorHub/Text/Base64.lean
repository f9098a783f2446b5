import ConnectorHub.Text.Utf8

/-! Bytes written in an alphabet of 64 characters, four for every three bytes. -/
namespace ConnectorHub.Text.Base64

/-- The character of value `n`. -/
def digit (n : Nat) : Char :=
  if n < 26 then Char.ofNat (65 + n)
  else if n < 52 then Char.ofNat (71 + n)
  else if n < 62 then Char.ofNat (n - 4)
  else if n = 62 then '+'
  else '/'

/-- A last group of fewer than three bytes is filled up by signs of equality. -/
def encode : List UInt8 → List Char
  | [] => []
  | [a] => [digit (a.toNat / 4), digit (a.toNat % 4 * 16), '=', '=']
  | [a, b] =>
    [digit (a.toNat / 4), digit (a.toNat % 4 * 16 + b.toNat / 16), digit (b.toNat % 16 * 4), '=']
  | a :: b :: c :: r =>
    digit (a.toNat / 4) :: digit (a.toNat % 4 * 16 + b.toNat / 16) ::
      digit (b.toNat % 16 * 4 + c.toNat / 64) :: digit (c.toNat % 64) :: encode r

example : encode (Utf8.encode "né>?~") = "bsOpPj9+".toList := by decide +kernel

end ConnectorHub.Text.Base64
