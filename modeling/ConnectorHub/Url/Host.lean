import ConnectorHub.Text.Digit
import ConnectorHub.Text.Quoted
import ConnectorHub.Text.Split

/-! Hosts given as numbers: IPv4 addresses, IPv6 addresses with an optional scope, and the form kept
free for later versions. -/
namespace ConnectorHub.Url

open ConnectorHub.Text

/-- A part of an IPv4 address: up to 255, without leading zeros. -/
def isOctet (cs : List Char) : Bool :=
  !cs.isEmpty && cs.length ≤ 3 && cs.all isAsciiDigit && (cs.length = 1 || cs.head? != some '0')
    && digitsValue cs ≤ 255

def isIPv4 (cs : List Char) : Bool :=
  let parts := splitOn (· == '.') cs
  parts.length = 4 && parts.all isOctet

/-- A part of an IPv6 address: one to four hexadecimal digits. -/
def isHextet (cs : List Char) : Bool :=
  !cs.isEmpty && cs.length ≤ 4 && cs.all fun c => (hexValue? c).isSome

/-- The number of parts beside a gap, given from the edge of the address inward. An empty part at
the edge belongs to the gap and has to stand alone. -/
def partsToGap (parts : List (List Char)) : Option Nat :=
  if parts = [[]] then some 0
  else if parts.all isHextet then some parts.length
  else none

/-- Eight parts, or fewer around one gap that stands for at least one. -/
def isParts (parts : List (List Char)) : Bool :=
  let inner := (parts.drop 1).dropLast
  match (inner.filter (·.isEmpty)).length with
  | 0 => parts.length = 8 && parts.all isHextet
  | 1 =>
    let before := parts.take 1 ++ inner.takeWhile (!·.isEmpty)
    let after := (inner.dropWhile (!·.isEmpty)).drop 1 ++ parts.drop (parts.length - 1)
    match partsToGap before, partsToGap after with
    | some m, some n => m + n < 8
    | _, _ => false
  | _ => false

/-- An IPv6 address without scope. Its last part may be an IPv4 address, which counts as two. -/
def isUnscopedIPv6 (cs : List Char) : Bool :=
  let parts := splitOn (· == ':') cs
  let last := parts.getLastD []
  3 ≤ parts.length &&
    (if '.' ∈ last then isIPv4 last && isParts (parts.dropLast ++ [['0'], ['0']]) else isParts parts)

/-- An IPv6 address; a scope after a percent sign may not be empty. -/
def isIPv6 (cs : List Char) : Bool :=
  match cut '%' cs with
  | (address, none) => isUnscopedIPv6 address
  | (address, some scope) => !scope.isEmpty && '%' ∉ scope && isUnscopedIPv6 address

/-- `v`, hexadecimal digits, a point and something after it. -/
def isFutureAddress : List Char → Bool
  | 'v' :: r =>
    match cut '.' r with
    | (version, some rest) =>
      !version.isEmpty && version.all (fun c => (hexValue? c).isSome) && !rest.isEmpty
    | _ => false
  | _ => false

/-- What may stand between brackets. -/
def isBracketedHost (cs : List Char) : Bool :=
  if cs.head? = some 'v' then isFutureAddress cs else isIPv6 cs

example : isIPv6 "::1".toList ∧ isIPv6 "::ffff:1.2.3.4%eth0".toList ∧ ¬ isIPv6 "1::2::3".toList := by
  decide +kernel

end ConnectorHub.Url
