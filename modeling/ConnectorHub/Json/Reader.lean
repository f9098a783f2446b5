import ConnectorHub.Json.Basic
import ConnectorHub.Number.Integer

/-! Reading JSON texts. Besides the standard grammar `NaN`, `Infinity` and `-Infinity` are numbers;
of equal member names the last one counts. A refusal tells the place where reading stopped. -/
namespace ConnectorHub.Json

open ConnectorHub.Text ConnectorHub.Number

/-- Why a text is refused: its grammar, or a whole number with too many digits. -/
inductive ReadError
  | malformed (position : Nat)
  | integerTooLong
  deriving DecidableEq, Repr

namespace Reader

/-- A refusal inside the text: `stuck rest` with what is left to read from the faulty place on. -/
inductive Refusal
  | stuck (rest : List Char)
  | integerTooLong

def isSpace (c : Char) : Bool := c == ' ' || c == '\t' || c == '\n' || c == '\r'

def skipSpace (cs : List Char) : List Char := cs.dropWhile isSpace

/-- The value of four hexadecimal digits in front. -/
def hexFour? (cs : List Char) : Option Nat :=
  match (cs.take 4).mapM hexValue? with
  | some [a, b, c, d] => some (((a * 16 + b) * 16 + c) * 16 + d)
  | _ => none

def isHighHalf (n : Nat) : Bool := 0xd800 ≤ n && n < 0xdc00

def isLowHalf (n : Nat) : Bool := 0xdc00 ≤ n && n < 0xe000

/-- The character of a code unit; one half of a surrogate pair alone has none, and is replaced. -/
def charOf (n : Nat) : Char :=
  if isHighHalf n || isLowHalf n then '\ufffd' else Char.ofNat n

/-- The character of a surrogate pair. -/
def joinHalves (high low : Nat) : Char :=
  Char.ofNat (0x10000 + (high - 0xd800) * 0x400 + (low - 0xdc00))

/-- A `\u` escape, from after its `u` on. The four digits may not end the text. -/
def unicodeEscape (r : List Char) : Except Refusal (Char × List Char) :=
  match r.drop 4 with
  | [] => .error (.stuck ('u' :: r))
  | next@(_ :: afterBackslash) =>
    match hexFour? r with
    | none => .error (.stuck ('u' :: r))
    | some n =>
      if isHighHalf n && !(r.drop 10).isEmpty && ['\\', 'u'].isPrefixOf next then
        match hexFour? (r.drop 6) with
        | none => .error (.stuck afterBackslash)
        | some m =>
          if isLowHalf m then .ok (joinHalves n m, r.drop 10) else .ok (charOf n, next)
      else .ok (charOf n, next)

/-- The character of an escape of one letter. -/
def letterEscape? (c : Char) : Option Char :=
  match c with
  | '"' => some '"'
  | '\\' => some '\\'
  | '/' => some '/'
  | 'b' => some '\x08'
  | 'f' => some '\x0c'
  | 'n' => some '\n'
  | 'r' => some '\r'
  | 't' => some '\t'
  | _ => none

/-- One character of a string, none where the string ends. `opening` is the text from the opening
quote on: where a string is not closed, that is the faulty place. -/
def stringChar (opening : List Char) : List Char → Except Refusal (Option Char × List Char)
  | [] => .error (.stuck opening)
  | '"' :: r => .ok (none, r)
  | '\\' :: [] => .error (.stuck opening)
  | '\\' :: 'u' :: r => (unicodeEscape r).map fun (c, r) => (some c, r)
  | '\\' :: e :: r =>
    match letterEscape? e with
    | some c => .ok (some c, r)
    | none => .error (.stuck ('\\' :: e :: r))
  | c :: r => if c.toNat < 0x20 then .error (.stuck (c :: r)) else .ok (some c, r)

/-- The characters of a string up to its closing quote; every character read uses up some of the
text, so `fuel` characters are enough for a text of that length. -/
def stringChars (opening : List Char) : Nat → List Char → Except Refusal (List Char × List Char)
  | 0, _ => .error (.stuck opening)
  | fuel + 1, cs => do
    let (c?, r) ← stringChar opening cs
    match c? with
    | none => .ok ([], r)
    | some c =>
      let (s, r) ← stringChars opening fuel r
      .ok (c :: s, r)

/-- A string, from after its opening quote on. -/
def string (r : List Char) : Except Refusal (String × List Char) :=
  (stringChars ('"' :: r) (r.length + 1) r).map fun (s, r) => (String.ofList s, r)

/-- The digits of a number before its point: a single zero, or digits that do not start with zero. -/
def wholeDigits : List Char → List Char × List Char
  | '0' :: r => (['0'], r)
  | cs => (cs.takeWhile isAsciiDigit, cs.dropWhile isAsciiDigit)

/-- A point with digits after it. -/
def fractionDigits : List Char → List Char × List Char
  | '.' :: r => if (r.takeWhile isAsciiDigit).isEmpty then ([], '.' :: r)
      else (r.takeWhile isAsciiDigit, r.dropWhile isAsciiDigit)
  | r => ([], r)

/-- An `e` with digits after it. -/
def exponentDigits : List Char → Option Int × List Char
  | e :: r =>
    let (negative, d) := unsigned r
    if (e == 'e' || e == 'E') && !(d.takeWhile isAsciiDigit).isEmpty then
      (some (signed negative (digitsValue (d.takeWhile isAsciiDigit))), d.dropWhile isAsciiDigit)
    else (none, e :: r)
  | [] => (none, [])

/-- The digits are more than may be read. -/
def exceeds (limit : Option Nat) (digits : List Char) : Bool := limit.any (· < digits.length)

/-- A number. A fraction or an exponent makes it a `real`. -/
def number (limit : Option Nat) (cs : List Char) : Except Refusal (Json × List Char) :=
  let (negative, body) := match cs with
    | '-' :: r => (true, r)
    | r => (false, r)
  let (whole, r) := wholeDigits body
  let (fraction, r) := fractionDigits r
  let (exponent, r) := exponentDigits r
  if whole.isEmpty then .error (.stuck cs)
  else if fraction.isEmpty && exponent.isNone then
    if exceeds limit whole then .error .integerTooLong
    else .ok (.integer (signed negative (digitsValue whole)), r)
  else
    .ok (.real (.ofDecimal negative (digitsValue (whole ++ fraction))
      (exponent.getD 0 - fraction.length)), r)

/-- The words that are values. -/
def words : List (String × Json) :=
  [("null", .null), ("true", .bool true), ("false", .bool false), ("NaN", .real .nan),
   ("Infinity", .real (.infinite false)), ("-Infinity", .real (.infinite true))]

/-- A value that is neither a string nor an array nor an object. -/
def scalar (limit : Option Nat) (cs : List Char) : Except Refusal (Json × List Char) :=
  match words.find? (fun w => w.1.toList.isPrefixOf cs) with
  | some (w, v) => .ok (v, cs.drop w.length)
  | none => number limit cs

mutual

/-- Any value, from its first character on. Each level of nesting and each item takes one unit of
fuel and one character. There is no limit to nesting but the length of the text: that a reader on a
bounded stack gives up some hundred levels down is left out. -/
def value (limit : Option Nat) : Nat → List Char → Except Refusal (Json × List Char)
  | 0, cs => .error (.stuck cs)
  | fuel + 1, cs =>
    match cs with
    | '"' :: r => (string r).map fun (s, r) => (.text s, r)
    | '[' :: r =>
      match skipSpace r with
      | ']' :: r => .ok (.array [], r)
      | r => (items limit fuel r).map fun (xs, r) => (.array xs, r)
    | '{' :: r =>
      match skipSpace r with
      | '}' :: r => .ok (.object [], r)
      | r => (members limit fuel [] r).map fun (ms, r) => (.object ms, r)
    | cs => scalar limit cs

/-- The items of an array, from the first one to the closing bracket. -/
def items (limit : Option Nat) : Nat → List Char → Except Refusal (List Json × List Char)
  | 0, cs => .error (.stuck cs)
  | fuel + 1, cs => do
    let (x, r) ← value limit fuel cs
    match skipSpace r with
    | ']' :: r => .ok ([x], r)
    | ',' :: r =>
      let (xs, r) ← items limit fuel (skipSpace r)
      .ok (x :: xs, r)
    | r => .error (.stuck r)

/-- The members of an object, from the first name to the closing brace, added to those read. -/
def members (limit : Option Nat) : Nat → List (String × Json) → List Char →
    Except Refusal (List (String × Json) × List Char)
  | 0, _, cs => .error (.stuck cs)
  | fuel + 1, soFar, cs =>
    match cs with
    | '"' :: r => do
      let (key, r) ← string r
      match skipSpace r with
      | ':' :: r => do
        let (v, r) ← value limit fuel (skipSpace r)
        let soFar := putMember key v soFar
        match skipSpace r with
        | '}' :: r => .ok (soFar, r)
        | ',' :: r => members limit fuel soFar (skipSpace r)
        | r => .error (.stuck r)
      | r => .error (.stuck r)
    | cs => .error (.stuck cs)

end

end Reader

/-- The value that a text writes, with nothing but white space around it. A byte order mark is not
white space. Whole numbers may have at most `limit` digits, or any number of them. -/
def readWithin (limit : Option Nat) (s : String) : Except ReadError Json :=
  let cs := s.toList
  let fail : Reader.Refusal → ReadError
    | .stuck rest => .malformed (cs.length - rest.length)
    | .integerTooLong => .integerTooLong
  match Reader.value limit (cs.length + 1) (Reader.skipSpace cs) with
  | .error e => .error (fail e)
  | .ok (v, r) =>
    match Reader.skipSpace r with
    | [] => .ok v
    | r => .error (fail (.stuck r))

/-- As `readWithin`, for the digits that a whole number usually may have. -/
def read (s : String) : Except ReadError Json := readWithin (some maxDigits) s

end ConnectorHub.Json
