/-! UTF-8: writing texts as bytes and reading them back, either refusing broken bytes or putting a
replacement character for each broken sequence. -/
namespace ConnectorHub.Text.Utf8

/-- The bytes of a character. -/
def encodeChar (c : Char) : List UInt8 := String.utf8EncodeChar c

/-- The bytes of a text. -/
def encode (s : String) : List UInt8 := s.toList.flatMap encodeChar

/-- What a first byte announces: how many bytes follow it, the range that the next one has to be
in, and the bits that it gives itself. -/
structure Lead where
  tails : Nat
  low : Nat
  high : Nat
  bits : Nat
  deriving DecidableEq, Repr

/-- Overlong forms, surrogates and everything above U+10FFFF are ruled out by the range of the
second byte. -/
def lead? (b : Nat) : Option Lead :=
  if b < 0x80 then some ⟨0, 0x80, 0xbf, b⟩
  else if b < 0xc2 then none
  else if b < 0xe0 then some ⟨1, 0x80, 0xbf, b - 0xc0⟩
  else if b = 0xe0 then some ⟨2, 0xa0, 0xbf, 0⟩
  else if b = 0xed then some ⟨2, 0x80, 0x9f, 0xd⟩
  else if b < 0xf0 then some ⟨2, 0x80, 0xbf, b - 0xe0⟩
  else if b = 0xf0 then some ⟨3, 0x90, 0xbf, 0⟩
  else if b < 0xf4 then some ⟨3, 0x80, 0xbf, b - 0xf0⟩
  else if b = 0xf4 then some ⟨3, 0x80, 0x8f, 4⟩
  else none

/-- Reads the `n` bytes that follow a first byte. Where one is missing or out of range the answer
is `none`, and the bytes from there on are left. -/
def readTails : Nat → Nat → Nat → Nat → List UInt8 → Option Nat × List UInt8
  | 0, _, _, bits, r => (some bits, r)
  | _ + 1, _, _, _, [] => (none, [])
  | n + 1, low, high, bits, b :: r =>
    if low ≤ b.toNat ∧ b.toNat ≤ high then readTails n 0x80 0xbf (bits * 64 + (b.toNat - 0x80)) r
    else (none, b :: r)

theorem length_readTails_le (n low high bits : Nat) (bs : List UInt8) :
    (readTails n low high bits bs).2.length ≤ bs.length := by
  induction n generalizing low high bits bs with
  | zero => simp [readTails]
  | succ n ih =>
    cases bs with
    | nil => simp [readTails]
    | cons b r =>
      simp only [readTails]
      split
      · exact Nat.le_trans (ih ..) (by simp)
      · simp

/-- The first character of a non-empty list of bytes, `none` if it is broken, and the rest. -/
def readChar (b : UInt8) (r : List UInt8) : Option Char × List UInt8 :=
  match lead? b.toNat with
  | none => (none, r)
  | some l =>
    match readTails l.tails l.low l.high l.bits r with
    | (some n, rest) => (some (Char.ofNat n), rest)
    | (none, rest) => (none, rest)

theorem length_readChar_le (b : UInt8) (r : List UInt8) : (readChar b r).2.length ≤ r.length := by
  simp only [readChar]
  split
  · simp
  · rename_i l _
    have := length_readTails_le l.tails l.low l.high l.bits r
    split <;> simp_all

/-- The characters of a list of bytes; `none` stands for a broken sequence. -/
def decodeAll : List UInt8 → List (Option Char)
  | [] => []
  | b :: r => (readChar b r).1 :: decodeAll (readChar b r).2
termination_by bs => bs.length
decreasing_by
  have := length_readChar_le b r
  simp only [List.length_cons]
  omega

/-- The text that the bytes write, if no sequence is broken. -/
def decode? (bs : List UInt8) : Option String :=
  ((decodeAll bs).mapM id).map String.ofList

/-- The text that the bytes write, with U+FFFD for each broken sequence. -/
def decodeLossy (bs : List UInt8) : String :=
  String.ofList ((decodeAll bs).map (·.getD '\ufffd'))

example : decode? (encode "é日😀") = some "é日😀" := by decide +kernel

end ConnectorHub.Text.Utf8
