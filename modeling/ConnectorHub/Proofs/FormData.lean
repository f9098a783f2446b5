import ConnectorHub.Url.Form
import Mathlib.Data.List.Basic

/-! Form data can be read: the bytes of a text write that text and no other, and a name or value
stands for the text that it was written for. What is written holds no `&` and no `=`, so that the
fields of form data do not run into each other. -/
namespace ConnectorHub

namespace Text.Utf8

/-- What the first byte of two, three or four announces. -/
theorem lead?_two {b : Nat} (h : 0xc2 ≤ b ∧ b < 0xe0) :
    lead? b = some ⟨1, 0x80, 0xbf, b - 0xc0⟩ := by
  rw [lead?, if_neg (by omega), if_neg (by omega), if_pos h.2]

theorem lead?_three {b : Nat} (h : 0xe0 ≤ b ∧ b < 0xf0) :
    lead? b = some ⟨2, if b = 0xe0 then 0xa0 else 0x80, if b = 0xed then 0x9f else 0xbf,
      b - 0xe0⟩ := by
  rw [lead?, if_neg (by omega), if_neg (by omega), if_neg (by omega)]
  by_cases h₀ : b = 0xe0
  · simp [h₀]
  · by_cases hd : b = 0xed
    · simp [hd]
    · simp [h₀, hd, h.2]

theorem lead?_four {b : Nat} (h : 0xf0 ≤ b ∧ b ≤ 0xf4) :
    lead? b = some ⟨3, if b = 0xf0 then 0x90 else 0x80, if b = 0xf4 then 0x8f else 0xbf,
      b - 0xf0⟩ := by
  rw [lead?, if_neg (by omega), if_neg (by omega), if_neg (by omega), if_neg (by omega),
    if_neg (by omega), if_neg (by omega)]
  by_cases h₀ : b = 0xf0
  · simp [h₀]
  · by_cases h₄ : b = 0xf4
    · simp [h₄]
    · rw [if_neg h₀, if_pos (by omega), if_neg h₀, if_neg h₄]

theorem readTails_cons {n low high bits : Nat} {b : UInt8} (h : low ≤ b.toNat ∧ b.toNat ≤ high)
    (r : List UInt8) : readTails (n + 1) low high bits (b :: r) =
      readTails n 0x80 0xbf (bits * 64 + (b.toNat - 0x80)) r := if_pos h

theorem readChar_of_lead {b : UInt8} {r rest : List UInt8} {tails low high bits n : Nat}
    (hl : lead? b.toNat = some ⟨tails, low, high, bits⟩)
    (ht : readTails tails low high bits r = (some n, rest)) :
    readChar b r = (some (Char.ofNat n), rest) := by
  rw [readChar, hl]
  dsimp only
  rw [ht]

theorem toNat_ofNat {n : Nat} (h : n < 256) : (UInt8.ofNat n).toNat = n :=
  UInt8.toNat_ofNat_of_lt' h

variable {n : Nat} (r : List UInt8)

theorem readChar_one (h : n < 0x80) : readChar (.ofNat n) r = (some (Char.ofNat n), r) := by
  have hlead : lead? (UInt8.ofNat n).toNat = some ⟨0, 0x80, 0xbf, n⟩ := by
    rw [toNat_ofNat (by omega), lead?, if_pos h]
  exact readChar_of_lead hlead rfl

theorem readChar_two (h : 0x80 ≤ n ∧ n < 0x800) :
    readChar (.ofNat (n / 64 % 32 + 192)) (.ofNat (n % 64 + 128) :: r) =
      (some (Char.ofNat n), r) := by
  have hlead := lead?_two (b := n / 64 % 32 + 192) (by omega)
  refine readChar_of_lead (by rwa [toNat_ofNat (by omega)]) ?_
  have hbits : (n / 64 % 32 + 192 - 192) * 64 + (n % 64 + 128 - 128) = n := by omega
  rw [readTails_cons (by rw [toNat_ofNat (by omega)]; omega), toNat_ofNat (by omega), readTails,
    hbits]

/-- The second byte tells that the form is not overlong and the character no surrogate. -/
theorem readChar_three (h : 0x800 ≤ n ∧ n < 0x10000) (hn : n < 0xd800 ∨ 0xdfff < n) :
    readChar (.ofNat (n / 4096 % 16 + 224))
        (.ofNat (n / 64 % 64 + 128) :: .ofNat (n % 64 + 128) :: r) = (some (Char.ofNat n), r) := by
  have hlead := lead?_three (b := n / 4096 % 16 + 224) (by omega)
  refine readChar_of_lead (by rwa [toNat_ofNat (by omega)]) ?_
  have hbits : ((n / 4096 % 16 + 224 - 224) * 64 + (n / 64 % 64 + 128 - 128)) * 64 +
      (n % 64 + 128 - 128) = n := by omega
  rw [readTails_cons (by rw [toNat_ofNat (by omega)]; split <;> split <;> omega),
    readTails_cons (by rw [toNat_ofNat (by omega)]; omega), toNat_ofNat (by omega),
    toNat_ofNat (by omega), readTails, hbits]

/-- The second byte tells that the form is not overlong and the character not beyond the last one. -/
theorem readChar_four (h : 0x10000 ≤ n ∧ n < 0x110000) :
    readChar (.ofNat (n / 262144 % 8 + 240))
        (.ofNat (n / 4096 % 64 + 128) :: .ofNat (n / 64 % 64 + 128) :: .ofNat (n % 64 + 128) :: r) =
      (some (Char.ofNat n), r) := by
  have hlead := lead?_four (b := n / 262144 % 8 + 240) (by omega)
  refine readChar_of_lead (by rwa [toNat_ofNat (by omega)]) ?_
  have hbits : (((n / 262144 % 8 + 240 - 240) * 64 + (n / 4096 % 64 + 128 - 128)) * 64 +
      (n / 64 % 64 + 128 - 128)) * 64 + (n % 64 + 128 - 128) = n := by omega
  rw [readTails_cons (by rw [toNat_ofNat (by omega)]; split <;> split <;> omega),
    readTails_cons (by rw [toNat_ofNat (by omega)]; omega),
    readTails_cons (by rw [toNat_ofNat (by omega)]; omega), toNat_ofNat (by omega),
    toNat_ofNat (by omega), toNat_ofNat (by omega), readTails, hbits]

/-- A character is read from its bytes, whatever follows them. -/
theorem decodeAll_encodeChar (c : Char) :
    decodeAll (encodeChar c ++ r) = some c :: decodeAll r := by
  have hvalid : c.val.toNat < 0xd800 ∨ 0xdfff < c.val.toNat ∧ c.val.toNat < 0x110000 := c.valid
  have hread {b : UInt8} {bs : List UInt8}
      (h : readChar b (bs ++ r) = (some (Char.ofNat c.val.toNat), r)) :
      decodeAll (b :: bs ++ r) = some c :: decodeAll r := by
    have hc : Char.ofNat c.val.toNat = c := Char.ofNat_toNat c
    rw [List.cons_append, decodeAll, h, hc]
  unfold encodeChar String.utf8EncodeChar
  dsimp only
  split
  · exact hread (readChar_one r (by omega))
  · split
    · exact hread (readChar_two r (by omega))
    · split
      · exact hread (readChar_three r (by omega) (by omega))
      · exact hread (readChar_four r (by omega))

theorem decodeAll_flatMap_encodeChar (cs : List Char) :
    decodeAll (cs.flatMap encodeChar) = cs.map some := by
  induction cs with
  | nil => rw [List.flatMap_nil, decodeAll, List.map_nil]
  | cons c cs ih => rw [List.flatMap_cons, decodeAll_encodeChar, ih, List.map_cons]

/-- The bytes of a text write it. -/
theorem decodeLossy_encode (s : String) : decodeLossy (encode s) = s := by
  rw [decodeLossy, encode, decodeAll_flatMap_encodeChar, List.map_map]
  exact (congrArg String.ofList (List.map_id _)).trans String.ofList_toList

/-- A text is read from its bytes. -/
theorem decode?_encode (s : String) : decode? (encode s) = some s := by
  have hread (cs : List Char) : (cs.map some).mapM id = some cs := by
    induction cs with
    | nil => rfl
    | cons c cs ih => rw [List.map_cons, List.mapM_cons, ih]; rfl
  rw [decode?, encode, decodeAll_flatMap_encodeChar, hread]
  exact congrArg some String.ofList_toList

end Text.Utf8

namespace Url

open Text

theorem hexValue?_upperHexDigit : ∀ n < 16, hexValue? (upperHexDigit n) = some n := by decide

/-- A space for a plus sign. -/
def unplus (c : Char) : Char := if c = '+' then ' ' else c

theorem percentBytes_cons {c : Char} (h : c ≠ '%') (r : List Char) :
    percentBytes (c :: r) = Utf8.encodeChar c ++ percentBytes r := by
  rw [percentBytes]
  exact fun _ _ _ hc _ => h hc

/-- A byte is read from the percent sign and the digits that it is written as. -/
theorem percentBytes_percentByte (b : UInt8) (r : List Char) :
    percentBytes ((percentByte b).map unplus ++ r) = b :: percentBytes r := by
  have hb : b.toNat < 256 := b.toNat_lt
  have hdigit : ∀ n < 16, unplus (upperHexDigit n) = upperHexDigit n := by decide
  have hvalue : b.toNat / 16 * 16 + b.toNat % 16 = b.toNat := by omega
  simp only [percentByte, List.map_cons, List.map_nil, List.cons_append, List.nil_append,
    hdigit _ (show b.toNat / 16 < 16 by omega), hdigit _ (show b.toNat % 16 < 16 by omega)]
  rw [show unplus '%' = '%' from rfl, percentBytes, hexValue?_upperHexDigit _ (by omega),
    hexValue?_upperHexDigit _ (by omega)]
  simp only [hvalue, UInt8.ofNat_toNat]

theorem percentBytes_flatMap_percentByte (bs : List UInt8) (r : List Char) :
    percentBytes ((bs.flatMap percentByte).map unplus ++ r) = bs ++ percentBytes r := by
  induction bs with
  | nil => rfl
  | cons b bs ih =>
    rw [List.flatMap_cons, List.map_append, List.append_assoc, percentBytes_percentByte, ih,
      List.cons_append]

/-- No character that stands for itself stands for anything else. -/
theorem ne_of_isUnreserved {c : Char} (h : isUnreserved c = true) : c ≠ '%' ∧ c ≠ '+' := by
  constructor <;> rintro rfl <;> exact absurd h (by decide)

/-- A character is read as its bytes from what form data writes for it. -/
theorem percentBytes_encodeChar (c : Char) (r : List Char) :
    percentBytes ((encodeChar c).map unplus ++ r) = Utf8.encodeChar c ++ percentBytes r := by
  unfold encodeChar
  split
  · rename_i hspace
    subst hspace
    exact percentBytes_cons (c := ' ') (by decide) r
  · split
    · rename_i hself
      obtain ⟨hpercent, hplus⟩ := ne_of_isUnreserved hself
      rw [List.map_cons, List.map_nil, unplus, if_neg hplus]
      exact percentBytes_cons hpercent r
    · exact percentBytes_flatMap_percentByte _ r

theorem percentBytes_flatMap_encodeChar (cs : List Char) :
    percentBytes ((cs.flatMap encodeChar).map unplus) = cs.flatMap Utf8.encodeChar := by
  induction cs with
  | nil => rfl
  | cons c cs ih =>
    rw [List.flatMap_cons, List.map_append, percentBytes_encodeChar, ih, List.flatMap_cons]

/-- A name or value is read as the text that it was written for. -/
theorem decodeComponent_encodeComponent (s : String) :
    decodeComponent (encodeComponent s).toList = s := by
  rw [encodeComponent, String.toList_ofList]
  change Utf8.decodeLossy (percentBytes ((s.toList.flatMap encodeChar).map unplus)) = s
  rw [percentBytes_flatMap_encodeChar]
  exact Utf8.decodeLossy_encode s

/-- A character that a name or value may hold in form data: a letter or digit of ASCII, or one of a
few signs. -/
def IsFormChar (c : Char) : Prop := c.isAlphanum = true ∨ c ∈ ['_', '.', '-', '~', '+', '%']

instance (c : Char) : Decidable (IsFormChar c) := instDecidableOr

theorem isFormChar_of_isUnreserved {c : Char} (h : isUnreserved c = true) : IsFormChar c := by
  simp only [isUnreserved, isAsciiDigit, Bool.or_eq_true, Bool.and_eq_true, decide_eq_true_eq,
    beq_iff_eq] at h
  rcases h with (((((h | h) | h) | h) | h) | h) | h
  · have hdigit : c.isDigit = true :=
      Bool.and_eq_true_iff.2 ⟨decide_eq_true h.1, decide_eq_true h.2⟩
    exact .inl (Bool.or_eq_true_iff.2 (.inr hdigit))
  · have hlower : c.isLower = true :=
      Bool.and_eq_true_iff.2 ⟨decide_eq_true h.1, decide_eq_true h.2⟩
    exact .inl (Bool.or_eq_true_iff.2 (.inl (Bool.or_eq_true_iff.2 (.inr hlower))))
  · have hupper : c.isUpper = true := decide_eq_true h
    exact .inl (Bool.or_eq_true_iff.2 (.inl (Bool.or_eq_true_iff.2 (.inl hupper))))
  all_goals exact .inr (by simp [h])

theorem isFormChar_upperHexDigit : ∀ n < 16, IsFormChar (upperHexDigit n) := by decide

theorem isFormChar_of_mem_encodeComponent {s : String} {c : Char}
    (h : c ∈ (encodeComponent s).toList) : IsFormChar c := by
  rw [encodeComponent, String.toList_ofList] at h
  obtain ⟨d, -, hc⟩ := List.mem_flatMap.1 h
  unfold encodeChar at hc
  split at hc
  · rw [List.mem_singleton.1 hc]
    decide
  · split at hc
    · rename_i hself
      rw [List.mem_singleton.1 hc]
      exact isFormChar_of_isUnreserved hself
    · obtain ⟨b, -, hc⟩ := List.mem_flatMap.1 hc
      have hb : b.toNat < 256 := b.toNat_lt
      simp only [percentByte, List.mem_cons, List.not_mem_nil, or_false] at hc
      rcases hc with rfl | rfl | rfl
      · decide
      · exact isFormChar_upperHexDigit _ (by omega)
      · exact isFormChar_upperHexDigit _ (by omega)

end Url

end ConnectorHub
