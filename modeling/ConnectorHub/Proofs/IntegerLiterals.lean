import ConnectorHub.Number.Integer
import Mathlib.Data.List.TakeWhile
import Mathlib.Data.Nat.Digits.Defs

/-! The texts that are read as whole numbers, given by a grammar: a sign, if there is one, and
groups of digits, with blanks around them. What is written for a number is one of its literals. A
number is written if it is not too long, and none that is too long is read, so that what was read can
be written again. -/
namespace ConnectorHub

namespace Text

section

variable {p : Char → Bool} {cs : List Char}

theorem trimEnd_append {after : List Char} (hcs : ∀ c ∈ cs, p c = false)
    (hafter : ∀ c ∈ after, p c = true) : trimEnd p (cs ++ after) = cs := by
  induction cs with
  | nil => exact trimEnd_eq_nil_iff.2 hafter
  | cons c r ih =>
    obtain ⟨hc, hr⟩ := List.forall_mem_cons.1 hcs
    rw [List.cons_append, trimEnd, ih hr]
    cases r with
    | nil => simp [hc]
    | cons d t => rfl

/-- What is cut off both ends of a text is of the class. -/
theorem trim_append {before after : List Char} (hbefore : ∀ c ∈ before, p c = true)
    (hcs : ∀ c ∈ cs, p c = false) (hafter : ∀ c ∈ after, p c = true) :
    trim p (before ++ cs ++ after) = cs := by
  rw [trim, List.append_assoc, List.dropWhile_append_of_pos hbefore]
  cases cs with
  | nil => exact trimEnd_eq_nil_iff.2 fun c hc => hafter c (List.dropWhile_sublist p |>.subset hc)
  | cons c r =>
    rw [List.cons_append, List.dropWhile_cons_of_neg (by simp [hcs c List.mem_cons_self])]
    exact trimEnd_append hcs hafter

theorem exists_eq_trimEnd_append (p : Char → Bool) (cs : List Char) :
    ∃ after, cs = trimEnd p cs ++ after ∧ ∀ c ∈ after, p c = true := by
  induction cs with
  | nil => exact ⟨[], rfl, nofun⟩
  | cons c r ih =>
    obtain ⟨after, hr, hafter⟩ := ih
    rw [trimEnd]
    split
    · rename_i hnil
      rw [hnil, List.nil_append] at hr
      subst hr
      by_cases hc : p c = true
      · exact ⟨c :: r, by rw [if_pos hc, List.nil_append], List.forall_mem_cons.2 ⟨hc, hafter⟩⟩
      · exact ⟨r, by rw [if_neg hc, List.singleton_append], hafter⟩
    · rename_i d t hcons
      exact ⟨after, by rw [List.cons_append, ← hcons, ← hr], hafter⟩

theorem exists_eq_append_trim_append (p : Char → Bool) (cs : List Char) :
    ∃ before after, cs = before ++ trim p cs ++ after ∧ (∀ c ∈ before, p c = true) ∧
      ∀ c ∈ after, p c = true := by
  obtain ⟨after, hdrop, hafter⟩ := exists_eq_trimEnd_append p (cs.dropWhile p)
  refine ⟨cs.takeWhile p, after, ?_, fun c hc => List.mem_takeWhile_imp hc, hafter⟩
  rw [trim, List.append_assoc, ← hdrop, List.takeWhile_append_dropWhile]

end

/-- No digit of any script is white space. -/
theorem not_isBlank_of_isDigit {c : Char} (h : isDigit c = true) : isBlank c = false := by
  have hapart : ∀ z ∈ digitZeros, ∀ r ∈ blankRanges, r.last < z ∨ z + 10 ≤ r.first := by decide
  rw [isDigit, digitValue?] at h
  split at h
  case h_2 => cases h
  case h_1 z hz =>
    have hc : z ≤ c.toNat ∧ c.toNat < z + 10 := by simpa using List.find?_some hz
    rw [isBlank, CodeRange.covers, List.any_eq_false]
    intro r hr
    have := hapart z (List.mem_of_find?_eq_some hz) r hr
    simp only [Bool.and_eq_true, decide_eq_true_eq]
    omega

/-- A text of digits writes a number that has no more of them. -/
theorem digitsValue_lt (cs : List Char) : digitsValue cs < 10 ^ cs.length := by
  have hfold : ∀ (cs : List Char) (k : Nat),
      cs.foldl (fun n c => 10 * n + (digitValue? c).getD 0) k < (k + 1) * 10 ^ cs.length := by
    intro cs
    induction cs with
    | nil => simp
    | cons c r ih =>
      intro k
      have hdigit : (digitValue? c).getD 0 < 10 := by
        cases h : digitValue? c with
        | none => decide
        | some d => exact digitValue?_lt h
      calc
        _ < (10 * k + (digitValue? c).getD 0 + 1) * 10 ^ r.length := ih _
        _ ≤ ((k + 1) * 10) * 10 ^ r.length := Nat.mul_le_mul_right _ (by omega)
        _ = (k + 1) * 10 ^ (c :: r).length := by
          rw [List.length_cons, Nat.pow_succ', Nat.mul_assoc]
  have h := hfold cs 0
  rwa [Nat.zero_add, Nat.one_mul] at h

theorem digitValue?_of_isDigit {c : Char} (h : c.isDigit = true) :
    digitValue? c = some (c.toNat - '0'.toNat) := by
  have hc : 0x30 ≤ c.toNat ∧ c.toNat < 0x30 + 10 := by
    simp only [Char.isDigit, Bool.and_eq_true, decide_eq_true_eq] at h
    exact ⟨h.1, Nat.lt_succ_of_le h.2⟩
  rw [digitValue?, digitZeros, List.find?_cons_of_pos (by simpa using hc)]
  rfl

theorem isDigit_of_mem_toDigits {n : Nat} {c : Char} (h : c ∈ Nat.toDigits 10 n) :
    c.isDigit = true :=
  Nat.isDigit_of_mem_toDigits (by decide) (by decide) h

theorem digitsValue_toDigits (n : Nat) : digitsValue (Nat.toDigits 10 n) = n := by
  have hfold : ∀ (cs : List Char) (k : Nat), (∀ c ∈ cs, c.isDigit = true) →
      cs.foldl (fun n c => 10 * n + (digitValue? c).getD 0) k = Nat.ofDigitChars 10 cs k := by
    intro cs
    induction cs with
    | nil => exact fun _ _ => rfl
    | cons c r ih =>
      intro k h
      obtain ⟨hc, hr⟩ := List.forall_mem_cons.1 h
      rw [List.foldl_cons, digitValue?_of_isDigit hc, Nat.ofDigitChars_cons]
      exact ih _ hr
  rw [digitsValue, hfold _ _ fun _ hc => isDigit_of_mem_toDigits hc]
  exact Nat.ofDigitChars_ten_toDigits

end Text

namespace Number

open Text

/-- Digits with single underscores between them, and the digits alone. -/
inductive Grouped : List Char → List Char → Prop
  | one {d} (hd : isDigit d = true) : Grouped [d] [d]
  | digit {d cs ds} (hd : isDigit d = true) (h : Grouped cs ds) : Grouped (d :: cs) (d :: ds)
  | gap {d cs ds} (hd : isDigit d = true) (h : Grouped cs ds) : Grouped (d :: '_' :: cs) (d :: ds)

/-- A sign, if there is one, and whether it is a minus. -/
inductive Sign : List Char → Bool → Prop
  | none : Sign [] false
  | plus : Sign ['+'] false
  | minus : Sign ['-'] true

/-- A whole number as it may be written: signed digits with blanks around them. -/
inductive Literal : List Char → Int → Prop
  | intro {before sign cs after : List Char} {negative : Bool} {digits : List Char}
      (hbefore : ∀ c ∈ before, isNumberBlank c = true) (hsign : Sign sign negative)
      (hcs : Grouped cs digits) (hlength : digits.length ≤ maxDigits)
      (hafter : ∀ c ∈ after, isNumberBlank c = true) :
      Literal (before ++ (sign ++ cs) ++ after) (signed negative (digitsValue digits))

variable {cs ds : List Char}

theorem Grouped.exists_cons (h : Grouped cs ds) : ∃ d r, cs = d :: r ∧ isDigit d = true := by
  cases h with
  | one hd => exact ⟨_, _, rfl, hd⟩
  | digit hd _ => exact ⟨_, _, rfl, hd⟩
  | gap hd _ => exact ⟨_, _, rfl, hd⟩

theorem Grouped.isDigitOrGap (h : Grouped cs ds) : ∀ c ∈ cs, isDigitOrGap c = true := by
  induction h with
  | one hd => simp [Number.isDigitOrGap, hd]
  | digit hd _ ih => exact List.forall_mem_cons.2 ⟨by simp [Number.isDigitOrGap, hd], ih⟩
  | gap hd _ ih =>
    exact List.forall_mem_cons.2
      ⟨by simp [Number.isDigitOrGap, hd], List.forall_mem_cons.2 ⟨rfl, ih⟩⟩

theorem Grouped.filter_isDigit (h : Grouped cs ds) : cs.filter isDigit = ds := by
  induction h with
  | one hd => simp [hd]
  | digit hd _ ih => rw [List.filter_cons_of_pos hd, ih]
  | gap hd _ ih =>
    rw [List.filter_cons_of_pos hd, List.filter_cons_of_neg (by decide), ih]

section

variable {d : Char} (hd : isDigit d = true)
include hd

theorem beq_underscore_of_isDigit : (d == '_') = false := by
  rw [beq_eq_false_iff_ne]
  rintro rfl
  exact absurd hd (by decide)

theorem isGrouped_singleton : isGrouped [d] = true := by
  simp [isGrouped, splitOn, beq_underscore_of_isDigit hd, consHead, hd]

theorem isGrouped_gap (cs : List Char) : isGrouped (d :: '_' :: cs) = isGrouped cs := by
  simp [isGrouped, splitOn, beq_underscore_of_isDigit hd, consHead, hd]

theorem isGrouped_digit {e : Char} (he : (e == '_') = false) (cs : List Char) :
    isGrouped (d :: e :: cs) = isGrouped (e :: cs) := by
  cases hcs : splitOn (· == '_') cs with
  | nil => exact absurd hcs (splitOn_ne_nil _ _)
  | cons g gs => simp [isGrouped, splitOn, beq_underscore_of_isDigit hd, he, consHead, hcs, hd]

end

theorem grouped_of_digits (hne : cs ≠ []) (h : ∀ c ∈ cs, isDigit c = true) : Grouped cs cs := by
  induction cs with
  | nil => exact absurd rfl hne
  | cons d r ih =>
    obtain ⟨hd, hr⟩ := List.forall_mem_cons.1 h
    by_cases hnil : r = []
    · rw [hnil]
      exact .one hd
    · exact .digit hd (ih hnil hr)

theorem isGrouped_of_grouped (h : Grouped cs ds) : isGrouped cs = true := by
  induction h with
  | one hd => exact isGrouped_singleton hd
  | digit hd h ih =>
    obtain ⟨e, r, rfl, he⟩ := h.exists_cons
    rwa [isGrouped_digit hd (beq_underscore_of_isDigit he)]
  | gap hd _ ih => rwa [isGrouped_gap hd]

theorem isDigit_of_isGrouped {c : Char} (h : isGrouped (c :: cs) = true) : isDigit c = true := by
  by_cases hc : (c == '_') = true
  · simp [isGrouped, splitOn, hc] at h
  · cases hcs : splitOn (· == '_') cs with
    | nil => exact absurd hcs (splitOn_ne_nil _ _)
    | cons g gs =>
      simp [isGrouped, splitOn, hc, hcs, consHead] at h
      exact h.1.1

theorem grouped_of_isGrouped : ∀ {cs : List Char}, isGrouped cs = true → ∃ ds, Grouped cs ds
  | [], h => by simp [isGrouped, splitOn] at h
  | [d], h => ⟨[d], .one (isDigit_of_isGrouped h)⟩
  | d :: e :: r, h => by
    have hd := isDigit_of_isGrouped h
    -- An underscore ends a group; any other character goes on with it.
    by_cases he : (e == '_') = true
    · obtain rfl := eq_of_beq he
      rw [isGrouped_gap hd] at h
      obtain ⟨ds, hr⟩ := grouped_of_isGrouped h
      exact ⟨d :: ds, .gap hd hr⟩
    · rw [isGrouped_digit hd (Bool.eq_false_iff.2 he)] at h
      obtain ⟨ds, hr⟩ := grouped_of_isGrouped h
      exact ⟨d :: ds, .digit hd hr⟩

theorem not_isNumberBlank_of_isDigitOrGap {c : Char} (h : isDigitOrGap c = true) :
    isNumberBlank c = false := by
  rcases Bool.or_eq_true_iff.1 h with hc | hc
  · rw [isNumberBlank, not_isBlank_of_isDigit hc, Bool.false_and]
  · rw [eq_of_beq hc]
    decide

/-- The sign of a literal is taken off it. -/
theorem unsigned_append {sign : List Char} {negative : Bool} (hsign : Sign sign negative)
    (h : Grouped cs ds) : unsigned (sign ++ cs) = (negative, cs) := by
  cases hsign with
  | none =>
    obtain ⟨d, r, rfl, hd⟩ := h.exists_cons
    rw [List.nil_append]
    unfold unsigned
    split
    · rename_i heq
      rw [(List.cons.inj heq).1] at hd
      exact absurd hd (by decide)
    · rename_i heq
      rw [(List.cons.inj heq).1] at hd
      exact absurd hd (by decide)
    · rfl
  | plus => rfl
  | minus => rfl

theorem exists_sign_append (cs : List Char) :
    ∃ sign, Sign sign (unsigned cs).1 ∧ cs = sign ++ (unsigned cs).2 := by
  unfold unsigned
  split
  · exact ⟨['-'], .minus, rfl⟩
  · exact ⟨['+'], .plus, rfl⟩
  · exact ⟨[], .none, rfl⟩

/-- A literal is read as the number that it writes. -/
theorem readInteger_of_literal {text : String} {n : Int} (h : Literal text.toList n) :
    readInteger text = .ok n := by
  generalize htext : text.toList = chars at h
  cases h with
  | @intro before sign cs after negative digits hbefore hsign hcs hlength hafter =>
    have hinside : ∀ c ∈ sign ++ cs, isNumberBlank c = false := by
      intro c hc
      rcases List.mem_append.1 hc with hc | hc
      · cases hsign with
        | none => cases hc
        | plus => rw [List.mem_singleton.1 hc]; decide
        | minus => rw [List.mem_singleton.1 hc]; decide
      · exact not_isNumberBlank_of_isDigitOrGap (hcs.isDigitOrGap c hc)
    have hrun : cs.takeWhile isDigitOrGap = cs := List.takeWhile_eq_self_iff.2 hcs.isDigitOrGap
    simp only [readInteger, htext, trim_append hbefore hinside hafter, unsigned_append hsign hcs,
      hrun, isGrouped_of_grouped hcs, hcs.filter_isDigit, Bool.not_true, Bool.false_eq_true,
      if_false, gt_iff_lt, Nat.not_lt.2 hlength, Nat.lt_irrefl]

/-- What is read as a number is a literal that writes it. -/
theorem literal_of_readInteger {text : String} {n : Int} (h : readInteger text = .ok n) :
    Literal text.toList n := by
  obtain ⟨before, after, htext, hbefore, hafter⟩ :=
    exists_eq_append_trim_append isNumberBlank text.toList
  obtain ⟨sign, hsign, htrim⟩ := exists_sign_append (trim isNumberBlank text.toList)
  unfold readInteger at h
  generalize unsigned (trim isNumberBlank text.toList) = body at h hsign htrim
  obtain ⟨negative, cs⟩ := body
  dsimp only at h hsign htrim
  split at h
  · cases h
  · rename_i hgrouped
    split at h
    · cases h
    · rename_i hlength
      split at h
      · cases h
      · rename_i hrun
        obtain rfl := Except.ok.inj h
        have hall : cs.takeWhile isDigitOrGap = cs :=
          (List.takeWhile_prefix _).eq_of_length_le (Nat.not_lt.1 hrun)
        rw [hall] at hgrouped hlength ⊢
        obtain ⟨ds, hcs⟩ := grouped_of_isGrouped (by simpa using hgrouped)
        rw [hcs.filter_isDigit] at hlength ⊢
        rw [htext, htrim]
        exact .intro hbefore hsign hcs (Nat.not_lt.1 hlength) hafter

theorem readInteger_eq_ok_iff {text : String} {n : Int} :
    readInteger text = .ok n ↔ Literal text.toList n :=
  ⟨literal_of_readInteger, readInteger_of_literal⟩

/-- A number that is read has no more digits than a text may have. -/
theorem natAbs_lt_of_readInteger {text : String} {n : Int} (h : readInteger text = .ok n) :
    n.natAbs < 10 ^ maxDigits := by
  have hliteral := literal_of_readInteger h
  generalize text.toList = chars at hliteral
  cases hliteral with
  | @intro _ _ _ _ negative digits _ _ _ hlength _ =>
    have habs : (signed negative (digitsValue digits)).natAbs = digitsValue digits := by
      cases negative <;> simp [signed]
    rw [habs]
    calc
      digitsValue digits < 10 ^ digits.length := digitsValue_lt _
      _ ≤ 10 ^ maxDigits := Nat.pow_le_pow_right (by decide) hlength

/-- The text of a number: its digits, after a minus if it is negative. -/
theorem of_writeInteger {n : Int} {text : String} (h : writeInteger n = .ok text) :
    text.toList = (if n < 0 then ['-'] else []) ++ Nat.toDigits 10 n.natAbs ∧
      (Nat.toDigits 10 n.natAbs).length ≤ maxDigits := by
  unfold writeInteger at h
  split at h
  · cases h
  · rename_i hlen
    obtain rfl := Except.ok.inj h
    constructor
    · cases n with
      | ofNat m =>
        have hn : ¬ Int.ofNat m < 0 := Int.not_lt.2 (Int.natCast_nonneg m)
        rw [if_neg hn]
        exact Nat.toList_repr
      | negSucc m =>
        rw [if_pos (Int.negSucc_lt_zero m), Int.natAbs_negSucc, ← Nat.toList_repr]
        exact String.toList_append
    · rwa [Nat.not_lt, Nat.toString_eq_repr, ← String.length_toList, Nat.toList_repr] at hlen

/-- The text that a number is written as is a literal of it. -/
theorem literal_of_writeInteger {n : Int} {text : String} (h : writeInteger n = .ok text) :
    Literal text.toList n := by
  obtain ⟨htext, hlength⟩ := of_writeInteger h
  have hdigits : ∀ c ∈ Nat.toDigits 10 n.natAbs, isDigit c = true := by
    intro c hc
    rw [isDigit, digitValue?_of_isDigit (isDigit_of_mem_toDigits hc)]
    rfl
  have hgrouped := grouped_of_digits Nat.toDigits_ne_nil hdigits
  have hliteral {sign : List Char} {negative : Bool} (hsign : Sign sign negative) :
      Literal (sign ++ Nat.toDigits 10 n.natAbs) (signed negative n.natAbs) := by
    have h := Literal.intro (List.forall_mem_nil _) hsign hgrouped hlength (List.forall_mem_nil _)
    rwa [List.nil_append, List.append_nil, digitsValue_toDigits] at h
  rw [htext]
  by_cases hn : n < 0
  · have hsigned : signed true n.natAbs = n := by
      rw [signed, if_pos rfl]
      omega
    have hminus := hliteral .minus
    rw [hsigned] at hminus
    rwa [if_pos hn]
  · have hsigned : signed false n.natAbs = n := by
      rw [signed, if_neg Bool.false_ne_true]
      omega
    have hnone := hliteral .none
    rw [hsigned] at hnone
    rwa [if_neg hn]

/-- A number is read from the text that it is written as. -/
theorem readInteger_of_writeInteger {n : Int} {text : String} (h : writeInteger n = .ok text) :
    readInteger text = .ok n := readInteger_of_literal (literal_of_writeInteger h)

/-- A number is written in decimal if it has no more digits than a text may have. -/
theorem writeInteger_eq_ok_iff {n : Int} {text : String} :
    writeInteger n = .ok text ↔ n.natAbs < 10 ^ maxDigits ∧ text = decimal n := by
  have hlen : (toString n.natAbs).length ≤ maxDigits ↔ n.natAbs < 10 ^ maxDigits := by
    constructor
    · intro h
      rw [Nat.toString_eq_repr, ← String.length_toList, Nat.toList_repr] at h
      calc
        n.natAbs = digitsValue (Nat.toDigits 10 n.natAbs) := (digitsValue_toDigits _).symm
        _ < 10 ^ (Nat.toDigits 10 n.natAbs).length := digitsValue_lt _
        _ ≤ 10 ^ maxDigits := Nat.pow_le_pow_right (by decide) h
    · exact Nat.repr_length _ _ (by decide)
  unfold writeInteger
  rw [← hlen]
  split
  · rename_i h
    exact ⟨nofun, fun hn => absurd hn.1 (Nat.not_le.2 h)⟩
  · rename_i h
    exact ⟨fun hn => ⟨Nat.not_lt.1 h, (Except.ok.inj hn).symm⟩, fun hn => by rw [hn.2]⟩

/-- A number that is too long is not written. -/
theorem writeInteger_eq_error_iff {n : Int} {e : IntegerError} :
    writeInteger n = .error e ↔ 10 ^ maxDigits ≤ n.natAbs ∧ e = .unprintable := by
  cases hw : writeInteger n with
  | ok text =>
    have hlt := (writeInteger_eq_ok_iff.1 hw).1
    exact ⟨nofun, fun h => absurd hlt (Nat.not_lt.2 h.1)⟩
  | error e' =>
    have hle : 10 ^ maxDigits ≤ n.natAbs := Nat.not_lt.1 fun hlt => by
      rw [writeInteger_eq_ok_iff.2 ⟨hlt, rfl⟩] at hw
      cases hw
    have he : e' = .unprintable := by
      unfold writeInteger at hw
      split at hw
      · exact (Except.error.inj hw).symm
      · cases hw
    rw [he, Except.error.injEq, eq_comm, and_iff_right hle]

end Number

end ConnectorHub
