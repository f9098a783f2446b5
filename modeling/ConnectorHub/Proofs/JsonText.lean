import ConnectorHub.Json.Reader
import ConnectorHub.Json.Writer
import ConnectorHub.Proofs.ScheduleText

/-! JSON texts can be read: a string and a whole number are read from what is written for them,
whatever characters the string holds, and so is an object of such values with each member on a line
of its own. A text after the value has to be one that no number goes on with. -/
namespace ConnectorHub

namespace Text

theorem hexValue?_hexDigit : ∀ n < 16, hexValue? (hexDigit n) = some n := by decide

theorem isAsciiDigit_of_mem_toDigits {n : Nat} {c : Char} (h : c ∈ Nat.toDigits 10 n) :
    isAsciiDigit c = true := by
  have hc := isDigit_of_mem_toDigits h
  simp only [Char.isDigit, Bool.and_eq_true, decide_eq_true_eq] at hc
  simp only [isAsciiDigit, Bool.and_eq_true, decide_eq_true_eq]
  exact hc

/-- Only zero is written with a zero in front. -/
theorem toDigits_eq_cons {n : Nat} (h : n ≠ 0) : ∃ c r, Nat.toDigits 10 n = c :: r ∧ c ≠ '0' := by
  induction n using Nat.strongRecOn with
  | _ n ih =>
    by_cases hn : n < 10
    · refine ⟨n.digitChar, [], Nat.toDigits_of_lt_base hn, ?_⟩
      have hdigit : ∀ d < 10, d ≠ 0 → Nat.digitChar d ≠ '0' := by decide
      exact hdigit n hn h
    · obtain ⟨c, r, hr, hc⟩ := ih (n / 10) (by omega) (by omega)
      refine ⟨c, r ++ [Nat.digitChar (n % 10)], ?_, hc⟩
      rw [Nat.toDigits_of_base_le (by decide) (by omega), hr, List.cons_append]

end Text

namespace Json

open Text Number

namespace Reader

theorem hexFour?_hex {n : Nat} (h : n < 0x10000) (r : List Char) :
    hexFour? (hex 4 n ++ r) = some n := by
  have hdigit {d : Nat} : hexValue? (hexDigit (d % 16)) = some (d % 16) :=
    hexValue?_hexDigit _ (Nat.mod_lt _ (by decide))
  have hvalue : ((n / 16 / 16 / 16 % 16 * 16 + n / 16 / 16 % 16) * 16 + n / 16 % 16) * 16 + n % 16 =
      n := by omega
  simp only [hex, List.nil_append, List.cons_append, hexFour?, List.take_succ_cons, List.take_zero,
    List.mapM_cons, List.mapM_nil, hdigit, Option.pure_def, Option.bind_eq_bind, Option.bind_some,
    hvalue]

theorem drop_hex (n : Nat) (r : List Char) : (hex 4 n ++ r).drop 4 = r := rfl

/-- A code unit that is no half of a pair is read as its character. -/
theorem unicodeEscape_hex {n : Nat} (h : n < 0x10000) (hhigh : isHighHalf n = false)
    (hlow : isLowHalf n = false) {r : List Char} (hr : r ≠ []) :
    unicodeEscape (hex 4 n ++ r) = .ok (Char.ofNat n, r) := by
  obtain ⟨c, r, rfl⟩ := List.exists_cons_of_ne_nil hr
  simp only [unicodeEscape, drop_hex, hexFour?_hex h, hhigh, Bool.false_and, Bool.false_eq_true,
    if_false, charOf, hlow, Bool.or_false]

/-- Two halves are read as the character of their pair. -/
theorem unicodeEscape_pair {m n : Nat} (hm : isHighHalf m = true) (hn : isLowHalf n = true)
    {r : List Char} (hr : r ≠ []) :
    unicodeEscape (hex 4 m ++ '\\' :: 'u' :: (hex 4 n ++ r)) = .ok (joinHalves m n, r) := by
  have hm' : m < 0x10000 := by
    simp only [isHighHalf, Bool.and_eq_true, decide_eq_true_eq] at hm
    omega
  have hn' : n < 0x10000 := by
    simp only [isLowHalf, Bool.and_eq_true, decide_eq_true_eq] at hn
    omega
  have hsix : (hex 4 m ++ '\\' :: 'u' :: (hex 4 n ++ r)).drop 6 = hex 4 n ++ r := rfl
  have hten : (hex 4 m ++ '\\' :: 'u' :: (hex 4 n ++ r)).drop 10 = r := rfl
  have hmore : r.isEmpty = false := List.isEmpty_eq_false_iff.2 hr
  simp only [unicodeEscape, drop_hex, hexFour?_hex hm', hm, hsix, hten, hexFour?_hex hn', hn, hmore,
    List.isPrefixOf, beq_self_eq_true, Bool.not_false, Bool.and_self, if_true]

/-- A character is read from the escapes of its code units. -/
theorem stringChar_codeUnits (opening : List Char) (c : Char) {r : List Char} (hr : r ≠ []) :
    stringChar opening ((codeUnits c).flatMap (fun u => '\\' :: 'u' :: hex 4 u) ++ r) =
      .ok (some c, r) := by
  have hvalid : c.toNat < 0xd800 ∨ 0xdfff < c.toNat ∧ c.toNat < 0x110000 := c.valid
  unfold codeUnits
  split
  · rename_i hn
    have hhigh : isHighHalf c.toNat = false := by
      rw [isHighHalf, Bool.and_eq_false_iff, decide_eq_false_iff_not, decide_eq_false_iff_not]
      omega
    have hlow : isLowHalf c.toNat = false := by
      rw [isLowHalf, Bool.and_eq_false_iff, decide_eq_false_iff_not, decide_eq_false_iff_not]
      omega
    simp only [List.flatMap_cons, List.flatMap_nil, List.append_nil, List.cons_append]
    rw [stringChar, unicodeEscape_hex hn hhigh hlow hr, Char.ofNat_toNat]
    rfl
  · rename_i hn
    have hhigh : isHighHalf (0xd800 + (c.toNat - 0x10000) / 0x400) = true := by
      rw [isHighHalf, Bool.and_eq_true, decide_eq_true_eq, decide_eq_true_eq]
      omega
    have hlow : isLowHalf (0xdc00 + (c.toNat - 0x10000) % 0x400) = true := by
      rw [isLowHalf, Bool.and_eq_true, decide_eq_true_eq, decide_eq_true_eq]
      omega
    have hpair : 0x10000 + (0xd800 + (c.toNat - 0x10000) / 0x400 - 0xd800) * 0x400 +
        (0xdc00 + (c.toNat - 0x10000) % 0x400 - 0xdc00) = c.toNat := by omega
    simp only [List.flatMap_cons, List.flatMap_nil, List.append_nil, List.cons_append,
      List.append_assoc]
    rw [stringChar, unicodeEscape_pair hhigh hlow hr, joinHalves, hpair, Char.ofNat_toNat]
    rfl

theorem stringChar_letter {e c : Char} (h : letterEscape? e = some c) (opening r : List Char) :
    stringChar opening ('\\' :: e :: r) = .ok (some c, r) := by
  have he : e ≠ 'u' := by
    rintro rfl
    cases h
  rw [stringChar.eq_5 _ _ _ he, h]

theorem stringChar_plain {c : Char} (hquote : c ≠ '"') (hback : c ≠ '\\') (h : 0x20 ≤ c.toNat)
    (opening r : List Char) : stringChar opening (c :: r) = .ok (some c, r) := by
  rw [stringChar.eq_6 _ _ _ hquote (fun h _ => hback h) (fun _ h _ => hback h)
    (fun _ _ h _ => hback h), if_neg (Nat.not_lt.2 h)]

/-- A character is read from what a string writes for it. -/
theorem stringChar_escape (opening : List Char) (c : Char) {r : List Char} (hr : r ≠ []) :
    stringChar opening (escape c ++ r) = .ok (some c, r) := by
  unfold escape
  split_ifs with hquote hline hreturn htab hfeed hback hplain
  · rcases hquote with rfl | rfl <;> exact stringChar_letter rfl opening r
  · exact hline ▸ stringChar_letter rfl opening r
  · exact hreturn ▸ stringChar_letter rfl opening r
  · exact htab ▸ stringChar_letter rfl opening r
  · exact hfeed ▸ stringChar_letter rfl opening r
  · exact hback ▸ stringChar_letter rfl opening r
  · obtain ⟨hquote, hback⟩ := not_or.1 hquote
    exact stringChar_plain hquote hback hplain.1 opening r
  · exact stringChar_codeUnits opening c hr

theorem stringChars_flatMap_escape (opening : List Char) {cs : List Char} {fuel : Nat}
    (h : cs.length < fuel) (r : List Char) :
    stringChars opening fuel (cs.flatMap escape ++ '"' :: r) = .ok (cs, r) := by
  induction cs generalizing fuel with
  | nil =>
    obtain ⟨fuel, rfl⟩ := Nat.exists_eq_succ_of_ne_zero (Nat.ne_zero_of_lt h)
    rfl
  | cons c cs ih =>
    obtain ⟨fuel, rfl⟩ := Nat.exists_eq_succ_of_ne_zero (Nat.ne_zero_of_lt h)
    have hr : cs.flatMap escape ++ '"' :: r ≠ [] := List.append_ne_nil_of_right_ne_nil _ nofun
    rw [List.flatMap_cons, List.append_assoc, stringChars, stringChar_escape opening c hr]
    dsimp only [bind, Except.bind]
    rw [ih (Nat.lt_of_succ_lt_succ h)]

theorem escape_ne_nil (c : Char) : escape c ≠ [] := by
  unfold escape codeUnits
  split_ifs <;> exact List.cons_ne_nil _ _

/-- Every character takes up some of the text of a string. -/
theorem length_le_flatMap_escape (cs : List Char) : cs.length ≤ (cs.flatMap escape).length := by
  induction cs with
  | nil => exact Nat.le_refl _
  | cons c cs ih =>
    have := List.length_pos_iff.2 (escape_ne_nil c)
    rw [List.flatMap_cons, List.length_append, List.length_cons]
    omega

/-- A string is read from what is written for it. -/
theorem string_escape (s : String) (r : List Char) :
    string (s.toList.flatMap escape ++ '"' :: r) = .ok (s, r) := by
  have hfuel := length_le_flatMap_escape s.toList
  rw [string, stringChars_flatMap_escape _ (by rw [List.length_append]; omega)]
  exact congrArg (fun s => Except.ok (s, r)) String.ofList_toList

/-- No number goes on with what the text starts with. -/
def EndsNumber (r : List Char) : Prop :=
  ∀ c ∈ r.head?, isAsciiDigit c = false ∧ c ≠ '.' ∧ c ≠ 'e' ∧ c ≠ 'E'

section

variable {r : List Char} (hr : EndsNumber r)
include hr

theorem takeWhile_digits_append {cs : List Char} (h : ∀ c ∈ cs, isAsciiDigit c = true) :
    (cs ++ r).takeWhile isAsciiDigit = cs ∧ (cs ++ r).dropWhile isAsciiDigit = r := by
  rw [List.takeWhile_append_of_pos h, List.dropWhile_append_of_pos h]
  cases r with
  | nil => exact ⟨List.append_nil _, rfl⟩
  | cons c r =>
    have hc := (hr c rfl).1
    rw [List.takeWhile_cons_of_neg (by simp [hc]), List.dropWhile_cons_of_neg (by simp [hc])]
    exact ⟨List.append_nil _, rfl⟩

/-- The digits of a number are read before its point. -/
theorem wholeDigits_toDigits (n : Nat) :
    wholeDigits (Nat.toDigits 10 n ++ r) = (Nat.toDigits 10 n, r) := by
  by_cases hn : n = 0
  · rw [hn]
    rfl
  · obtain ⟨htake, hdrop⟩ := takeWhile_digits_append hr fun c => isAsciiDigit_of_mem_toDigits (n := n)
    obtain ⟨c, ds, hds, hc⟩ := toDigits_eq_cons hn
    rw [hds, List.cons_append] at htake hdrop ⊢
    rw [wholeDigits.eq_2 _ fun _ h => hc (List.cons.inj h).1, htake, hdrop]

theorem fractionDigits_of_endsNumber : fractionDigits r = ([], r) := by
  cases r with
  | nil => rfl
  | cons c r => exact fractionDigits.eq_2 _ fun _ h => (hr c rfl).2.1 (List.cons.inj h).1

theorem exponentDigits_of_endsNumber : exponentDigits r = (none, r) := by
  cases r with
  | nil => rfl
  | cons c r =>
    obtain ⟨-, -, he, hE⟩ := hr c rfl
    have hletter : (c == 'e' || c == 'E') = false := by simp [he, hE]
    simp only [exponentDigits, hletter, Bool.false_and, Bool.false_eq_true, if_false]

/-- A number is read from its decimal text. -/
theorem number_decimal {n : Int} {text : String} (h : writeInteger n = .ok text) :
    number (some maxDigits) (text.toList ++ r) = .ok (.integer n, r) := by
  obtain ⟨htext, hlength⟩ := of_writeInteger h
  have hwhole := wholeDigits_toDigits hr n.natAbs
  have hdigits : (Nat.toDigits 10 n.natAbs).isEmpty = false :=
    List.isEmpty_eq_false_iff.2 Nat.toDigits_ne_nil
  have hfits : exceeds (some maxDigits) (Nat.toDigits 10 n.natAbs) = false := by
    simpa [exceeds] using hlength
  unfold number
  rw [htext]
  split
  rename_i negative body hsign
  have hbody : body = Nat.toDigits 10 n.natAbs ++ r ∧ signed negative n.natAbs = n := by
    by_cases hn : n < 0
    · rw [if_pos hn] at hsign
      obtain ⟨rfl, rfl⟩ := Prod.mk.inj hsign
      exact ⟨rfl, by rw [signed, if_pos rfl]; omega⟩
    · rw [if_neg hn, List.nil_append] at hsign
      split at hsign
      case h_1 s heq =>
        -- No digit is a minus.
        obtain ⟨c, ds, hds⟩ := List.exists_cons_of_ne_nil (Nat.toDigits_ne_nil (n := n.natAbs))
        have hc := isDigit_of_mem_toDigits (hds ▸ List.mem_cons_self : c ∈ Nat.toDigits 10 n.natAbs)
        rw [hds, List.cons_append] at heq
        rw [(List.cons.inj heq).1] at hc
        exact absurd hc (by decide)
      case h_2 =>
        obtain ⟨rfl, rfl⟩ := Prod.mk.inj hsign
        exact ⟨rfl, by rw [signed, if_neg Bool.false_ne_true]; omega⟩
  obtain ⟨rfl, hsigned⟩ := hbody
  simp only [hwhole, fractionDigits_of_endsNumber hr, exponentDigits_of_endsNumber hr, hdigits,
    hfits, List.isEmpty_nil, Option.isNone_none, Bool.and_self, Bool.false_eq_true, if_false, if_true,
    digitsValue_toDigits, hsigned]

end

/-- A number does not start as a word. -/
theorem find?_words_eq_none {d : Char} (hd : isAsciiDigit d = true) {cs ds : List Char}
    (hcs : cs = d :: ds ∨ cs = '-' :: d :: ds) :
    words.find? (fun w => w.1.toList.isPrefixOf cs) = none := by
  have hother {c : Char} (hc : isAsciiDigit c = false) : (c == d) = false := by
    rw [beq_eq_false_iff_ne]
    rintro rfl
    rw [hc] at hd
    cases hd
  have hwords : (['n', 't', 'f', 'N', 'I', '-'].all fun c => !isAsciiDigit c) = true := rfl
  have hletters : ∀ c ∈ ['n', 't', 'f', 'N', 'I', '-'], (c == d) = false :=
    fun c hc => hother (Bool.not_eq_true' _ ▸ List.all_eq_true.1 hwords c hc)
  simp only [List.forall_mem_cons] at hletters
  rcases hcs with rfl | rfl <;> simp [words, List.isPrefixOf, hletters]

/-- The text of a number starts with a digit, or with a minus and a digit. -/
theorem exists_digit_of_writeInteger {n : Int} {text : String} (h : writeInteger n = .ok text) :
    ∃ d ds, isAsciiDigit d = true ∧ (text.toList = d :: ds ∨ text.toList = '-' :: d :: ds) := by
  obtain ⟨d, ds, hds⟩ := List.exists_cons_of_ne_nil (Nat.toDigits_ne_nil (n := n.natAbs) (b := 10))
  refine ⟨d, ds, isAsciiDigit_of_mem_toDigits (hds ▸ List.mem_cons_self), ?_⟩
  rw [(of_writeInteger h).1, hds]
  split
  · exact .inr rfl
  · exact .inl rfl

/-- A number does not start as any other value. -/
theorem value_decimal {n : Int} {text : String} (h : writeInteger n = .ok text) {r : List Char}
    (hr : EndsNumber r) (fuel : Nat) :
    value (some maxDigits) (fuel + 1) (text.toList ++ r) = .ok (.integer n, r) := by
  have hnumber := number_decimal hr h
  obtain ⟨d, ds, hd, hform⟩ := exists_digit_of_writeInteger h
  replace hform : text.toList ++ r = d :: (ds ++ r) ∨ text.toList ++ r = '-' :: d :: (ds ++ r) :=
    hform.imp (fun h => by rw [h, List.cons_append]) fun h => by
      rw [h, List.cons_append, List.cons_append]
  have hscalar : scalar (some maxDigits) (text.toList ++ r) = .ok (.integer n, r) := by
    rw [scalar, find?_words_eq_none hd hform]
    exact hnumber
  have hfirst {c : Char} (hc : isAsciiDigit c = false) (hminus : c ≠ '-') (s : List Char) :
      text.toList ++ r ≠ c :: s := by
    intro heq
    rcases hform with hform | hform <;> rw [hform] at heq <;> obtain ⟨rfl, -⟩ := List.cons.inj heq
    · rw [hd] at hc
      cases hc
    · exact hminus rfl
  rw [value.eq_def]
  dsimp only
  split
  · rename_i heq
    exact absurd heq (hfirst (by decide) (by decide) _)
  · rename_i heq
    exact absurd heq (hfirst (by decide) (by decide) _)
  · rename_i heq
    exact absurd heq (hfirst (by decide) (by decide) _)
  · exact hscalar

end Reader

/-- The value is a string, or a whole number that is not too long to be written. -/
def Plain : Json → Prop
  | .text _ => True
  | .integer n => n.natAbs < 10 ^ maxDigits
  | _ => False

/-- A plain value is read from what is written for it. -/
theorem value_lineText {v : Json} (hv : v.Plain) {r : List Char} (hr : Reader.EndsNumber r)
    (fuel : Nat) : Reader.value (some maxDigits) (fuel + 1) (v.lineText ++ r) = .ok (v, r) := by
  cases v with
  | text s =>
    have htext : lineText (.text s) ++ r = '"' :: (s.toList.flatMap escape ++ '"' :: r) := by
      simp [lineText, stringText]
    rw [htext, Reader.value, Reader.string_escape]
    rfl
  | integer n => exact Reader.value_decimal (writeInteger_eq_ok_iff.2 ⟨hv, rfl⟩) hr fuel
  | null | bool _ | real _ | array _ | object _ => exact hv.elim

/-- The line of a member, without what stands between it and the next one. -/
def memberLine (m : String × Json) : List Char :=
  ' ' :: ' ' :: stringText m.1 ++ ':' :: ' ' :: m.2.lineText

/-- The lines of members, with what stands between them. -/
def memberLines (ms : List (String × Json)) : List Char := [',', '\n'].intercalate (ms.map memberLine)

theorem memberLines_singleton (m : String × Json) : memberLines [m] = memberLine m :=
  List.intercalate_singleton

theorem memberLines_cons_cons (m k : String × Json) (ms : List (String × Json)) :
    memberLines (m :: k :: ms) = memberLine m ++ ',' :: '\n' :: memberLines (k :: ms) := by
  simp [memberLines, List.intercalate_cons_cons]

theorem toList_writeMembers (ms : List (String × Json)) :
    (writeMembers ms).toList = '\x7b' :: '\n' :: (memberLines ms ++ ['\n', '\x7d']) :=
  String.toList_ofList

theorem putMember_of_notMem {key : String} {ms : List (String × Json)} (h : key ∉ ms.map (·.1))
    (v : Json) : putMember key v ms = ms ++ [(key, v)] := by
  induction ms with
  | nil => rfl
  | cons m ms ih =>
    obtain ⟨hne, hr⟩ := not_or.1 (mt List.mem_cons.2 h)
    rw [putMember, if_neg (Ne.symm hne), ih hr, List.cons_append]

theorem skipSpace_memberLine (m : String × Json) (r : List Char) :
    Reader.skipSpace (memberLine m ++ r) =
      '"' :: (m.1.toList.flatMap escape ++ '"' :: ':' :: ' ' :: (m.2.lineText ++ r)) := by
  simp [memberLine, stringText, Reader.skipSpace, Reader.isSpace]

/-- The text of a plain value does not start with white space. -/
theorem skipSpace_lineText {v : Json} (hv : v.Plain) (r : List Char) :
    Reader.skipSpace (v.lineText ++ r) = v.lineText ++ r := by
  cases v with
  | text s => simp [lineText, stringText, Reader.skipSpace, Reader.isSpace]
  | integer n =>
    obtain ⟨d, ds, hd, hform⟩ := Reader.exists_digit_of_writeInteger (writeInteger_eq_ok_iff.2 ⟨hv, rfl⟩)
    have hspace : Reader.isSpace d = false := by
      by_contra h
      simp only [Reader.isSpace, Bool.not_eq_false, Bool.or_eq_true, beq_iff_eq] at h
      rcases h with ((rfl | rfl) | rfl) | rfl <;> exact absurd hd (by decide)
    change Reader.skipSpace ((decimal n).toList ++ r) = (decimal n).toList ++ r
    rcases hform with hform | hform <;> rw [hform]
    · exact List.dropWhile_cons_of_neg (by simp [hspace])
    · rfl
  | null | bool _ | real _ | array _ | object _ => exact hv.elim

theorem notMem_of_nodup {m : String × Json} {before after : List (String × Json)}
    (h : ((before ++ m :: after).map (·.1)).Nodup) : m.1 ∉ before.map (·.1) := by
  rw [List.map_append, List.nodup_append] at h
  exact fun hm => h.2.2 _ hm _ List.mem_cons_self rfl

/-- A member is read from its line, and what follows tells whether there is another one. -/
theorem members_memberLine {m : String × Json} (hm : m.2.Plain) {soFar : List (String × Json)}
    (hnew : m.1 ∉ soFar.map (·.1)) {r s : List Char} {c : Char} (hr : Reader.EndsNumber r)
    (hs : Reader.skipSpace r = c :: s) (fuel : Nat) :
    Reader.members (some maxDigits) (fuel + 2) soFar (Reader.skipSpace (memberLine m ++ r)) =
      if c = '\x7d' then .ok (soFar ++ [m], s)
      else if c = ',' then
        Reader.members (some maxDigits) (fuel + 1) (soFar ++ [m]) (Reader.skipSpace s)
      else .error (.stuck (c :: s)) := by
  have hcolon (r : List Char) : Reader.skipSpace (':' :: r) = ':' :: r := rfl
  have hspace (r : List Char) : Reader.skipSpace (' ' :: r) = Reader.skipSpace r := rfl
  rw [skipSpace_memberLine, Reader.members]
  simp only [bind, Except.bind, Reader.string_escape, hcolon, hspace, skipSpace_lineText hm,
    value_lineText hm hr, putMember_of_notMem hnew, hs]
  split
  · rename_i heq
    rw [if_pos (List.cons.inj heq).1, (List.cons.inj heq).2]
  · rename_i heq
    rw [(List.cons.inj heq).1, if_neg (by decide), if_pos rfl, (List.cons.inj heq).2]
  · rename_i hbrace hcomma
    rw [if_neg, if_neg]
    · rintro rfl
      exact hcomma _ rfl
    · rintro rfl
      exact hbrace _ rfl

/-- Members are read from their lines. -/
theorem members_memberLines {m : String × Json} {ms : List (String × Json)}
    (hplain : ∀ x ∈ m :: ms, x.2.Plain) {soFar : List (String × Json)}
    (hnames : ((soFar ++ m :: ms).map (·.1)).Nodup) (fuel : Nat) (r : List Char) :
    Reader.members (some maxDigits) (fuel + ms.length + 2) soFar
        (Reader.skipSpace (memberLines (m :: ms) ++ '\n' :: '\x7d' :: r)) =
      .ok (soFar ++ m :: ms, r) := by
  induction ms generalizing m soFar with
  | nil =>
    obtain ⟨hm, -⟩ := List.forall_mem_cons.1 hplain
    have hends : Reader.EndsNumber ('\n' :: '\x7d' :: r) := by
      simp [Reader.EndsNumber, isAsciiDigit]
    rw [memberLines_singleton, members_memberLine hm (notMem_of_nodup hnames) hends rfl, if_pos rfl]
  | cons k ms ih =>
    obtain ⟨hm, hms⟩ := List.forall_mem_cons.1 hplain
    have hends (s : List Char) : Reader.EndsNumber (',' :: '\n' :: s) := by
      simp [Reader.EndsNumber, isAsciiDigit]
    have hline (s : List Char) : Reader.skipSpace ('\n' :: s) = Reader.skipSpace s := rfl
    rw [memberLines_cons_cons, List.append_assoc, List.cons_append, List.cons_append,
      List.length_cons, ← Nat.add_assoc,
      members_memberLine hm (notMem_of_nodup hnames) (hends _) rfl, if_neg (by decide), if_pos rfl,
      hline, ih hms (by rwa [List.append_assoc]), List.append_assoc, List.singleton_append]

/-- Every member takes up some of the text. -/
theorem length_le_memberLines (m : String × Json) (ms : List (String × Json)) :
    ms.length ≤ (memberLines (m :: ms)).length := by
  induction ms generalizing m with
  | nil => exact Nat.zero_le _
  | cons k ms ih =>
    have := ih k
    rw [memberLines_cons_cons]
    simp only [List.length_append, List.length_cons]
    omega

/-- The first line starts with the name of its member. -/
theorem exists_skipSpace_memberLines (m : String × Json) (ms : List (String × Json))
    (r : List Char) : ∃ s, Reader.skipSpace (memberLines (m :: ms) ++ r) = '"' :: s := by
  cases ms with
  | nil =>
    rw [memberLines_singleton]
    exact ⟨_, skipSpace_memberLine m r⟩
  | cons k ms =>
    rw [memberLines_cons_cons, List.append_assoc]
    exact ⟨_, skipSpace_memberLine m _⟩

theorem value_writeMembers {m : String × Json} {ms : List (String × Json)}
    (hplain : ∀ x ∈ m :: ms, x.2.Plain) (hnames : ((m :: ms).map (·.1)).Nodup) (fuel : Nat) :
    Reader.value (some maxDigits) (fuel + ms.length + 3) (writeMembers (m :: ms)).toList =
      .ok (.object (m :: ms), []) := by
  obtain ⟨s, hs⟩ := exists_skipSpace_memberLines m ms ['\n', '\x7d']
  have hmembers := members_memberLines hplain (by rwa [List.nil_append]) fuel []
  have hline : Reader.skipSpace ('\n' :: (memberLines (m :: ms) ++ ['\n', '\x7d'])) = '"' :: s := hs
  rw [hs] at hmembers
  rw [toList_writeMembers, Reader.value, hline]
  split
  · rename_i heq
    exact absurd (List.cons.inj heq).1 (by decide)
  · rw [hmembers]
    rfl

/-- An object of plain values is read from what is written for it. -/
theorem read_writeMembers {ms : List (String × Json)} (hne : ms ≠ [])
    (hplain : ∀ x ∈ ms, x.2.Plain) (hnames : (ms.map (·.1)).Nodup) :
    read (writeMembers ms) = .ok (.object ms) := by
  obtain ⟨m, ms, rfl⟩ := List.exists_cons_of_ne_nil hne
  have hspace : Reader.skipSpace (writeMembers (m :: ms)).toList = (writeMembers (m :: ms)).toList := by
    rw [toList_writeMembers]
    rfl
  have hfuel : (writeMembers (m :: ms)).toList.length + 1 =
      ((memberLines (m :: ms)).length - ms.length + 2) + ms.length + 3 := by
    have := length_le_memberLines m ms
    rw [toList_writeMembers]
    simp only [List.length_cons, List.length_append, List.length_nil]
    omega
  unfold read readWithin
  dsimp only
  rw [hspace, hfuel, value_writeMembers hplain hnames]
  rfl

end Json

end ConnectorHub
