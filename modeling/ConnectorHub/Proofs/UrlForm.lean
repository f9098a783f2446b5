import ConnectorHub.Proofs.Addresses
import Mathlib.Data.List.TakeWhile

/-! What the address of a record looks like that passes the check. The check takes some characters
away before it looks, so that it says something about the rest; the address itself, which is handed
on unchanged, has the same form exactly if there was nothing to take away. -/
namespace ConnectorHub

namespace Text

variable {sep : Char} {cs a b : List Char}

theorem cut_append (h : sep ∉ a) (b : List Char) : cut sep (a ++ sep :: b) = (a, some b) := by
  induction a with
  | nil => rw [List.nil_append, cut, if_pos rfl]
  | cons c a ih =>
    obtain ⟨hc, ha⟩ := List.ne_and_not_mem_of_not_mem_cons h
    rw [List.cons_append, cut, if_neg (Ne.symm hc), ih ha]

/-- What was cut in two at a separator stood before and after the first one. -/
theorem of_cut_eq_some (h : cut sep cs = (a, some b)) : cs = a ++ sep :: b ∧ sep ∉ a := by
  induction cs generalizing a with
  | nil => cases h
  | cons c r ih =>
    rw [cut] at h
    by_cases hc : c = sep
    · rw [if_pos hc] at h
      cases h
      exact ⟨by rw [hc, List.nil_append], List.not_mem_nil⟩
    · rw [if_neg hc] at h
      obtain ⟨rfl, hb⟩ := Prod.mk.inj h
      obtain ⟨hr, hnot⟩ := ih (Prod.ext rfl hb)
      exact ⟨congrArg (c :: ·) hr, List.not_mem_cons_of_ne_of_not_mem (Ne.symm hc) hnot⟩

end Text

namespace Url

open Text

/-- The text has no tab and no line break. -/
def Unbroken (cs : List Char) : Prop := ∀ c ∈ cs, c ≠ '\t' ∧ c ≠ '\n' ∧ c ≠ '\r'

instance (cs : List Char) : Decidable (Unbroken cs) := List.decidableBAll _ cs

/-- The text does not begin with a space or control character. -/
def Unpadded (cs : List Char) : Prop := ∀ c ∈ cs.head?, ' ' < c

instance (cs : List Char) : Decidable (Unpadded cs) :=
  decidable_of_iff (cs.head?.all (' ' < ·) = true) (by cases cs <;> simp [Unpadded])

/-- The text begins with one of the known schemes in any letter case, and a colon. If addresses with
this scheme need an authority, two slashes follow and a character that does not end it. -/
def Begins (cs : List Char) : Prop :=
  ∃ scheme ∈ knownSchemes, ∃ written rest, cs = written ++ ':' :: rest ∧
    written.map Char.toLower = scheme.toList ∧
    (scheme ∈ hierarchicalSchemes →
      ∃ c r, rest = '/' :: '/' :: c :: r ∧ c ≠ '/' ∧ c ≠ '?' ∧ c ≠ '#')

/-- What is to be said of every address that is handed on. -/
structure IsUrl (cs : List Char) : Prop where
  begins : Begins cs
  unbroken : Unbroken cs

namespace Reference

theorem clean_eq_self_iff (url : String) :
    clean url = url.toList ↔ Unpadded url.toList ∧ Unbroken url.toList := by
  have hkept (cs : List Char) : cs.filter (fun c => !(c == '\t' || c == '\n' || c == '\r')) = cs ↔
      Unbroken cs := by
    simp [List.filter_eq_self, Unbroken, and_assoc]
  have hfront : url.toList.dropWhile (· ≤ ' ') = url.toList ↔ Unpadded url.toList := by
    rw [List.dropWhile_eq_self_iff]
    cases url.toList <;> simp [Unpadded]
  constructor
  · intro h
    have hshort : (clean url).Sublist (url.toList.dropWhile (· ≤ ' ')) := List.filter_sublist
    have hdrop : url.toList.dropWhile (· ≤ ' ') = url.toList :=
      (List.dropWhile_sublist _).eq_of_length_le (h ▸ hshort).length_le
    rw [clean, hdrop] at h
    exact ⟨hfront.1 hdrop, (hkept _).1 h⟩
  · rintro ⟨hhead, hunbroken⟩
    rw [clean, hfront.2 hhead, (hkept _).2 hunbroken]

theorem unbroken_clean (url : String) : Unbroken (clean url) := by
  intro c hc
  simpa [and_assoc] using (List.mem_filter.1 hc).2

/-- The characters that small letters come from are letters. -/
theorem isAsciiLetter_of_toLower {c : Char} (h : 'a' ≤ c.toLower ∧ c.toLower ≤ 'z') :
    isAsciiLetter c = true := by
  unfold isAsciiLetter
  by_cases hc : 'A' ≤ c ∧ c ≤ 'Z'
  · simp [hc.1, hc.2]
  · have hself : c.toLower = c := dif_neg hc
    rw [hself] at h
    simp [h.1, h.2]

/-- A known scheme is a word, in whatever case it is written. -/
theorem word_of_known {written : List Char} {scheme : String} (hknown : scheme ∈ knownSchemes)
    (hwritten : written.map Char.toLower = scheme.toList) :
    written ≠ [] ∧ ∀ c ∈ written, isAsciiLetter c = true := by
  have hword : ∀ scheme ∈ knownSchemes, scheme.toList ≠ [] ∧
      scheme.toList.all (fun c => 'a' ≤ c ∧ c ≤ 'z') = true := by decide
  obtain ⟨hne, hsmall⟩ := hword scheme hknown
  simp only [List.all_eq_true, decide_eq_true_eq] at hsmall
  refine ⟨fun h => hne ?_, fun c hc => isAsciiLetter_of_toLower (hsmall _ ?_)⟩
  · rw [← hwritten, h, List.map_nil]
  · exact hwritten ▸ List.mem_map_of_mem hc

/-- A text that begins with a known scheme is split after it. -/
theorem splitScheme_of_known {written : List Char} {scheme : String}
    (hknown : scheme ∈ knownSchemes) (hwritten : written.map Char.toLower = scheme.toList)
    (rest : List Char) : splitScheme (written ++ ':' :: rest) = (scheme, rest) := by
  obtain ⟨hne, hletter⟩ := word_of_known hknown hwritten
  have hcolon : ':' ∉ written := fun h => absurd (hletter _ h) (by decide)
  have hchars : written.all isSchemeChar = true := by
    rw [List.all_eq_true]
    intro c hc
    simp [isSchemeChar, hletter c hc]
  have hhead : (written.head?.map isAsciiLetter).getD false = true := by
    cases written with
    | nil => exact absurd rfl hne
    | cons c r => exact hletter c List.mem_cons_self
  rw [splitScheme, cut_append hcolon]
  simp [hhead, hchars, hwritten]

/-- The scheme that a text is split after stands in front of a colon, in whatever case. -/
theorem of_splitScheme {cs rest : List Char} {scheme : String}
    (h : splitScheme cs = (scheme, rest)) (hne : scheme ≠ "") :
    ∃ written, cs = written ++ ':' :: rest ∧ written.map Char.toLower = scheme.toList := by
  unfold splitScheme at h
  split at h
  · rename_i written after hcut
    split at h
    · obtain ⟨rfl, rfl⟩ := Prod.mk.inj h
      exact ⟨written, (of_cut_eq_some hcut).1, String.toList_ofList.symm⟩
    · exact absurd (Prod.mk.inj h).1.symm hne
  · exact absurd (Prod.mk.inj h).1.symm hne

theorem takeAuthority_ne_nil_iff (cs : List Char) :
    takeAuthority cs ≠ [] ↔ ∃ c r, cs = '/' :: '/' :: c :: r ∧ c ≠ '/' ∧ c ≠ '?' ∧ c ≠ '#' := by
  unfold takeAuthority
  split
  · rename_i r
    cases r with
    | nil => simp
    | cons c r => simp [endsAuthority, and_assoc, List.takeWhile_cons]
  · rename_i hnot
    refine iff_of_false (fun h => h rfl) ?_
    rintro ⟨c, r, rfl, -⟩
    exact hnot _ rfl

theorem begins_iff (cs : List Char) :
    Begins cs ↔ (splitScheme cs).1 ∈ knownSchemes ∧
      ((splitScheme cs).1 ∈ hierarchicalSchemes → takeAuthority (splitScheme cs).2 ≠ []) := by
  constructor
  · rintro ⟨scheme, hknown, written, rest, rfl, hwritten, hauthority⟩
    rw [splitScheme_of_known hknown hwritten rest]
    exact ⟨hknown, fun h => (takeAuthority_ne_nil_iff rest).2 (hauthority h)⟩
  · rintro ⟨hknown, hauthority⟩
    have hne : (splitScheme cs).1 ≠ "" := fun h => absurd (h ▸ hknown) (by decide)
    obtain ⟨written, hcs, hwritten⟩ := of_splitScheme rfl hne
    exact ⟨_, hknown, written, _, hcs, hwritten, fun h =>
      (takeAuthority_ne_nil_iff _).1 (hauthority h)⟩

/-- The brackets of the authority are in order, and it hides no separator. -/
def HasGoodAuthority (cs : List Char) : Prop :=
  let authority := takeAuthority (splitScheme cs).2
  hasGoodBrackets authority = true ∧ hidesNoSeparator authority = true

instance (cs : List Char) : Decidable (HasGoodAuthority cs) := instDecidableAnd

end Reference

/-- An address is checked by what is left of it when it was cleaned. -/
theorem isWellFormed_iff (url : String) :
    isWellFormed url = true ↔
      Begins (Reference.clean url) ∧ Reference.HasGoodAuthority (Reference.clean url) := by
  rw [Reference.begins_iff, Reference.HasGoodAuthority, isWellFormed, Reference.ofText?]
  dsimp only
  rw [← Bool.and_eq_true]
  split
  · rename_i hnone
    split at hnone
    · cases hnone
    · rename_i hgood
      simp [hgood]
  · rename_i r hsome
    split at hsome
    · rename_i hgood
      cases hsome
      simp [hgood, imp_iff_not_or]
    · cases hsome

instance (cs : List Char) : Decidable (Begins cs) :=
  decidable_of_iff _ (Reference.begins_iff cs).symm

theorem isUrl_iff (cs : List Char) : IsUrl cs ↔ Begins cs ∧ Unbroken cs :=
  ⟨fun h => ⟨h.begins, h.unbroken⟩, fun h => ⟨h.1, h.2⟩⟩

instance (cs : List Char) : Decidable (IsUrl cs) := decidable_of_iff _ (isUrl_iff cs).symm

/-- A text that begins with a scheme begins with a letter. -/
theorem Begins.unpadded {cs : List Char} (h : Begins cs) : Unpadded cs := by
  obtain ⟨scheme, hknown, written, rest, rfl, hwritten, -⟩ := h
  obtain ⟨hne, hletter⟩ := Reference.word_of_known hknown hwritten
  cases written with
  | nil => exact absurd rfl hne
  | cons d written =>
    intro c hc
    obtain rfl : d = c := Option.some.inj hc
    have hd := hletter d List.mem_cons_self
    simp only [Reference.isAsciiLetter, Bool.or_eq_true, Bool.and_eq_true, decide_eq_true_eq] at hd
    rcases hd with hd | hd
    · exact Std.lt_of_lt_of_le (by decide) hd.1
    · exact Std.lt_of_lt_of_le (by decide) hd.1

/-- Where what is left begins like a URL, the whole text is one exactly if nothing was taken away. -/
theorem isUrl_iff_of_begins_clean {url : String} (h : Begins (Reference.clean url)) :
    IsUrl url.toList ↔ Unpadded url.toList ∧ Unbroken url.toList := by
  constructor
  · exact fun hurl => ⟨hurl.begins.unpadded, hurl.unbroken⟩
  · intro hclean
    rw [← Reference.clean_eq_self_iff] at hclean
    exact ⟨hclean ▸ h, hclean ▸ Reference.unbroken_clean url⟩

end Url

namespace Addressing

open Document

/-- The address that a document gives itself is its address exactly if what is left of it when it was
cleaned begins like a URL and has a good authority. The address itself is then a URL exactly if there
was nothing to clean: no space or control character in front, and no tab or line break anywhere. -/
theorem own_url_is_url_iff (a : Addressing) {d : Document} {url : String}
    (hset : d.text? searchUrlName = .ok (some url)) :
    (a.recordUrl d .record = .ok url ↔
      Url.Begins (Url.Reference.clean url) ∧
        Url.Reference.HasGoodAuthority (Url.Reference.clean url)) ∧
    (a.recordUrl d .record = .ok url →
      Url.IsUrl (Url.Reference.clean url) ∧
      (Url.IsUrl url.toList ↔ Url.Unpadded url.toList ∧ Url.Unbroken url.toList)) := by
  rw [recordUrl_eq_given_iff hset, Url.isWellFormed_iff]
  exact ⟨Iff.rfl, fun ⟨hbegins, _⟩ =>
    ⟨⟨hbegins, Url.Reference.unbroken_clean url⟩, Url.isUrl_iff_of_begins_clean hbegins⟩⟩

/-- Letter case does not matter. -/
theorem own_url_in_capitals :
    let d : Document := [(searchUrlName, .array [.text "HTTP://example/Doc", .text "mailto:"])]
    d.text? searchUrlName = .ok (some "HTTP://example/Doc") ∧
      (Addressing.mk "a" .web none).recordUrl d .record = .ok "HTTP://example/Doc" ∧
      Url.IsUrl "HTTP://example/Doc".toList := by
  intro d
  have hset : d.text? searchUrlName = .ok (some "HTTP://example/Doc") := by decide +kernel
  obtain ⟨haccepted, hurl⟩ := own_url_is_url_iff ⟨"a", .web, none⟩ hset
  have hok := haccepted.2 (by decide +kernel)
  exact ⟨hset, hok, (hurl hok).2.2 (by decide)⟩

/-- A space in front passes the check, and so does a line break. -/
theorem own_url_padded_or_broken :
    let a : Addressing := ⟨"a", .web, none⟩
    a.recordUrl [(searchUrlName, .text " http://example/doc")] .record = .ok " http://example/doc" ∧
      ¬ Url.IsUrl " http://example/doc".toList ∧
      a.recordUrl [(searchUrlName, .text "http://example/\ndoc")] .record =
        .ok "http://example/\ndoc" ∧
      ¬ Url.IsUrl "http://example/\ndoc".toList := by
  decide +kernel

end Addressing

end ConnectorHub
