import ConnectorHub.Proofs.FormData
import ConnectorHub.Proofs.UrlForm

/-! An address that is made from an identifier tells which document it is the address of. Where the
hub serves the content, source and identifier are read back from it as form data; elsewhere the
source ends at the first slash. -/
namespace ConnectorHub

namespace Url

open Text

theorem question_mem_appendParameter (url name value : String) :
    '?' ∈ (appendParameter url name value).toList := by
  unfold appendParameter
  by_cases h : '?' ∈ url.toList
  · simp [h]
  · simp [h]

/-- A second parameter is always appended after `&`. -/
theorem appendParameter_appendParameter (url name value name' value' : String) :
    appendParameter (appendParameter url name value) name' value' =
      url ++ (if '?' ∈ url.toList then "&" else "?") ++ (name ++ "=") ++ encodeComponent value ++
        ("&" ++ name' ++ "=") ++ encodeComponent value' := by
  rw [appendParameter, if_pos (question_mem_appendParameter url name value), appendParameter]
  simp only [String.append_assoc]

/-- What is written in form data ends before the next field. -/
theorem amp_notin_encodeComponent {s : String} : '&' ∉ (encodeComponent s).toList :=
  fun h => absurd (isFormChar_of_mem_encodeComponent h) (by decide)

end Url

namespace Addressing

open Text

variable {a b : Addressing} {docid docid' : String}

/-- The source and the identifier stand in the address as two fields of form data. -/
theorem construct_contentUrl {p : String} (hp : a.contentPrefix = some p) (hne : p ≠ "") :
    a.construct docid .contentUrl = .ok (p ++ (if '?' ∈ p.toList then "&" else "?") ++
      "ConnectorName=" ++ Url.encodeComponent a.dataSource ++ "&docid=" ++
        Url.encodeComponent docid) := by
  have hmade : a.construct docid .contentUrl = .ok (Url.appendParameter
      (Url.appendParameter p "ConnectorName" a.dataSource) "docid" docid) := by
    rw [construct, hp]
    split
    · rename_i h
      cases h
    · rename_i h
      exact absurd (Option.some.inj h) hne
    · rename_i h
      rw [Option.some.inj h]
  rw [hmade, Url.appendParameter_appendParameter]
  rfl

/-- Two fields of form data are told apart by the sign between them. -/
theorem eq_of_fields_eq {before s t s' t' : String}
    (h : before ++ Url.encodeComponent s ++ "&docid=" ++ Url.encodeComponent t =
      before ++ Url.encodeComponent s' ++ "&docid=" ++ Url.encodeComponent t') :
    s = s' ∧ t = t' := by
  have hlist := congrArg String.toList h
  simp only [String.toList_append, List.append_assoc, List.append_cancel_left_eq] at hlist
  have hcut := congrArg (cut '&') hlist
  have hamp : "&docid=".toList = '&' :: "docid=".toList := rfl
  rw [hamp, List.cons_append, List.cons_append, cut_append Url.amp_notin_encodeComponent,
    cut_append Url.amp_notin_encodeComponent] at hcut
  obtain ⟨hs, ht⟩ := Prod.mk.inj hcut
  have ht := List.append_cancel_left (Option.some.inj ht)
  constructor
  · rw [← Url.decodeComponent_encodeComponent s, hs, Url.decodeComponent_encodeComponent]
  · rw [← Url.decodeComponent_encodeComponent t, ht, Url.decodeComponent_encodeComponent]

/-- Before the first slash the address of content holds the source, and after the path the
identifier. -/
theorem eq_of_content_eq {s t s' t' : String} (hs : '/' ∉ s.toList) (hs' : '/' ∉ s'.toList)
    (h : "googleconnector://" ++ s ++ ".localhost/doc?docid=" ++ t =
      "googleconnector://" ++ s' ++ ".localhost/doc?docid=" ++ t') : s = s' ∧ t = t' := by
  have hlist := congrArg String.toList h
  simp only [String.toList_append, List.append_assoc, List.append_cancel_left_eq] at hlist
  have hslash :
      ".localhost/doc?docid=".toList = ".localhost".toList ++ '/' :: "doc?docid=".toList := rfl
  have hhost {s : String} (hs : '/' ∉ s.toList) : '/' ∉ s.toList ++ ".localhost".toList := by
    rw [List.mem_append]
    exact not_or.2 ⟨hs, by decide⟩
  -- No source has a slash, so the first one after the scheme ends the host.
  have hcut := congrArg (cut '/') hlist
  rw [hslash, List.append_assoc, List.append_assoc, ← List.append_assoc,
    ← List.append_assoc s'.toList, List.cons_append, List.cons_append, cut_append (hhost hs),
    cut_append (hhost hs')] at hcut
  obtain ⟨hs, ht⟩ := Prod.mk.inj hcut
  exact ⟨String.toList_inj.1 (List.append_cancel_right hs),
    String.toList_inj.1 (List.append_cancel_left (Option.some.inj ht))⟩

/-- The address at which the hub serves the content of a document is the prefix with two fields of
form data, after `&` if the prefix has a question mark and else after `?`: they hold nothing but
letters, digits and a few signs, and are read as the source and the identifier. So no two documents
have the same one, and no two of sources without a slash have the same address of content. -/
theorem made_address_identifies :
    (∀ (a : Addressing) (p docid : String), a.contentPrefix = some p → p ≠ "" →
      ∃ source identifier : String,
        a.construct docid .contentUrl = .ok (p ++ (if '?' ∈ p.toList then "&" else "?") ++
          "ConnectorName=" ++ source ++ "&docid=" ++ identifier) ∧
        (∀ c ∈ source.toList, Url.IsFormChar c) ∧ (∀ c ∈ identifier.toList, Url.IsFormChar c) ∧
        Url.decodeComponent source.toList = a.dataSource ∧
        Url.decodeComponent identifier.toList = docid) ∧
    (∀ (a b : Addressing) (docid docid' : String), a.HasPrefix →
      b.contentPrefix = a.contentPrefix → (a.dataSource, docid) ≠ (b.dataSource, docid') →
      a.construct docid .contentUrl ≠ b.construct docid' .contentUrl) ∧
    ∀ (a b : Addressing) (docid docid' : String), '/' ∉ a.dataSource.toList →
      '/' ∉ b.dataSource.toList → (a.dataSource, docid) ≠ (b.dataSource, docid') →
      a.construct docid .content ≠ b.construct docid' .content := by
  refine ⟨?fields, ?contentUrl, ?content⟩
  case fields =>
    intro a p docid hp hne
    exact ⟨_, _, construct_contentUrl hp hne, fun _ => Url.isFormChar_of_mem_encodeComponent,
      fun _ => Url.isFormChar_of_mem_encodeComponent, Url.decodeComponent_encodeComponent _,
      Url.decodeComponent_encodeComponent _⟩
  case contentUrl =>
    rintro a b docid docid' ⟨p, hp, hne⟩ hsame hdiffer hurl
    rw [construct_contentUrl hp hne, construct_contentUrl (hsame.trans hp) hne] at hurl
    obtain ⟨hsource, hdocid⟩ := eq_of_fields_eq (Except.ok.inj hurl)
    exact hdiffer (Prod.ext hsource hdocid)
  case content =>
    intro a b docid docid' ha hb hdiffer hurl
    obtain ⟨hsource, hdocid⟩ := eq_of_content_eq ha hb (Except.ok.inj hurl)
    exact hdiffer (Prod.ext hsource hdocid)

/-- A prefix that has a question mark, and a source and an identifier that look like more fields. -/
theorem made_address_of_ambiguous :
    let a : Addressing := ⟨"a b&docid=é", .contentUrl, some "http://hub/doc?v"⟩
    let b : Addressing := ⟨"a b", .contentUrl, some "http://hub/doc?v"⟩
    (∃ source identifier : String, a.construct "%/日" .contentUrl =
        .ok ("http://hub/doc?v" ++ "&" ++ "ConnectorName=" ++ source ++ "&docid=" ++ identifier) ∧
      Url.decodeComponent source.toList = "a b&docid=é" ∧
      Url.decodeComponent identifier.toList = "%/日") ∧
    a.construct "%/日" .contentUrl ≠ b.construct "é&docid=%/日" .contentUrl ∧
    a.construct "%/日" .content ≠ b.construct "é&docid=%/日" .content := by
  intro a b
  obtain ⟨fields, contentUrl, content⟩ := made_address_identifies
  obtain ⟨source, identifier, hurl, -, -, hs, hi⟩ :=
    fields a "http://hub/doc?v" "%/日" rfl (by decide)
  exact ⟨⟨source, identifier, hurl, hs, hi⟩,
    contentUrl a b "%/日" "é&docid=%/日" ⟨_, rfl, by decide⟩ rfl (by decide),
    content a b "%/日" "é&docid=%/日" (by decide) (by decide) (by decide)⟩

/-- Sources with a slash may share an address of content. -/
example : (Addressing.mk "a" .content none).construct "b.localhost/doc?docid=c" .content =
    (Addressing.mk "a.localhost/doc?docid=b" .content none).construct "c" .content := by
  decide +kernel

end Addressing

end ConnectorHub
