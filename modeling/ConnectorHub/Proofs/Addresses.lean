import ConnectorHub.Document.Addressing
import ConnectorHub.Proofs.Properties

/-! Which properties of a document decide its address and that of the document it inherits from, and
when there is none. An address is made from an identifier only where no address is given, but the feed
type that a document names is looked up in any case. A property that is asked for must have a text, if
it is there. -/
namespace ConnectorHub

open Text Document

namespace FeedType

theorem mem_all (t : FeedType) : t ∈ all := by
  cases t <;> decide

theorem name_inj {t u : FeedType} : t.name = u.name ↔ t = u := by
  cases t <;> cases u <;> decide

/-- A name in whatever case is that of one feed type, or of none. -/
theorem find_cases (s : String) :
    (∃ t : FeedType, lower (strip s) = t.name ∧ find s = .ok t) ∨
      ((∀ t : FeedType, lower (strip s) ≠ t.name) ∧ find s = .error ⟨s⟩) := by
  unfold find
  generalize lower (strip s) = x
  cases hfind : all.find? (·.name = x) with
  | some u =>
    have hname : u.name = x := by simpa using List.find?_some hfind
    exact .inl ⟨u, hname.symm, rfl⟩
  | none =>
    have hname (t : FeedType) : t.name ≠ x := by
      simpa using List.find?_eq_none.1 hfind t t.mem_all
    exact .inr ⟨fun t => Ne.symm (hname t), rfl⟩

end FeedType

namespace Document

variable {d : Document}

theorem feedTypeNamed?_eq_error_iff {e : Number.IntegerError} :
    d.feedTypeNamed? = .error e ↔
      d.UnwritableAmong inheritFeedTypeName feedTypeName ∧ e = .unprintable := by
  unfold feedTypeNamed? UnwritableAmong
  cases h : d.text? inheritFeedTypeName with
  | error e' =>
    obtain ⟨hw, rfl⟩ := text?_eq_error_iff.1 h
    simp [hw, eq_comm]
  | ok named =>
    have hw := not_unwritable h
    cases named with
    | none => simp [hw, text?_eq_none_iff.1 h, text?_eq_error_iff]
    | some name => simp [hw, not_lacks h]

/-- The feed type that the document names, if any, is one that there is. -/
def KnowsFeedType (d : Document) : Prop :=
  ∃ named, d.feedTypeNamed? = .ok named ∧
    ∀ name ∈ named, ∃ t : FeedType, lower (strip name) = t.name

/-- What is wrong with the feed type that the document names: there is none of that name, or the name
is a number that is not written. -/
inductive MisnamesFeedType (d : Document) : AddressError → Prop
  | unknown {name : String} (named : d.feedTypeNamed? = .ok (some name))
    (unknown : ∀ t : FeedType, lower (strip name) ≠ t.name) :
    MisnamesFeedType d (.unknownFeedType ⟨name⟩)
  | unwritable (among : d.UnwritableAmong inheritFeedTypeName feedTypeName) :
    MisnamesFeedType d (.number .unprintable)

/-- The document says itself from which address it inherits, or that it inherits from none. -/
structure Targets (d : Document) (target : Option String) : Prop where
  given : d.text? inheritUrlName = .ok target
  alone : target = none → d.Lacks inheritDocidName

end Document

namespace Addressing

variable {a : Addressing} {d : Document} {url docid : String} {t : FeedType} {role : Role}

/-- There is an address at which the hub serves content. -/
def HasPrefix (a : Addressing) : Prop := ∃ p, a.contentPrefix = some p ∧ p ≠ ""

/-- Only an address at which the hub serves content may fail to be made. -/
theorem construct_eq_error_iff {e : AddressError} :
    a.construct docid t = .error e ↔
      t = .contentUrl ∧ ¬ a.HasPrefix ∧ e = .noContentPrefix := by
  cases t with
  | web => simp [construct]
  | content => simp [construct]
  | contentUrl =>
    unfold HasPrefix
    rw [construct]
    cases hp : a.contentPrefix with
    | none => simp [eq_comm (a := e)]
    | some p =>
      by_cases he : p = ""
      · subst he
        simp [eq_comm (a := e)]
      · simp [he]

/-- How an address is found: it is the one that the property `url` gives, which has to be well formed
for a record; else one is made from the identifier in the property `docid`; else it is missing. -/
inductive Found (a : Addressing) (d : Document) (url docid : String) (t : FeedType) (role : Role)
    (missing : Except AddressError (Option String)) : Except AddressError (Option String) → Prop
  | given {u : String} (set : d.text? url = .ok (some u))
      (checked : role = .record → Url.isWellFormed u = true) :
      Found a d url docid t role missing (.ok (some u))
  | malformed {u : String} (set : d.text? url = .ok (some u)) (asked : role = .record)
      (refused : Url.isWellFormed u = false) :
      Found a d url docid t role missing (.error (.malformed url u))
  | made {i u : String} (lacking : d.Lacks url) (set : d.text? docid = .ok (some i))
      (made : a.construct i t = .ok u) : Found a d url docid t role missing (.ok (some u))
  | notMade {i : String} (lacking : d.Lacks url) (set : d.text? docid = .ok (some i))
      (contentUrl : t = .contentUrl) (noPrefix : ¬ a.HasPrefix) :
      Found a d url docid t role missing (.error .noContentPrefix)
  | missing (lacking : d.Lacks url) (lacking' : d.Lacks docid) :
      Found a d url docid t role missing missing
  | unwritten (among : d.UnwritableAmong url docid) :
      Found a d url docid t role missing (.error (.number .unprintable))

/-- An address as it is found, or `missing` where there is none. -/
def orMissing (missing : Except AddressError (Option String)) :
    Except AddressError (Option String) → Except AddressError (Option String)
  | .ok none => missing
  | found => found

variable {missing answer : Except AddressError (Option String)}

theorem found_orMissing : a.Found d url docid t role missing
    (orMissing missing (a.resolve d url docid t role)) := by
  unfold resolve
  cases hurl : d.text? url with
  | error e =>
    obtain ⟨hw, rfl⟩ := text?_eq_error_iff.1 hurl
    exact .unwritten (.inl hw)
  | ok u? =>
    cases u? with
    | some u =>
      cases role with
      | acl => exact .given hurl nofun
      | record =>
        dsimp only [checkUrl]
        cases hu : Url.isWellFormed u with
        | true => exact .given hurl fun _ => hu
        | false => exact .malformed hurl rfl hu
    | none =>
      have hlacks := text?_eq_none_iff.1 hurl
      cases hid : d.text? docid with
      | error e =>
        obtain ⟨hw, rfl⟩ := text?_eq_error_iff.1 hid
        exact .unwritten (.inr ⟨hlacks, hw⟩)
      | ok i? =>
        cases i? with
        | none => exact .missing hlacks (text?_eq_none_iff.1 hid)
        | some i =>
          dsimp only
          cases hmade : a.construct i t with
          | ok u => exact .made hlacks hid hmade
          | error e =>
            obtain ⟨ht, hprefix, rfl⟩ := construct_eq_error_iff.1 hmade
            exact .notMade hlacks hid ht hprefix

/-- There is one way only in which a document finds its address. -/
theorem Found.eq_orMissing (h : a.Found d url docid t role missing answer) :
    answer = orMissing missing (a.resolve d url docid t role) := by
  unfold resolve
  cases h with
  | given set checked =>
    rw [set]
    cases role with
    | acl => rfl
    | record =>
      dsimp only [checkUrl]
      rw [if_pos (checked rfl)]
      rfl
  | malformed set asked refused =>
    subst asked
    rw [set]
    dsimp only [checkUrl]
    rw [if_neg (by simp [refused])]
    rfl
  | made lacking set made =>
    rw [text?_eq_none_iff.2 lacking, set]
    dsimp only
    rw [made]
    rfl
  | notMade lacking set contentUrl noPrefix =>
    rw [text?_eq_none_iff.2 lacking, set]
    dsimp only
    rw [construct_eq_error_iff.2 ⟨contentUrl, noPrefix, rfl⟩]
    rfl
  | missing lacking lacking' =>
    rw [text?_eq_none_iff.2 lacking, text?_eq_none_iff.2 lacking']
    rfl
  | unwritten among =>
    rcases among with hw | ⟨hl, hw⟩
    · rw [text?_eq_error_iff.2 ⟨hw, rfl⟩]
      rfl
    · rw [text?_eq_none_iff.2 hl, text?_eq_error_iff.2 ⟨hw, rfl⟩]
      rfl

theorem found_iff : a.Found d url docid t role missing answer ↔
    answer = orMissing missing (a.resolve d url docid t role) :=
  ⟨Found.eq_orMissing, fun h => h ▸ found_orMissing⟩

theorem orMissing_none (x : Except AddressError (Option String)) : orMissing (.ok none) x = x := by
  rcases x with e | _ | u <;> rfl

/-- The address of a record is found so, and there has to be one. -/
theorem map_recordUrl (a : Addressing) (d : Document) (role : Role) : (a.recordUrl d role).map some =
    orMissing (.error .missing) (a.resolve d searchUrlName docidName a.feedType role) := by
  unfold recordUrl
  rcases a.resolve d searchUrlName docidName a.feedType role with e | _ | u <;> rfl

theorem recordUrl_eq_error_iff {e : AddressError} : a.recordUrl d role = .error e ↔
    a.Found d searchUrlName docidName a.feedType role (.error .missing) (.error e) := by
  rw [found_iff, ← map_recordUrl]
  exact map_eq_error.symm.trans eq_comm

theorem resolve_eq_error_iff {e : AddressError} : a.resolve d url docid t role = .error e ↔
    a.Found d url docid t role (.ok none) (.error e) := by
  rw [found_iff, orMissing_none, eq_comm]

/-- The address that a document gives itself is its address exactly if it passes the check. -/
theorem recordUrl_eq_given_iff {u : String} (h : d.text? searchUrlName = .ok (some u)) :
    a.recordUrl d .record = .ok u ↔ Url.isWellFormed u = true := by
  rw [recordUrl, resolve, h]
  dsimp only [checkUrl]
  cases Url.isWellFormed u <;> simp [Except.map]

theorem inheritFeedType_eq_ok_iff :
    a.inheritFeedType d = .ok t ↔
      (d.feedTypeNamed? = .ok none ∧ t = a.feedType) ∨
        ∃ name, d.feedTypeNamed? = .ok (some name) ∧ lower (strip name) = t.name := by
  unfold inheritFeedType
  rcases d.feedTypeNamed? with e | _ | name
  · simp
  · simp [eq_comm]
  · simp only [Except.ok.injEq, reduceCtorEq, false_and, false_or, Option.some.injEq,
      exists_eq_left']
    rcases FeedType.find_cases name with ⟨u, hu, hfind⟩ | ⟨hnot, hfind⟩
    · rw [hfind, hu, FeedType.name_inj]
      exact Iff.of_eq (Except.ok.injEq u t)
    · rw [hfind]
      exact iff_of_false nofun (hnot t)

theorem inheritFeedType_eq_error_iff {e : AddressError} :
    a.inheritFeedType d = .error e ↔ d.MisnamesFeedType e := by
  unfold inheritFeedType
  constructor
  · intro h
    cases hnamed : d.feedTypeNamed? with
    | error e' =>
      obtain ⟨among, rfl⟩ := feedTypeNamed?_eq_error_iff.1 hnamed
      rw [hnamed] at h
      cases h
      exact .unwritable among
    | ok named =>
      rw [hnamed] at h
      cases named with
      | none => cases h
      | some name =>
        rcases FeedType.find_cases name with ⟨t, ht, hfind⟩ | ⟨hnot, hfind⟩
        · dsimp only at h
          rw [hfind] at h
          cases h
        · dsimp only at h
          rw [hfind] at h
          cases h
          exact .unknown hnamed hnot
  · rintro (⟨named, unknown⟩ | ⟨among⟩)
    · rw [named]
      dsimp only
      rcases FeedType.find_cases _ with ⟨t, ht, -⟩ | ⟨-, hfind⟩
      · exact absurd ht (unknown t)
      · rw [hfind]
        rfl
    · rw [feedTypeNamed?_eq_error_iff.2 ⟨among, rfl⟩]

/-- A feed type is found exactly if the document names one that there is, or none. -/
theorem inheritFeedType_isOk_iff : (∃ t, a.inheritFeedType d = .ok t) ↔ d.KnowsFeedType := by
  simp only [inheritFeedType_eq_ok_iff, KnowsFeedType]
  rcases d.feedTypeNamed? with e | _ | name <;> simp

/-- Else it is misnamed. -/
theorem misnames_of_not_knows (h : ¬ d.KnowsFeedType) : ∃ e, d.MisnamesFeedType e := by
  let a : Addressing := ⟨"", .web, none⟩
  cases hfeed : a.inheritFeedType d with
  | ok t => exact absurd (inheritFeedType_isOk_iff.1 ⟨t, hfeed⟩) h
  | error e => exact ⟨e, inheritFeedType_eq_error_iff.1 hfeed⟩

/-- What a document inherits from has no address if the feed type is misnamed, or if an address is not
found under it. -/
theorem inheritUrl_eq_error_iff {e : AddressError} :
    a.inheritUrl d = .error e ↔ d.MisnamesFeedType e ∨ ∃ t, a.inheritFeedType d = .ok t ∧
      a.Found d inheritUrlName inheritDocidName t .acl (.ok none) (.error e) := by
  rw [← inheritFeedType_eq_error_iff (a := a), inheritUrl]
  cases a.inheritFeedType d with
  | error e' => simp [Except.bind]
  | ok t => simp [Except.bind, resolve_eq_error_iff]

theorem inheritUrl_of_misnames {e : AddressError} (h : d.MisnamesFeedType e) :
    a.inheritUrl d = .error e := inheritUrl_eq_error_iff.2 (.inl h)

/-- A document that says itself from what it inherits does so if the feed type that it names, though not
needed, is one that there is. -/
theorem inheritUrl_eq_target_iff {target : Option String} (h : d.Targets target) :
    a.inheritUrl d = .ok target ↔ d.KnowsFeedType := by
  have hresolve (t : FeedType) :
      a.resolve d inheritUrlName inheritDocidName t .acl = .ok target := by
    unfold resolve
    rw [h.given]
    cases target with
    | some u => rfl
    | none => rw [text?_eq_none_iff.2 (h.alone rfl)]
  rw [← inheritFeedType_isOk_iff (a := a), inheritUrl]
  cases a.inheritFeedType d with
  | error e => simp [Except.bind]
  | ok t => simp [Except.bind, hresolve]

theorem address_eq_ok_iff {u : String} {i : Option String} :
    a.address d = .ok (u, i) ↔ a.recordUrl d .record = .ok u ∧ a.inheritUrl d = .ok i := by
  unfold address
  cases a.recordUrl d .record <;> cases a.inheritUrl d <;> simp [Except.bind, Except.map]

/-- Whether a document inherits anything matters only if it has an address. -/
theorem address_eq_error_iff {e : AddressError} :
    a.address d = .error e ↔ a.recordUrl d .record = .error e ∨
      (∃ u, a.recordUrl d .record = .ok u) ∧ a.inheritUrl d = .error e := by
  unfold address
  cases a.recordUrl d .record <;> cases a.inheritUrl d <;> simp [Except.bind, Except.map]

/-- The addresses of all documents can be made that do not ask for another feed type. -/
def IsUsable (a : Addressing) : Prop := a.feedType ≠ .contentUrl ∨ a.HasPrefix

/-- The document has no address for a reason that does not lie with it alone. -/
def Stops (a : Addressing) (d : Document) : Prop :=
  ∃ e, a.address d = .error e ∧ e.isOfDocument = false

theorem not_stops_of_ok {u : String × Option String} (h : a.address d = .ok u) : ¬ a.Stops d := by
  rintro ⟨e, he, -⟩
  rw [h] at he
  cases he

theorem not_stops_of_error {e : AddressError} (h : a.address d = .error e)
    (hof : e.isOfDocument = true) : ¬ a.Stops d := by
  rintro ⟨e', he, hno⟩
  obtain rfl := Except.error.inj (h.symm.trans he)
  exact Bool.false_ne_true (hno.symm.trans hof)

/-- Why a document keeps all others from being addressed: a property that has to have a text has none,
or the document is to inherit from one that it names by its identifier only, and whose content the hub
should serve, but there is no address at which the hub serves content. -/
inductive Hinders (a : Addressing) (d : Document) : Prop
  | ownNumber (among : d.UnwritableAmong searchUrlName docidName)
  | feedTypeNumber (addressed : ∃ u, a.recordUrl d .record = .ok u)
    (among : d.UnwritableAmong inheritFeedTypeName feedTypeName)
  | targetNumber (addressed : ∃ u, a.recordUrl d .record = .ok u) (feedType : d.KnowsFeedType)
    (among : d.UnwritableAmong inheritUrlName inheritDocidName)
  | noPrefix (addressed : ∃ u, a.recordUrl d .record = .ok u) (lacking : d.Lacks inheritUrlName)
    (set : ∃ i, d.text? inheritDocidName = .ok (some i))
    (feedType : ∃ name, d.feedTypeNamed? = .ok (some name) ∧
      lower (strip name) = FeedType.contentUrl.name)
    (noPrefix : ¬ a.HasPrefix)

/-- Where the addresses of the documents themselves can be made, that is all that can be wrong. -/
theorem stops_iff_hinders (ha : a.IsUsable) : a.Stops d ↔ a.Hinders d := by
  constructor
  · rintro ⟨e, he, hof⟩
    rcases address_eq_error_iff.1 he with hrecord | ⟨haddressed, hinherit⟩
    · cases recordUrl_eq_error_iff.1 hrecord with
      | malformed | missing => cases hof
      | notMade _ _ contentUrl noPrefix => exact absurd (ha.resolve_right noPrefix) (not_not.2 contentUrl)
      | unwritten among => exact .ownNumber among
    · rcases inheritUrl_eq_error_iff.1 hinherit with hmisnamed | ⟨t, ht, hfound⟩
      · cases hmisnamed with
        | unknown => cases hof
        | unwritable among => exact .feedTypeNumber haddressed among
      · cases hfound with
        | malformed _ asked => cases asked
        | notMade lacking set contentUrl noPrefix =>
          subst contentUrl
          have hnamed := (inheritFeedType_eq_ok_iff.1 ht).resolve_left fun hdefault =>
            (ha.resolve_right noPrefix) hdefault.2.symm
          exact .noPrefix haddressed lacking ⟨_, set⟩ hnamed noPrefix
        | unwritten among => exact .targetNumber haddressed (inheritFeedType_isOk_iff.1 ⟨t, ht⟩) among
  · intro h
    unfold Stops
    simp only [address_eq_error_iff]
    rcases h with among | ⟨haddressed, among⟩ | ⟨haddressed, hknown, among⟩ |
      ⟨haddressed, lacking, ⟨i, set⟩, hnamed, noPrefix⟩
    · exact ⟨_, .inl (recordUrl_eq_error_iff.2 (.unwritten among)), rfl⟩
    · exact ⟨_, .inr ⟨haddressed, inheritUrl_of_misnames (.unwritable among)⟩, rfl⟩
    · obtain ⟨t, ht⟩ := inheritFeedType_isOk_iff.2 hknown
      exact ⟨_, .inr ⟨haddressed, inheritUrl_eq_error_iff.2 (.inr ⟨t, ht, .unwritten among⟩)⟩, rfl⟩
    · exact ⟨_, .inr ⟨haddressed, inheritUrl_eq_error_iff.2
        (.inr ⟨_, inheritFeedType_eq_ok_iff.2 (.inr hnamed), .notMade lacking set rfl noPrefix⟩)⟩, rfl⟩

end Addressing

end ConnectorHub
