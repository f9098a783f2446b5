import ConnectorHub.Proofs.Overtaking
import ConnectorHub.Proofs.TraversalOutcome

/-! What a document that is not as it should be does to its batch. Whatever is wrong with it, it is left
out; only one that asks for an address at which the hub serves content, where there is none, or in which
a number is too long to be written, keeps the whole batch from being addressed, and its traversal from
going on. -/
namespace ConnectorHub

open Document Text Store

namespace Traversal

/-- A document that needs no feed type is treated as it should be exactly if the feed type that it names,
if any, is one that there is: its target is the one that it gives, or none, and in every batch it is
addressed. Else its target is an error. If there is no feed type of that name it is left out of every
batch; if the name is a number that is too long to be written, the batch ends there. -/
theorem target_kept_iff (a : Addressing) (d : Document) :
    (d.Lacks inheritUrlName → d.Lacks inheritDocidName →
      (a.inheritUrl d = .ok none ↔ d.KnowsFeedType)) ∧
    (∀ url, d.text? inheritUrlName = .ok (some url) →
      (a.inheritUrl d = .ok (some url) ↔ d.KnowsFeedType)) ∧
    (d.Unwritable inheritUrlName → d.KnowsFeedType →
      a.inheritUrl d = .error (.number .unprintable)) ∧
    (¬ d.KnowsFeedType → ∃ e, d.MisnamesFeedType e ∧ a.inheritUrl d = .error e) ∧
    ∀ target url before after, d.Targets target → a.recordUrl d .record = .ok url →
      (addressAll a before).rest = none →
      (d.KnowsFeedType → addressAll a (before ++ d :: after) =
        addressAll a before ++ { addresses := [(url, target)] } ++ addressAll a after) ∧
      (∀ cause, d.MisnamesFeedType (.unknownFeedType cause) →
        addressAll a (before ++ d :: after) =
          addressAll a before ++ { refusals := [.unknownFeedType cause] } ++ addressAll a after) ∧
      ∀ cause, d.MisnamesFeedType (.number cause) →
        addressAll a (before ++ d :: after) = addressAll a before ++ { rest := some (.number cause) } := by
  refine ⟨fun hurl hid => Addressing.inheritUrl_eq_target_iff ⟨text?_eq_none_iff.2 hurl, fun _ => hid⟩,
    fun url hurl => Addressing.inheritUrl_eq_target_iff ⟨hurl, nofun⟩, fun hlong hknown => ?_,
    fun hnot => ?_, fun target url before after ht hrecord hbefore =>
      ⟨fun hknown => ?_, fun cause hunknown => ?_, fun cause hlong => ?_⟩⟩
  · obtain ⟨t, ht⟩ := Addressing.inheritFeedType_isOk_iff (a := a).2 hknown
    exact Addressing.inheritUrl_eq_error_iff.2 (.inr ⟨t, ht, .unwritten (.inl hlong)⟩)
  · obtain ⟨e, he⟩ := Addressing.misnames_of_not_knows hnot
    exact ⟨e, he, Addressing.inheritUrl_of_misnames he⟩
  · have haddress := Addressing.address_eq_ok_iff.2
      ⟨hrecord, (Addressing.inheritUrl_eq_target_iff ht).2 hknown⟩
    rw [addressAll_append hbefore, addressAll_cons (Addressing.not_stops_of_ok haddress),
      addressAll_of_ok haddress, Addressed.append_assoc]
  · have haddress := Addressing.address_eq_error_iff.2
      (.inr ⟨⟨url, hrecord⟩, Addressing.inheritUrl_of_misnames hunknown⟩)
    rw [addressAll_append hbefore, addressAll_cons (Addressing.not_stops_of_error haddress rfl),
      addressAll_of_error haddress rfl, Addressed.append_assoc]
  · have haddress := Addressing.address_eq_error_iff.2
      (.inr ⟨⟨url, hrecord⟩, Addressing.inheritUrl_of_misnames hlong⟩)
    rw [addressAll_append hbefore, addressAll_of_stops haddress rfl]

/-- Two documents around one that names a feed type that it does not need. -/
def around (d : Document) : List Document :=
  [[(docidName, .text "1")], d, [(docidName, .text "3")]]

/-- The feed type is known in any letter case. -/
theorem target_kept_with_feedType :
    let a : Addressing := ⟨"a", .web, none⟩
    let d : Document := [(docidName, .text "2"), (inheritUrlName, .text "not a url"),
      (feedTypeName, .text "bogus"), (inheritFeedTypeName, .array [.text " ContentURL"])]
    d.text? inheritUrlName = .ok (some "not a url") ∧ a.inheritUrl d = .ok (some "not a url") ∧
      (addressAll a (around d)).addresses =
        [("1", none), ("2", some "not a url"), ("3", none)] := by
  intro a d
  have hurl : d.text? inheritUrlName = .ok (some "not a url") := by decide +kernel
  have hnamed : d.feedTypeNamed? = .ok (some " ContentURL") := by decide +kernel
  have hknown : d.KnowsFeedType := by
    refine ⟨_, hnamed, fun name hname => ?_⟩
    obtain rfl := Option.some.inj hname
    exact ⟨.contentUrl, by decide +kernel⟩
  obtain ⟨-, hgiven, -, -, hbatch⟩ := target_kept_iff a d
  have haddressed := (hbatch (some "not a url") "2" [[(docidName, .text "1")]]
    [[(docidName, .text "3")]] ⟨hurl, nofun⟩ (by decide +kernel) (by decide +kernel)).1 hknown
  refine ⟨hurl, (hgiven _ hurl).2 hknown, ?_⟩
  rw [around, ← List.singleton_append, haddressed]
  decide +kernel

/-- A document that inherits from none is left out because of the feed type that it names. -/
theorem untargeted_left_out :
    let a : Addressing := ⟨"a", .web, none⟩
    let d : Document := [(docidName, .text "2"), (feedTypeName, .text "bogus")]
    d.text? inheritUrlName = .ok none ∧ d.text? inheritDocidName = .ok none ∧
      a.inheritUrl d = .error (.unknownFeedType ⟨"bogus"⟩) ∧
      (addressAll a (around d)).addresses = [("1", none), ("3", none)] := by
  decide +kernel

end Traversal

namespace Hub

/-- A traversal goes on whose connector is still there in the generation in which it began, over a
database that works. -/
structure Undisturbed (h : Hub) (place index : Nat) (t : Traversal.Running) : Prop where
  going : h.going[index]? = some (place, t)
  works : h.Works
  known : ((h.desk place).known t.connector).isSome
  current : h.generation t.connector = t.snapshot.generation
  fits : t.snapshot.generation < 9223372036854775808

/-- Nothing but its batch decides how such a traversal goes. -/
theorem Undisturbed.state_of_finish {h : Hub} {place index : Nat} {t : Traversal.Running}
    (hu : h.Undisturbed place index t) (b : Batch) :
    let a := h.site.settings.addressing t.connector
    let final := (h.move (.finish index (.ok b))).1
    let r := Traversal.verdict t (.ok b) (h.desk place)
    ((Traversal.addressAll a b.documents).rest = none → r.Stores ∧
      (final.rows.about t.connector).state = some ⟨b.checkpoint, t.snapshot.generation⟩) ∧
    ((Traversal.addressAll a b.documents).rest ≠ none → r.status = .error ∧
      (final.rows.about t.connector).state = (h.rows.about t.connector).state) := by
  obtain ⟨d₁, x, d₂, -, hj, hc, -, hp⟩ := finish_cases hu.going (.ok b)
  intro a final r
  have hfinal : final.rows.about t.connector = d₂.rows.about t.connector := by
    simp only [final, hp]
    rfl
  obtain ⟨hstores, -⟩ := hj.iff_of_works hu.works hu.fits
  rw [hfinal]
  constructor
  · intro hrest
    have hs : r.Stores := hstores.2 ⟨⟨b, rfl, hrest⟩, hu.known, hu.current⟩
    rcases Traversal.state_of_finish hj hc with ⟨-, b', hb, -, hstate⟩ | ⟨hno, -⟩
    · cases hb
      exact ⟨hs, hstate⟩
    · exact absurd hs hno
  · intro hrest
    have husable : ¬ t.Usable (.ok b) (h.desk place) := by
      rintro ⟨b', hb, hnone⟩
      cases hb
      exact hrest hnone
    rcases Traversal.state_of_finish hj hc with ⟨hs, -⟩ | ⟨-, hstate⟩
    · exact absurd (hstores.1 hs).1 husable
    · exact ⟨(Traversal.verdict_of_not_usable hj husable).1, hstate⟩

/-- Of a batch that no document hinders, the documents that have an address are addressed, each as if
it stood alone, and there is one refusal for each of the others; the traversal goes on past the
batch. If some document hinders the others, the batch is not addressed, and the traversal fails where
it was. -/
theorem batch_unspoilt_iff {a : Addressing} (ha : a.IsUsable) (documents : List Document) :
    let addressed := Traversal.addressAll a documents
    (addressed.rest = none ↔ ∀ d ∈ documents, ¬ a.Hinders d) ∧
    ((∀ d ∈ documents, ¬ a.Hinders d) →
      addressed.addresses = documents.filterMap (fun d => (a.address d).toOption) ∧
      addressed.refusals = documents.filterMap a.refusal? ∧
      addressed.addresses.length + addressed.refusals.length = documents.length) ∧
    (∀ d u i, a.address d = .ok (u, i) ↔ a.recordUrl d .record = .ok u ∧ a.inheritUrl d = .ok i) ∧
    ∀ (h : Hub) place index t, h.Undisturbed place index t →
      h.site.settings.addressing t.connector = a → ∀ checkpoint,
      let final := (h.move (.finish index (.ok ⟨documents, checkpoint⟩))).1
      let r := Traversal.verdict t (.ok ⟨documents, checkpoint⟩) (h.desk place)
      ((∀ d ∈ documents, ¬ a.Hinders d) → r.Stores ∧
        (final.rows.about t.connector).state = some ⟨checkpoint, t.snapshot.generation⟩) ∧
      ((∃ d ∈ documents, a.Hinders d) → r.status = .error ∧
        (final.rows.about t.connector).state = (h.rows.about t.connector).state) := by
  intro addressed
  have hrest : addressed.rest = none ↔ ∀ d ∈ documents, ¬ a.Hinders d := by
    simp only [addressed, Traversal.rest_addressAll_eq_none_iff, Addressing.stops_iff_hinders ha]
  refine ⟨hrest, fun hnone => ?_, fun d u i => Addressing.address_eq_ok_iff,
    fun h place index t hu hset checkpoint => ?_⟩
  · have heq := Traversal.addressAll_eq (hrest.2 hnone)
    exact ⟨congrArg Traversal.Addressed.addresses heq, congrArg Traversal.Addressed.refusals heq,
      Traversal.length_addressAll (hrest.2 hnone)⟩
  · subst hset
    obtain ⟨hwell, hill⟩ := hu.state_of_finish ⟨documents, checkpoint⟩
    refine ⟨fun hnone => hwell (hrest.2 hnone), ?_⟩
    rintro ⟨d, hd, hinders⟩
    exact hill fun hnone => hrest.1 hnone d hd hinders

theorem undisturbed_begun : begun.Undisturbed 0 0 firstTraversal where
  going := by decide +kernel
  works := fun _ _ _ => rfl
  known := by decide +kernel
  current := by decide +kernel
  fits := by decide +kernel

/-- A document with no address, one whose address is malformed and one that names no feed type there
is do not keep the others from being addressed. -/
theorem bad_documents_left_out :
    let documents : List Document := [[("title", .text "no address")], [(docidName, .text "1")],
      [(searchUrlName, .text "nowhere")],
      [(docidName, .text "2"), (inheritDocidName, .text "1"), (feedTypeName, .text "bogus")]]
    let final := (begun.move (.finish 0 (.ok ⟨documents, some "cp-1"⟩))).1
    let addressed := Traversal.addressAll (begun.site.settings.addressing "a") documents
    addressed.addresses.length = 1 ∧ addressed.refusals.length = 3 ∧
      (final.rows.about "a").state = some ⟨some "cp-1", 0⟩ := by
  intro documents final addressed
  have ha : (begun.site.settings.addressing "a").IsUsable := .inl (by decide)
  obtain ⟨hrest, hkept, -, hfinal⟩ := batch_unspoilt_iff ha documents
  have hnone := hrest.1 (by decide +kernel)
  have hone : addressed.addresses.length = 1 := by decide +kernel
  have hall : addressed.addresses.length + addressed.refusals.length = 4 := (hkept hnone).2.2
  obtain ⟨-, hstate⟩ := (hfinal begun 0 0 firstTraversal undisturbed_begun
    (by rw [connector_firstTraversal]) (some "cp-1")).1 hnone
  rw [connector_firstTraversal] at hstate
  exact ⟨hone, by omega, hstate⟩

/-- A document that wants to inherit from content of a hub that serves none hinders those before it
and after it, and the traversal comes to nothing. -/
theorem batch_spoilt_by_one :
    let a := begun.site.settings.addressing firstTraversal.connector
    let documents : List Document := [[(docidName, .text "1")],
      [(docidName, .text "2"), (inheritDocidName, .text "1"), (feedTypeName, .text "contenturl")],
      [(docidName, .text "3")]]
    let final := (begun.move (.finish 0 (.ok ⟨documents, some "cp-1"⟩))).1
    a.IsUsable ∧ begun.Undisturbed 0 0 firstTraversal ∧
      (Traversal.addressAll a documents).rest = some .noContentPrefix ∧
      (Traversal.verdict firstTraversal (.ok ⟨documents, some "cp-1"⟩) (begun.desk 0)).status =
        .error ∧
      (begun.rows.about "a").state = none ∧ (final.rows.about "a").state = none :=
  ⟨.inl (by decide +kernel), undisturbed_begun, by decide +kernel, by decide +kernel,
    by decide +kernel, by decide +kernel⟩

end Hub

end ConnectorHub
