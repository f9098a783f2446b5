import ConnectorHub.Proofs.Answers

/-! Who is let in and what a user may see, as a node answers it. The answer is yes only where a
connector was come by and says so itself, whatever else it says; where none was come by, or it does
not answer, the answer is no. -/
namespace ConnectorHub

namespace Connector

/-- What the connector answers when it is asked about an identity, if it can be asked. -/
def login? (c : Connector) (identity : Identity) : Option (Except Failure Bool) :=
  c.authenticate?.map (· identity)

/-- What the connector answers when it is asked what a user may see, if it can be asked. -/
def rights? (c : Connector) (docids : List String) (username : String) :
    Option (Except Failure (List (String × Bool))) :=
  c.authorize?.map (· docids ⟨username, none, none⟩)

/-- A connector cannot be asked, or fails as repositories do. -/
inductive Silent : Option (Except Failure α) → Prop
  | incapable : Silent none
  | failing {f} (repository : f.isA .repository = true) : Silent (some (.error f))

end Connector

namespace Administration

open Store Act
open Connector (Silent)

theorem refusal?_of_repository {f : Failure} (h : f.isA .repository = true) (name : String) :
    (refusal? name f).isSome := by
  unfold refusal?
  rw [if_pos h]
  split
  · rfl
  · split <;> rfl

theorem mem_granted {requested : List String} {answers : List (String × Bool)} {id : String} :
    id ∈ granted requested answers ↔ id ∈ requested ∧ (id, true) ∈ answers := by
  simp only [granted, List.mem_eraseDups, List.mem_mergeSort, List.mem_map, List.mem_filter,
    Bool.and_eq_true, List.contains_iff_mem]
  constructor
  · rintro ⟨⟨other, allowed⟩, ⟨hanswered, rfl, hrequested⟩, rfl⟩
    exact ⟨hrequested, hanswered⟩
  · rintro ⟨hrequested, hanswered⟩
    exact ⟨(id, true), ⟨hanswered, rfl, hrequested⟩, rfl⟩

/-- What `read` takes from the answer of a connector, where it may give none, or fail. -/
def guarded (describe : Failure → Option String) (no : β) (read : α → β)
    (answer? : Option (Except Failure α)) : Except Failure β :=
  answer?.elim (.ok no) fun answer => refusing describe no (answer.map read)

section

variable {describe : Failure → Option String} {no : β} {read : α → β}
  {answer? : Option (Except Failure α)}

theorem guarded_of_silent (hdescribe : ∀ f, f.isA .repository = true → (describe f).isSome)
    (h : Silent answer?) : guarded describe no read answer? = .ok no := by
  cases h with
  | incapable => rfl
  | failing repository => exact refusing_of_isSome (hdescribe _ repository) no

/-- An answer that is not no was given. -/
theorem of_guarded_ok {y : β} (h : guarded describe no read answer? = .ok y) :
    y = no ∨ ∃ x, answer? = some (.ok x) ∧ y = read x := by
  cases answer? with
  | none => exact .inl (Except.ok.inj h).symm
  | some answer =>
    cases answer with
    | ok x => exact .inr ⟨x, rfl, (Except.ok.inj h).symm⟩
    | error f =>
      simp only [guarded, Option.elim, Except.map, refusing] at h
      split at h
      · exact .inl (Except.ok.inj h).symm
      · cases h

/-- A failure that comes through was met by the connector, and does not mean no. -/
theorem of_guarded_error {f : Failure} (h : guarded describe no read answer? = .error f) :
    answer? = some (.error f) ∧ ¬ (describe f).isSome := by
  cases answer? with
  | none => cases h
  | some answer =>
    cases answer with
    | ok x => cases h
    | error g =>
      simp only [guarded, Option.elim, Except.map, refusing] at h
      split at h
      · cases h
      · rename_i hg
        cases h
        exact ⟨rfl, hg⟩

end

theorem accepts_eq (name : String) (identity : Identity) (c : Connector) :
    accepts name identity c = guarded (loginRefusal? name) false id (c.login? identity) := by
  unfold accepts guarded Connector.login?
  cases c.authenticate? with
  | none => rfl
  | some ask =>
    dsimp only [Option.map, Option.elim]
    cases ask identity <;> rfl

theorem grants_eq (name : String) (docids : List String) (username : String) (c : Connector) :
    grants name docids username c =
      guarded (refusal? name) [] (granted docids) (c.rights? docids username) := by
  unfold grants guarded Connector.rights?
  cases c.authorize? <;> rfl

/-- An answer that the node gives by asking a connector: it is what `read` takes from that of the
connector, and no where the node comes by none, or the connector does not answer. It fails only as
the connector fails, and not as repositories do. -/
structure FailsClosed (d : Desk) (name : String) (ask : Connector → Option (Except Failure α))
    (no : β) (read : α → β) (answer : Except Failure β) : Prop where
  given : ∀ c x, d.Obtains name c → ask c = some (.ok x) → answer = .ok (read x)
  asked : ∀ y, answer = .ok y →
    y = no ∨ ∃ c x, d.Obtains name c ∧ ask c = some (.ok x) ∧ y = read x
  refused : (d.Unobtainable name ∨ ∃ c, d.Obtains name c ∧ Silent (ask c)) → answer = .ok no
  failed : ∀ f, answer = .error f →
    ¬ f.isA .repository ∧ ∃ c, d.Obtains name c ∧ ask c = some (.error f)

/-- Whether an identity is accepted: only if the node comes by a connector that accepts it. -/
structure ClosedLogin (d : Desk) (name : String) (identity : Identity)
    (answer : Except Failure Bool) : Prop extends
    FailsClosed d name (·.login? identity) false id answer where
  accepted : answer = .ok true ↔ ∃ c, d.Obtains name c ∧ c.login? identity = some (.ok true)

/-- Which documents a user may see: some of those requested, and exactly those that the connector
allows anywhere in its answer. -/
structure ClosedRights (d : Desk) (name : String) (docids : List String) (username : String)
    (answer : Except Failure (List String)) : Prop extends
    FailsClosed d name (·.rights? docids username) [] (granted docids) answer where
  requested : ∀ ids, answer = .ok ids → ids ⊆ docids
  allowed : ∀ c answers, d.Obtains name c → c.rights? docids username = some (.ok answers) →
    ∃ ids, answer = .ok ids ∧ ∀ id, id ∈ ids ↔ id ∈ docids ∧ (id, true) ∈ answers

/-- It is enough that the node means no where it comes by no connector, and passes the answer of the
one that it comes by through `guarded`. -/
theorem failsClosed_of_guarded {d : Desk} {name : String}
    {ask : Connector → Option (Except Failure α)} {no : β} {read : α → β}
    {answer : Except Failure β} {describe : Failure → Option String}
    (hdescribe : ∀ f, f.isA .repository = true → (describe f).isSome)
    (h : (d.Unobtainable name ∧ answer = .ok no) ∨
      ∃ c, d.Obtains name c ∧ answer = guarded describe no read (ask c)) :
    FailsClosed d name ask no read answer := by
  rcases h with ⟨hn, rfl⟩ | ⟨c, hc, rfl⟩
  · exact {
      given := fun c _ hc _ => absurd hn hc.not_unobtainable
      asked := fun y hy => .inl (Except.ok.inj hy).symm
      refused := fun _ => rfl
      failed := nofun }
  · refine { given := ?given, asked := ?asked, refused := ?refused, failed := ?failed }
    case given =>
      intro c' x hc' hx
      rw [hc.unique hc', hx]
      rfl
    case asked =>
      exact fun y hy => (of_guarded_ok hy).imp_right fun ⟨x, hx, hread⟩ => ⟨c, x, hc, hx, hread⟩
    case refused =>
      rintro (hn | ⟨c', hc', hsilent⟩)
      · exact absurd hn hc.not_unobtainable
      · rw [hc.unique hc']
        exact guarded_of_silent hdescribe hsilent
    case failed =>
      intro f hf
      obtain ⟨hgiven, hnot⟩ := of_guarded_error hf
      exact ⟨fun hr => hnot (hdescribe f hr), c, hc, hgiven⟩

theorem closedLogin_authenticate (d : Desk) (name : String) (identity : Identity) :
    ClosedLogin d name identity ((authenticate name identity).perform d).1 := by
  have h := authenticate_cases name d identity
  simp only [accepts_eq] at h
  have hclosed := failsClosed_of_guarded
    (fun f hf => loginRefusal?_of_refusal? name (refusal?_of_repository hf name)) h
  refine { hclosed with accepted := ⟨fun hyes => ?_, ?_⟩ }
  · obtain hno | ⟨c, x, hc, hx, rfl⟩ := hclosed.asked true hyes
    · cases hno
    · exact ⟨c, hc, hx⟩
  · rintro ⟨c, hc, hyes⟩
    exact hclosed.given c true hc hyes

theorem closedRights_authorize (d : Desk) (name : String) (docids : List String)
    (username : String) :
    ClosedRights d name docids username ((authorize name docids username).perform d).1 := by
  have h := authorize_cases name d docids username
  simp only [grants_eq] at h
  have hclosed := failsClosed_of_guarded (fun f hf => refusal?_of_repository hf name) h
  refine { hclosed with requested := fun ids hids => ?_, allowed := fun c answers hc hgiven => ?_ }
  · obtain rfl | ⟨c, answers, -, -, rfl⟩ := hclosed.asked ids hids
    · exact List.nil_subset docids
    · exact fun id hid => (mem_granted.1 hid).1
  · exact ⟨granted docids answers, hclosed.given c answers hc hgiven, fun id => mem_granted⟩

/-- Permission fails closed, at whatever desk: it takes a connector that the node comes by and that
gives it, and asking for it leaves the hub as it is. -/
theorem permission_fails_closed (d : Desk) (name : String) :
    (d.Unobtainable name ↔ ¬ ∃ c, d.Obtains name c) ∧
    (∀ identity,
      ClosedLogin d name identity ((authenticate name identity).perform d).1 ∧
        d.Calm ((authenticate name identity).perform d).2) ∧
    ∀ docids username,
      ClosedRights d name docids username ((authorize name docids username).perform d).1 ∧
        d.Calm ((authorize name docids username).perform d).2 :=
  ⟨⟨fun hn ⟨_, hc⟩ => hc.not_unobtainable hn, (d.obtains_or_unobtainable name).resolve_left⟩,
    fun identity => ⟨closedLogin_authenticate d name identity, calm_authenticate name identity d⟩,
    fun docids username =>
      ⟨closedRights_authorize d name docids username, calm_authorize name docids username d⟩⟩

/-- A connector at which few can log in, and whose answers contradict themselves and are about
documents that nobody asked for. -/
def unruly : Connector where
  serial := 0
  authenticate? := some fun identity =>
    if identity.username = "ada" then .ok true else .error (.raised .repositoryLogin "locked out")
  authorize? := some fun _ _ => .ok [("a", true), ("b", false), ("z", true), ("a", false)]

/-- A desk where it is at hand, and where another connector is stored whose type does not exist. -/
def unrulyDesk : Desk where
  node := { live := Table.empty.insert "unruly" ⟨"plain", .empty, unruly⟩ }
  site := { database :=
    { rows := { connectors := Table.empty.insert "typeless" ⟨"gone", .empty⟩ } } }

/-- Of the documents asked for only one is seen, and of two identities one is accepted; nobody is by
the connector that cannot be made. -/
theorem permission_at_unrulyDesk :
    (∃ ids, ((authorize "unruly" ["b", "a"] "eve").perform unrulyDesk).1 = .ok ids ∧
        ∀ id, id ∈ ids ↔ id = "a") ∧
      ((authenticate "unruly" ⟨"ada", none, none⟩).perform unrulyDesk).1 = .ok true ∧
      ((authenticate "unruly" ⟨"eve", none, none⟩).perform unrulyDesk).1 = .ok false ∧
      unrulyDesk.Unobtainable "typeless" ∧
      ((authenticate "typeless" ⟨"ada", none, none⟩).perform unrulyDesk).1 = .ok false := by
  obtain ⟨-, login, rights⟩ := permission_fails_closed unrulyDesk "unruly"
  obtain ⟨-, typelessLogin, -⟩ := permission_fails_closed unrulyDesk "typeless"
  have hobtains : unrulyDesk.Obtains "unruly" unruly :=
    .atHand (i := ⟨"plain", .empty, unruly⟩) rfl
  have htypeless : unrulyDesk.Unobtainable "typeless" := .untyped rfl Bool.false_ne_true rfl rfl
  refine ⟨?_, ?_, ?_, htypeless, ?_⟩
  · obtain ⟨ids, hids, hmem⟩ := (rights ["b", "a"] "eve").1.allowed unruly _ hobtains rfl
    refine ⟨ids, hids, fun id => (hmem id).trans ⟨?_, ?_⟩⟩
    · rintro ⟨hasked, hallowed⟩
      obtain rfl | rfl : id = "b" ∨ id = "a" := by simpa using hasked
      · simp at hallowed
      · rfl
    · rintro rfl
      simp
  · exact (login ⟨"ada", none, none⟩).1.accepted.2 ⟨unruly, hobtains, rfl⟩
  · exact (login ⟨"eve", none, none⟩).1.refused (.inr ⟨unruly, hobtains, .failing rfl⟩)
  · exact (typelessLogin ⟨"ada", none, none⟩).1.refused (.inl htypeless)

end Administration

end ConnectorHub
