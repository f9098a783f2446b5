import ConnectorHub.Proofs.Obtaining
import ConnectorHub.Proofs.Operations

/-! What a node answers about a connector, by what it knows of it. An answer differs from this only
where a statement fails. -/
namespace ConnectorHub

open Store Act

namespace Act

/-- The action answers so, unless a statement fails. That it failed is never taken for a connector
that does not exist. -/
def Gives (a : Act α) (d : Desk) (x : Except Failure α) : Prop :=
  (a.perform d).1 = x ∨
    ¬ d.Works ∧ ∃ f, f.isA .connectorNotFound = false ∧ (a.perform d).1 = .error f

variable {a : Act α} {d : Desk}

theorem Gives.of_works {x : Except Failure α} (h : Gives a d x) (hw : d.Works) :
    (a.perform d).1 = x := h.resolve_right fun hn => hn.1 hw

theorem Gives.bind {f : α → Act β} {x : Except Failure α} {y : Except Failure β}
    (ha : Gives a d x) (hd : d.Works → (a.perform d).2.Works)
    (hok : ∀ v, x = .ok v → Gives (f v) (a.perform d).2 y)
    (herr : ∀ e, x = .error e → y = .error e) : Gives (a >>= f) d y := by
  unfold Gives at ha ⊢
  rw [perform_bind]
  cases hp : a.perform d with
  | mk z d' =>
    rw [hp] at ha hd hok
    rcases ha with rfl | ⟨hw, e, he, rfl⟩
    · cases z with
      | error e => exact .inl (herr e rfl).symm
      | ok v => exact (hok v rfl).imp_right fun h => ⟨fun hw => h.1 (hd hw), h.2⟩
    · exact .inr ⟨hw, e, he, rfl⟩

theorem Gives.map {x : Except Failure α} (h : Gives a d x) (f : α → β) :
    Gives (do return f (← a)) d (x.map f) := by
  unfold Gives at h ⊢
  rw [perform_bind]
  cases hp : a.perform d with
  | mk z d' =>
    rw [hp] at h
    rcases h with rfl | ⟨hw, e, he, rfl⟩
    · cases z <;> exact .inl rfl
    · exact .inr ⟨hw, e, he, rfl⟩

/-- An action that fails goes no further. -/
theorem Gives.fail {e : Failure} (h : Gives a d (.error e)) (f : α → Act β) :
    Gives (a >>= f) d (.error e) := by
  unfold Gives at h ⊢
  rw [perform_bind]
  cases hp : a.perform d with
  | mk z d' =>
    rw [hp] at h
    rcases h with rfl | ⟨hw, e', he, rfl⟩
    · exact .inl rfl
    · exact .inr ⟨hw, e', he, rfl⟩

/-- Where an action that leaves the hub as it is answers so for each entry of a list, at every desk
that differs only by such actions. -/
theorem gives_mapM {f : α → Act β} (hf : ∀ x, Calm (f x)) {g : α → β} {d₀ : Desk}
    (hg : ∀ x d, d₀.Calm d → Gives (f x) d (.ok (g x))) (xs : List α) {d : Desk}
    (hd : d₀.Calm d) : Gives (xs.mapM f) d (.ok (xs.map g)) := by
  induction xs generalizing d with
  | nil => exact .inl rfl
  | cons x xs ih =>
    rw [List.mapM_cons]
    refine (hg x d hd).bind (hf x d).works ?_ nofun
    rintro v ⟨⟩
    refine (ih (hd.trans (hf x d))).bind (Moves.mapM hf xs _).works ?_ nofun
    rintro vs ⟨⟩
    exact .inl rfl

end Act

namespace Desk

/-- The connector at hand, if there is one, is what its type makes of what it was made from. -/
def Genuine (d : Desk) (name : String) : Prop :=
  ∀ i, d.node.live.get? name = some i → d.made? i.row = some i.connector

/-- The text of a connector's schedule. -/
def scheduleOf (d : Desk) (name : String) : Option String :=
  (d.rows.schedules.get? name).map (·.text)

variable {d : Desk} {name : String}

/-- The connector that a node comes by is the one that its types make of what it knows. -/
theorem Obtains.made?_known {c : Connector} (h : d.Obtains name c) (hg : d.Genuine name) :
    (d.known name).bind d.made? = some c := by
  unfold known
  cases h with
  | atHand live =>
    rw [live]
    exact hg _ live
  | made live _ stored typed built =>
    rw [live, stored]
    exact Instances.made?_of_make typed built

theorem Unobtainable.made?_known (h : d.Unobtainable name) :
    (d.known name).bind d.made? = none ∨ ¬ d.Works := by
  unfold known
  cases h with
  | unreadable _ unreadable => exact .inr unreadable.not_works
  | absent live _ absent => exact .inl (by rw [live, absent]; rfl)
  | untyped live _ stored untyped =>
    refine .inl ?_
    simp only [live, stored, Option.bind_some, made?, untyped, Option.bind_none]
  | unbuilt live _ stored typed unbuilt =>
    refine .inl ?_
    simp only [live, stored, Option.bind_some, made?, typed, unbuilt]
    rfl

end Desk

namespace Instances

variable (name : String) (d : Desk)

theorem gives_has : Gives (has name) d (.ok (d.known name).isSome) := by
  unfold Gives
  obtain ⟨n, hp | ⟨hw, hp⟩⟩ := perform_has name d <;> rw [hp]
  · exact .inl rfl
  · exact .inr ⟨hw, _, rfl, rfl⟩

theorem gives_row : Gives (row name) d (existing name (d.known name)) := by
  unfold Gives
  obtain ⟨n, hp | ⟨hw, hp⟩⟩ := perform_row name d <;> rw [hp]
  · exact .inl rfl
  · exact .inr ⟨hw, _, rfl, rfl⟩

theorem gives_schedule? :
    Gives (schedule? name) d ((existing name (d.known name)).map fun _ => d.scheduleOf name) := by
  have hcalm := calm_row name d
  refine (gives_row name d).bind hcalm.works ?_ ?_
  · intro r hr
    rw [hr]
    refine Gives.map (x := .ok (d.rows.schedules.get? name)) ?_ _
    unfold Gives
    rcases perform_store_cases (Schedules.means_find? name) ("read schedule for " ++ name)
      ((row name).perform d).2 with ⟨n, hp⟩ | ⟨hw, n, hp⟩
    · rw [hp, hcalm.rows]
      exact .inl rfl
    · rw [hp]
      exact .inr ⟨hw, _, rfl, rfl⟩
  · intro e he
    rw [he]
    rfl

variable {name d}

theorem gives_restart_of_unknown (hk : d.known name = none) :
    Gives (restart name) d (.error (.connectorNotFound name)) := by
  have h := gives_row name d
  rw [hk] at h
  exact h.fail _

theorem gives_setSchedule_of_unknown (hk : d.known name = none) (text : String) :
    Gives (setSchedule name text) d (.error (.connectorNotFound name)) := by
  have h := gives_row name d
  rw [hk] at h
  exact h.fail _

/-- Only a connector that is known can be given another configuration. -/
theorem gives_configure_of_unknown (hk : d.known name = none) (typeName : String) (config : Config)
    (locale : Locale) :
    Gives (configure name typeName config locale true) d (.error (.connectorNotFound name)) := by
  unfold Gives configure
  rw [perform_bind]
  obtain ⟨n, hp | ⟨hw, hp⟩⟩ := perform_row? name d
  · rw [hp, hk]
    exact .inl rfl
  · rw [hp]
    exact .inr ⟨hw, _, rfl, rfl⟩

end Instances

namespace Administration

/-- What a failure comes to that may mean no. -/
def refusing (describe : Failure → Option String) (no : α) : Except Failure α → Except Failure α
  | .ok x => .ok x
  | .error f => if (describe f).isSome then .ok no else .error f

theorem perform_orRefuse (describe : Failure → Option String) (no : α) (a : Act α) (d : Desk) :
    ((orRefuse describe no a).perform d).1 = refusing describe no (a.perform d).1 := by
  unfold orRefuse
  rw [perform_tryCatch]
  cases hp : a.perform d with
  | mk x d' =>
    cases x with
    | ok x => rfl
    | error f =>
      dsimp only [refusing]
      cases describe f with
      | some message => rfl
      | none => rfl

/-- The status of a connector of which this is known. -/
def statusOf (name : String) (r : Option ConnectorRow) (schedule : Option String) :
    Option Status := r.map fun r => ⟨name, r.typeName, schedule⟩

variable (name : String) (d : Desk)

theorem gives_config :
    Gives (config name) d ((Instances.existing name (d.known name)).map (·.config)) :=
  (Instances.gives_row name d).map _

theorem gives_status? :
    Gives (status? name) d (.ok (statusOf name (d.known name) (d.scheduleOf name))) := by
  have hcalm := Instances.calm_row name d
  have htry : Gives (do
      let r ← Instances.row name
      let schedule ← Instances.schedule? name
      return some (⟨name, r.typeName, schedule⟩ : Status)) d
      ((Instances.existing name (d.known name)).map fun r =>
        some ⟨name, r.typeName, d.scheduleOf name⟩) := by
    refine (Instances.gives_row name d).bind hcalm.works ?_ ?_
    · intro r hr
      have hs := Instances.gives_schedule? name ((Instances.row name).perform d).2
      rw [hcalm.known, hr] at hs
      rw [hr]
      refine (hs.map fun s => some (⟨name, r.typeName, s⟩ : Status)).imp_left fun h => h.trans ?_
      unfold Desk.scheduleOf
      rw [hcalm.rows]
      rfl
    · intro e he
      rw [he]
      rfl
  unfold status? Gives
  rw [perform_tryCatch]
  generalize ho : (do
      let r ← Instances.row name
      let schedule ← Instances.schedule? name
      return some (⟨name, r.typeName, schedule⟩ : Status) : Act (Option Status)) = look at htry
  cases hp : look.perform d with
  | mk x d' =>
    unfold Gives at htry
    rw [hp] at htry
    rcases htry with rfl | ⟨hw, f, hf, rfl⟩
    · cases d.known name <;> exact .inl rfl
    · refine .inr ⟨hw, f, hf, ?_⟩
      dsimp only
      rw [if_neg (by rw [hf]; exact Bool.false_ne_true)]
      rfl

theorem gives_status :
    Gives (status name) d
      (match statusOf name (d.known name) (d.scheduleOf name) with
      | some s => .ok s
      | none => .error (.unknownConnector name)) := by
  refine (gives_status? name d).bind (calm_status? name d).works ?_ nofun
  rintro s ⟨⟩
  cases statusOf name (d.known name) (d.scheduleOf name) <;> exact .inl rfl

/-- What a connector answers about an identity. -/
def accepts (name : String) (identity : Identity) (c : Connector) : Except Failure Bool :=
  match c.authenticate? with
  | none => .ok false
  | some ask => refusing (loginRefusal? name) false (ask identity)

/-- What a connector answers about the documents that a user may see. -/
def grants (name : String) (docids : List String) (username : String) (c : Connector) :
    Except Failure (List String) :=
  match c.authorize? with
  | none => .ok []
  | some ask =>
    refusing (refusal? name) [] ((ask docids ⟨username, none, none⟩).map (granted docids))

theorem loginRefusal?_of_refusal? {f : Failure} (h : (refusal? name f).isSome) :
    (loginRefusal? name f).isSome := by
  unfold loginRefusal?
  split
  · rfl
  · exact h

theorem refusing_of_isSome {describe : Failure → Option String} {f : Failure}
    (h : (describe f).isSome) (no : α) : refusing describe no (.error f) = .ok no := if_pos h

variable {name d}

/-- Either the node comes by no connector, which means no, or it asks the one it comes by. -/
theorem perform_orRefuse_find {describe : Failure → Option String} {no : α}
    (hdescribe : ∀ f, (refusal? name f).isSome → (describe f).isSome) (ask : Instance → Act α) :
    (d.Unobtainable name ∧
      ((orRefuse describe no (Instances.find name >>= ask)).perform d).1 = .ok no) ∨
    ∃ i e, d.Obtains name i.connector ∧
      ((orRefuse describe no (Instances.find name >>= ask)).perform d).1 =
        refusing describe no ((ask i).perform e).1 := by
  rw [perform_orRefuse, perform_bind]
  rcases d.obtains_or_unobtainable name with ⟨c, hc⟩ | hn
  · obtain ⟨i, rfl, hi⟩ := Instances.perform_find_of_obtains hc
    cases hp : (Instances.find name).perform d with
    | mk x e =>
      obtain rfl : x = .ok i := by rw [← hi, hp]
      exact .inr ⟨i, e, hc, rfl⟩
  · obtain ⟨f, hf, hfind⟩ := Instances.perform_find_of_unobtainable hn
    cases hp : (Instances.find name).perform d with
    | mk x e =>
      obtain rfl : x = .error f := by rw [← hfind, hp]
      exact .inl ⟨hn, refusing_of_isSome (hdescribe f hf) no⟩

variable (name d)

theorem authenticate_cases (identity : Identity) :
    (d.Unobtainable name ∧ ((authenticate name identity).perform d).1 = .ok false) ∨
      ∃ c, d.Obtains name c ∧
        ((authenticate name identity).perform d).1 = accepts name identity c := by
  unfold authenticate
  rcases perform_orRefuse_find (fun f => loginRefusal?_of_refusal? name) _ with hn | ⟨i, e, hi, hp⟩
  · exact .inl hn
  · refine .inr ⟨i.connector, hi, hp.trans ?_⟩
    unfold accepts
    cases i.connector.authenticate? with
    | none => rfl
    | some ask => simp only [perform_bind, perform_changeSite, perform_give]

theorem authorize_cases (docids : List String) (username : String) :
    (d.Unobtainable name ∧ ((authorize name docids username).perform d).1 = .ok []) ∨
      ∃ c, d.Obtains name c ∧
        ((authorize name docids username).perform d).1 = grants name docids username c := by
  unfold authorize
  rcases perform_orRefuse_find (fun f hf => hf) _ with hn | ⟨i, e, hi, hp⟩
  · exact .inl hn
  · refine .inr ⟨i.connector, hi, hp.trans ?_⟩
    unfold grants
    cases i.connector.authorize? with
    | none => rfl
    | some ask =>
      simp only [perform_bind, perform_changeSite, perform_give]
      cases ask docids ⟨username, none, none⟩ <;> rfl

variable {name d}

/-- A connector that cannot be used accepts nobody. -/
theorem answer_authenticate (hg : d.Genuine name) (identity : Identity) :
    ((authenticate name identity).perform d).1 =
        (((d.known name).bind d.made?).elim (.ok false) (accepts name identity)) ∨
      ¬ d.Works ∧ ((authenticate name identity).perform d).1 = .ok false := by
  rcases authenticate_cases name d identity with ⟨hn, hp⟩ | ⟨c, hc, hp⟩
  · rcases hn.made?_known with hnone | hw
    · exact .inl (by rw [hp, hnone]; rfl)
    · exact .inr ⟨hw, hp⟩
  · exact .inl (by rw [hp, hc.made?_known hg]; rfl)

/-- A connector that cannot be used lets nobody see anything. -/
theorem answer_authorize (hg : d.Genuine name) (docids : List String) (username : String) :
    ((authorize name docids username).perform d).1 =
        (((d.known name).bind d.made?).elim (.ok []) (grants name docids username)) ∨
      ¬ d.Works ∧ ((authorize name docids username).perform d).1 = .ok [] := by
  rcases authorize_cases name d docids username with ⟨hn, hp⟩ | ⟨c, hc, hp⟩
  · rcases hn.made?_known with hnone | hw
    · exact .inl (by rw [hp, hnone]; rfl)
    · exact .inr ⟨hw, hp⟩
  · exact .inl (by rw [hp, hc.made?_known hg]; rfl)

end Administration

namespace Desk

open Administration

/-- The node answers about a connector as one does that knows this of it. Where a statement fails it
answers nothing, or no. -/
structure AnswersBy (d : Desk) (name : String) (r : Option ConnectorRow) : Prop where
  has : Gives (Instances.has name) d (.ok r.isSome)
  row : Gives (Instances.row name) d (Instances.existing name r)
  config : Gives (Administration.config name) d ((Instances.existing name r).map (·.config))
  status : Gives (Administration.status name) d
    (match statusOf name r (d.scheduleOf name) with
    | some s => .ok s
    | none => .error (.unknownConnector name))
  authenticate : ∀ identity,
    ((Administration.authenticate name identity).perform d).1 =
        (r.bind d.made?).elim (.ok false) (accepts name identity) ∨
      ¬ d.Works ∧ ((Administration.authenticate name identity).perform d).1 = .ok false
  authorize : ∀ docids username,
    ((Administration.authorize name docids username).perform d).1 =
        (r.bind d.made?).elim (.ok []) (grants name docids username) ∨
      ¬ d.Works ∧ ((Administration.authorize name docids username).perform d).1 = .ok []

theorem Genuine.answersBy {d : Desk} {name : String} (hg : d.Genuine name) :
    d.AnswersBy name (d.known name) where
  has := Instances.gives_has name d
  row := Instances.gives_row name d
  config := gives_config name d
  status := gives_status name d
  authenticate := answer_authenticate hg
  authorize := answer_authorize hg

end Desk

end ConnectorHub
