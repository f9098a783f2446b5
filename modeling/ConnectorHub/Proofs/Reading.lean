import ConnectorHub.Proofs.Calm
import ConnectorHub.Scenario.Operation

/-! What is told about connectors, and that telling it leaves the hub as it is. -/
namespace ConnectorHub

open Store Act

namespace Desk

/-- The next statement would read what is stored about connectors, and it fails. -/
def CannotRead (d : Desk) : Prop :=
  d.site.database.faults d.site.database.issued ⟨.select, .connectors⟩ = true

theorem CannotRead.not_works {d : Desk} (h : d.CannotRead) : ¬ d.Works := fun hw =>
  Bool.false_ne_true ((hw _ _ (Nat.le_refl _)).symm.trans h)

end Desk

namespace Instances

theorem calm_names : Calm names := calm_store Connectors.means_names _

/-- Reading about a connector takes one statement, on which it depends. -/
theorem perform_find?_connectors (name : String) (b : Database) :
    (Connectors.find? name).perform b =
      (if b.faults b.issued ⟨.select, .connectors⟩ then .error .operational
        else .ok (b.rows.connectors.get? name), { b with issued := b.issued + 1 }) := by
  by_cases h : b.faults b.issued ⟨.select, .connectors⟩ = true
  all_goals
    simp only [Transaction.perform, Connectors.find?, Transaction.read, Bind.bind, EStateM.bind,
      Transaction.issue_apply, h]
    rfl

theorem perform_readRow_of_readable {d : Desk} (h : ¬ d.CannotRead) (name : String) :
    (readRow name).perform d =
      (.ok (d.rows.connectors.get? name), d.counting 1) := by
  unfold Desk.CannotRead at h
  unfold readRow replacing store
  rw [perform_tryCatch, perform_transact, perform_find?_connectors, if_neg h]
  rfl

theorem perform_readRow_of_cannotRead {d : Desk} (h : d.CannotRead) (name : String) :
    (readRow name).perform d =
      (.error (.notRead name), d.counting 1) := by
  unfold Desk.CannotRead at h
  unfold readRow replacing store
  rw [perform_tryCatch, perform_transact, perform_find?_connectors, if_pos h]
  rfl

theorem perform_readRow (name : String) (d : Desk) :
    ∃ n, (readRow name).perform d = (.ok (d.rows.connectors.get? name), d.counting n) ∨
      ¬ d.Works ∧ (readRow name).perform d = (.error (.notRead name), d.counting n) := by
  by_cases h : d.CannotRead
  · exact ⟨_, .inr ⟨h.not_works, perform_readRow_of_cannotRead h name⟩⟩
  · exact ⟨_, .inl (perform_readRow_of_readable h name)⟩

/-- What is known is told, unless the store is asked for it and fails. -/
theorem perform_row? (name : String) (d : Desk) :
    ∃ n, (row? name).perform d = (.ok (d.known name), d.counting n) ∨
      ¬ d.Works ∧ (row? name).perform d = (.error (.notRead name), d.counting n) := by
  simp only [row?, Desk.known, perform_bind, perform_node]
  cases d.node.live.get? name with
  | some i => exact ⟨0, .inl rfl⟩
  | none => exact perform_readRow name d

theorem calm_row? (name : String) : Calm (row? name) := by
  intro d
  obtain ⟨n, hp | ⟨-, hp⟩⟩ := perform_row? name d <;> rw [hp] <;> exact d.calm_counting n

theorem perform_has (name : String) (d : Desk) :
    ∃ n, (has name).perform d = (.ok (d.known name).isSome, d.counting n) ∨
      ¬ d.Works ∧ (has name).perform d = (.error (.notRead name), d.counting n) := by
  unfold has
  rw [perform_bind]
  obtain ⟨n, hp | ⟨hw, hp⟩⟩ := perform_row? name d
  · exact ⟨n, .inl (by rw [hp]; rfl)⟩
  · exact ⟨n, .inr ⟨hw, by rw [hp]⟩⟩

/-- A store call before it that changed nothing only adds to the statements that were issued. -/
theorem perform_has_counting (name : String) (d : Desk) (n : Nat) :
    ∃ m, (has name).perform ((d.withRows d.rows).counting n) =
        (.ok (d.known name).isSome, d.counting m) ∨
      ¬ d.Works ∧ (has name).perform ((d.withRows d.rows).counting n) =
        (.error (.notRead name), d.counting m) := by
  obtain ⟨k, hp | ⟨hw, hp⟩⟩ := perform_has name (d.counting n) <;> rw [Desk.counting_counting] at hp
  · exact ⟨n + k, .inl hp⟩
  · exact ⟨n + k, .inr ⟨fun h => hw (h.counting _ n), hp⟩⟩

theorem calm_has (name : String) : Calm (has name) := (calm_row? name).map _

/-- What is known about a connector that has to exist. -/
def existing (name : String) : Option ConnectorRow → Except Failure ConnectorRow
  | some r => .ok r
  | none => .error (.connectorNotFound name)

theorem perform_row (name : String) (d : Desk) :
    ∃ n, (row name).perform d = (existing name (d.known name), d.counting n) ∨
      ¬ d.Works ∧ (row name).perform d = (.error (.notRead name), d.counting n) := by
  unfold row
  rw [perform_bind]
  obtain ⟨n, hp | ⟨hw, hp⟩⟩ := perform_row? name d
  · refine ⟨n, .inl ?_⟩
    rw [hp]
    cases d.known name <;> rfl
  · exact ⟨n, .inr ⟨hw, by rw [hp]⟩⟩

theorem calm_row (name : String) : Calm (row name) :=
  (calm_row? name).bind fun r => by
    cases r with
    | some r => exact .pure r
    | none => exact .throw _

theorem calm_type (typeName : String) : Calm (type typeName) :=
  (calm_findType? typeName).bind fun t => by
    cases t with
    | some t => exact .pure t
    | none => exact .throw _

theorem calm_typeNames : Calm typeNames := fun d => .refl d

theorem calm_build (name : String) (t : ConnectorType) (config : Config) :
    Calm (build name t config) := by
  unfold build
  cases t.make config with
  | error _ => exact .throw _
  | ok c => exact (calm_record _).bind fun _ => .pure _

/-- An instance that is built is what the type makes of the configuration. -/
theorem of_build {name : String} {t : ConnectorType} {config : Config} {d d' : Desk}
    {i : Instance} (h : (build name t config).perform d = (.ok i, d')) :
    i.row = ⟨t.name, config⟩ ∧ t.make config = .ok i.connector := by
  unfold build at h
  cases hm : t.make config with
  | error _ =>
    rw [hm] at h
    cases h
  | ok c =>
    rw [hm] at h
    cases h
    exact ⟨rfl, rfl⟩

theorem node_of_build {name : String} {t : ConnectorType} {config : Config} {d d' : Desk}
    {x : Except Failure Instance} (h : (build name t config).perform d = (x, d')) :
    d'.node = d.node := by
  unfold build at h
  cases hm : t.make config with
  | error _ =>
    rw [hm] at h
    cases h
    rfl
  | ok c =>
    rw [hm] at h
    cases h
    rfl

/-- To keep an instance that was made from what is stored leaves the hub as it is. -/
theorem calm_keep {name : String} {i : Instance} {d : Desk} (hl : d.node.live.get? name = none)
    (hr : d.rows.connectors.get? name = some i.row) (hm : d.made? i.row = some i.connector) :
    d.Calm ((keep name i).perform d).2 := by
  refine ⟨⟨⟨rfl, rfl, Nat.le_refl _, rfl, rfl, ?kept, ?made⟩, rfl, rfl, rfl⟩, rfl, rfl, rfl⟩
  case kept =>
    intro other j hj
    have hne : other ≠ name := by
      rintro rfl
      rw [hl] at hj
      cases hj
    exact (Table.get?_insert_of_ne _ _ hne).trans hj
  case made =>
    intro other j hj
    by_cases ho : other = name
    · subst ho
      have hij : some i = some j := (Table.get?_insert_self _ _ _).symm.trans hj
      cases hij
      exact .inr ⟨hr, hm⟩
    · exact .inl ((Table.get?_insert_of_ne _ _ ho).symm.trans hj)

theorem perform_findType? (typeName : String) (d : Desk) :
    (findType? typeName).perform d =
      (.ok ((d.site.catalog d.node.catalog).find? typeName), d) := rfl

theorem name_of_find? {c : Catalog} {typeName : String} {t : ConnectorType}
    (h : c.find? typeName = some t) : t.name = typeName := by
  simpa using List.find?_some h

theorem made?_of_make {d : Desk} {typeName : String} {config : Config} {t : ConnectorType}
    {c : Connector} (ht : (d.site.catalog d.node.catalog).find? typeName = some t)
    (hm : t.make config = .ok c) : d.made? ⟨typeName, config⟩ = some c := by
  simp only [Desk.made?, ht, Option.bind_some, hm]
  rfl

/-- Making a connector that is stored leaves the hub as it is. -/
theorem calm_find (name : String) : Calm (find name) := by
  intro d
  simp only [find, perform_bind, perform_node]
  cases hl : d.node.live.get? name with
  | some i => exact .refl d
  | none =>
    simp only [perform_bind]
    obtain ⟨n, hp | ⟨-, hp⟩⟩ := perform_readRow name d
    · simp only [hp]
      cases hr : d.rows.connectors.get? name with
      | none => exact d.calm_counting n
      | some r =>
        simp only [perform_bind, perform_findType?]
        cases ht : Catalog.find? r.typeName _ with
        | none => exact d.calm_counting n
        | some t =>
          have hb := (d.calm_counting n).trans (calm_build name t r.config (d.counting n))
          simp only [perform_bind]
          cases hi : (build name t r.config).perform (d.counting n) with
          | mk x e =>
            rw [hi] at hb
            cases x with
            | error f => exact hb
            | ok i =>
              obtain ⟨hrow, hmake⟩ := of_build hi
              rw [name_of_find? ht] at hrow
              have hle : e.node.live.get? name = none := by
                rw [node_of_build hi]
                exact hl
              have hmade : e.made? i.row = some i.connector := by
                rw [hb.made?_eq, hrow]
                exact made?_of_make ht hmake
              exact hb.trans (calm_keep hle (by rw [hb.rows, hr, hrow]) hmade)
    · simp only [hp]
      exact d.calm_counting n

theorem calm_schedule? (name : String) : Calm (schedule? name) :=
  (calm_row name).bind fun _ => (calm_store (Schedules.means_find? name) _).map _

theorem calm_checkpoint (name : String) : Calm (checkpoint name) :=
  calm_store (States.means_checkpoint name) _

theorem calm_snapshot (name : String) : Calm (snapshot name) :=
  calm_store (States.means_snapshot name) _

theorem calm_filledForm (name typeName : String) (locale : Locale) :
    Calm (filledForm name typeName locale) :=
  (calm_row name).bind fun _ => (calm_findType? typeName).bind fun t => by
    cases t with
    | none => exact .throw _
    | some t => exact .give _

end Instances

namespace Administration

theorem calm_orRefuse {describe : Failure → Option String} {no : α} {a : Act α} (h : Calm a) :
    Calm (orRefuse describe no a) :=
  h.tryCatch fun e => by
    cases describe e with
    | some message => exact (calm_warn message).bind fun _ => .pure _
    | none => exact .throw _

theorem calm_authenticate (name : String) (identity : Identity) :
    Calm (authenticate name identity) :=
  calm_orRefuse <| (Instances.calm_find name).bind fun i => by
    cases i.connector.authenticate? with
    | none => exact .pure _
    | some ask => exact (calm_record _).bind fun _ => .give _

theorem calm_authorize (name : String) (docids : List String) (username : String) :
    Calm (authorize name docids username) :=
  calm_orRefuse <| (Instances.calm_find name).bind fun i => by
    cases i.connector.authorize? with
    | none => exact (calm_warn _).bind fun _ => .pure _
    | some ask => exact (calm_record _).bind fun _ => (Moves.give _).bind fun _ => .pure _

theorem calm_form (typeName : String) (language : Option String) : Calm (form typeName language) :=
  (Instances.calm_type typeName).bind fun _ => .give _

theorem calm_filledForm (name : String) (language : Option String) :
    Calm (filledForm name language) :=
  (Instances.calm_row name).bind fun _ => Instances.calm_filledForm _ _ _

theorem calm_status? (name : String) : Calm (status? name) := by
  refine Moves.tryCatch ((Instances.calm_row name).bind fun _ =>
    (Instances.calm_schedule? name).bind fun _ => .pure _) fun e => ?_
  split
  · exact (calm_warn _).bind fun _ => .pure _
  · exact .throw _

theorem calm_status (name : String) : Calm (status name) :=
  (calm_status? name).bind fun s => by
    cases s with
    | some s => exact .pure s
    | none => exact .throw _

theorem calm_statusesOf (names : List String) : Calm (statusesOf names) :=
  (Moves.mapM calm_status? names).bind fun _ => .pure _

theorem calm_typeNames : Calm typeNames := Instances.calm_typeNames.map _

theorem calm_setGate (host : String) (port : Int) : Calm (setGate host port) := by
  refine moves_site.bind fun s => ?_
  cases s.gateFile with
  | none => exact .throw _
  | some f => exact (calm_files _).bind fun _ => .give _

theorem calm_config (name : String) : Calm (config name) := (Instances.calm_row name).map _

end Administration

namespace Scenario.Operation

/-- The operation only asks. -/
def isQuestion : Operation → Bool
  | authenticate .. | authorize .. | form .. | connectorForm .. | status _ | typeNames | type _ => true
  | setGate .. | config _ | has _ | names | registered | capabilities _ | typeForm .. => true
  | getSchedule _ | checkpoint _ | snapshot _ => true
  | storedConnector _ | storedSchedule _ | storedSchedules | tracked => true
  | statuses vanishing => vanishing.isEmpty
  | _ => false

theorem calm_withoutGate {a : Act α} (h : Calm a) : Calm (withoutGate a) :=
  moves_site.bind fun s => (calm_gateFile none).bind fun _ => h.attempt.bind fun _ =>
    (calm_gateFile s.gateFile).bind fun _ => .give _

theorem calm_statusesWithout : Calm (statusesWithout []) :=
  Instances.calm_names.bind fun _ => Moves.bind (.pure _) fun _ => Administration.calm_statusesOf _

/-- A question leaves the hub as it is. -/
theorem calm_of_isQuestion {op : Operation} (h : op.isQuestion = true) : Calm op.perform := by
  cases op with
  | authenticate name identity => exact (Administration.calm_authenticate name identity).map _
  | authorize name docids username => exact (Administration.calm_authorize name docids username).map _
  | form typeName language => exact (Administration.calm_form typeName language).map _
  | connectorForm name language => exact (Administration.calm_filledForm name language).map _
  | status name => exact (Administration.calm_status name).map _
  | statuses vanishing =>
    cases vanishing with
    | nil => exact calm_statusesWithout.map _
    | cons _ _ => cases h
  | typeNames => exact Administration.calm_typeNames.map _
  | type typeName => exact (Instances.calm_type typeName).map _
  | setGate host port hasFile =>
    cases hasFile with
    | true => exact (Administration.calm_setGate host port).map _
    | false => exact (calm_withoutGate (Administration.calm_setGate host port)).map _
  | config name => exact (Administration.calm_config name).map _
  | has name => exact (Instances.calm_has name).map _
  | names => exact Instances.calm_names.map _
  | registered => exact Instances.calm_typeNames.map _
  | capabilities name => exact (Instances.calm_find name).map _
  | typeForm name typeName language => exact (Instances.calm_filledForm _ _ _).map _
  | getSchedule name => exact (Instances.calm_schedule? name).map _
  | checkpoint name => exact (Instances.calm_checkpoint name).map _
  | snapshot name => exact (Instances.calm_snapshot name).map _
  | storedConnector name =>
    refine (calm_store (Connectors.means_find? name) _).bind fun r => ?_
    cases r with
    | none => exact .pure _
    | some r => exact .pure _
  | storedSchedule name => exact (calm_store (Schedules.means_find? name) _).map _
  | storedSchedules => exact (calm_store Schedules.means_all _).map _
  | tracked => exact moves_node.map _
  | _ => cases h

end Scenario.Operation

end ConnectorHub
