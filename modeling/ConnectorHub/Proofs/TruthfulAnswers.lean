import ConnectorHub.Proofs.Transparency

/-! Answers of the management interface to requests that are to change what is stored about a connector.
If such a request succeeds, what it asks for was done; if not, nothing was, unless the connector was
configured and its status could not be read for the answer. -/
namespace ConnectorHub

open Store Act Scenario

namespace Api

/-- The answer says that what was requested was done. -/
def Response.isSuccess (r : Response) : Bool := 200 ≤ r.status && r.status < 300

/-- The request asks for an operation that changes what is stored about a connector, if its body
describes one. -/
inductive Request.Asks (r : Request) : Except BodyError Operation → Prop
  | create (path : Resource.ofPath? r.target.path = some .connectors) (method : r.method = "POST") :
      Asks r ((r.body.read (·.connectorPayload)).map fun p =>
        .configure p.name p.settings.typeName p.settings.config p.settings.language false)
  | update {name : String} (path : Resource.ofPath? r.target.path = some (.connector name))
      (method : r.method = "PUT") :
      Asks r ((r.body.read (·.configPayload)).map fun p =>
        .configure name p.typeName p.config p.language true)
  | schedule {name : String} (path : Resource.ofPath? r.target.path = some (.schedule name))
      (method : r.method = "PUT") :
      Asks r ((r.body.read (·.schedulePayload)).map fun p =>
        .setSchedule name p.load p.retryDelay p.intervals)
  | delete {name : String} (path : Resource.ofPath? r.target.path = some (.connector name))
      (method : r.method = "DELETE") : Asks r (.ok (.remove name))

/-- The operation changes the rows so, and the answer to the request for it tells that. -/
inductive Told (rows : Rows) : Operation → Response → Rows → Prop
  | configured {name typeName : String} {settings : Config} {language : Option String}
      {update : Bool} :
      Told rows (.configure name typeName settings language update)
        ((if update then Response.ok else .created)
          (statusJson ⟨name, typeName, (rows.schedules.get? name).map (·.text)⟩))
        (rows.configured name ⟨typeName, settings⟩)
  | scheduled {name : String} {load retryDelay : Int} {intervals : String} {s : Schedule}
      {text : String} (make : Schedule.make name load retryDelay intervals = .ok s)
      (format : s.format = .ok text) :
      Told rows (.setSchedule name load retryDelay intervals)
        (.ok (.object [("schedule", .text text)])) (rows.scheduled name text)
  | removed {name : String} : Told rows (.remove name) .done (rows.without name)

/-- What the answer to a request for a change comes to, and the desk afterwards. -/
inductive Answered (d : Desk) : Except BodyError Operation → Response → Desk → Prop
  | done {op : Operation} {response : Response} {d' : Desk} (told : Told d.rows op response d'.rows) :
      Answered d (.ok op) response d'
  | undone {asked : Except BodyError Operation} {response : Response} {d' : Desk}
      (refused : response.isSuccess = false) (rows : d'.rows = d.rows) : Answered d asked response d'
  /-- The connector is configured, but its status cannot be told. -/
  | unread {name typeName : String} {settings : Config} {language : Option String} {update : Bool}
      {d' : Desk} (works : ¬ d.Works)
      (applied : ((Operation.configure name typeName settings language update).perform.perform d).1 =
        .ok .null)
      (rows : d'.rows = d.rows.configured name ⟨typeName, settings⟩) :
      Answered d (.ok (.configure name typeName settings language update)) .failure d'

theorem Told.isSuccess {rows rows' : Rows} {op : Operation} {response : Response}
    (h : Told rows op response rows') : response.isSuccess = true := by
  cases h with
  | @configured _ _ _ _ update => cases update <;> rfl
  | scheduled => rfl
  | removed => rfl

/-- The answer to a failure, be it one that has an answer of its own or not. -/
def responseTo (f : Failure) : Response := (response? f).getD .failure

theorem isSuccess_responseTo (f : Failure) : (responseTo f).isSuccess = false := by
  unfold responseTo response?
  repeat' split
  all_goals rfl

theorem isSuccess_bodyError (e : BodyError) : e.response.isSuccess = false := by
  cases e with
  | faults fs =>
    change (if fs.all (·.value.isFinite) then (⟨422, .faults fs⟩ : Response) else .failure).isSuccess =
      false
    split <;> rfl
  | unparsable => rfl

variable {r : Request} {resource : Resource} {d : Desk}

/-- The status of a connector that there is can be read unless a statement fails. -/
theorem perform_status {name : String} {row : ConnectorRow} (hknown : d.known name = some row) :
    ∃ d', d'.rows = d.rows ∧
      ((Administration.status name).perform d =
          (.ok ⟨name, row.typeName, d.scheduleOf name⟩, d') ∨
        ¬ d.Works ∧ ∃ f, (Administration.status name).perform d = (.error f, d')) := by
  have hgives := Administration.gives_status name d
  have hrows := (Administration.calm_status name d).rows
  unfold Gives at hgives
  rw [hknown] at hgives
  cases hp : (Administration.status name).perform d with
  | mk x d' =>
    rw [hp] at hgives hrows
    rcases hgives with rfl | ⟨hw, f, -, rfl⟩
    · exact ⟨d', hrows, .inl rfl⟩
    · exact ⟨d', hrows, .inr ⟨hw, f, rfl⟩⟩

section

variable (hpath : Resource.ofPath? r.target.path = some resource)
  (hmethod : resource.methods.contains r.method = true) (hhead : r.method ≠ "HEAD")

include hpath hmethod hhead

theorem perform_answer (d : Desk) :
    (answer r).perform d =
      match (perform r resource).perform d with
      | (.ok response, d') => (.ok response, d')
      | (.error _, d') => (.ok .failure, d') := by
  simp only [answer, route, hpath, hmethod, if_true, perform_bind, perform_tryCatch, hhead, if_false]
  cases hp : (perform r resource).perform d with
  | mk x d' => cases x <;> rfl

/-- The answer to a request for an action that is answered. -/
theorem perform_answer_of_answering {a : Act α} {next : α → Act Response}
    (hperform : perform r resource = answering response? a next) (d : Desk) :
    (answer r).perform d =
      match a.perform d with
      | (.ok x, d') =>
        match (next x).perform d' with
        | (.ok response, e) => (.ok response, e)
        | (.error _, e) => (.ok .failure, e)
      | (.error f, d') => (.ok (responseTo f), d') := by
  rw [perform_answer hpath hmethod hhead, hperform]
  simp only [answering, perform_bind, perform_attempt, responseTo]
  cases hp : a.perform d with
  | mk x d' =>
    cases x with
    | ok x => rfl
    | error f =>
      dsimp only
      cases response? f <;> rfl

/-- A body that describes no operation is refused. -/
theorem perform_answer_of_reading {f : Members → Checked α} {next : α → Act Response}
    (hperform : perform r resource = reading r.body f next) {e : BodyError}
    (hbody : r.body.read f = .error e) (d : Desk) : (answer r).perform d = (.ok e.response, d) := by
  rw [perform_answer hpath hmethod hhead, hperform]
  simp only [reading, hbody]
  rfl

theorem answered_configure {name : String} {p : ConfigPayload} {update : Bool}
    (hperform : perform r resource = configure name p update (if update then .ok else .created))
    (d : Desk) :
    ∃ response d', (answer r).perform d = (.ok response, d') ∧
      Answered d (.ok (.configure name p.typeName p.config p.language update)) response d' := by
  rw [perform_answer_of_answering hpath hmethod hhead hperform d]
  unfold Administration.configure
  obtain ⟨d₁, hcalm, -, ⟨i, -, hrow, -, hp⟩ | ⟨x, hx, hp⟩⟩ :=
    Instances.perform_configure name p.typeName p.config (.ofTag? p.language) update d
  · have happlied : ((Operation.configure name p.typeName p.config p.language update).perform.perform
        d).1 = .ok .null := by
      simp only [Operation.perform, Administration.configure, perform_bind, hp]
      rfl
    generalize hd₂ : (d₁.withRows (d₁.rows.configured name ⟨p.typeName, p.config⟩)).keeping name i =
      d₂ at hp
    have hrows : d₂.rows = d.rows.configured name ⟨p.typeName, p.config⟩ := by
      rw [← hd₂, ← hcalm.rows]
      rfl
    have hknown : d₂.known name = some ⟨p.typeName, p.config⟩ := by
      rw [← hd₂, ← hrow]
      simp [Desk.known, Desk.keeping]
    have hworks (hw : d.Works) : d₂.Works := by
      rw [← hd₂]
      exact (hcalm.works hw :)
    have hschedule : d₂.scheduleOf name = (d.rows.schedules.get? name).map (·.text) := by
      rw [Desk.scheduleOf, hrows]
      rfl
    obtain ⟨d₃, hsame, hs | ⟨hw, f, hs⟩⟩ := perform_status hknown
    · rw [hp]
      simp only [perform_map, hs]
      rw [hschedule]
      refine ⟨_, d₃, rfl, .done ?_⟩
      rw [hsame, hrows]
      exact .configured
    · rw [hp]
      simp only [perform_map, hs]
      exact ⟨_, d₃, rfl, .unread (mt hworks hw) happlied (hsame.trans hrows)⟩
  · rw [hp]
    rcases x with f | _ | form
    · exact ⟨_, d₁, rfl, .undone (isSuccess_responseTo f) hcalm.rows⟩
    · exact absurd rfl hx
    · exact ⟨_, d₁, rfl, .undone rfl hcalm.rows⟩

theorem answered_setSchedule {name : String} {p : SchedulePayload}
    (hperform : perform r resource =
      answeringWith (Administration.setSchedule name p.load p.retryDelay p.intervals) fun s =>
        .ok (.object [("schedule", .text s)])) (d : Desk) :
    ∃ response d', (answer r).perform d = (.ok response, d') ∧
      Answered d (.ok (.setSchedule name p.load p.retryDelay p.intervals)) response d' := by
  rw [perform_answer_of_answering hpath hmethod hhead hperform d]
  have hdone := Operation.administered_setSchedule name p.load p.retryDelay p.intervals d
  simp only [Operation.perform, perform_map] at hdone
  cases hp : (Administration.setSchedule name p.load p.retryDelay p.intervals).perform d with
  | mk x d' =>
    rw [hp] at hdone
    cases x with
    | error f =>
      refine ⟨_, d', rfl, .undone (isSuccess_responseTo f) ?_⟩
      cases hdone
      rfl
    | ok text =>
      refine ⟨_, d', rfl, .done ?_⟩
      cases hdone with
      | scheduled make format => exact .scheduled make format

theorem answered_remove {name : String}
    (hperform : perform r resource = answeringWith (Administration.remove name) fun _ => .done)
    (d : Desk) :
    ∃ response d', (answer r).perform d = (.ok response, d') ∧
      Answered d (.ok (.remove name)) response d' := by
  rw [perform_answer_of_answering hpath hmethod hhead hperform d]
  have hdone := Operation.administered_remove name d
  simp only [Operation.perform, Operation.perform_noAnswer] at hdone
  cases hp : (Administration.remove name).perform d with
  | mk x d' =>
    rw [hp] at hdone
    have hrows := hdone.account.rows.resolve_right (by rintro ⟨-, _, _, hop, -⟩; cases hop)
    cases x with
    | error f => exact ⟨_, d', rfl, .undone (isSuccess_responseTo f) hrows⟩
    | ok _ =>
      have hrows : d'.rows = d.rows.without name := hrows
      refine ⟨_, d', rfl, .done ?_⟩
      rw [hrows]
      exact .removed

end

/-- Whatever a request for a change asks for, it is answered, and the answer comes to that. -/
theorem answered_of_asks {asked : Except BodyError Operation} (h : r.Asks asked) (d : Desk) :
    ∃ response d', (answer r).perform d = (.ok response, d') ∧ Answered d asked response d' := by
  cases h with
  | create path method =>
    have hmethod : Resource.connectors.methods.contains r.method = true := by rw [method]; rfl
    have hhead : r.method ≠ "HEAD" := by rw [method]; decide
    have hperform : perform r .connectors = reading r.body (·.connectorPayload) fun p =>
        configure p.name p.settings false .created := if_pos method
    cases hbody : r.body.read (·.connectorPayload) with
    | error e =>
      exact ⟨_, d, perform_answer_of_reading path hmethod hhead hperform hbody d,
        .undone (isSuccess_bodyError e) rfl⟩
    | ok p =>
      have hperform : perform r .connectors = configure p.name p.settings false .created := by
        rw [hperform, reading, hbody]
      exact answered_configure path hmethod hhead hperform d
  | @update name path method =>
    have hmethod : (Resource.connector name).methods.contains r.method = true := by rw [method]; rfl
    have hhead : r.method ≠ "HEAD" := by rw [method]; decide
    have hperform : perform r (.connector name) = reading r.body (·.configPayload) fun p =>
        configure name p true .ok := if_pos method
    cases hbody : r.body.read (·.configPayload) with
    | error e =>
      exact ⟨_, d, perform_answer_of_reading path hmethod hhead hperform hbody d,
        .undone (isSuccess_bodyError e) rfl⟩
    | ok p =>
      have hperform : perform r (.connector name) = configure name p true .ok := by
        rw [hperform, reading, hbody]
      exact answered_configure path hmethod hhead hperform d
  | @schedule name path method =>
    have hmethod : (Resource.schedule name).methods.contains r.method = true := by rw [method]; rfl
    have hhead : r.method ≠ "HEAD" := by rw [method]; decide
    cases hbody : r.body.read (·.schedulePayload) with
    | error e =>
      exact ⟨_, d, perform_answer_of_reading path hmethod hhead rfl hbody d,
        .undone (isSuccess_bodyError e) rfl⟩
    | ok p =>
      exact answered_setSchedule path hmethod hhead (by rw [perform, reading, hbody]) d
  | @delete name path method =>
    have hmethod : (Resource.connector name).methods.contains r.method = true := by rw [method]; rfl
    have hhead : r.method ≠ "HEAD" := by rw [method]; decide
    have hnot : ¬ r.method = "PUT" := by rw [method]; decide
    exact answered_remove path hmethod hhead ((if_neg hnot).trans (if_pos method)) d

end Api

namespace Hub

/-- A request that is to configure, schedule or remove a connector is answered, whichever statements
fail. If it succeeds, the answer tells what it asked for and what was done. If not, all rows are as
before, unless the connector was configured and its status could not be read for the answer. -/
theorem answers_tell_the_truth (h : Hub) (place : Nat) {r : Api.Request}
    {asked : Except Api.BodyError Operation} (hr : r.Asks asked) :
    ∃ response d, (Api.answer r).perform (h.desk place) = (.ok response, d) ∧
      (response.isSuccess = true ↔ ∃ op, asked = .ok op ∧ Api.Told h.rows op response d.rows) ∧
      (response.isSuccess = false → d.rows = h.rows ∨
        ¬ h.Works ∧ response = .failure ∧ ∃ name typeName settings language update,
          asked = .ok (.configure name typeName settings language update) ∧
          h.answer place (.configure name typeName settings language update) = .ok .null ∧
          d.rows = h.rows.configured name ⟨typeName, settings⟩) := by
  obtain ⟨response, d, hp, hanswered⟩ := Api.answered_of_asks hr (h.desk place)
  refine ⟨response, d, hp, ⟨fun hs => ?_, ?_⟩, fun hs => ?_⟩
  · cases hanswered with
    | done told => exact ⟨_, rfl, told⟩
    | undone refused =>
      rw [refused] at hs
      cases hs
    | unread => cases hs
  · rintro ⟨op, -, told⟩
    exact told.isSuccess
  · cases hanswered with
    | done told =>
      rw [told.isSuccess] at hs
      cases hs
    | undone _ rows => exact .inl rows
    | unread works applied rows => exact .inr ⟨works, rfl, _, _, _, _, _, rfl, applied, rows⟩

/-- A request to schedule a connector, with numbers that are given as a text and as a real number. -/
def scheduling : Api.Request :=
  ⟨"PUT", .ofText "/api/connectors/a%20b/schedule",
    .text "\x7b\"load\": \" +2\", \"retry_delay_millis\": 1e3, \"time_intervals\": \"22-6\"\x7d"⟩

/-- It is answered truthfully at another node than the one where the connector was created. -/
theorem scheduling_tells_the_truth :
    scheduling.Asks (.ok (.setSchedule "a b" 2 1000 "22-6")) ∧
      ∃ response d, (Api.answer scheduling).perform ((untouched.play (setUp 0 "a b")).1.desk 1) =
          (.ok response, d) ∧
        (response.isSuccess = true ↔ ∃ op,
          .ok (.setSchedule "a b" 2 1000 "22-6") = (.ok op : Except Api.BodyError Operation) ∧
            Api.Told (untouched.play (setUp 0 "a b")).1.rows op response d.rows) ∧
        response.isSuccess = true ∧
        (d.rows.schedules.get? "a b").map (·.text) = some "a b:2:1000:22-6" := by
  have hbody : scheduling.body.read (·.schedulePayload) = .ok ⟨2, 1000, "22-6"⟩ := by
    have hread : (scheduling.body.read (·.schedulePayload)).toOption = some ⟨2, 1000, "22-6"⟩ := by
      decide +kernel
    cases h : scheduling.body.read (·.schedulePayload) with
    | error e =>
      rw [h] at hread
      cases hread
    | ok p =>
      rw [h] at hread
      rw [Option.some.inj hread]
  have hasks : scheduling.Asks (.ok (.setSchedule "a b" 2 1000 "22-6")) := by
    have h := @Api.Request.Asks.schedule scheduling "a b" (by decide +kernel) rfl
    rw [hbody] at h
    exact h
  have hrun :
      ((Api.answer scheduling).perform
        ((untouched.play (setUp 0 "a b")).1.desk 1)).1.toOption.any (·.isSuccess) = true ∧
      (((Api.answer scheduling).perform
        ((untouched.play (setUp 0 "a b")).1.desk 1)).2.rows.schedules.get? "a b").map (·.text) =
          some "a b:2:1000:22-6" := by
    decide +kernel
  obtain ⟨response, d, hp, htruth, -⟩ :=
    answers_tell_the_truth (untouched.play (setUp 0 "a b")).1 1 hasks
  rw [hp] at hrun
  exact ⟨hasks, response, d, hp, htruth, hrun⟩

/-- A request to create a connector. -/
def creating : Api.Request :=
  ⟨"POST", .ofText "/api/connectors", .text "\x7b\"name\": \"a\", \"type\": \"plain\"\x7d"⟩

/-- A connector that is created is not told of if its schedule cannot be read. And what was logged of
the runs of a connector that is deleted stays. -/
theorem created_untold_and_runs_stay :
    let d := (untouched.failing [⟨.select, .schedules⟩]).desk 0
    let e := (untouched.play (setUp 0 "a" ++ [.begin 0 "a"])).1.desk 0
    let deleting : Api.Request := ⟨"DELETE", .ofText "/api/connectors/a", .absent⟩
    (((Api.answer creating).perform d).1.toOption.map (·.status) = some 500 ∧
      (d.rows.connectors.get? "a") = none ∧
      ((((Api.answer creating).perform d).2.rows.connectors.get? "a").isSome = true)) ∧
    ((Api.answer deleting).perform e).1.toOption.map (·.status) = some 204 ∧
      (((Api.answer deleting).perform e).2.rows.runs.map (·.connector)) = ["a"] := by
  decide +kernel

end Hub

end ConnectorHub
