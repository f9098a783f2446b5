import ConnectorHub.Proofs.Answers
import ConnectorHub.Proofs.Locality
import ConnectorHub.Proofs.Mirror
import Mathlib.Data.List.Basic

/-! Connectors at hand go unnoticed. A call of which no statement fails is answered and acted upon by a
node whose connectors at hand mirror those that are stored as by a node that has none at hand. -/
namespace ConnectorHub

open Store Act Scenario

namespace Desk

theorem Faithful.known {d : Desk} (h : d.Faithful) (name : String) :
    d.known name = d.rows.connectors.get? name := by
  unfold Desk.known
  cases hl : d.node.live.get? name with
  | none => rfl
  | some i => exact (h name i hl).symm

/-- Two desks over the same rows and types, each of which mirrors the rows. If they are `level`, locks
and jobs and what is watched are the same as well. -/
structure Twins (level : Prop) (d e : Desk) : Prop where
  works : d.Works ∧ e.Works
  rows : e.rows = d.rows
  catalogs : e.site.catalogs = d.site.catalogs
  catalog : e.node.catalog = d.node.catalog
  faithful : d.Faithful ∧ e.Faithful
  level : level → e.site.locks = d.site.locks ∧ e.site.queue = d.site.queue ∧
    e.node.tracked = d.node.tracked

variable {level : Prop} {d d' e e' : Desk}

theorem Twins.known (h : d.Twins level e) (name : String) : e.known name = d.known name := by
  rw [h.faithful.1.known, h.faithful.2.known, h.rows]

theorem Twins.find? (h : d.Twins level e) (typeName : String) :
    (e.site.catalog e.node.catalog).find? typeName =
      (d.site.catalog d.node.catalog).find? typeName := by
  unfold Site.catalog
  rw [h.catalogs, h.catalog]

/-- What is stored may change at both in the same way. -/
theorem Twins.change (h : d.Twins level e) (hd : d.Sparing d') (he : e.Sparing e')
    (hrows : e'.rows = d'.rows) (hdi : d.Idle d') (hei : e.Idle e') : d'.Twins level e' where
  works := ⟨hd.works h.works.1, he.works h.works.2⟩
  rows := hrows
  catalogs := (he.catalogs.trans h.catalogs).trans hd.catalogs.symm
  catalog := (he.catalog.trans h.catalog).trans hd.catalog.symm
  faithful := ⟨hd.faithful h.faithful.1, he.faithful h.faithful.2⟩
  level hl := by
    obtain ⟨hlocks, hqueue, htracked⟩ := h.level hl
    rw [hei.locks, hei.queue, hei.tracked, hdi.locks, hdi.queue, hdi.tracked]
    exact ⟨hlocks, hqueue, htracked⟩

theorem Twins.calm (h : d.Twins level e) (hd : d.Calm d') (he : e.Calm e') : d'.Twins level e' :=
  h.change hd.toSparing he.toSparing (by rw [hd.rows, he.rows, h.rows]) hd.idle he.idle

end Desk

namespace Act

/-- At two desks that are twins the action answers the same and leaves twins. -/
def Agrees (level : Prop) (a : Act α) : Prop :=
  ∀ d e, d.Twins level e → (a.perform e).1 = (a.perform d).1 ∧
    (a.perform d).2.Twins level (a.perform e).2

variable {level : Prop}

theorem Agrees.pure (x : α) : Agrees level (pure x : Act α) := Respects.pure x

theorem Agrees.throw (f : Failure) : Agrees level (throw f : Act α) := Respects.throw f

theorem Agrees.give (x : Except Failure α) : Agrees level (give x) := Respects.give x

theorem Agrees.bind {a : Act α} {f : α → Act β} (ha : Agrees level a)
    (hf : ∀ x, Agrees level (f x)) : Agrees level (a >>= f) := Respects.bind ha hf

theorem Agrees.tryCatch {a : Act α} {f : Failure → Act α} (ha : Agrees level a)
    (hf : ∀ e, Agrees level (f e)) : Agrees level (tryCatch a f) := Respects.tryCatch ha hf

theorem Agrees.mapM {f : α → Act β} (hf : ∀ x, Agrees level (f x)) (xs : List α) :
    Agrees level (xs.mapM f) := by
  induction xs with
  | nil => exact .pure _
  | cons x xs ih =>
    rw [List.mapM_cons]
    exact (hf x).bind fun _ => ih.bind fun _ => .pure _

theorem Agrees.map {a : Act α} (f : α → β) (ha : Agrees level a) :
    Agrees level (do return f (← a)) := ha.bind fun _ => .pure _

/-- An action that leaves the hub as it is agrees if its answer only depends on what is known and
stored. -/
theorem agrees_of_calm {a : Act α} (hc : Calm a)
    (x : (String → Option ConnectorRow) → Rows → Except Failure α)
    (hg : ∀ d, Gives a d (x d.known d.rows)) : Agrees level a := by
  intro d e h
  refine ⟨?_, h.calm (hc d) (hc e)⟩
  rw [(hg d).of_works h.works.1, (hg e).of_works h.works.2, h.rows, funext h.known]

/-- Where no statement fails, a store call does what its transaction means. -/
theorem perform_store_of_works {t : Transaction α} {f : Rows → Except DatabaseError (α × Rows)}
    (h : Transaction.Means t f) (action : String) {d : Desk} (hw : d.Works) :
    ∃ n, (store action t).perform d =
      match f d.rows with
      | .ok (x, rows) => (.ok x, (d.withRows rows).counting n)
      | .error e => (.error (storeFailure action e), d.counting n) := by
  rcases perform_transact_cases h (storeFailure action) d with ⟨x, rows, n, hr, hp⟩ | ⟨e, n, he, hp⟩
  · exact ⟨n, by rw [hr]; exact hp⟩
  · have hr := he.resolve_right fun h => h.2 hw
    exact ⟨n, by rw [hr]; exact hp⟩

/-- A store call that leaves the connectors alone. -/
theorem agrees_store {t : Transaction α} {f : Rows → Except DatabaseError (α × Rows)}
    (h : Transaction.Means t f)
    (hf : ∀ rows x rows', f rows = .ok (x, rows') → rows'.connectors = rows.connectors)
    (action : String) : Agrees level (store action t) := by
  intro d e htwins
  obtain ⟨n, hd⟩ := perform_store_of_works h action htwins.works.1
  obtain ⟨m, he⟩ := perform_store_of_works h action htwins.works.2
  rw [htwins.rows] at he
  rw [hd, he]
  cases hr : f d.rows with
  | error x => exact ⟨rfl, htwins.calm (d.calm_counting n) (e.calm_counting m)⟩
  | ok p =>
    obtain ⟨x, rows⟩ := p
    have hsame := hf _ _ _ hr
    exact ⟨rfl, htwins.change ((Desk.Calm.refl d).sparing_withRows n hsame)
      ((Desk.Calm.refl e).sparing_withRows m (by rw [hsame, htwins.rows])) rfl
      ⟨rfl, rfl, rfl, rfl⟩ ⟨rfl, rfl, rfl, rfl⟩⟩

end Act

namespace Instances

variable {level : Prop} (name : String)

theorem agrees_row? : Agrees level (row? name) :=
  agrees_of_calm (calm_row? name) (fun known _ => .ok (known name)) fun d => by
    unfold Gives
    obtain ⟨n, hp | ⟨hw, hp⟩⟩ := perform_row? name d <;> rw [hp]
    · exact .inl rfl
    · exact .inr ⟨hw, _, rfl, rfl⟩

theorem agrees_row : Agrees level (row name) :=
  (agrees_row? name).bind fun r => by
    cases r with
    | some r => exact .pure r
    | none => exact .throw _

theorem agrees_has : Agrees level (has name) := (agrees_row? name).map _

theorem agrees_findType? (typeName : String) : Agrees level (findType? typeName) := fun _ _ h =>
  ⟨congrArg Except.ok (h.find? typeName), h⟩

theorem agrees_schedule? : Agrees level (schedule? name) :=
  (agrees_row name).bind fun _ =>
    (agrees_store (Schedules.means_find? name) (by rintro rows x rows' ⟨⟩; rfl) _).map _

theorem agrees_setSchedule (text : String) : Agrees level (setSchedule name text) :=
  (agrees_row name).bind fun _ =>
    agrees_store (Schedules.means_put name text) (by rintro rows x rows' ⟨⟩; rfl) _

theorem agrees_restart : Agrees level (restart name) := by
  refine (agrees_row name).bind fun _ => ((agrees_store (States.means_reset name) ?_ _).bind fun _ =>
    agrees_store (Schedules.means_markRun name none none) ?_ _).tryCatch fun _ => .throw _
  · intro rows x rows' h
    split at h
    · cases h
      rfl
    · cases h
  · rintro rows x rows' ⟨⟩
    exact Rows.connectors_marked ..

/-- A connector that is stored as it was made mirrors what is stored. -/
theorem agrees_put_keep (action : String) {i : Instance} {row : ConnectorRow} (hi : i.row = row) :
    Agrees level (store action (Connectors.put name row) >>= fun _ => keep name i) := by
  intro d e h
  obtain ⟨n, hd⟩ := perform_store_of_works (Connectors.means_put name row) action h.works.1
  obtain ⟨m, he⟩ := perform_store_of_works (Connectors.means_put name row) action h.works.2
  rw [perform_bind, perform_bind, hd, he]
  exact ⟨rfl, ⟨h.works.1.counting _ n, h.works.2.counting _ m⟩,
    congrArg (·.configured name row) h.rows, h.catalogs, h.catalog,
    ⟨h.faithful.1.configured hi, h.faithful.2.configured hi⟩, h.level⟩

theorem agrees_install {t : ConnectorType} {typeName : String} (ht : t.name = typeName)
    (config : Config) : Agrees level (install name t typeName config) := by
  intro d e h
  cases hm : t.make config with
  | error f =>
    simp only [install, build, hm]
    exact ⟨rfl, h⟩
  | ok c =>
    have hinstall (d : Desk) : (install name t typeName config).perform d =
        (store ("store connector " ++ name) (Connectors.put name ⟨typeName, config⟩) >>= fun _ =>
          keep name ⟨t.name, config, c⟩).perform
            ((changeSite (·.record (.made t.serial))).perform d).2 := by
      simp only [install, build, hm, perform_bind]
      rfl
    rw [hinstall, hinstall]
    have hrow : Instance.row ⟨t.name, config, c⟩ = ⟨typeName, config⟩ := by rw [← ht]; rfl
    exact agrees_put_keep name _ hrow _ _ (h.calm (calm_record _ d) (calm_record _ e))

theorem agrees_configure (typeName : String) (config : Config) (locale : Locale) (update : Bool) :
    Agrees level (configure name typeName config locale update) := by
  refine (agrees_row? name).bind fun r => (Agrees.give _).bind fun _ => ?_
  intro d e h
  rw [perform_bind, perform_bind, perform_findType?, perform_findType?, h.find?]
  cases ht : (d.site.catalog d.node.catalog).find? typeName with
  | none => exact ⟨rfl, h⟩
  | some t =>
    have hinstall : Agrees level (install name t typeName config >>= fun _ => pure none) :=
      (agrees_install name (name_of_find? ht) config).map fun _ => (none : Option Form)
    refine ((Agrees.give (t.check config locale)).bind fun form => ?_) d e h
    cases form with
    | none => exact hinstall
    | some form =>
      by_cases hf : form.isRefusal = true
      · simp only [if_pos hf]
        exact .pure _
      · simp only [if_neg hf]
        exact hinstall

theorem agrees_remove : Agrees level (remove name) := by
  intro d e h
  obtain ⟨n, hd | ⟨hw, -⟩⟩ := perform_remove name d
  · obtain ⟨m, he | ⟨hw, -⟩⟩ := perform_remove name e
    · rw [hd, he]
      exact ⟨rfl, ⟨(h.works.1.forgetting name).counting _ n, (h.works.2.forgetting name).counting _ m⟩,
        congrArg (·.without name) h.rows, h.catalogs, h.catalog,
        ⟨h.faithful.1.without name n, h.faithful.2.without name m⟩, h.level⟩
    · exact absurd h.works.2 hw
  · exact absurd h.works.1 hw

theorem agrees_filledForm (typeName : String) (locale : Locale) :
    Agrees level (filledForm name typeName locale) := by
  refine (agrees_row name).bind fun r => (agrees_findType? typeName).bind fun t => ?_
  cases t with
  | none => exact .throw _
  | some t => exact .give _

end Instances

theorem Scheduler.agrees_untrack {level : Prop} (name : String) :
    Agrees level (untrack name) := by
  intro d e h
  rw [perform_untrack, perform_untrack]
  have hd := d.steady_untracking name
  have he := e.steady_untracking name
  refine ⟨rfl, ⟨hd.works h.works.1, he.works h.works.2⟩, by rw [hd.rows, he.rows, h.rows],
    (he.catalogs.trans h.catalogs).trans hd.catalogs.symm,
    (he.catalog.trans h.catalog).trans hd.catalog.symm,
    ⟨hd.faithful h.faithful.1, he.faithful h.faithful.2⟩, fun hl => ?_⟩
  obtain ⟨hlocks, hqueue, htracked⟩ := h.level hl
  have hqueued : e.site.isQueued (jobId name) = d.site.isQueued (jobId name) := by
    unfold Site.isQueued
    rw [hqueue]
  unfold Desk.untracking
  rw [htracked, hqueued]
  split
  · split
    · simp only [Site.unlock, Site.dropJobs, hlocks, hqueue, and_self]
    · simp only [Site.dropJobs, hlocks, hqueue, and_self]
  · exact ⟨hlocks, hqueue, htracked⟩

namespace Administration

variable {level : Prop} (name : String)

theorem agrees_status? : Agrees level (status? name) := by
  refine (((Instances.agrees_row name).bind fun _ => (Instances.agrees_schedule? name).bind fun _ =>
    .pure _).tryCatch fun f => ?_)
  split
  · have hwarn : Agrees level (warn ("Connector " ++ name ++ " not found")) :=
      fun d e h => ⟨rfl, h.calm (calm_warn _ d) (calm_warn _ e)⟩
    exact hwarn.bind fun _ => .pure _
  · exact .throw _

theorem agrees_status : Agrees level (status name) :=
  (agrees_status? name).bind fun s => by
    cases s with
    | some s => exact .pure s
    | none => exact .throw _

theorem agrees_setSchedule (load retryDelay : Int) (intervals : String) :
    Agrees level (setSchedule name load retryDelay intervals) :=
  (Agrees.give _).bind fun _ => (Agrees.give _).bind fun text =>
    (Instances.agrees_setSchedule name text).bind fun _ => .pure _

theorem agrees_remove : Agrees level (remove name) :=
  (Instances.agrees_remove name).bind fun _ => Scheduler.agrees_untrack name

theorem agrees_restart : Agrees level (restart name) :=
  (Scheduler.agrees_untrack name).bind fun _ => Instances.agrees_restart name

/-- The statuses of all connectors are told in the order of their names, of each what is stored. -/
theorem answer_statuses {d : Desk} (hw : d.Works) (hf : d.Faithful) :
    (statuses.perform d).1 = .ok (d.rows.connectors.entries.map fun e =>
      ⟨e.1, e.2.typeName, d.scheduleOf e.1⟩) := by
  obtain ⟨n, hp⟩ := perform_store_of_works Connectors.means_names "list connectors" hw
  have hstatus (x : String) (e : Desk) (he : d.Calm e) : Gives (status? x) e
      (.ok (statusOf x (d.known x) (d.scheduleOf x))) := by
    have hg := gives_status? x e
    rw [he.known, Desk.scheduleOf, he.rows] at hg
    exact hg
  have hall := (gives_mapM calm_status? hstatus d.rows.connectors.names
    (d.calm_counting n)).map List.reduceOption
  have hnames : Instances.names.perform d = (.ok d.rows.connectors.names, d.counting n) := hp
  unfold statuses
  rw [perform_bind, hnames]
  refine (hall.of_works (hw.counting _ n)).trans (congrArg Except.ok ?_)
  change List.filterMap id _ = _
  simp only [Table.names, List.map_map, List.filterMap_map]
  refine List.filterMap_eq_map_iff_forall_eq_some.2 fun e he => ?_
  simp only [Function.comp, id_eq, statusOf, hf.known, Table.get?_of_mem he, Option.map_some]

end Administration

namespace Scenario.Operation

/-- The operation tells or changes what is stored about connectors, and uses none of them. -/
def isTransparent : Operation → Bool
  | status _ | config _ | has _ | getSchedule _ | connectorForm .. | typeForm .. | names => true
  | configure .. | setSchedule .. | setScheduleText .. => true
  | remove _ | removeInstance _ | restart _ | restartInstance _ => true
  | statuses vanishing => vanishing.isEmpty
  | _ => false

theorem agrees_of_isTransparent {level : Prop} {op : Operation} (h : op.isTransparent = true) :
    Agrees level op.perform := by
  have hnames : Agrees level Instances.names :=
    agrees_store Connectors.means_names (by rintro rows x rows' ⟨⟩; rfl) _
  cases op with
  | status name => exact (Administration.agrees_status name).map _
  | config name => exact ((Instances.agrees_row name).map _).map _
  | has name => exact (Instances.agrees_has name).map _
  | getSchedule name => exact (Instances.agrees_schedule? name).map _
  | connectorForm name language =>
    exact ((Instances.agrees_row name).bind fun r =>
      Instances.agrees_filledForm name r.typeName _).map _
  | typeForm name typeName language => exact (Instances.agrees_filledForm name typeName _).map _
  | names => exact hnames.map _
  | configure name typeName settings language update =>
    exact (Instances.agrees_configure name typeName settings _ update).map _
  | setSchedule name load retryDelay intervals =>
    exact (Administration.agrees_setSchedule name load retryDelay intervals).map _
  | setScheduleText name text => exact (Instances.agrees_setSchedule name text).map _
  | remove name => exact (Administration.agrees_remove name).map _
  | removeInstance name => exact (Instances.agrees_remove name).map _
  | restart name => exact (Administration.agrees_restart name).map _
  | restartInstance name => exact (Instances.agrees_restart name).map _
  | statuses vanishing =>
    cases vanishing with
    | nil =>
      exact Agrees.map _ (hnames.bind fun names => (Agrees.pure _).bind fun _ =>
        (Agrees.mapM Administration.agrees_status? names).map _)
    | cons _ _ => cases h
  | _ => cases h

/-- Where it uses no connector, an operation is a composition of store calls. -/
theorem local_of_isTransparent {op : Operation} (h : op.isTransparent = true) :
    Local op.perform := by
  cases op with
  | status name => exact (Administration.local_status name).map _
  | config name => exact ((Instances.local_row name).map _).map _
  | has name => exact ((Instances.local_row? name).map _).map _
  | getSchedule name => exact (Instances.local_schedule? name).map _
  | connectorForm name language =>
    exact ((Instances.local_row name).bind fun r =>
      Instances.local_filledForm name r.typeName _).map _
  | typeForm name typeName language => exact (Instances.local_filledForm name typeName _).map _
  | names => exact Instances.local_names.map _
  | configure name typeName settings language update =>
    exact (Instances.local_configure name typeName settings _ update).map _
  | setSchedule name load retryDelay intervals =>
    exact (Administration.local_setSchedule name load retryDelay intervals).map _
  | setScheduleText name text => exact (Instances.local_setSchedule name text).map _
  | remove name => exact (Administration.local_remove name).map _
  | removeInstance name => exact (Instances.local_remove name).map _
  | restart name => exact (Administration.local_restart name).map _
  | restartInstance name => exact (Instances.local_restart name).map _
  | statuses vanishing =>
    cases vanishing with
    | nil =>
      exact Local.map _ (Instances.local_names.bind fun names => (Local.pure _).bind fun _ =>
        (Local.mapM Administration.local_status? names).map _)
    | cons _ _ => cases h
  | _ => cases h

end Scenario.Operation

namespace Desk

variable {level : Prop} {d e : Desk}

/-- Two desks at one site that mirror what is stored are twins where no statement can fail. -/
theorem Faithful.twins (hd : d.Faithful) (he : e.Faithful) (hsite : e.site = d.site)
    (hcatalog : e.node.catalog = d.node.catalog) :
    d.mended.Twins (e.node.tracked = d.node.tracked) e.mended where
  works := ⟨d.works_mended, e.works_mended⟩
  rows := congrArg (·.database.rows) hsite
  catalogs := congrArg (·.catalogs) hsite
  catalog := hcatalog
  faithful := ⟨hd, he⟩
  level ht := ⟨congrArg (·.locks) hsite, congrArg (·.queue) hsite, ht⟩

/-- As `Agrees`, for two desks of which no statement of the action fails. -/
theorem Twins.of_serves (h : d.mended.Twins level e.mended) {a : Act α} (ha : Agrees level a)
    (hl : a.Local) (hd : d.Serves a) (he : e.Serves a) :
    (a.perform e).1 = (a.perform d).1 ∧
      (a.perform d).2.mended.Twins level (a.perform e).2.mended := by
  have hboth := ha d.mended e.mended h
  rw [hl.perform_mended hd, hl.perform_mended he] at hboth
  exact hboth

end Desk

namespace Hub

/-- However a node came to have its connectors at hand, and whatever failed on the way, they mirror
those that are stored. A call of which no statement fails, whatever failed before or fails later, tells
and changes what is stored as it does for any desk at the same site that has nothing at hand, and tells
the statuses of all stored connectors. -/
theorem instances_are_transparent {start h : Hub} {place : Nat} {past : List Event}
    (hs : (start.node place).live = .empty)
    (run : Run (fun _ m => m.isProper place = true) start past h) :
    (∀ name i, (h.node place).live.get? name = some i →
      h.rows.connectors.get? name = some i.row) ∧
    (∀ e : Desk, e.site = h.site → e.node.catalog = (h.node place).catalog →
      e.node.live = .empty →
      (∀ name, (h.desk place).Serves (Instances.row name) → e.Serves (Instances.row name) →
        ((Instances.row name).perform (h.desk place)).1 = ((Instances.row name).perform e).1) ∧
      ∀ op : Operation, op.isTransparent = true →
        (h.desk place).Serves op.perform → e.Serves op.perform →
        let d' := (op.perform.perform (h.desk place)).2
        let e' := (op.perform.perform e).2
        h.answer place op = (op.perform.perform e).1 ∧ e'.rows = d'.rows ∧
          (e.node.tracked = (h.node place).tracked → e'.site.locks = d'.site.locks ∧
            e'.site.queue = d'.site.queue ∧ e'.node.tracked = d'.node.tracked)) ∧
    ((h.desk place).Serves Administration.statuses →
      (Administration.statuses.perform (h.desk place)).1 =
        .ok (h.rows.connectors.entries.map fun e =>
          ⟨e.1, e.2.typeName, (h.rows.schedules.get? e.1).map (·.text)⟩)) := by
  have hf : (h.desk place).Faithful := run.faithful (.of_live hs)
  refine ⟨hf, fun e hsite hcatalog hlive => ?_, fun hserves => ?_⟩
  · have htwins := hf.twins (.of_live hlive) hsite hcatalog
    refine ⟨fun name hd he => ?_, fun op hop hd he => ?_⟩
    · exact (htwins.of_serves (Instances.agrees_row name) (Instances.local_row name) hd he).1.symm
    · obtain ⟨hanswer, hafter⟩ := htwins.of_serves (Operation.agrees_of_isTransparent hop)
        (Operation.local_of_isTransparent hop) hd he
      exact ⟨hanswer.symm, hafter.rows, hafter.level⟩
  · have hanswer := Administration.answer_statuses (h.desk place).works_mended hf
    rw [Administration.local_statuses.perform_mended hserves] at hanswer
    exact hanswer

/-- A connector is created, scheduled, and to be created once more, which is refused. -/
def createdTwice : List Move :=
  setUp 0 "a" ++ [.ask 0 (.configure "a" "plain" .empty none false)]

/-- The eighth statement fails, and so do all after the thirteenth. -/
def faltering : Hub where
  site := { untouched.site with
    database := { faults := fun n _ => n == 7 || decide (13 ≤ n) } }
  node := untouched.node

/-- A connector is created, scheduled and to be removed, and then configured anew. -/
def removalAttempted : List Move :=
  setUp 0 "a" ++ [.ask 0 (.remove "a"), .ask 0 (.configure "a" "plain" .empty none true)]

/-- The eighth statement is the last of the removal, which is rolled back, and the node has the connector
at hand no longer. It has it at hand again when it was configured anew. It is asked for the status by
the eleventh statement, where a node that has nothing at hand needs three. -/
theorem transparent_after_rollback :
    (faltering.play (setUp 0 "a")).1.answer 0 (.remove "a") = .error (.notRemoved "a") ∧
      (∃ i, ((faltering.play removalAttempted).1.node 0).live.get? "a" = some i ∧
        (faltering.play removalAttempted).1.rows.connectors.get? "a" = some i.row) ∧
      (faltering.play removalAttempted).1.answer 0 (.status "a") =
        ((Operation.status "a").perform.perform
          ⟨{}, (faltering.play removalAttempted).1.site⟩).1 := by
  have hallows : faltering.Allows (fun _ m => m.isProper 0 = true) removalAttempted := by
    decide +kernel
  have hcatalog : ((faltering.play removalAttempted).1.node 0).catalog = 0 := by decide +kernel
  have hlive : (((faltering.play removalAttempted).1.node 0).live.get? "a").isSome = true := by
    decide +kernel
  have hempty : (faltering.node 0).live = .empty := rfl
  have hissued : 10 ≤ (faltering.play removalAttempted).1.site.database.issued := by decide +kernel
  have hserves (d : Desk) (hd : d.site = (faltering.play removalAttempted).1.site)
      (hafter : ((Operation.status "a").perform.perform d).2.issued ≤ 13) :
      d.Serves (Operation.status "a").perform := by
    intro n s hn hlt
    unfold Desk.issued at hn
    rw [hd] at hn ⊢
    have hlater : n ≠ 7 ∧ ¬ 13 ≤ n := by omega
    change (n == 7 || decide (13 ≤ n)) = false
    simp [hlater]
  obtain ⟨hmirror, htransparent, -⟩ :=
    instances_are_transparent hempty (faltering.run_play removalAttempted hallows)
  obtain ⟨i, hi⟩ := Option.isSome_iff_exists.1 hlive
  refine ⟨rfl, ⟨i, hi, hmirror "a" i hi⟩, ?_⟩
  exact ((htransparent ⟨{}, _⟩ rfl hcatalog.symm rfl).2 (.status "a") rfl
    (hserves _ rfl (by decide +kernel)) (hserves _ rfl (by decide +kernel))).1

/-- From now on these statements fail. -/
def failing (h : Hub) (statements : List Statement) : Hub :=
  { h with site := { h.site with database := h.site.database.withFaults statements } }

/-- What is known of a connector at hand is told without the store. Another node has to ask the store,
and fails with it. -/
theorem has_without_store :
    ((Instances.has "a").perform
        (((untouched.play createdTwice).1.failing [⟨.select, .connectors⟩]).desk 0)).1 = .ok true ∧
      ((Instances.has "a").perform
        (((untouched.play createdTwice).1.failing [⟨.select, .connectors⟩]).desk 1)).1 =
          .error (.notRead "a") :=
  ⟨rfl, rfl⟩

end Hub

end ConnectorHub
