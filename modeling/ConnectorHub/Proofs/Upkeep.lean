import ConnectorHub.Proofs.Generations
import ConnectorHub.Proofs.Mirror

/-! What stays in order at a node, whatever is asked of it by way of manager, scheduler and management
interface, and however its traversals go: the connectors at hand mirror those that are stored, and
every generation fits into its column. -/
namespace ConnectorHub

open Store Act Scenario

namespace Scenario.Operation

section

variable {R : Desk → Desk → Prop} [IsPreorder Desk R]

theorem moves_answering {a : Act α} (ha : Moves R a) {next : α → Act Api.Response}
    (hnext : ∀ x, Moves R (next x)) (respond : Failure → Option Api.Response) :
    Moves R (Api.answering respond a next) :=
  ha.attempt.bind fun x => by
    rcases x with e | x
    · dsimp only
      cases respond e with
      | none => exact .throw _
      | some _ => exact .pure _
    · exact hnext x

theorem moves_reading {next : α → Act Api.Response} (hnext : ∀ x, Moves R (next x)) (b : Api.Body)
    (f : Api.Members → Api.Checked α) : Moves R (Api.reading b f next) := by
  unfold Api.reading
  cases b.read f with
  | ok x => exact hnext x
  | error _ => exact .pure _

/-- What an action answers is shown. -/
theorem moves_showing {a : Act α} (ha : Moves R a) (present : α → Api.Response) :
    Moves R (do return present (← a)) := ha.bind fun _ => .pure _

theorem moves_answeringWith {a : Act α} (ha : Moves R a) (present : α → Api.Response) :
    Moves R (Api.answeringWith a present) := moves_answering ha (fun _ => .pure _) _

theorem Guided.configuring (h : Guided R) (name : String) (p : Api.ConfigPayload) (update : Bool)
    (success : Json → Api.Response) : Moves R (Api.configure name p update success) := by
  refine moves_answering (h.configure _ _ _ _ _) (fun form => ?_) _
  cases form with
  | some form => exact .pure _
  | none => exact (h.calm (Administration.calm_status name)).bind fun _ => .pure _

theorem Guided.performing (h : Guided R) (r : Api.Request) (resource : Api.Resource) :
    Moves R (Api.perform r resource) := by
  cases resource <;> simp only [Api.perform]
  case health => exact moves_showing moves_node _
  case types => exact moves_showing (h.calm Administration.calm_typeNames) _
  case typeForm typeName =>
    exact moves_answeringWith (h.calm (Administration.calm_form typeName _)) _
  case connectors =>
    split
    · exact moves_reading (fun p : Api.ConnectorPayload =>
        h.configuring p.name p.settings false _) _ _
    · refine moves_showing (h.calm ?_) _
      exact Instances.calm_names.bind fun names => Administration.calm_statusesOf names
  case connector name =>
    split
    · exact moves_reading (fun p => h.configuring name p true _) _ _
    · split
      · exact moves_answeringWith (h.remove name) _
      · exact moves_answering (h.calm (Administration.calm_status name)) (fun _ => .pure _) _
  case config name => exact moves_answeringWith (h.calm (Administration.calm_config name)) _
  case form name => exact moves_answeringWith (h.calm (Administration.calm_filledForm name _)) _
  case schedule name =>
    exact moves_reading (fun p => moves_answeringWith (h.setting name _ _ _) _) _ _
  case restart name => exact moves_answeringWith (h.restart name) _
  case authenticate name =>
    exact moves_reading (fun i =>
      moves_showing (h.calm (Administration.calm_authenticate name i)) _) _ _
  case authorize name =>
    exact moves_reading (fun p =>
      moves_showing (h.calm (Administration.calm_authorize name _ _)) _) _ _
  case gate =>
    exact moves_reading (fun p =>
      moves_answering (h.calm (Administration.calm_setGate _ _)) (fun _ => .pure _) _) _ _
  case runs => exact moves_showing (h.calm (calm_transact (Runs.means_recent _ _) _)) _
  case documentation => exact .pure _

/-- Whatever a request does, it does by way of the manager. -/
theorem Guided.answering (h : Guided R) (r : Api.Request) : Moves R (Api.answer r) := by
  have hroute : Moves R (Api.route r) := by
    unfold Api.route
    cases Api.Resource.ofPath? r.target.path with
    | some resource =>
      dsimp only
      split
      · exact h.performing r resource
      · exact .pure _
    | none =>
      dsimp only
      split <;> exact .pure _
  exact (hroute.tryCatch fun _ => .pure _).bind fun _ => .pure _

end

end Scenario.Operation

namespace Store.Rows

/-- Every generation fits into its column. -/
def Fits (rows : Rows) : Prop := ∀ name, generationOf (rows.states.get? name) < 9223372036854775808

variable {rows : Rows}

theorem Fits.of_states {rows' : Rows} (h : rows.Fits) (hs : rows'.states = rows.states) :
    rows'.Fits := by
  intro name
  rw [hs]
  exact h name

theorem Fits.insert (h : rows.Fits) {name : String} {row : StateRow}
    (hr : row.generation < 9223372036854775808) :
    Fits { rows with states := rows.states.insert name row } := by
  intro other
  by_cases ho : other = name
  · simpa [ho, generationOf, States.snapshotOf] using hr
  · simpa [Table.get?_insert_of_ne _ _ ho] using h other

theorem Fits.advanced (h : rows.Fits) (name : String) (checkpoint : Option String) :
    (rows.advanced name checkpoint).Fits := h.insert (h name)

theorem Fits.without (h : rows.Fits) (name : String) : (rows.without name).Fits := by
  intro other
  by_cases ho : other = name
  · simp [ho, Rows.without, generationOf, States.snapshotOf]
  · simpa [Rows.without, Table.get?_erase_of_ne _ ho] using h other

end Store.Rows

/-- The action keeps to generations that fit, wherever it is performed. -/
abbrev Act.Fitting (a : Act α) : Prop := Moves (Desk.Keeps fun d => d.rows.Fits) a

namespace Act

theorem fitting_of_steady {a : Act α} (h : Steady a) : Fitting a := fun d (hd : d.rows.Fits) =>
  hd.of_states (congrArg Rows.states (h d).rows)

theorem fitting_of_calm {a : Act α} (h : Calm a) : Fitting a := fitting_of_steady (.steady h)

theorem fitting_store {t : Transaction α} {f : Rows → Except DatabaseError (α × Rows)}
    (h : Transaction.Means t f)
    (hf : ∀ rows x rows', f rows = .ok (x, rows') → rows.Fits → rows'.Fits) (action : String) :
    Fitting (store action t) := by
  intro d hd
  rcases perform_transact_cases h (storeFailure action) d with ⟨x, rows, n, hr, hp⟩ | ⟨e, n, -, hp⟩
  · have hp : (store action t).perform d = _ := hp
    rw [hp]
    exact hf _ _ _ hr hd
  · have hp : (store action t).perform d = _ := hp
    rw [hp]
    exact hd

end Act

namespace Instances

theorem fitting_configure (name typeName : String) (config : Config) (locale : Locale)
    (update : Bool) : Fitting (configure name typeName config locale update) := by
  intro d hd
  obtain ⟨d₁, hcalm, -, hp⟩ := perform_configure name typeName config locale update d
  have hfits : d₁.rows.Fits := Rows.Fits.of_states hd (congrArg Rows.states hcalm.rows)
  rcases hp with ⟨i, -, -, -, hp⟩ | ⟨x, -, hp⟩ <;> rw [hp] <;> exact hfits

theorem fitting_setSchedule (name text : String) : Fitting (setSchedule name text) :=
  (fitting_of_calm (calm_row name)).bind fun _ =>
    fitting_store (Schedules.means_put name text) (by rintro rows x rows' ⟨⟩ h; exact h) _

theorem fitting_remove (name : String) : Fitting (remove name) := by
  refine Moves.bind (fun d hd => hd) fun _ => Moves.tryCatch ?_ fun _ => .throw _
  exact fitting_store (Connectors.means_remove name)
    (by rintro rows x rows' ⟨⟩ h; exact h.without name) _

/-- The generation that a reset begins is checked. -/
theorem fitting_reset (name action : String) : Fitting (store action (States.reset name)) := by
  refine fitting_store (States.means_reset name) ?_ _
  intro rows x rows' h hfits
  split at h
  · rename_i hnext
    cases h
    exact hfits.insert hnext
  · cases h

theorem fitting_markRun (name : String) (lastRun nextDue : Option Time.DateTime) (action : String) :
    Fitting (store action (Schedules.markRun name lastRun nextDue)) :=
  fitting_store (Schedules.means_markRun name lastRun nextDue)
    (by rintro rows x rows' ⟨⟩ h; exact h.of_states (Rows.states_marked ..)) _

theorem fitting_restart (name : String) : Fitting (restart name) :=
  (fitting_of_calm (calm_row name)).bind fun _ =>
    ((fitting_reset name _).bind fun _ => fitting_markRun name _ _ _).tryCatch fun _ => .throw _

theorem fitting_advance (name : String) (checkpoint : Option String) (generation : Int) :
    Fitting (advance name checkpoint generation) := by
  refine fitting_store (States.means_putIfCurrent name checkpoint generation) ?_ _
  intro rows x rows' h hfits
  split at h
  · unfold States.taking at h
    split at h <;> cases h
    · exact hfits.advanced name checkpoint
    · exact hfits
  · cases h

end Instances

namespace Scenario.Operation

theorem guided_fits : Guided (Desk.Keeps fun d => d.rows.Fits) where
  calm := fitting_of_calm
  sync := fitting_of_steady Scheduler.steady_sync
  untrack name := fitting_of_steady (Scheduler.steady_untrack name)
  enqueueDue now := fitting_of_steady (Scheduler.steady_enqueueDue now)
  configure := Instances.fitting_configure
  setSchedule := Instances.fitting_setSchedule
  remove name := (Instances.fitting_remove name).bind fun _ =>
    fitting_of_steady (Scheduler.steady_untrack name)
  restart name := (fitting_of_steady (Scheduler.steady_untrack name)).bind fun _ =>
    Instances.fitting_restart name

theorem guided_faithful : Guided (Desk.Keeps Desk.Faithful) where
  calm h := (sparing_of_calm h).faithful
  sync := (sparing_of_steady Scheduler.steady_sync).faithful
  untrack name := (sparing_of_steady (Scheduler.steady_untrack name)).faithful
  enqueueDue now := (sparing_of_steady (Scheduler.steady_enqueueDue now)).faithful
  configure := Instances.faithful_configure
  setSchedule name text := (Instances.sparing_setSchedule name text).faithful
  remove name := (Instances.faithful_remove name).bind fun _ =>
    (sparing_of_steady (Scheduler.steady_untrack name)).faithful
  restart name := ((sparing_of_steady (Scheduler.steady_untrack name)).bind fun _ =>
    Instances.sparing_restart name).faithful

theorem fitting_of_isProper {op : Operation} (h : op.isProper = true) : Fitting op.perform := by
  by_cases hm : op.isManaged = true
  · exact guided_fits.moves hm
  · cases op with
    | setScheduleText name text => exact (Instances.fitting_setSchedule name text).map _
    | setCheckpoint name mark =>
      exact (fitting_store (States.means_put name mark)
        (by rintro rows x rows' ⟨⟩ h; exact h.advanced name mark) _).map _
    | advance name mark generation => exact (Instances.fitting_advance _ _ _).map _
    | removeInstance name => exact (Instances.fitting_remove name).map _
    | restartInstance name => exact (Instances.fitting_restart name).map _
    | resetState name => exact (Instances.fitting_reset name _).map _
    | storeSchedule name text =>
      exact (fitting_store (Schedules.means_put name text) (by rintro rows x rows' ⟨⟩ h; exact h) _).map _
    | markRun name lastRun nextDue => exact (Instances.fitting_markRun _ _ _ _).map _
    | statuses vanishing =>
      refine Moves.map _ ((fitting_of_calm Instances.calm_names).bind fun names => ?_)
      exact (Moves.forM Instances.fitting_remove vanishing).bind fun _ =>
        fitting_of_calm (Administration.calm_statusesOf names)
    | _ => first | exact absurd rfl hm | cases h

/-- The operation is a request to the management interface. -/
def isRequest : Operation → Bool
  | request .. => true
  | _ => false

theorem Guided.request {R : Desk → Desk → Prop} [IsPreorder Desk R] (h : Guided R) {op : Operation}
    (hop : op.isRequest = true) : Moves R op.perform := by
  cases op with
  | request method target value text => exact (h.answering _).map _
  | _ => cases hop

end Scenario.Operation

/-- The move is no other node's call, and does not reach past the connectors at hand. -/
def Move.isOwn (place : Nat) : Move → Bool
  | ask p op => p = place && (op.isProper || op.isRequest)
  | _ => true

namespace Hub

variable {h : Hub} {place : Nat}

theorem faithful_own (hf : (h.desk place).Faithful) {m : Move} (hm : m.isOwn place = true) :
    ((h.move m).1.desk place).Faithful := by
  cases m with
  | ask p op =>
    obtain ⟨rfl, hop⟩ : p = place ∧ (op.isProper || op.isRequest) = true := by
      simpa [Move.isOwn] using hm
    change ((h.leave p (op.perform.perform (h.desk p)).2).desk p).Faithful
    rw [desk_leave_self]
    rcases Bool.or_eq_true_iff.1 hop with hop | hop
    · exact Operation.faithful_of_isProper hop (h.desk p) hf
    · exact Operation.guided_faithful.request hop (h.desk p) hf
  | _ => exact faithful_move hf rfl

theorem fits_own (hf : h.rows.Fits) {m : Move} (hm : m.isOwn place = true) :
    (h.move m).1.rows.Fits := by
  have hsame (hg : ∀ name, (h.move m).1.generation name = h.generation name) :
      (h.move m).1.rows.Fits := fun name => lt_of_eq_of_lt (hg name) (hf name)
  cases m with
  | ask p op =>
    obtain ⟨-, hop⟩ : p = place ∧ (op.isProper || op.isRequest) = true := by
      simpa [Move.isOwn] using hm
    rcases Bool.or_eq_true_iff.1 hop with hop | hop
    · exact Operation.fitting_of_isProper hop (h.desk p) hf
    · exact Operation.guided_fits.request hop (h.desk p) hf
  | begin p name => exact hsame fun n => (h.generation_begin p name n).1
  | work p index =>
    refine hsame fun n => ?_
    cases hj : h.site.queue[index]? with
    | none => simp only [move, hj]
    | some job =>
      simp only [move, hj]
      exact ((h.without index).generation_begin p job.connector n).1
  | finish index answer => exact hsame fun n => (h.generation_finish index answer n).1
  | pause clock => exact hf

variable {start : Hub} {past : List Event}
  (run : Run (fun _ m => m.isOwn place = true) start past h)

include run

/-- A node that starts with nothing at hand only ever has at hand what is stored. -/
theorem Run.faithful_own (hnew : (start.node place).live = .empty) : (h.desk place).Faithful := by
  induction run with
  | none => exact .of_live hnew
  | next run here ih => exact Hub.faithful_own ih here

theorem Run.fits (hs : start.rows.Fits) : h.rows.Fits := by
  induction run with
  | none => exact hs
  | next run here ih => exact fits_own ih here

end Hub

end ConnectorHub
