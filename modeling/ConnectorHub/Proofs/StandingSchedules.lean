import ConnectorHub.Proofs.Answers
import ConnectorHub.Proofs.Consistency
import ConnectorHub.Proofs.Passes
import ConnectorHub.Proofs.ScheduleText

/-! The stored schedule of a connector is the last one that was set for it, at whatever node and
whatever else went on meanwhile, and it can be read. Traversals carry a copy of it along, but give the
connector no more than times. -/
namespace ConnectorHub

open Store Act Scenario

/-- What a connector is to be scheduled with. -/
structure Terms where
  load : Int
  retryDelay : Int
  intervals : String
  deriving DecidableEq, Repr

/-- A text is what the schedule of a connector with these terms is written as. -/
def Terms.Written (terms : Terms) (name text : String) : Prop :=
  ∃ s, Schedule.make name terms.load terms.retryDelay terms.intervals = .ok s ∧ s.format = .ok text

/-- What this left of the schedule of a connector, if it set or removed it. -/
def Event.scheduled? (name : String) : Event → Option (Option Terms)
  | asked (.setSchedule other load retryDelay intervals) (.ok _) =>
    if other = name then some (some ⟨load, retryDelay, intervals⟩) else none
  | asked (.remove other) (.ok _) => if other = name then some none else none
  | _ => none

/-- What the last call left of the schedule of a connector that set or removed it. -/
def lastScheduled (name : String) (past : List Event) : Option Terms :=
  (past.findSome? (·.scheduled? name)).getD none

theorem lastScheduled_append (name : String) (told past : List Event) :
    lastScheduled name (told ++ past) =
      (told.findSome? (·.scheduled? name)).getD (lastScheduled name past) := by
  unfold lastScheduled
  rw [List.findSome?_append]
  cases told.findSome? (·.scheduled? name) <;> rfl

namespace Desk

/-- From one desk to the other every schedule stayed the same, whatever became of its times. -/
def SameSchedules (d d' : Desk) : Prop := ∀ name, d'.scheduleOf name = d.scheduleOf name

instance : IsPreorder Desk SameSchedules where
  refl _ _ := rfl
  trans _ _ _ h k name := (k name).trans (h name)

theorem scheduleOf_of_rows {d : Desk} {rows : Rows} (h : d.rows = rows) (name : String) :
    d.scheduleOf name = (rows.about name).schedule.map (·.text) := by
  subst h
  rfl

theorem sameSchedules_of_rows {d d' : Desk} (h : d'.rows.schedules = d.rows.schedules) :
    d.SameSchedules d' := fun _ => by rw [scheduleOf, h, scheduleOf]

theorem Steady.sameSchedules {d d' : Desk} (h : d.Steady d') : d.SameSchedules d' :=
  sameSchedules_of_rows (congrArg Rows.schedules h.rows)

/-- Times come and go without a change of the schedule. -/
theorem sameSchedules_marked {d d' : Desk} {rows : Rows} (hrows : rows.schedules = d.rows.schedules)
    {name : String} {lastRun nextDue : Option Time.DateTime}
    (h : d'.rows = rows.marked name lastRun nextDue) : d.SameSchedules d' := by
  intro other
  have hd : d.scheduleOf other = (rows.about other).schedule.map (·.text) := by
    rw [scheduleOf, ← hrows]
    rfl
  rw [scheduleOf_of_rows h, hd]
  by_cases ho : other = name
  · subst ho
    rw [Rows.about_marked_self]
    cases (rows.about other).schedule with
    | none => rfl
    | some row => exact congrArg some (row.text_marked _ _)
  · rw [Rows.about_marked_of_ne _ ho]

end Desk

namespace Traversal

variable {d d' : Desk}

theorem Judged.sameSchedules {t : Running} {answer : Except Failure Batch} {r : Result}
    (h : Judged t d answer r d') : d.SameSchedules d' := by
  cases h with
  | stored => exact Desk.sameSchedules_of_rows rfl
  | overtaken _ _ _ _ calm => exact calm.toSteady.sameSchedules
  | failed _ _ _ calm => exact calm.toSteady.sameSchedules

theorem Closed.sameSchedules {t : Opened} {r : Result} {x : Except Failure Nat}
    (h : Closed t r d x d') : d.SameSchedules d' := by
  cases h with
  | unlogged _ calm => exact calm.toSteady.sameSchedules
  | overtaken => exact Desk.sameSchedules_of_rows rfl
  | unmarked => exact Desk.sameSchedules_of_rows rfl
  | @marked due d₁ n =>
    have hrows : (d.rows.ended t.run r.toOutcome d.site.clock.now).schedules = d.rows.schedules := rfl
    exact Desk.sameSchedules_marked hrows rfl

theorem sameSchedules_open? (name : String) : Moves Desk.SameSchedules (open? name) := by
  intro d
  rcases perform_open? name d with
    ⟨t, d₁, n, row, -, -, -, -, -, hd, hp⟩ | ⟨x, d₁, -, -, hd, hp⟩ <;> rw [hp]
  · exact Desk.sameSchedules_of_rows rfl
  · exact hd.toSteady.sameSchedules

theorem sameSchedules_handOver (t : Opened) : Moves Desk.SameSchedules (handOver t) := by
  intro d
  rcases perform_handOver t d with ⟨r, d₁, -, -, hd, -, hp⟩ | ⟨f, d₁, hd, hp⟩ <;> rw [hp] <;>
    exact hd.toSteady.sameSchedules

theorem sameSchedules_close (t : Opened) (r : Result) : Moves Desk.SameSchedules (close t r) :=
  fun d => (closed_of_perform t r d).sameSchedules

theorem sameSchedules_release (name : String) : Moves Desk.SameSchedules (release name) := fun _ =>
  Desk.sameSchedules_of_rows rfl

/-- A traversal that begins leaves the schedules as they are. -/
theorem sameSchedules_begin (name : String) : Moves Desk.SameSchedules (begin name) := by
  have hstart : Moves Desk.SameSchedules (start name) := by
    refine (sameSchedules_open? name).bind fun t => ?_
    cases t with
    | none => exact .pure _
    | some t =>
      refine (sameSchedules_handOver t).attempt.bind fun answer => ?_
      cases answer with
      | error f => exact (sameSchedules_close t (failed 0 f)).map _
      | ok t => exact .pure _
  refine hstart.attempt.bind fun answer => ?_
  rcases answer with f | ⟨items⟩ | ⟨t⟩
  · exact (sameSchedules_release name).bind fun _ => .give _
  · exact (sameSchedules_release name).bind fun _ => .give _
  · exact .pure _

/-- So does one that ends. -/
theorem sameSchedules_finish (t : Running) (answer : Except Failure Batch) :
    Moves Desk.SameSchedules (finish t answer) := by
  intro d
  obtain ⟨d₁, x, d₂, -, hj, hc, hp⟩ := perform_finish t answer d
  rw [hp]
  exact trans_of Desk.SameSchedules hj.sameSchedules hc.sameSchedules

end Traversal

/-- What becomes of the text of a connector's schedule where a call set or removed it so, or none
did. -/
inductive Rewritten (name : String) :
    Option (Option Terms) → Option String → Option String → Prop
  | kept (text : Option String) : Rewritten name none text text
  | removed (text : Option String) : Rewritten name (some none) text none
  | written {terms : Terms} {text : String} (old : Option String) (h : terms.Written name text) :
      Rewritten name (some (some terms)) old (some text)

theorem Rewritten.of_same {name : String} {old new : Option String} (h : new = old) :
    Rewritten name none old new := by
  subst h
  exact .kept _

namespace Scenario.Operation

variable (name : String) (d : Desk)

/-- What an operation makes of a schedule is told by its answer. -/
def Rewrites (op : Operation) : Prop :=
  let p := op.perform.perform d
  Rewritten name ((Event.asked op p.1).scheduled? name) (d.scheduleOf name) (p.2.scheduleOf name)

theorem Administered.rewrites {op : Operation} {answer : Except Failure Json} {d' : Desk}
    (h : Administered d op answer d') :
    Rewritten name ((Event.asked op answer).scheduled? name) (d.scheduleOf name)
      (d'.scheduleOf name) := by
  cases h with
  | @configured other typeName settings _ _ d₁ _ calm =>
    have hrows : d₁.rows.schedules = d.rows.schedules := congrArg Rows.schedules calm.rows
    exact .of_same (Desk.sameSchedules_of_rows hrows name)
  | notConfigured calm => exact .of_same (calm.toSteady.sameSchedules name)
  | @scheduled other load retryDelay intervals s text n make format =>
    have hrows : ((d.withRows (d.rows.scheduled other text)).counting n).rows =
      d.rows.scheduled other text := rfl
    rw [Desk.scheduleOf_of_rows hrows, Event.scheduled?]
    by_cases ho : other = name
    · subst ho
      rw [if_pos rfl, Rows.about_scheduled_self]
      exact .written _ ⟨s, make, format⟩
    · rw [if_neg ho, Rows.about_scheduled_of_ne _ (Ne.symm ho)]
      exact .kept _
  | notScheduled => exact .kept _
  | @removed other n =>
    have hrows : ((((d.forgetting other).withRows (d.rows.without other)).counting n).untracking
        other).rows = d.rows.without other := (Desk.steady_untracking _ other).rows
    rw [Desk.scheduleOf_of_rows hrows, Event.scheduled?]
    by_cases ho : other = name
    · subst ho
      rw [if_pos rfl, Rows.about_without_self]
      exact .removed _
    · rw [if_neg ho, Rows.about_without_of_ne _ (Ne.symm ho)]
      exact .kept _
  | notRemoved => exact .kept _
  | @restarted other =>
    have hrows : (d.rows.reset other).schedules = d.rows.schedules := rfl
    exact .of_same (Desk.sameSchedules_marked hrows rfl name)
  | @notRestarted other => exact .of_same ((d.steady_untracking other).sameSchedules name)
  | halfRestarted => exact .of_same (Desk.sameSchedules_of_rows rfl name)

theorem rewrites_of_isManaged {op : Operation} (h : op.isManaged = true) : op.Rewrites name d := by
  cases ha : op.isAdministrative with
  | false =>
    have hnone (answer : Except Failure Json) : (Event.asked op answer).scheduled? name = none := by
      cases op with
      | setSchedule | remove => cases ha
      | _ => rfl
    simp only [Rewrites, hnone]
    exact .of_same ((steady_of_not_isAdministrative h ha d).sameSchedules name)
  | true => exact (administered_of_isAdministrative ha d).rewrites name d

end Scenario.Operation

namespace Act

/-- The action never fails because of a schedule. -/
def NotBySchedule (a : Act α) : Prop := ∀ d e, (a.perform d).1 ≠ .error (.schedule e)

theorem NotBySchedule.bind {a : Act α} {f : α → Act β} (ha : NotBySchedule a)
    (hf : ∀ x, NotBySchedule (f x)) : NotBySchedule (a >>= f) := by
  intro d e
  rw [perform_bind]
  have h := ha d
  cases hp : a.perform d with
  | mk x d₁ =>
    rw [hp] at h
    cases x with
    | ok x => exact hf x d₁ e
    | error f =>
      rintro ⟨⟩
      exact h e rfl

theorem NotBySchedule.of_ok {a : Act α} (h : ∀ d, ∃ x, (a.perform d).1 = .ok x) :
    NotBySchedule a := by
  intro d e
  obtain ⟨x, hx⟩ := h d
  rw [hx]
  nofun

theorem notBySchedule_pure (x : α) : NotBySchedule (pure x : Act α) := .of_ok fun _ => ⟨x, rfl⟩

theorem notBySchedule_attempt (a : Act α) : NotBySchedule (attempt a) :=
  .of_ok fun d => ⟨_, by rw [perform_attempt]⟩

theorem notBySchedule_give {x : Except Failure α} (h : ∀ e, x ≠ .error (.schedule e)) :
    NotBySchedule (give x) := by
  intro d e
  rw [perform_give]
  exact h e

theorem notBySchedule_transact {wrap : DatabaseError → Failure} (h : ∀ e e', wrap e ≠ .schedule e')
    (t : Transaction α) : NotBySchedule (transact wrap t) := by
  intro d e
  rw [perform_transact]
  cases (t.perform d.site.database).1 with
  | ok x => nofun
  | error f =>
    intro hf
    exact h f e (Except.error.inj hf)

theorem storeFailure_ne (action : String) (e : DatabaseError) (e' : ScheduleError) :
    storeFailure action e ≠ .schedule e' := by
  cases e <;> nofun

end Act

namespace Traversal

theorem notBySchedule_close (t : Opened) (r : Result) : NotBySchedule (close t r) := by
  have hclosing : NotBySchedule (do
      let finished ← readClock
      transact .database (Runs.finish t.run r.toOutcome finished)
      if !r.overtaken then
        let due ← give ((t.schedule.nextDue r.counted finished).mapError .calendar)
        store ("update run times for " ++ t.connector)
          (Schedules.markRun t.connector (some finished) due)
      return r.items : Act Nat) := by
    have hdatabase : ∀ e e', Failure.database e ≠ .schedule e' := nofun
    refine (NotBySchedule.of_ok fun _ => ⟨_, rfl⟩).bind fun finished => ?_
    refine (notBySchedule_transact hdatabase _).bind fun _ => ?_
    by_cases ho : (!r.overtaken) = true
    · rw [if_pos ho]
      refine (notBySchedule_give ?_).bind fun due => ?_
      · intro e he
        cases hn : t.schedule.nextDue r.counted finished with
        | ok due =>
          rw [hn] at he
          cases he
        | error f =>
          rw [hn] at he
          cases he
      · exact (notBySchedule_transact (storeFailure_ne _) _).bind fun _ => notBySchedule_pure _
    · rw [if_neg ho]
      exact notBySchedule_pure _
  unfold close
  by_cases hs : r.status = .error
  · rw [if_pos hs]
    exact (NotBySchedule.of_ok fun _ => ⟨(), rfl⟩).bind fun _ => hclosing
  · rw [if_neg hs]
    exact hclosing

theorem notBySchedule_finish (t : Running) (answer : Except Failure Batch) :
    NotBySchedule (finish t answer) := by
  have hjudge : NotBySchedule (judge t answer) := .of_ok fun d => by
    obtain ⟨r, d₁, hp, -⟩ := judged_of_perform t answer d
    exact ⟨r, by rw [hp]⟩
  intro d e
  rw [finish_eq, perform_releasing]
  exact hjudge.bind (fun r => notBySchedule_close t.toOpened r) d e

section

variable {name : String} {d : Desk}
  (h : ∀ row, d.rows.schedules.get? name = some row → ∃ s, Schedule.parse row.text = .ok s)

include h

theorem start_ne_schedule (e : ScheduleError) :
    ((start name).perform d).1 ≠ .error (.schedule e) := by
  rw [start, perform_bind]
  rcases perform_open? name d with
    ⟨t, d₁, n, row, -, -, -, -, -, -, hp⟩ | ⟨x, d₁, hnone, hbad, -, hp⟩
  · rw [hp]
    refine (notBySchedule_attempt (handOver t)).bind (fun answer => ?_) _ e
    cases answer with
    | error f => exact (notBySchedule_close t _).bind fun _ => notBySchedule_pure _
    | ok t => exact notBySchedule_pure _
  · rw [hp]
    rcases x with f | _ | t
    · rintro ⟨⟩
      obtain ⟨row, hrow, hs⟩ := hbad e rfl
      obtain ⟨s, hs'⟩ := h row hrow
      rw [hs] at hs'
      cases hs'
    · exact notBySchedule_pure (Begun.over 0) d₁ e
    · exact absurd rfl (hnone t)

/-- A traversal does not fail because of its schedule, if that can be read when it begins. -/
theorem run_ne_schedule (resume : Running → Act Batch) (e : ScheduleError) :
    ((run resume name).perform d).1 ≠ .error (.schedule e) := by
  have hstart := start_ne_schedule h
  rw [run, perform_bind, begin, perform_bind, perform_attempt]
  generalize (start name).perform d = p at hstart
  rcases p with ⟨f | ⟨items⟩ | ⟨t⟩, d₁⟩
  · simp only [perform_bind, release, perform_changeSite, perform_give]
    rintro ⟨⟩
    exact hstart e rfl
  · exact notBySchedule_pure items d₁ e
  · exact ((notBySchedule_attempt (resume t)).bind fun answer => notBySchedule_finish t answer) d₁ e

end

end Traversal

namespace Hub

/-- The text of a connector's schedule. -/
def scheduleOf (h : Hub) (name : String) : Option String :=
  (h.rows.schedules.get? name).map (·.text)

variable {start h : Hub} {past : List Event}

theorem scheduleOf_begin (h : Hub) (place : Nat) (other name : String) :
    (h.begin place other).1.scheduleOf name = h.scheduleOf name := by
  have hsame := Traversal.sameSchedules_begin other (h.desk place) name
  unfold begin
  split <;> rename_i hp <;> rw [hp] at hsame <;> exact hsame

/-- What a move makes of a schedule is told. -/
theorem rewritten_move (h : Hub) {m : Move} (hm : m.isManaged = true) (name : String) :
    Rewritten name ((h.move m).2.findSome? (·.scheduled? name)) (h.scheduleOf name)
      ((h.move m).1.scheduleOf name) := by
  have hbegin (h : Hub) (place : Nat) (other : String) :
      Rewritten name ((h.begin place other).2.findSome? (·.scheduled? name)) (h.scheduleOf name)
        ((h.begin place other).1.scheduleOf name) := by
    have htold : ∀ e ∈ (h.begin place other).2, e.scheduled? name = none := by
      intro e he
      obtain ⟨t, rfl⟩ := h.told_begin place other e he
      rfl
    rw [List.findSome?_eq_none_iff.2 htold]
    exact .of_same (h.scheduleOf_begin place other name)
  cases m with
  | ask place op =>
    have hop := Operation.rewrites_of_isManaged name (h.desk place) hm
    have htold : (h.move (.ask place op)).2.findSome? (·.scheduled? name) =
        (Event.asked op (h.answer place op)).scheduled? name := List.findSome?_singleton
    rw [htold]
    exact hop
  | begin place other => exact hbegin h place other
  | work place index =>
    cases hj : h.site.queue[index]? with
    | none =>
      simp only [move, hj]
      exact .kept _
    | some job =>
      simp only [move, hj]
      exact hbegin (h.without index) place job.connector
  | finish index answer =>
    cases hi : h.going[index]? with
    | none =>
      simp only [move, hi]
      exact .kept _
    | some g =>
      simp only [move, hi]
      exact .of_same (Traversal.sameSchedules_finish g.2 answer (h.desk g.1) name)
  | pause clock => exact .kept _

theorem Run.standing {name : String} (hs : start.rows.schedules.get? name = Option.none)
    (run : Run (fun _ m => m.isManaged = true) start past h) :
    Option.Rel (fun terms text => terms.Written name text) (lastScheduled name past)
      (h.scheduleOf name) := by
  induction run with
  | none =>
    rw [scheduleOf, hs]
    exact .none
  | @next past h m run here ih =>
    have hr := h.rewritten_move here name
    rw [lastScheduled_append]
    generalize (h.move m).2.findSome? (·.scheduled? name) = s at hr
    generalize h.scheduleOf name = old at hr ih
    generalize (h.move m).1.scheduleOf name = new at hr
    cases hr with
    | kept => exact ih
    | removed => exact .none
    | written _ hw => exact .some hw

/-- The schedule that is stored for a connector is the one that was last set for it, if it was not
removed since: at any nodes, whatever fails, and whatever is traversed meanwhile. It can be read and
has the values with which it was set, no other move changes it, so that a pass of the scheduler has
nothing to say about it, and no traversal fails because of it. -/
theorem schedule_is_last_set (hs : ∀ name, start.rows.schedules.get? name = none)
    (run : Run (fun _ m => m.isManaged = true) start past h) :
    (∀ name, lastScheduled name past = none → h.rows.schedules.get? name = none) ∧
    (∀ name terms, lastScheduled name past = some terms →
      ∃ row s, h.rows.schedules.get? name = some row ∧
        Schedule.make name terms.load terms.retryDelay terms.intervals = .ok s ∧
        s.format = .ok row.text ∧ Schedule.parse row.text = .ok s ∧ s.connector = name ∧
        s.load = terms.load ∧ s.retryDelay = terms.retryDelay ∧ s.intervals = terms.intervals) ∧
    (∀ m name, m.isManaged = true → (∀ e ∈ (h.move m).2, e.scheduled? name = none) →
      (h.move m).1.scheduleOf name = h.scheduleOf name) ∧
    (∀ place now,
      ((Scheduler.enqueueDue now).perform (h.desk place)).2.site.log = h.site.log) ∧
    (∀ place name resume e,
      ((Traversal.run resume name).perform (h.desk place)).1 ≠ .error (.schedule e)) := by
  have hlast (name : String) := run.standing (hs name)
  have hread : ∀ name row, h.rows.schedules.get? name = some row →
      ∃ s, Schedule.parse row.text = .ok s := by
    intro name row hrow
    have hl := hlast name
    rw [scheduleOf, hrow] at hl
    generalize lastScheduled name past = last at hl
    cases hl with
    | some hw =>
      obtain ⟨s, -, hs⟩ := hw
      exact ⟨s, Schedule.parse_of_format hs⟩
  refine ⟨fun name hnone => ?_, fun name terms hterms => ?_, fun m name hm htold => ?_,
    fun place => Scheduler.silent_enqueueDue hread, fun place name =>
      Traversal.run_ne_schedule (hread name)⟩
  · have hl := hlast name
    rw [hnone] at hl
    cases hrow : h.rows.schedules.get? name with
    | none => rfl
    | some row =>
      rw [scheduleOf, hrow] at hl
      cases hl
  · have hl := hlast name
    rw [hterms] at hl
    cases hrow : h.rows.schedules.get? name with
    | none =>
      rw [scheduleOf, hrow] at hl
      cases hl
    | some row =>
      rw [scheduleOf, hrow] at hl
      cases hl with
      | some hw =>
        obtain ⟨s, hs, ht⟩ := hw
        exact ⟨row, s, rfl, hs, ht, Schedule.parse_of_format ht, Schedule.of_make hs⟩
  · have hr := h.rewritten_move hm name
    rw [List.findSome?_eq_none_iff.2 htold] at hr
    generalize (h.move m).1.scheduleOf name = new at hr
    cases hr
    rfl

/-- A connector is scheduled anew while another node traverses it, and then restarted. -/
def rescheduled : List Move :=
  setUp 0 "a" ++ [.begin 1 "a", .ask 0 (.setSchedule "a" 2 60000 "0-6:18-24"),
    .finish 0 (.ok ⟨[], some "x"⟩), .ask 2 (.restart "a")]

theorem rescheduled_is_last_set :
    ∃ row s, (untouched.play rescheduled).1.rows.schedules.get? "a" = some row ∧
      Schedule.parse row.text = .ok s ∧ s.load = 2 ∧ s.retryDelay = 60000 ∧
      s.intervals = "0-6:18-24" := by
  have hnew : ∀ name, untouched.rows.schedules.get? name = none := fun _ => rfl
  have hallows : untouched.Allows (fun _ m => m.isManaged = true) rescheduled := by decide +kernel
  have hlast : lastScheduled "a" (untouched.play rescheduled).2 =
    some ⟨2, 60000, "0-6:18-24"⟩ := by decide +kernel
  obtain ⟨-, hset, -⟩ := schedule_is_last_set hnew (untouched.run_play rescheduled hallows)
  obtain ⟨row, s, hrow, -, -, hs, -, hload, hdelay, hintervals⟩ := hset "a" _ hlast
  exact ⟨row, s, hrow, hs, Int.ofNat.inj hload, Int.ofNat.inj hdelay, hintervals⟩

end Hub

end ConnectorHub
