import ConnectorHub.Proofs.Batches
import ConnectorHub.Proofs.Transparency
import ConnectorHub.Proofs.Upkeep

/-! What a whole traversal comes to, whatever its connector does. Over a database that works, and as
long as nobody else touches the connector, the batch that the connector hands back decides: its
documents can be addressed, or all that goes wrong on the way ends in one and the same error. -/
namespace ConnectorHub

open Store Act

namespace Store

namespace Rows

variable (rows : Rows) (name : String)

/-- The runs of a connector. -/
def runsOf : List Run := rows.runs.filter (·.connector = name)

/-- The runs of all other connectors. -/
def runsBeside : List Run := rows.runs.filter (·.connector ≠ name)

theorem runsOf_started (t : Time.DateTime) :
    (rows.started name t).runsOf name = rows.runsOf name ++ [rows.opening name t] := by
  simp [runsOf, runs_started, opening]

theorem runsBeside_started (t : Time.DateTime) :
    (rows.started name t).runsBeside name = rows.runsBeside name := by
  simp [runsBeside, runs_started, opening]

variable {rows name} {id : Int}

theorem map_ending_of_ne {runs : List Run} (h : ∀ r ∈ runs, r.id ≠ id) (outcome : Runs.Outcome)
    (t : Time.DateTime) : runs.map (fun r => if r.id = id then r.ending outcome t else r) = runs :=
  (List.map_congr_left fun r hr => if_neg (h r hr)).trans (List.map_id' runs)

/-- A run that ends stays one of its connector's. -/
theorem filter_ended (id : Int) (p : String → Bool) (outcome : Runs.Outcome) (t : Time.DateTime) :
    (rows.ended id outcome t).runs.filter (fun r => p r.connector) =
      (rows.runs.filter fun r => p r.connector).map
        fun r => if r.id = id then r.ending outcome t else r := by
  simp only [ended, List.filter_map]
  congr 2
  funext r
  dsimp only [Function.comp]
  split <;> rfl

/-- The latest run of a connector ends. -/
theorem runsOf_ended {old : List Run} {run : Run} (hruns : rows.runsOf name = old ++ [run])
    (hid : run.id = id) (hold : ∀ r ∈ old, r.id ≠ id) (outcome : Runs.Outcome)
    (t : Time.DateTime) :
    (rows.ended id outcome t).runsOf name = old ++ [run.ending outcome t] := by
  refine (filter_ended id (fun c => decide (c = name)) outcome t).trans ?_
  change (rows.runsOf name).map _ = _
  rw [hruns, List.map_append, map_ending_of_ne hold, List.map_singleton, if_pos hid]

theorem runsBeside_ended (hid : ∀ r ∈ rows.runs, r.id = id → r.connector = name)
    (outcome : Runs.Outcome) (t : Time.DateTime) :
    (rows.ended id outcome t).runsBeside name = rows.runsBeside name := by
  refine (filter_ended id (fun c => decide (c ≠ name)) outcome t).trans
    (map_ending_of_ne (fun r hr hrid => ?_) outcome t)
  obtain ⟨hmem, hne⟩ := List.mem_filter.1 hr
  exact of_decide_eq_true hne (hid r hmem hrid)

end Rows

end Store

namespace Desk

/-- From one desk to the other the clock was not read. -/
def SameClock (d d' : Desk) : Prop := d'.site.clock = d.site.clock

instance : IsPreorder Desk SameClock where
  refl _ := rfl
  trans _ _ _ h k := Eq.trans k h

/-- From one desk to the other nobody touched a connector or its runs, of which one has this number,
and the database still works. -/
structure Apart (name : String) (run : Int) (d e : Desk) : Prop where
  works : e.Works
  about : e.rows.about name = d.rows.about name
  atHand : e.node.live.get? name = d.node.live.get? name
  runs : e.rows.runsOf name = d.rows.runsOf name
  number : ∀ r ∈ e.rows.runs, r.id = run → r.connector = name

theorem Apart.known {name : String} {run : Int} {d e : Desk} (h : d.Apart name run e) :
    e.known name = d.known name := by
  have hrow : e.rows.connectors.get? name = d.rows.connectors.get? name :=
    congrArg Record.connector h.about
  unfold Desk.known
  rw [h.atHand, hrow]

end Desk

namespace Act

/-- The action does not read the clock, wherever it is performed. -/
abbrev Timeless (a : Act α) : Prop := Moves Desk.SameClock a

theorem timeless_transact (wrap : DatabaseError → Failure) (t : Transaction α) :
    Timeless (transact wrap t) := fun d => by
  rw [perform_transact]
  rfl

theorem timeless_warn (message : String) : Timeless (warn message) := fun _ => rfl

end Act

namespace Instances

theorem timeless_readRow (name : String) : Timeless (readRow name) :=
  (timeless_transact _ _).tryCatch fun _ => .throw _

theorem timeless_has (name : String) : Timeless (has name) := by
  refine Moves.map _ (moves_node.bind fun n => ?_)
  cases n.live.get? name with
  | some i => exact .pure _
  | none => exact timeless_readRow name

theorem timeless_build (name : String) (t : ConnectorType) (config : Config) :
    Timeless (build name t config) := by
  unfold build
  cases t.make config with
  | error _ => exact .throw _
  | ok c => exact fun _ => rfl

theorem timeless_find (name : String) : Timeless (find name) := by
  refine moves_node.bind fun n => ?_
  cases n.live.get? name with
  | some i => exact .pure i
  | none =>
    refine (timeless_readRow name).bind fun r => ?_
    cases r with
    | none => exact .throw _
    | some r =>
      refine Moves.bind (fun _ => rfl) fun t => ?_
      cases t with
      | none => exact .throw _
      | some t => exact (timeless_build name t r.config).bind fun i => fun _ => rfl

end Instances

namespace Traversal

theorem timeless_handOver (t : Opened) : Timeless (handOver t) := by
  refine (Instances.timeless_find t.connector).bind fun i => ?_
  split
  · exact .throw _
  · exact (timeless_transact _ _).bind fun _ => fun _ => rfl

theorem timeless_storeCheckpoint (t : Running) (checkpoint : Option String) :
    Timeless (storeCheckpoint t checkpoint) := by
  refine (Instances.timeless_has t.connector).bind fun there => ?_
  split
  · exact timeless_transact _ _
  · exact .pure false

theorem timeless_warnings (message : AddressError → String) (es : List AddressError) :
    Timeless (forIn es PUnit.unit fun e _ => do
      warn (message e)
      pure (ForInStep.yield PUnit.unit) : Act PUnit) := by
  intro d
  obtain ⟨d₁, hd, hp⟩ := perform_warnings timeless_warn message es d
  rw [hp]
  exact hd

theorem timeless_judge (t : Running) (answer : Except Failure Batch) :
    Timeless (judge t answer) := by
  cases answer with
  | error e => exact .pure _
  | ok b =>
    refine moves_site.bind fun s => (timeless_warnings _ _).bind fun _ => ?_
    split
    · exact .pure _
    · refine (timeless_storeCheckpoint t b.checkpoint).attempt.bind fun stored => ?_
      cases stored with
      | error e => exact .pure _
      | ok stored => exact .pure _

/-- A traversal counts the documents that have an address, or none if something hinders that all are
addressed. -/
theorem items_verdict (t : Running) (b : Batch) (d : Desk) :
    (verdict t (.ok b) d).items =
      if (addressAll (d.site.settings.addressing t.connector) b.documents).rest = none then
        addressable (d.site.settings.addressing t.connector) b.documents
      else 0 := by
  obtain ⟨d₁, -, hp⟩ := perform_warnings calm_warn
    (fun e => "Skipping document from " ++
      (d.site.settings.addressing t.connector).dataSource ++ ": " ++ e.message)
    (addressAll (d.site.settings.addressing t.connector) b.documents).refusals d
  simp only [verdict, judge, settle, perform_bind, perform_site]
  rw [hp]
  cases hr : (addressAll (d.site.settings.addressing t.connector) b.documents).rest with
  | some e => rfl
  | none =>
    rw [if_pos rfl, ← length_addresses hr]
    simp only [perform_bind, perform_attempt]
    cases ((storeCheckpoint t b.checkpoint).perform d₁).1 <;> rfl

/-- A traversal whose batch cannot be used fails and counts none. -/
theorem verdict_of_not_usable {t : Running} {answer : Except Failure Batch} {d d' : Desk}
    (hj : Judged t d answer (verdict t answer d) d') (h : ¬ t.Usable answer d) :
    (verdict t answer d).status = .error ∧ (verdict t answer d).items = 0 := by
  constructor
  · cases hj with
    | stored usable => exact absurd ⟨_, rfl, usable⟩ h
    | overtaken usable => exact absurd ⟨_, rfl, usable⟩ h
    | failed _ status => exact status
  · cases answer with
    | error f => rfl
    | ok b => rw [items_verdict, if_neg fun hr => h ⟨b, rfl, hr⟩]

/-- Of a connector that has no schedule or is not there it is only told that it is gone. -/
theorem perform_open?_of_gone {d : Desk} {name : String} (hf : d.Faithful) (hw : d.Works)
    (h : d.rows.schedules.get? name = none ∨ d.rows.connectors.get? name = none) :
    ∃ n, (open? name).perform d =
      (.ok none,
        ((warn ("Connector " ++ name ++ " is no longer scheduled")).perform (d.counting n)).2) := by
  obtain ⟨n, hp⟩ := perform_store_of_works (Schedules.means_find? name)
    ("read schedule for " ++ name) hw
  unfold open?
  simp only [perform_bind]
  rw [hp]
  cases hr : d.rows.schedules.get? name with
  | none => exact ⟨n, rfl⟩
  | some row =>
    have hk : d.rows.connectors.get? name = none := h.resolve_left (by simp [hr])
    obtain ⟨m, hh | ⟨hbroken, -⟩⟩ := Instances.perform_has_counting name d n
    · rw [hf.known, hk] at hh
      refine ⟨m, ?_⟩
      simp only [perform_bind, hh]
      rfl
    · exact absurd hw hbroken

/-- For any other connector a run is logged. -/
theorem perform_open?_of_known {d : Desk} {name : String} (hw : d.Works) {row : ScheduleRow}
    {s : Schedule} (hr : d.rows.schedules.get? name = some row) (hk : (d.known name).isSome)
    (hs : Schedule.parse row.text = .ok s) :
    ∃ n, (open? name).perform d =
      (.ok (some ⟨name, s, Runs.nextId d.rows.runs⟩),
        ((readClock.perform d).2.withRows (d.rows.started name d.site.clock.now)).counting n) := by
  obtain ⟨n, hp⟩ := perform_store_of_works (Schedules.means_find? name)
    ("read schedule for " ++ name) hw
  obtain ⟨m, hh | ⟨hbroken, -⟩⟩ := Instances.perform_has_counting name d n
  case inr => exact absurd hw hbroken
  rw [hk] at hh
  have hread : readClock.perform (d.counting m) =
    (.ok d.site.clock.now, (readClock.perform d).2.counting m) := rfl
  rcases perform_transact_cases (Runs.means_start name d.site.clock.now) .database
    ((readClock.perform d).2.counting m) with ⟨id, rows, k, hstart, ht⟩ | ⟨e, k, he, -⟩
  · cases hstart
    rw [Desk.withRows_counting, Desk.counting_counting] at ht
    refine ⟨m + k, ?_⟩
    unfold open?
    simp only [perform_bind]
    rw [hp, hr]
    simp only [perform_bind, hh, if_true, perform_give, hs, mapError_ok, hread, ht]
    rfl
  · rcases he with he | ⟨-, hbroken⟩
    · cases he
    · exact absurd (((calm_readClock d).works hw).counting _ m) hbroken

/-- The traversal of a connector that began at `d` goes on at `c`: its run is logged, and nothing
else was done to the connector but maybe to its state. All that is not the connector's is as at
`e`. -/
structure Underway (name : String) (d e c : Desk) : Prop where
  works : c.Works
  connector : (c.rows.about name).connector = (d.rows.about name).connector
  schedule : (c.rows.about name).schedule = (d.rows.about name).schedule
  logged : c.rows.runsOf name = d.rows.runsOf name ++ [d.rows.opening name d.site.clock.now]
  number : ∀ r ∈ c.rows.runs, r.id = Runs.nextId d.rows.runs → r.connector = name
  others : ∀ other, other ≠ name → c.rows.about other = e.rows.about other
  runsBeside : c.rows.runsBeside name = e.rows.runsBeside name
  clock : c.site.clock = e.site.clock
  locks : c.site.locks = e.site.locks
  queue : c.site.queue = e.site.queue

namespace Underway

variable {name : String} {d e c c' : Desk}

theorem of_started (hw : d.Works) (n : Nat) :
    Underway name d (readClock.perform d).2
      (((readClock.perform d).2.withRows (d.rows.started name d.site.clock.now)).counting n) where
  works := ((calm_readClock d).works hw).counting _ n
  connector := rfl
  schedule := rfl
  logged := d.rows.runsOf_started name d.site.clock.now
  number := by
    intro r hr hid
    rw [Desk.rows_counting, Desk.rows_withRows, Rows.runs_started] at hr
    rcases List.mem_append.1 hr with hr | hr
    · exact absurd hid (Int.ne_of_lt (Runs.lt_nextId hr))
    · rw [List.mem_singleton.1 hr]
      rfl
  others := fun _ _ => rfl
  runsBeside := d.rows.runsBeside_started name d.site.clock.now
  clock := rfl
  locks := rfl
  queue := rfl

theorem calm (h : Underway name d e c) (hc : c.Calm c') (ht : c.SameClock c') :
    Underway name d e c' where
  works := hc.works h.works
  connector := by rw [hc.rows, h.connector]
  schedule := by rw [hc.rows, h.schedule]
  logged := by rw [hc.rows, h.logged]
  number := by
    rw [hc.rows]
    exact h.number
  others := fun other ho => by rw [hc.rows, h.others other ho]
  runsBeside := by rw [hc.rows, h.runsBeside]
  clock := Eq.trans ht h.clock
  locks := hc.locks.trans h.locks
  queue := hc.queue.trans h.queue

/-- Whatever happens while nobody touches the connector is all others' business. -/
theorem apart (h : Underway name d e c) {run : Int} (hrun : run = Runs.nextId d.rows.runs)
    (ha : c.Apart name run c') : Underway name d c' c' where
  works := ha.works
  connector := by rw [ha.about, h.connector]
  schedule := by rw [ha.about, h.schedule]
  logged := ha.runs.trans h.logged
  number := hrun ▸ ha.number
  others := fun _ _ => rfl
  runsBeside := rfl
  clock := rfl
  locks := rfl
  queue := rfl

theorem judged (h : Underway name d e c) {t : Running} {answer : Except Failure Batch} {r : Result}
    (hj : Judged t c answer r c') (ht : c.SameClock c') (hn : t.connector = name) :
    Underway name d e c' := by
  exact {
    works := hj.sparing.works h.works
    connector := (congrArg (·.get? name) hj.sparing.connectors).trans h.connector
    schedule := (hn ▸ hj.schedule).trans h.schedule
    logged := by rw [Rows.runsOf, hj.runs, ← h.logged]; rfl
    number := by rw [hj.runs]; exact h.number
    others := fun other ho => (hj.about_of_ne (hn ▸ ho)).trans (h.others other ho)
    runsBeside := by rw [Rows.runsBeside, hj.runs, ← h.runsBeside]; rfl
    clock := Eq.trans ht h.clock
    locks := hj.idle.locks.trans h.locks
    queue := hj.idle.queue.trans h.queue }

end Underway

/-- The traversal of a connector that has a schedule and is there gets under way. -/
theorem underway_of_scheduled {name : String} {d : Desk} (hf : d.Faithful) (hw : d.Works)
    {row : ScheduleRow} {c : ConnectorRow} {s : Schedule}
    (hrow : d.rows.schedules.get? name = some row) (hc : d.rows.connectors.get? name = some c)
    (hs : Schedule.parse row.text = .ok s) :
    ∃ d₁, (open? name).perform d = (.ok (some ⟨name, s, Runs.nextId d.rows.runs⟩), d₁) ∧
      Underway name d (readClock.perform d).2 d₁ ∧ d₁.rows.about name = d.rows.about name ∧
      d₁.known name = some c := by
  have hknown : d.known name = some c := (hf.known name).trans hc
  obtain ⟨n, ho⟩ := perform_open?_of_known hw hrow (by rw [hknown]; rfl) hs
  exact ⟨_, ho, .of_started hw n, rfl, hknown⟩

/-- How a traversal ends that began at `d` for a connector with this schedule; its answer and the
desk that it leaves are `p`. One run is logged, with this status and so many items, and the connector
has this state. If the calendar has a time at which it is due next, the number of items is answered
and the connector gets its times; else neither. The lock is freed, and all else is as at `e`. -/
structure Ends (name : String) (row : ScheduleRow) (s : Schedule) (status : RunStatus) (items : Nat)
    (state : Option StateRow) (d e : Desk) (p : Except Failure Nat × Desk) : Prop where
  logged : ∃ errorLog, p.2.rows.runsOf name = d.rows.runsOf name ++
    [(d.rows.opening name d.site.clock.now).ending ⟨status, items, errorLog⟩ e.site.clock.now]
  state : (p.2.rows.about name).state = state
  due : ∀ due, s.nextDue items e.site.clock.now = .ok due → p.1 = .ok items ∧
    (p.2.rows.about name).schedule = some (row.marked (some e.site.clock.now) due)
  beyond : ∀ f, s.nextDue items e.site.clock.now = .error f → (∃ g, p.1 = .error g) ∧
    (p.2.rows.about name).schedule = some row
  connector : (p.2.rows.about name).connector = (d.rows.about name).connector
  others : ∀ other, other ≠ name → p.2.rows.about other = e.rows.about other
  runsBeside : p.2.rows.runsBeside name = e.rows.runsBeside name
  locks : p.2.site.locks = e.site.locks.erase (lockKey name)
  queue : p.2.site.queue = e.site.queue

section

variable {t : Opened} {r : Result} {c c' : Desk} {x : Except Failure Nat}

/-- Where no statement fails, only the end of the calendar keeps a traversal that was not overtaken
from giving its connector times. -/
theorem Closed.of_works (h : Closed t r c x c') (hw : c.Works) (ho : r.overtaken = false) :
    (∃ due, t.schedule.nextDue r.counted c.site.clock.now = .ok due ∧ x = .ok r.items ∧
      (c'.rows.about t.connector).schedule = (c.rows.about t.connector).schedule.map
        (·.marked (some c.site.clock.now) due)) ∨
    (∃ f g, t.schedule.nextDue r.counted c.site.clock.now = .error f ∧ x = .error g ∧
      (c'.rows.about t.connector).schedule = (c.rows.about t.connector).schedule) := by
  cases h with
  | unlogged broken => exact absurd hw broken
  | overtaken overtaken =>
    rw [ho] at overtaken
    cases overtaken
  | unmarked _ why =>
    obtain ⟨f, hf⟩ := why.resolve_left fun broken => broken hw
    exact .inr ⟨f, _, hf, rfl, rfl⟩
  | marked _ next =>
    refine .inl ⟨_, next, rfl, ?_⟩
    rw [Desk.rows_counting, Desk.rows_withRows, Rows.about_marked_self, Rows.about_ended]

/-- A traversal that is under way ends when it is closed. -/
theorem Underway.ends {name : String} {row : ScheduleRow} {d e : Desk} (h : Underway name d e c)
    (hc : Closed t r c x c') (hname : t.connector = name) (hrun : t.run = Runs.nextId d.rows.runs)
    (hrow : d.rows.schedules.get? name = some row) (ho : r.overtaken = false)
    (hcounted : r.counted = r.items) :
    Ends name row t.schedule r.status r.items (c.rows.about name).state d e
      (x, { c' with site := c'.site.unlock (lockKey name) }) := by
  have hrunning : ∀ r ∈ d.rows.runsOf name, r.id ≠ t.run := fun r hr =>
    hrun ▸ Int.ne_of_lt (Runs.lt_nextId (List.mem_filter.1 hr).1)
  have hlogged := Rows.runsOf_ended h.logged hrun.symm hrunning r.toOutcome c.site.clock.now
  have hbeside := Rows.runsBeside_ended (hrun ▸ h.number) r.toOutcome c.site.clock.now
  have hruns := hc.runs h.works
  have hschedule : (c.rows.about name).schedule = some row := h.schedule.trans hrow
  have hclosed := hc.of_works h.works ho
  rw [hcounted, hname, hschedule, h.clock] at hclosed
  rw [h.clock] at hlogged
  refine {
    logged := ⟨r.errorLog, ?_⟩
    state := congrArg (·.get? name) hc.passing.states
    due := fun due hnext => ?_
    beyond := fun f hnext => ?_
    connector := (congrArg (·.get? name) hc.passing.connectors).trans h.connector
    others := fun other ho => (hc.about_of_ne (hname ▸ ho)).trans (h.others other ho)
    runsBeside := ?_
    locks := congrArg (·.erase (lockKey name)) (hc.passing.locks.trans h.locks)
    queue := hc.passing.queue.trans h.queue }
  · rw [← hlogged, Rows.runsOf, ← h.clock]
    exact congrArg (List.filter _) hruns
  · rcases hclosed with ⟨due', hnext', hx, hmarked⟩ | ⟨f, g, hnext', -, -⟩
    · obtain rfl : due = due' := Except.ok.inj (hnext.symm.trans hnext')
      exact ⟨hx, hmarked⟩
    · cases hnext.symm.trans hnext'
  · rcases hclosed with ⟨due, hnext', -, -⟩ | ⟨f', g, hnext', hx, hsame⟩
    · cases hnext.symm.trans hnext'
    · exact ⟨⟨g, hx⟩, hsame⟩
  · rw [← h.runsBeside, ← hbeside]
    exact congrArg (List.filter _) hruns

end

/-- The batch that the connector of a traversal hands back, if it comes to that, and the desk at
which the traversal turns to its end. -/
def handBack (resume : Running → Act Batch) (name : String) (d : Desk) : Option Batch × Desk :=
  match (begin name).perform d with
  | (.ok (.running t), d₁) => (((resume t).perform d₁).1.toOption, ((resume t).perform d₁).2)
  | _ => (none, (readClock.perform d).2)

section

variable {resume : Running → Act Batch} {name : String} {d d₁ d₂ : Desk}

theorem begin_of_over {items : Nat} (h : (start name).perform d = (.ok (.over items), d₁)) :
    (begin name).perform d =
      (.ok (.over items), { d₁ with site := d₁.site.unlock (lockKey name) }) := by
  rw [begin, perform_bind, perform_attempt, h]
  rfl

theorem begin_of_error {f : Failure} (h : (start name).perform d = (.error f, d₁)) :
    (begin name).perform d = (.error f, { d₁ with site := d₁.site.unlock (lockKey name) }) := by
  rw [begin, perform_bind, perform_attempt, h]
  rfl

theorem run_of_gone (h : (open? name).perform d = (.ok none, d₁)) :
    (run resume name).perform d =
      (.ok 0, { d₁ with site := d₁.site.unlock (lockKey name) }) := by
  have hstart : (start name).perform d = (.ok (.over 0), d₁) := by
    rw [start, perform_bind, h]
    rfl
  rw [run, perform_bind, begin_of_over hstart]
  rfl

theorem begin_of_handedOver {t : Opened} {r : Running}
    (ho : (open? name).perform d = (.ok (some t), d₁))
    (hh : (handOver t).perform d₁ = (.ok r, d₂)) :
    (begin name).perform d = (.ok (.running r), d₂) := by
  have hstart : (start name).perform d = (.ok (.running r), d₂) := by
    rw [start, perform_bind, ho]
    dsimp only
    rw [perform_bind, perform_attempt, hh]
    rfl
  rw [begin, perform_bind, perform_attempt, hstart]
  rfl

theorem handBack_of_not_handedOver {x : Except Failure Begun}
    (h : (begin name).perform d = (x, d₁)) (hx : ∀ r, x ≠ .ok (.running r)) :
    handBack resume name d = (none, (readClock.perform d).2) := by
  delta handBack
  rw [h]
  rcases x with f | ⟨items⟩ | ⟨r⟩
  · rfl
  · rfl
  · exact absurd rfl (hx r)

theorem run_of_handedOver {r : Running} (h : (begin name).perform d = (.ok (.running r), d₁)) :
    (run resume name).perform d =
      (finish r ((resume r).perform d₁).1).perform ((resume r).perform d₁).2 := by
  rw [run, perform_bind, h]
  dsimp only
  rw [perform_bind, perform_attempt]

theorem handBack_of_handedOver {r : Running} (h : (begin name).perform d = (.ok (.running r), d₁)) :
    handBack resume name d = (((resume r).perform d₁).1.toOption, ((resume r).perform d₁).2) := by
  delta handBack
  rw [h]

/-- A traversal whose connector cannot be handed over to is over at once. -/
theorem begin_of_not_handedOver {t : Opened} {f : Failure}
    (ho : (open? name).perform d = (.ok (some t), d₁))
    (hh : (handOver t).perform d₁ = (.error f, d₂)) :
    (begin name).perform d = (((close t (failed 0 f)).perform d₂).1.map .over,
      { ((close t (failed 0 f)).perform d₂).2 with
        site := ((close t (failed 0 f)).perform d₂).2.site.unlock (lockKey name) }) := by
  have hstart : (start name).perform d =
      (((close t (failed 0 f)).perform d₂).1.map .over, ((close t (failed 0 f)).perform d₂).2) := by
    rw [start, perform_bind, ho]
    dsimp only
    rw [perform_bind, perform_attempt, hh]
    dsimp only
    rw [perform_bind]
    rcases (close t (failed 0 f)).perform d₂ with ⟨_ | items, d₃⟩ <;> rfl
  cases hc : (close t (failed 0 f)).perform d₂ with
  | mk x d₃ =>
    rw [hc] at hstart
    cases x with
    | error g => exact begin_of_error hstart
    | ok items => exact begin_of_over hstart

/-- Nor is anything handed back. -/
theorem run_of_not_handedOver {t : Opened} {f : Failure}
    (ho : (open? name).perform d = (.ok (some t), d₁))
    (hh : (handOver t).perform d₁ = (.error f, d₂)) :
    handBack resume name d = (none, (readClock.perform d).2) ∧
      (run resume name).perform d = (((close t (failed 0 f)).perform d₂).1,
        { ((close t (failed 0 f)).perform d₂).2 with
          site := ((close t (failed 0 f)).perform d₂).2.site.unlock (lockKey name) }) := by
  have hbegin := begin_of_not_handedOver ho hh
  cases hc : (close t (failed 0 f)).perform d₂ with
  | mk x d₃ =>
    rw [hc] at hbegin
    refine ⟨handBack_of_not_handedOver hbegin (fun r h => by cases x <;> cases h), ?_⟩
    rw [run, perform_bind, hbegin]
    cases x <;> rfl

end

/-- A traversal whose connector nobody touched ends well exactly if its batch can be used. -/
theorem Underway.ends_finish {name : String} {row : ScheduleRow} {d e : Desk} {t : Running}
    (h : Underway name d e e) (hname : t.connector = name)
    (hrun : t.run = Runs.nextId d.rows.runs) (hrow : d.rows.schedules.get? name = some row)
    (hknown : (e.known name).isSome)
    (hcurrent : generationOf (e.rows.about name).state = t.snapshot.generation)
    (hfits : t.snapshot.generation < 9223372036854775808) (answer : Except Failure Batch) :
    (∀ b, answer = .ok b →
      (addressAll (e.site.settings.addressing name) b.documents).rest = none →
      Ends name row t.schedule .success (addressable (e.site.settings.addressing name) b.documents)
        (some ⟨b.checkpoint, t.snapshot.generation⟩) d e ((finish t answer).perform e)) ∧
    (¬ t.Usable answer e → Ends name row t.schedule .error 0 (e.rows.about name).state d e
      ((finish t answer).perform e)) := by
  obtain ⟨c, x, c', hp, hj, hc, hfinish⟩ := perform_finish t answer e
  have htime : e.SameClock c := by
    have := timeless_judge t answer e
    rwa [hp] at this
  have hunder := h.judged hj htime hname
  obtain ⟨hstores, hovertaken⟩ := hj.iff_of_works h.works hfits
  have hpresent : (e.known t.connector).isSome ∧
      generationOf (e.rows.about t.connector).state = t.snapshot.generation := by
    rw [hname]
    exact ⟨hknown, hcurrent⟩
  have hnot : (verdict t answer e).overtaken = false := by
    rw [← Bool.not_eq_true, hovertaken]
    exact fun ho => ho.2 hpresent
  rw [hfinish, hname]
  constructor
  · rintro b rfl hrest
    subst hname
    have hs := hstores.2 ⟨⟨b, rfl, hrest⟩, hpresent⟩
    have hitems := items_verdict t b e
    rw [if_pos hrest] at hitems
    have hends := hunder.ends hc rfl hrun hrow hnot (if_pos hs.1)
    rw [hs.1, hitems] at hends
    rcases hj.about with ⟨-, b', hb, -, habout⟩ | ⟨hno, -⟩
    · cases hb
      rwa [habout] at hends
    · exact absurd hs hno
  · intro husable
    obtain ⟨hstatus, hitems⟩ := verdict_of_not_usable hj husable
    have hcounted : (verdict t answer e).counted = (verdict t answer e).items := by
      rw [Result.counted, hstatus, hitems]
      rfl
    have hends := hunder.ends hc hname hrun hrow hnot hcounted
    rw [hstatus, hitems] at hends
    rcases hj.about with ⟨hs, -⟩ | ⟨-, habout⟩
    · exact absurd (hstores.1 hs).1 husable
    · rwa [← hname, habout, hname] at hends

/-- Nobody touches a connector that does nothing to its hub. -/
theorem HandedOver.apart_self {name : String} {t : Running} {d d₁ : Desk}
    (h : HandedOver name d t d₁) (hw : d.Works) : d₁.Apart name t.run d₁ where
  works := h.passing.works hw
  about := rfl
  atHand := rfl
  runs := rfl
  number := by
    rw [h.rows, h.run]
    exact (Underway.of_started hw 0).number

theorem handedOver_of_begin {name : String} {t : Running} {d d₁ : Desk}
    (h : (begin name).perform d = (.ok (.running t), d₁)) : HandedOver name d t d₁ := by
  rcases perform_begin name d with ⟨t', d', ht, hp⟩ | ⟨x, d', hx, -, hp⟩
  · cases hp.symm.trans h
    exact ht
  · cases hp.symm.trans h
    exact absurd rfl (hx t)

/-- A traversal ends in one of two ways, and its connector's batch decides in which. -/
theorem ends_run {name : String} {d : Desk} (hf : d.Faithful) (hw : d.Works) (hfits : d.rows.Fits)
    {row : ScheduleRow} {c : ConnectorRow} {s : Schedule}
    (hrow : d.rows.schedules.get? name = some row) (hc : d.rows.connectors.get? name = some c)
    (hs : Schedule.parse row.text = .ok s) (resume : Running → Act Batch)
    (hquiet : ∀ t d₁, (begin name).perform d = (.ok (.running t), d₁) →
      d₁.Apart name t.run ((resume t).perform d₁).2) :
    let p := (run resume name).perform d
    let back := handBack resume name d
    let a := back.2.site.settings.addressing name
    (∀ b, back.1 = some b → (addressAll a b.documents).rest = none →
      Ends name row s .success (addressable a b.documents)
        (some ⟨b.checkpoint, generationOf (d.rows.about name).state⟩) d back.2 p) ∧
    ((∀ b, back.1 = some b → (addressAll a b.documents).rest ≠ none) →
      Ends name row s .error 0 (d.rows.about name).state d back.2 p) := by
  intro p back a
  obtain ⟨d₁, ho, hunder, hlogged, hknown⟩ := underway_of_scheduled hf hw hrow hc hs
  have htime := timeless_handOver ⟨name, s, Runs.nextId d.rows.runs⟩ d₁
  rcases perform_handOver ⟨name, s, Runs.nextId d.rows.runs⟩ d₁ with
    ⟨t, d₂, ht, hsnap, hcalm, -, hh⟩ | ⟨f, d₂, hcalm, hh⟩ <;> rw [hh] at htime
  · -- Nobody touched the connector since, so that the traversal was not overtaken.
    have hbegin := begin_of_handedOver ho hh
    have happ := hquiet t d₂ hbegin
    have hname : t.connector = name := congrArg Opened.connector ht
    have hrun : t.run = Runs.nextId d.rows.runs := congrArg Opened.run ht
    have hschedule : t.schedule = s := congrArg Opened.schedule ht
    have hback : back = _ := handBack_of_handedOver hbegin
    have hp : p = _ := run_of_handedOver hbegin
    have habout : ((resume t).perform d₂).2.rows.about name = d.rows.about name := by
      rw [happ.about, hcalm.rows, hlogged]
    have hgeneration : t.snapshot.generation = generationOf (d.rows.about name).state := by
      rw [hsnap, ← hlogged]
      rfl
    obtain ⟨hwell, hill⟩ := ((hunder.calm hcalm htime).apart hrun happ).ends_finish hname hrun hrow
      (by rw [happ.known, hcalm.known, hknown]; rfl) (by rw [habout, hgeneration])
      (hgeneration ▸ hfits name) ((resume t).perform d₂).1
    rw [hgeneration, hschedule] at hwell
    rw [habout, hschedule] at hill
    have hbatch (b : Batch) : ((resume t).perform d₂).1.toOption = some b ↔
        ((resume t).perform d₂).1 = .ok b := by
      cases ((resume t).perform d₂).1 <;> simp [Except.toOption]
    rw [hp]
    simp only [a, hback, hbatch]
    refine ⟨hwell, fun hrest => hill ?_⟩
    rintro ⟨b, hb, hnone⟩
    rw [hname] at hnone
    exact hrest b hb hnone
  · -- The connector cannot be handed over to, which is closed like a failure of the connector.
    obtain ⟨hback, hp⟩ := @run_of_not_handedOver resume name d d₁ d₂ _ f ho hh
    have hclosed := closed_of_perform ⟨name, s, Runs.nextId d.rows.runs⟩ (failed 0 f) d₂
    have hends := (hunder.calm hcalm htime).ends hclosed rfl rfl hrow rfl rfl
    rw [hcalm.rows, hlogged] at hends
    have hback : back = _ := hback
    have hp : p = _ := hp
    rw [hback, hp]
    exact ⟨fun _ hb => (Option.some_ne_none _ hb.symm).elim, fun _ => hends⟩

end Traversal

namespace Hub

/-- What a whole traversal comes to at a node whose database works and which started with nothing at
hand, while nobody else touches the connector. If the connector has no schedule or is not there, that
is logged, the lock is freed, and nothing else happens. Else the traversal ends well if its connector
hands back a batch and nothing hinders that its documents are addressed. Then the documents that have
an address are counted, and the checkpoint of the batch is stored in the same generation. Whatever
else its connector does, the traversal ends with an error; it counts no documents, and the state of
the connector stays. -/
theorem traversal_outcome {start h : Hub} {past : List Event} {place : Nat}
    (hnew : (start.node place).live = .empty) (hfits : start.rows.Fits)
    (run : Run (fun _ m => m.isOwn place = true) start past h) (hw : h.Works)
    (resume : Traversal.Running → Act Batch) (name : String)
    (hquiet : ∀ t d₁, (Traversal.begin name).perform (h.desk place) = (.ok (.running t), d₁) →
      d₁.Apart name t.run ((resume t).perform d₁).2) :
    let d := h.desk place
    let p := (Traversal.run resume name).perform d
    let back := Traversal.handBack resume name d
    let a := back.2.site.settings.addressing name
    (d.rows.schedules.get? name = none ∨ d.rows.connectors.get? name = none →
      p.1 = .ok 0 ∧ ∃ n, p.2 = { d.counting n with
        site := ((d.counting n).site.logs
          ⟨.warning, "Connector " ++ name ++ " is no longer scheduled"⟩).unlock (lockKey name) }) ∧
    ∀ row c s, d.rows.schedules.get? name = some row → d.rows.connectors.get? name = some c →
      Schedule.parse row.text = .ok s →
      (∀ b, back.1 = some b → (Traversal.addressAll a b.documents).rest = none →
        Traversal.Ends name row s .success (Traversal.addressable a b.documents)
          (some ⟨b.checkpoint, generationOf (d.rows.about name).state⟩) d back.2 p) ∧
      ((∀ b, back.1 = some b → (Traversal.addressAll a b.documents).rest ≠ none) →
        Traversal.Ends name row s .error 0 (d.rows.about name).state d back.2 p) := by
  intro d p back a
  have hf : d.Faithful := run.faithful_own hnew
  refine ⟨fun hgone => ?_, fun row c s hrow hc hs =>
    Traversal.ends_run hf hw (run.fits hfits) hrow hc hs resume hquiet⟩
  obtain ⟨n, ho⟩ := Traversal.perform_open?_of_gone hf hw hgone
  have hp : p = _ := Traversal.run_of_gone ho
  rw [hp]
  exact ⟨rfl, n, rfl⟩

/-- Of three documents two have an address. -/
def mixedBatch : Batch where
  documents := [[("google:searchurl", .text "http://example/doc1")], [("google:docid", .text "42")],
    [("title", .text "no address")]]
  checkpoint := some "cp-1"

/-- They are counted. The connector may be traversed at any hour, and so is due again at once. -/
theorem traversal_counts_addressable :
    let d := (untouched.play (setUp 0 "a")).1.desk 0
    let p := (Traversal.run (fun _ => pure mixedBatch) "a").perform d
    p.1 = .ok 2 ∧ (p.2.rows.about "a").state = some ⟨some "cp-1", 0⟩ ∧
      (p.2.rows.runsOf "a").map (fun r => (r.status, r.items)) = [(.success, 2)] ∧
      (p.2.rows.about "a").schedule.map (·.nextDue) =
        some (some d.site.clock.now.withoutOffset) := by
  intro d p
  let back := Traversal.handBack (fun _ => pure mixedBatch) "a" d
  let a := back.2.site.settings.addressing "a"
  have hallows : untouched.Allows (fun _ m => m.isOwn 0 = true) (setUp 0 "a") := by decide +kernel
  have hnew : (untouched.node 0).live = .empty := rfl
  have hquiet : ∀ t d₁, (Traversal.begin "a").perform d = (.ok (.running t), d₁) →
      d₁.Apart "a" t.run d₁ :=
    fun t d₁ hbegin => (Traversal.handedOver_of_begin hbegin).apart_self fun _ _ _ => rfl
  obtain ⟨-, hends⟩ := traversal_outcome hnew (fun _ => Nat.zero_lt_succ _)
    (untouched.run_play (setUp 0 "a") hallows) (fun _ _ _ => rfl) (fun _ => pure mixedBatch) "a"
    hquiet
  have hrow : d.rows.schedules.get? "a" = some ⟨"a:1:0:0-24", none, none⟩ := by decide +kernel
  have hc : d.rows.connectors.get? "a" = some ⟨"plain", .empty⟩ := by decide +kernel
  have hfirst : d.rows.runsOf "a" = [] := by decide +kernel
  have hback : back.1 = some mixedBatch := rfl
  have hnow : back.2.site.clock.now = d.site.clock.now := by decide +kernel
  have husable : (Traversal.addressAll a mixedBatch.documents).rest = none := by decide +kernel
  have hcount : Traversal.addressable a mixedBatch.documents = 2 := by decide +kernel
  have hnext : (Schedule.parse "a:1:0:0-24").toOption.map (·.nextDue 2 d.site.clock.now) =
      some (.ok (some d.site.clock.now)) := by decide +kernel
  cases hs : Schedule.parse "a:1:0:0-24" with
  | error e =>
    rw [hs] at hnext
    cases hnext
  | ok s =>
    have h := (hends _ _ s hrow hc hs).1 mixedBatch hback husable
    rw [hs] at hnext
    rw [hcount] at h
    obtain ⟨hanswer, hschedule⟩ := h.due (some d.site.clock.now) (by
      rw [hnow]
      exact Option.some.inj hnext)
    obtain ⟨errorLog, hlogged⟩ := h.logged
    refine ⟨hanswer, ?_, ?_, ?_⟩
    · rw [h.state]
      decide +kernel
    · rw [hlogged, hfirst]
      rfl
    · rw [hschedule]
      decide +kernel

end Hub

end ConnectorHub
