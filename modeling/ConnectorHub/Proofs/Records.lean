import ConnectorHub.Store.Runs
import ConnectorHub.Store.States

/-! What is stored about one connector, and how the rows change. Every change is a change of what
is stored about one connector and leaves the others alone. -/
namespace ConnectorHub.Store

open Time

/-- To give a name the value that it has changes nothing. -/
theorem Table.insert_self {t : Table α} {name : String} {a : α} (h : t.get? name = some a) :
    t.insert name a = t := by
  apply Table.ext
  intro other
  by_cases ho : other = name
  · rw [ho, get?_insert_self, h]
  · exact get?_insert_of_ne _ _ ho

/-- Each entry of a table is found by its name. -/
theorem Table.get?_of_mem {t : Table α} {e : String × α} (h : e ∈ t.entries) :
    t.get? e.1 = some e.2 := by
  have hlist (es : List (String × α)) (hs : es.Pairwise (fun a b => a.1 < b.1)) (h : e ∈ es) :
      lookup e.1 es = some e.2 := by
    induction es with
    | nil => cases h
    | cons x es ih =>
      obtain ⟨hx, hs⟩ := List.pairwise_cons.1 hs
      rcases List.mem_cons.1 h with rfl | h
      · simp [lookup]
      · have hne : x.1 ≠ e.1 := fun hn => String.lt_irrefl x.1 (hn ▸ hx e h)
        simp only [lookup, hne, if_false]
        exact ih hs h
  exact hlist t.entries t.sorted h

/-- A value that is found under a name is an entry of the table. -/
theorem Table.mem_of_get? {t : Table α} {name : String} {a : α} (h : t.get? name = some a) :
    (name, a) ∈ t.entries := by
  have hlist (es : List (String × α)) (h : lookup name es = some a) : (name, a) ∈ es := by
    induction es with
    | nil => cases h
    | cons x es ih =>
      rw [lookup] at h
      split at h
      case isTrue hn =>
        cases h
        exact hn ▸ List.mem_cons_self
      case isFalse => exact List.mem_cons_of_mem _ (ih h)
  exact hlist t.entries h

theorem Table.nodup_names (t : Table α) : t.names.Nodup :=
  List.pairwise_map.2 <| t.sorted.imp fun {a b} h hn => by
    rw [hn] at h
    exact String.lt_irrefl _ h

/-- What is stored about one connector. -/
structure Record where
  connector : Option ConnectorRow := none
  schedule : Option ScheduleRow := none
  state : Option StateRow := none
  deriving DecidableEq, Repr

/-- A schedule with other times. Times that it has already stay as they are. -/
def ScheduleRow.marked (row : ScheduleRow) (lastRun nextDue : Option DateTime) : ScheduleRow :=
  if row.lastRun = lastRun ∧ row.nextDue = nextDue then row
  else { row with
    lastRun := lastRun.map (·.withoutOffset)
    nextDue := nextDue.map (·.withoutOffset) }

/-- The schedule stays the same when it gets times. -/
theorem ScheduleRow.text_marked (row : ScheduleRow) (lastRun nextDue : Option DateTime) :
    (row.marked lastRun nextDue).text = row.text := by
  unfold marked
  split <;> rfl

/-- The generation that a state is of; no state is one of generation 0. -/
def generationOf (state : Option StateRow) : Nat := (States.snapshotOf state).generation

/-- A run that has ended. -/
def Run.ending (r : Run) (outcome : Runs.Outcome) (finished : DateTime) : Run :=
  { r with
    status := outcome.status
    items := outcome.items
    errorLog := outcome.errorLog
    finished := some finished.withoutOffset }

namespace Runs

/-- The number of the next run was not given to any other. -/
theorem lt_nextId {runs : List Run} {r : Run} (h : r ∈ runs) : r.id < nextId runs := by
  have hmem : r.id ∈ runs.map (·.id) := List.mem_map_of_mem h
  obtain ⟨m, hm⟩ := Option.isSome_iff_exists.1 (List.isSome_max?_of_mem hmem)
  have hle : r.id ≤ m := (List.max?_eq_some_iff.1 hm).2 _ hmem
  rw [nextId, hm, Option.getD_some]
  omega

theorem place_of_greatest {run : Run} {runs : List Run} (h : ∀ r ∈ runs, r.id < run.id) :
    place run runs = runs ++ [run] := by
  induction runs with
  | nil => rfl
  | cons r rs ih =>
    have hr := h r List.mem_cons_self
    rw [place, if_neg (by omega), ih fun s hs => h s (List.mem_cons_of_mem _ hs), List.cons_append]

end Runs

namespace Rows

def about (rows : Rows) (name : String) : Record :=
  ⟨rows.connectors.get? name, rows.schedules.get? name, rows.states.get? name⟩

/-- A connector gets a configuration. -/
def configured (rows : Rows) (name : String) (row : ConnectorRow) : Rows :=
  { rows with connectors := rows.connectors.insert name row }

/-- A connector gets a schedule; the times of one that it has stay. -/
def scheduled (rows : Rows) (name text : String) : Rows :=
  { rows with schedules :=
    rows.schedules.insert name { (rows.schedules.get? name).getD { text } with text } }

/-- A connector that has a schedule gets times. -/
def marked (rows : Rows) (name : String) (lastRun nextDue : Option DateTime) : Rows :=
  match rows.schedules.get? name with
  | none => rows
  | some row => { rows with schedules := rows.schedules.insert name (row.marked lastRun nextDue) }

/-- A connector is given a checkpoint in the generation that it is in. -/
def advanced (rows : Rows) (name : String) (checkpoint : Option String) : Rows :=
  { rows with states :=
    rows.states.insert name ⟨checkpoint, generationOf (rows.states.get? name)⟩ }

/-- A connector begins its next generation without a checkpoint. -/
def reset (rows : Rows) (name : String) : Rows :=
  { rows with states :=
    rows.states.insert name ⟨none, generationOf (rows.states.get? name) + 1⟩ }

/-- Nothing is stored about a connector any more. -/
def without (rows : Rows) (name : String) : Rows :=
  { rows with
    connectors := rows.connectors.erase name
    schedules := rows.schedules.erase name
    states := rows.states.erase name }

/-- A run of a connector starts, under the next number. -/
def started (rows : Rows) (connector : String) (started : DateTime) : Rows :=
  { rows with runs := Runs.place {
      id := Runs.nextId rows.runs, connector, status := .running
      started := started.withoutOffset } rows.runs }

/-- A run ends. -/
def ended (rows : Rows) (id : Int) (outcome : Runs.Outcome) (finished : DateTime) : Rows :=
  { rows with runs := rows.runs.map fun r =>
    if r.id = id then { r with
      status := outcome.status
      items := outcome.items
      errorLog := outcome.errorLog
      finished := some finished.withoutOffset }
    else r }

/-- The status that is logged for a run. -/
def statusOf (rows : Rows) (run : Int) : Option RunStatus :=
  (rows.runs.find? (·.id = run)).map (·.status)

variable (rows : Rows) (name : String)

/-- The run that is logged for a connector whose traversal begins. -/
def opening (started : DateTime) : Run :=
  { id := Runs.nextId rows.runs, connector := name, status := .running
    started := started.withoutOffset }

theorem runs_started (t : DateTime) :
    (rows.started name t).runs = rows.runs ++ [rows.opening name t] :=
  Runs.place_of_greatest fun _ hr => Runs.lt_nextId hr

theorem runs_ended (id : Int) (outcome : Runs.Outcome) (t : DateTime) :
    (rows.ended id outcome t).runs =
      rows.runs.map fun r => if r.id = id then r.ending outcome t else r := rfl

@[simp] theorem about_configured_self (row : ConnectorRow) :
    (rows.configured name row).about name = { rows.about name with connector := some row } := by
  simp [about, configured]

@[simp] theorem about_scheduled_self (text : String) :
    (rows.scheduled name text).about name = { rows.about name with
      schedule := some { (rows.about name).schedule.getD { text } with text } } := by
  simp [about, scheduled]

@[simp] theorem about_marked_self (lastRun nextDue : Option DateTime) :
    (rows.marked name lastRun nextDue).about name = { rows.about name with
      schedule := (rows.about name).schedule.map (·.marked lastRun nextDue) } := by
  simp only [about, marked]
  cases h : rows.schedules.get? name with
  | none => simp [h]
  | some row => simp

@[simp] theorem about_advanced_self (checkpoint : Option String) :
    (rows.advanced name checkpoint).about name = { rows.about name with
      state := some ⟨checkpoint, generationOf (rows.about name).state⟩ } := by
  simp [about, advanced]

@[simp] theorem about_reset_self :
    (rows.reset name).about name = { rows.about name with
      state := some ⟨none, generationOf (rows.about name).state + 1⟩ } := by
  simp [about, reset]

@[simp] theorem about_without_self : (rows.without name).about name = {} := by
  simp [about, without]

@[simp] theorem about_started (connector : String) (t : DateTime) :
    (rows.started connector t).about name = rows.about name := rfl

@[simp] theorem about_ended (id : Int) (outcome : Runs.Outcome) (t : DateTime) :
    (rows.ended id outcome t).about name = rows.about name := rfl

@[simp] theorem connectors_marked (lastRun nextDue : Option DateTime) :
    (rows.marked name lastRun nextDue).connectors = rows.connectors := by
  unfold marked
  split <;> rfl

@[simp] theorem states_marked (lastRun nextDue : Option DateTime) :
    (rows.marked name lastRun nextDue).states = rows.states := by
  unfold marked
  split <;> rfl

@[simp] theorem runs_marked (lastRun nextDue : Option DateTime) :
    (rows.marked name lastRun nextDue).runs = rows.runs := by
  unfold marked
  split <;> rfl

/-- Times come and go only with a schedule. -/
theorem isSome_schedules_marked (lastRun nextDue : Option DateTime) (other : String) :
    ((rows.marked name lastRun nextDue).schedules.get? other).isSome =
      (rows.schedules.get? other).isSome := by
  unfold marked
  cases h : rows.schedules.get? name with
  | none => rfl
  | some row =>
    by_cases ho : other = name
    · subst ho
      simp [h]
    · simp [Table.get?_insert_of_ne _ _ ho]

@[simp] theorem connectors_reset : (rows.reset name).connectors = rows.connectors := rfl

variable {name} {other : String} (h : other ≠ name)

include h

theorem about_configured_of_ne (row : ConnectorRow) :
    (rows.configured name row).about other = rows.about other := by
  simp [about, configured, Table.get?_insert_of_ne _ _ h]

theorem about_scheduled_of_ne (text : String) :
    (rows.scheduled name text).about other = rows.about other := by
  simp [about, scheduled, Table.get?_insert_of_ne _ _ h]

theorem about_marked_of_ne (lastRun nextDue : Option DateTime) :
    (rows.marked name lastRun nextDue).about other = rows.about other := by
  simp only [about, marked]
  cases rows.schedules.get? name with
  | none => rfl
  | some row => simp [Table.get?_insert_of_ne _ _ h]

theorem about_advanced_of_ne (checkpoint : Option String) :
    (rows.advanced name checkpoint).about other = rows.about other := by
  simp [about, advanced, Table.get?_insert_of_ne _ _ h]

theorem about_reset_of_ne : (rows.reset name).about other = rows.about other := by
  simp [about, reset, Table.get?_insert_of_ne _ _ h]

theorem about_without_of_ne : (rows.without name).about other = rows.about other := by
  simp [about, without, Table.get?_erase_of_ne _ h]

end Rows

end ConnectorHub.Store
