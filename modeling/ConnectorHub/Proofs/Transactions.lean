import ConnectorHub.Proofs.Records
import ConnectorHub.Store.Connectors
import ConnectorHub.Store.Schedules

/-! What transactions mean: a function on the rows, which is what happens unless a statement fails.
A statement that fails is met by undoing the transaction, so that nothing else can happen. -/
namespace ConnectorHub.Store

namespace Transaction

/-- The transaction changes the rows and answers as `f` does, unless a statement fails. -/
def Means (t : Transaction α) (f : Rows → Except DatabaseError (α × Rows)) : Prop :=
  ∀ d : Database,
    (∃ x rows n, f d.rows = .ok (x, rows) ∧
      t d = .ok x { d with rows, issued := d.issued + n }) ∨
    (∃ e rows n, (f d.rows = .error e ∨ e = .operational ∧ ¬ d.Works) ∧
      t d = .error e { d with rows, issued := d.issued + n })

theorem Means.pure (x : α) : Means (pure x) fun rows => .ok (x, rows) :=
  fun d => .inl ⟨x, d.rows, 0, rfl, rfl⟩

theorem Means.throw (e : DatabaseError) : Means (throw e : Transaction α) fun _ => .error e :=
  fun d => .inr ⟨e, d.rows, 0, .inl rfl, rfl⟩

theorem Means.bind {t : Transaction α} {k : α → Transaction β}
    {f : Rows → Except DatabaseError (α × Rows)} {g : α → Rows → Except DatabaseError (β × Rows)}
    (ht : Means t f) (hk : ∀ x, Means (k x) (g x)) :
    Means (t >>= k) fun rows => (f rows).bind fun (x, rows) => g x rows := by
  intro d
  rcases ht d with ⟨x, rows, n, hf, h⟩ | ⟨e, rows, n, hf, h⟩
  · have hb : (t >>= k) d = k x { d with rows, issued := d.issued + n } := by
      simp only [Bind.bind, EStateM.bind, h]
    rcases hk x { d with rows, issued := d.issued + n } with
      ⟨y, rows', n', hg, h'⟩ | ⟨e, rows', n', hg, h'⟩
    · exact .inl ⟨y, rows', n + n', by simpa [hf, Except.bind] using hg,
        by rw [hb, h', Nat.add_assoc]⟩
    · refine .inr ⟨e, rows', n + n', ?_, by rw [hb, h', Nat.add_assoc]⟩
      exact hg.imp (fun hg => by simpa [hf, Except.bind] using hg)
        (And.imp_right (mt fun hw => hw.later rows n))
  · have hb : (t >>= k) d = .error e { d with rows, issued := d.issued + n } := by
      simp only [Bind.bind, EStateM.bind, h]
    exact .inr ⟨e, rows, n, hf.imp_left fun hf => by simp [hf, Except.bind], hb⟩

theorem Means.congr {t : Transaction α} {f g : Rows → Except DatabaseError (α × Rows)}
    (h : Means t f) (hfg : ∀ rows, f rows = g rows) : Means t g := funext hfg ▸ h

theorem means_issue (kind : StatementKind) (table : TableName) :
    Means (issue kind table) fun rows => .ok ((), rows) := by
  intro d
  rw [issue_apply]
  split
  · rename_i h
    refine .inr ⟨_, d.rows, 1, .inr ⟨rfl, fun hw => ?_⟩, rfl⟩
    rw [hw _ _ (Nat.le_refl _)] at h
    cases h
  · exact .inl ⟨(), d.rows, 1, rfl, rfl⟩

theorem means_rows : Means rows fun rows => .ok (rows, rows) :=
  fun d => .inl ⟨d.rows, d.rows, 0, rfl, rfl⟩

theorem means_change (f : Rows → Rows) : Means (change f) fun rows => .ok ((), f rows) :=
  fun d => .inl ⟨(), f d.rows, 0, rfl, rfl⟩

theorem means_read (table : TableName) : Means (read table) fun rows => .ok (rows, rows) :=
  (means_issue _ _).bind fun _ => means_rows

theorem means_write (kind : StatementKind) (table : TableName) (f : Rows → Rows) :
    Means (write kind table f) fun rows => .ok ((), f rows) :=
  (means_issue _ _).bind fun _ => means_change f

theorem means_checkInteger (n : Int) :
    Means (checkInteger n) fun rows =>
      if -9223372036854775808 ≤ n ∧ n < 9223372036854775808 then .ok ((), rows)
      else .error .integerTooLarge := by
  unfold checkInteger
  split
  · exact .pure ()
  · exact .throw _

theorem means_checkNat (n : Nat) :
    Means (checkInteger n) fun rows =>
      if n < 9223372036854775808 then .ok ((), rows) else .error .integerTooLarge := by
  refine (means_checkInteger n).congr fun rows => ?_
  by_cases h : n < 9223372036854775808
  · rw [if_pos h, if_pos (by omega)]
  · rw [if_neg h, if_neg (by omega)]

/-- A whole transaction either does what it means, or leaves the rows as they are. -/
theorem Means.perform {t : Transaction α} {f : Rows → Except DatabaseError (α × Rows)}
    (h : Means t f) (d : Database) :
    (∃ x rows n, f d.rows = .ok (x, rows) ∧
      t.perform d = (.ok x, { d with rows, issued := d.issued + n })) ∨
    (∃ e n, (f d.rows = .error e ∨ e = .operational ∧ ¬ d.Works) ∧
      t.perform d = (.error e, { d with issued := d.issued + n })) := by
  rcases h d with ⟨x, rows, n, hf, ht⟩ | ⟨e, rows, n, hf, ht⟩
  · exact .inl ⟨x, rows, n, hf, by simp [Transaction.perform, ht]⟩
  · exact .inr ⟨e, n, hf, by simp [Transaction.perform, ht]⟩

end Transaction

open Transaction Time

namespace Connectors

theorem means_find? (name : String) :
    Means (find? name) fun rows => .ok (rows.connectors.get? name, rows) :=
  (means_read _).bind fun _ => .pure _

theorem means_names : Means names fun rows => .ok (rows.connectors.names, rows) :=
  (means_read _).bind fun _ => .pure _

theorem means_put (name : String) (row : ConnectorRow) :
    Means (put name row) fun rows => .ok ((), rows.configured name row) := by
  refine ((means_find? name).bind (g := fun old rows =>
    .ok ((), if old = some row then rows else rows.configured name row)) ?_).congr ?_
  · intro old
    cases old with
    | none => exact means_write _ _ _
    | some old =>
      by_cases h : old = row
      · simpa [h] using Means.pure ()
      · simpa [h, Rows.configured] using means_write _ _ _
  · intro rows
    by_cases h : rows.connectors.get? name = some row
    · simp [Except.bind, h, Rows.configured, Table.insert_self h]
    · simp [Except.bind, h]

theorem means_remove (name : String) :
    Means (remove name) fun rows => .ok ((), rows.without name) :=
  (means_write _ _ _).bind fun _ => (means_write _ _ _).bind fun _ => means_write _ _ _

end Connectors

namespace Schedules

theorem means_write (kind : StatementKind) (name : String) (row : ScheduleRow) :
    Means (write kind name row) fun rows =>
      .ok ((), { rows with schedules := rows.schedules.insert name row }) :=
  Transaction.means_write _ _ _

theorem means_find? (name : String) :
    Means (find? name) fun rows => .ok (rows.schedules.get? name, rows) :=
  (means_read _).bind fun _ => .pure _

theorem means_all : Means all fun rows => .ok (rows.schedules.entries, rows) :=
  (means_read _).bind fun _ => .pure _

theorem means_put (name text : String) :
    Means (put name text) fun rows => .ok ((), rows.scheduled name text) := by
  refine ((means_find? name).bind (g := fun old rows =>
    .ok ((), if old.any (·.text = text) then rows
      else { rows with schedules :=
        rows.schedules.insert name { old.getD { text } with text } })) ?_).congr ?_
  · intro old
    cases old with
    | none => exact means_write _ _ _
    | some old =>
      by_cases h : old.text = text
      · simpa [h] using Means.pure ()
      · simpa [h] using means_write _ _ _
  · intro rows
    cases h : rows.schedules.get? name with
    | none => simp [Except.bind, Rows.scheduled, h]
    | some old =>
      by_cases ht : old.text = text
      · subst ht
        simp [Except.bind, Rows.scheduled, h, Table.insert_self h]
      · simp [Except.bind, Rows.scheduled, h, ht]

theorem means_markRun (name : String) (lastRun nextDue : Option DateTime) :
    Means (markRun name lastRun nextDue) fun rows =>
      .ok ((), rows.marked name lastRun nextDue) := by
  refine ((means_find? name).bind (g := fun old rows =>
    .ok ((), old.elim rows fun old =>
      if old.lastRun = lastRun ∧ old.nextDue = nextDue then rows
      else { rows with schedules :=
        rows.schedules.insert name (old.marked lastRun nextDue) })) ?_).congr ?_
  · intro old
    cases old with
    | none => exact .pure ()
    | some old =>
      by_cases h : old.lastRun = lastRun ∧ old.nextDue = nextDue
      · simpa [h] using Means.pure ()
      · simpa [h, ScheduleRow.marked] using means_write _ _ _
  · intro rows
    cases h : rows.schedules.get? name with
    | none => simp [Except.bind, Rows.marked, h]
    | some old =>
      by_cases ht : old.lastRun = lastRun ∧ old.nextDue = nextDue
      · simp [Except.bind, Rows.marked, ScheduleRow.marked, h, ht, Table.insert_self h]
      · simp [Except.bind, Rows.marked, h, ht]

end Schedules

namespace States

theorem means_find? (name : String) :
    Means (find? name) fun rows => .ok (rows.states.get? name, rows) :=
  (means_read _).bind fun _ => .pure _

theorem means_write (kind : StatementKind) (name : String) (row : StateRow) :
    Means (write kind name row) fun rows =>
      .ok ((), { rows with states := rows.states.insert name row }) :=
  Transaction.means_write _ _ _

theorem means_checkpoint (name : String) :
    Means (checkpoint name) fun rows => .ok ((rows.states.get? name).bind (·.checkpoint), rows) :=
  (means_find? name).bind fun _ => .pure _

theorem means_snapshot (name : String) :
    Means (snapshot name) fun rows => .ok (snapshotOf (rows.states.get? name), rows) :=
  (means_find? name).bind fun _ => .pure _

theorem means_put (name : String) (checkpoint : Option String) :
    Means (put name checkpoint) fun rows => .ok ((), rows.advanced name checkpoint) := by
  refine ((means_find? name).bind (g := fun old rows =>
    .ok ((), if old.any (·.checkpoint = checkpoint) then rows
      else { rows with states := rows.states.insert name ⟨checkpoint, generationOf old⟩ })) ?_).congr ?_
  · intro old
    cases old with
    | none => exact means_write _ _ _
    | some old =>
      by_cases h : old.checkpoint = checkpoint
      · simpa [h] using Means.pure ()
      · simpa [h, generationOf, snapshotOf] using means_write _ _ _
  · intro rows
    cases h : rows.states.get? name with
    | none => simp [Except.bind, Rows.advanced, h]
    | some old =>
      by_cases hc : old.checkpoint = checkpoint
      · subst hc
        simp [Except.bind, Rows.advanced, generationOf, snapshotOf, h, Table.insert_self h]
      · simp [Except.bind, Rows.advanced, h, hc]

/-- A reset begins the generation after that of the row, if its column can hold it; no row is a row
of generation 0. -/
theorem means_reset (name : String) :
    Means (reset name) fun rows =>
      if generationOf (rows.states.get? name) + 1 < 9223372036854775808 then
        .ok ((), rows.reset name)
      else .error .integerTooLarge := by
  refine ((means_find? name).bind (g := fun old rows =>
    if generationOf old + 1 < 9223372036854775808 then
      .ok ((), { rows with states := rows.states.insert name ⟨none, generationOf old + 1⟩ })
    else .error .integerTooLarge) ?_).congr fun _ => by simp only [Except.bind, Rows.reset]
  intro old
  cases old with
  | none =>
    have hfits : generationOf none + 1 < 9223372036854775808 := by simp [generationOf, snapshotOf]
    exact (means_write _ _ _).congr fun _ => (if_pos hfits).symm
  | some old =>
    refine ((means_issue _ _).bind fun _ => (means_checkNat (generationOf (some old) + 1)).bind
      fun _ => means_change _).congr fun rows => ?_
    by_cases h : generationOf (some old) + 1 < 9223372036854775808
    · simp only [Except.bind, if_pos h]
      rfl
    · simp only [Except.bind, if_neg h]

/-- The answer of a store that is asked to take a checkpoint of a generation, and the rows
afterwards. -/
def taking (name : String) (checkpoint : Option String) (generation : Int) (rows : Rows) :
    Bool × Rows :=
  if (generationOf (rows.states.get? name) : Int) = generation then
    (true, rows.advanced name checkpoint)
  else (false, rows)

/-- What remains to be done once it is known whether a row of the generation was there. -/
private def takeFirst (name : String) (checkpoint : Option String) (generation : Int) :
    Option StateRow → Rows → Except DatabaseError (Bool × Rows)
  | some row, rows => .ok (true, { rows with states := rows.states.insert name row })
  | none, rows =>
    if generation = 0 then
      match rows.states.get? name with
      | none => .ok (true, { rows with states := rows.states.insert name { checkpoint } })
      | some _ => .ok (false, rows)
    else .ok (false, rows)

private theorem takeFirst_advanced? (name : String) (checkpoint : Option String)
    (generation : Int) (rows : Rows) :
    takeFirst name checkpoint generation
        (advanced? (rows.states.get? name) checkpoint generation) rows =
      .ok (taking name checkpoint generation rows) := by
  cases h : rows.states.get? name with
  | none =>
    by_cases hg : generation = 0
    · simp [takeFirst, taking, advanced?, generationOf, snapshotOf, Rows.advanced, h, hg]
    · simp [takeFirst, taking, advanced?, generationOf, snapshotOf, h, hg, Ne.symm hg]
  | some old =>
    by_cases hg : (old.generation : Int) = generation
    · simp [takeFirst, taking, advanced?, generationOf, snapshotOf, Rows.advanced, h, hg]
    · simp [takeFirst, taking, advanced?, generationOf, snapshotOf, h, hg]

theorem means_putIfCurrent (name : String) (checkpoint : Option String) (generation : Int) :
    Means (putIfCurrent name checkpoint generation) fun rows =>
      if -9223372036854775808 ≤ generation ∧ generation < 9223372036854775808 then
        .ok (taking name checkpoint generation rows)
      else .error .integerTooLarge := by
  refine ((means_issue _ _).bind fun _ => (means_checkInteger generation).bind fun _ =>
    means_rows.bind (g := fun seen => takeFirst name checkpoint generation
      (advanced? (seen.states.get? name) checkpoint generation)) ?_).congr ?_
  · intro seen
    cases advanced? (seen.states.get? name) checkpoint generation with
    | some row => exact (means_change _).bind fun _ => .pure _
    | none =>
      by_cases hg : generation = 0
      · simp only [if_pos hg]
        refine ((means_find? name).bind (g := fun old rows =>
          match old with
          | none => .ok (true, { rows with states := rows.states.insert name { checkpoint } })
          | some _ => .ok (false, rows)) ?_).congr fun rows => by
            simp only [takeFirst, if_pos hg]; rfl
        intro old
        cases old with
        | none => exact (means_write _ _ _).bind fun _ => .pure _
        | some _ => exact .pure _
      · simp only [if_neg hg]
        exact (Means.pure false).congr fun rows => by simp only [takeFirst, if_neg hg]
  · intro rows
    split
    · simp [Except.bind, takeFirst_advanced?]
    · rfl

end States

namespace Runs

theorem means_start (connector : String) (started : DateTime) :
    Means (start connector started) fun rows =>
      .ok (nextId rows.runs, rows.started connector started) :=
  ((means_issue _ _).bind fun _ => means_rows.bind fun _ => (means_change _).bind fun _ =>
    .pure _).congr fun _ => rfl

theorem means_finish (id : Int) (outcome : Outcome) (finished : DateTime) :
    Means (finish id outcome finished) fun rows => .ok ((), rows.ended id outcome finished) :=
  (means_read _).bind fun _ => means_write _ _ _

theorem means_recent (connector : Option String) (limit : Nat) :
    Means (recent connector limit) fun rows => .ok ((let wanted := match connector with
      | none | some "" => rows.runs
      | some c => rows.runs.filter (·.connector = c)
    (wanted.mergeSort fun a b => b.started.micros ≤ a.started.micros).take limit), rows) :=
  (means_read _).bind fun _ => .pure _

end Runs

end ConnectorHub.Store
