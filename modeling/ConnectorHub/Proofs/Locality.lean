import ConnectorHub.Proofs.Operations
import ConnectorHub.Scenario.Operation

/-! What an action comes to depends on the statements that it issues. Which of the later ones fail does
not matter to it, so that an action of which no statement failed does what it does where none can. -/
namespace ConnectorHub

open Store

namespace Store.Transaction

/-- How a transaction ends: with an answer or broken off, over the database that it leaves. -/
def ending (d : Database) : Except DatabaseError α → EStateM.Result DatabaseError Database α
  | .ok x => .ok x d
  | .error e => .error e d

/-- The transaction does the same whichever statements fail that it does not issue. -/
def Local (t : Transaction α) : Prop :=
  ∀ d : Database, ∃ x rows n, ∀ faults,
    (∀ i s, d.issued ≤ i → i < d.issued + n → faults i s = d.faults i s) →
      t { d with faults } = ending { rows, issued := d.issued + n, faults } x

theorem Local.pure (x : α) : Local (pure x) := fun d => ⟨.ok x, d.rows, 0, fun _ _ => rfl⟩

theorem Local.throw (e : DatabaseError) : Local (throw e : Transaction α) :=
  fun d => ⟨.error e, d.rows, 0, fun _ _ => rfl⟩

theorem Local.bind {t : Transaction α} {k : α → Transaction β} (ht : Local t)
    (hk : ∀ x, Local (k x)) : Local (t >>= k) := by
  intro d
  obtain ⟨x, rows, n, hx⟩ := ht d
  cases x with
  | error e =>
    exact ⟨.error e, rows, n, fun faults h => by
      simp only [Bind.bind, EStateM.bind, hx faults h, ending]⟩
  | ok x =>
    obtain ⟨y, rows', m, hy⟩ := hk x { rows, issued := d.issued + n, faults := d.faults }
    refine ⟨y, rows', n + m, fun faults h => ?_⟩
    have hfirst := hx faults fun i s hi hn => h i s hi (by omega)
    have hthen := hy faults fun i s hi hn => by
      dsimp only at hi hn
      exact h i s (by omega) (by omega)
    simp only [Bind.bind, EStateM.bind, hfirst, ending, hthen, Nat.add_assoc]

theorem Local.ite {p : Prop} [Decidable p] {t u : Transaction α} (ht : Local t) (hu : Local u) :
    Local (if p then t else u) := by
  split
  · exact ht
  · exact hu

/-- A statement fails by what is said of it alone. -/
theorem local_issue (kind : StatementKind) (table : TableName) : Local (issue kind table) := by
  intro d
  refine ⟨if d.faults d.issued ⟨kind, table⟩ then .error .operational else .ok (), d.rows, 1, ?_⟩
  intro faults h
  have hsame := h d.issued ⟨kind, table⟩ (Nat.le_refl _) (Nat.lt_succ_self _)
  simp only [issue_apply, hsame]
  split <;> rfl

theorem local_rows : Local rows := fun d => ⟨.ok d.rows, d.rows, 0, fun _ _ => rfl⟩

theorem local_change (f : Rows → Rows) : Local (change f) :=
  fun d => ⟨.ok (), f d.rows, 0, fun _ _ => rfl⟩

theorem local_read (table : TableName) : Local (read table) :=
  (local_issue _ _).bind fun _ => local_rows

theorem local_write (kind : StatementKind) (table : TableName) (f : Rows → Rows) :
    Local (write kind table f) :=
  (local_issue _ _).bind fun _ => local_change f

theorem local_checkInteger (n : Int) : Local (checkInteger n) := .ite (.pure ()) (.throw _)

end Store.Transaction

open Transaction

namespace Store

theorem Connectors.local_find? (name : String) : Local (find? name) :=
  (local_read _).bind fun _ => .pure _

theorem Connectors.local_names : Local names := (local_read _).bind fun _ => .pure _

theorem Connectors.local_put (name : String) (row : ConnectorRow) : Local (put name row) := by
  refine (local_find? name).bind fun old => ?_
  cases old with
  | none => exact local_write _ _ _
  | some old => exact .ite (.pure ()) (local_write _ _ _)

theorem Connectors.local_remove (name : String) : Local (remove name) :=
  (local_write _ _ _).bind fun _ => (local_write _ _ _).bind fun _ => local_write _ _ _

theorem Schedules.local_find? (name : String) : Local (find? name) :=
  (local_read _).bind fun _ => .pure _

theorem Schedules.local_put (name text : String) : Local (put name text) := by
  refine (local_find? name).bind fun old => ?_
  cases old with
  | none => exact local_write _ _ _
  | some old => exact .ite (.pure ()) (local_write _ _ _)

theorem Schedules.local_markRun (name : String) (lastRun nextDue : Option Time.DateTime) :
    Local (markRun name lastRun nextDue) := by
  refine (local_find? name).bind fun old => ?_
  cases old with
  | none => exact .pure ()
  | some old => exact .ite (.pure ()) (local_write _ _ _)

theorem States.local_reset (name : String) : Local (reset name) := by
  refine ((local_read _).bind fun _ => .pure _).bind fun old => ?_
  cases old with
  | none => exact local_write _ _ _
  | some old =>
    exact (local_issue _ _).bind fun _ => (local_checkInteger _).bind fun _ => local_change _

end Store

namespace Desk

/-- The number of statements that were issued at the desk. -/
def issued (d : Desk) : Nat := d.site.database.issued

/-- The desk where these statements fail. -/
def under (d : Desk) (faults : Nat → Statement → Bool) : Desk :=
  { d with site := { d.site with database := { d.site.database with faults } } }

theorem node_under (d : Desk) (faults : Nat → Statement → Bool) :
    (d.under faults).node = d.node := rfl

/-- The desk where no statement fails. -/
def mended (d : Desk) : Desk := d.under fun _ _ => false

theorem works_mended (d : Desk) : d.mended.Works := fun _ _ _ => rfl

/-- No statement fails that the action issues at the desk. -/
def Serves (d : Desk) (a : Act α) : Prop :=
  ∀ n s, d.issued ≤ n → n < (a.perform d).2.issued → d.site.database.faults n s = false

end Desk

namespace Act

/-- The action does the same whichever statements fail that it does not issue. -/
def Local (a : Act α) : Prop :=
  ∀ d : Desk, ∃ x, ∃ d' : Desk, d.issued ≤ d'.issued ∧ ∀ faults,
    (∀ i s, d.issued ≤ i → i < d'.issued → faults i s = d.site.database.faults i s) →
      a.perform (d.under faults) = (x, d'.under faults)

/-- An action of which no statement failed does what it does where none can fail. -/
theorem Local.perform_mended {a : Act α} (h : Local a) {d : Desk} (hs : d.Serves a) :
    a.perform d.mended = ((a.perform d).1, (a.perform d).2.mended) := by
  obtain ⟨x, d', -, hx⟩ := h d
  have hd : a.perform d = (x, d'.under d.site.database.faults) := hx _ fun _ _ _ _ => rfl
  unfold Desk.Serves at hs
  rw [hd] at hs ⊢
  exact hx _ fun i s hi hn => (hs i s hi hn).symm

theorem Local.pure (x : α) : Local (pure x : Act α) :=
  fun d => ⟨.ok x, d, Nat.le_refl _, fun _ _ => rfl⟩

theorem Local.throw (f : Failure) : Local (throw f : Act α) :=
  fun d => ⟨.error f, d, Nat.le_refl _, fun _ _ => rfl⟩

theorem Local.give (x : Except Failure α) : Local (give x) :=
  fun d => ⟨x, d, Nat.le_refl _, fun _ _ => perform_give _ _⟩

/-- What follows an action issues its statements after those of the action. -/
theorem Local.bind {a : Act α} {f : α → Act β} (ha : Local a) (hf : ∀ x, Local (f x)) :
    Local (a >>= f) := by
  intro d
  obtain ⟨x, d', hle, hx⟩ := ha d
  cases x with
  | error e =>
    exact ⟨.error e, d', hle, fun faults h => by rw [perform_bind, hx faults h]⟩
  | ok x =>
    obtain ⟨y, d'', hle', hy⟩ := hf x (d'.under d.site.database.faults)
    refine ⟨y, d'', Nat.le_trans hle hle', fun faults h => ?_⟩
    rw [perform_bind, hx faults fun i s hi hn => h i s hi (Nat.lt_of_lt_of_le hn hle')]
    exact hy faults fun i s hi hn => h i s (Nat.le_trans hle hi) hn

theorem Local.tryCatch {a : Act α} {f : Failure → Act α} (ha : Local a) (hf : ∀ e, Local (f e)) :
    Local (tryCatch a f) := by
  intro d
  obtain ⟨x, d', hle, hx⟩ := ha d
  cases x with
  | ok x =>
    exact ⟨.ok x, d', hle, fun faults h => by rw [perform_tryCatch, hx faults h]⟩
  | error e =>
    obtain ⟨y, d'', hle', hy⟩ := hf e (d'.under d.site.database.faults)
    refine ⟨y, d'', Nat.le_trans hle hle', fun faults h => ?_⟩
    rw [perform_tryCatch, hx faults fun i s hi hn => h i s hi (Nat.lt_of_lt_of_le hn hle')]
    exact hy faults fun i s hi hn => h i s (Nat.le_trans hle hi) hn

theorem Local.ite {p : Prop} [Decidable p] {a b : Act α} (ha : Local a) (hb : Local b) :
    Local (if p then a else b) := by
  split
  · exact ha
  · exact hb

theorem Local.map {a : Act α} (f : α → β) (ha : Local a) : Local (do return f (← a)) :=
  ha.bind fun _ => .pure _

theorem Local.mapM {f : α → Act β} (hf : ∀ x, Local (f x)) (xs : List α) : Local (xs.mapM f) := by
  induction xs with
  | nil => exact .pure _
  | cons x xs ih =>
    rw [List.mapM_cons]
    exact (hf x).bind fun _ => ih.bind fun _ => .pure _

theorem Local.replacing {a : Act α} (family : FailureKind) (failure : Failure) (ha : Local a) :
    Local (replacing family failure a) :=
  ha.tryCatch fun _ => .throw _

/-- An action that does not look at the database. -/
theorem local_of_under {a : Act α}
    (h : ∀ (d : Desk) faults,
      a.perform (d.under faults) = ((a.perform d).1, (a.perform d).2.under faults))
    (hi : ∀ d : Desk, (a.perform d).2.issued = d.issued) : Local a :=
  fun d => ⟨(a.perform d).1, (a.perform d).2, Nat.le_of_eq (hi d).symm, fun faults _ => h d faults⟩

theorem local_node : Local node := local_of_under (fun _ _ => rfl) fun _ => rfl

theorem local_changeNode (f : Node → Node) : Local (changeNode f) :=
  local_of_under (fun _ _ => rfl) fun _ => rfl

theorem local_record (c : Call) : Local (changeSite (·.record c)) :=
  local_of_under (fun _ _ => rfl) fun _ => rfl

theorem local_warn (message : String) : Local (warn message) :=
  local_of_under (fun _ _ => rfl) fun _ => rfl

theorem local_findType? (name : String) : Local (findType? name) :=
  local_of_under (fun _ _ => rfl) fun _ => rfl

theorem local_store {t : Transaction α} (h : t.Local) (action : String) :
    Local (store action t) := by
  intro d
  obtain ⟨x, rows, n, hx⟩ := h d.site.database
  cases x with
  | ok x =>
    refine ⟨.ok x, (d.withRows rows).counting n, Nat.le_add_right _ n, fun faults hf => ?_⟩
    unfold store
    rw [perform_transact, Transaction.perform, Desk.under, hx faults hf]
    rfl
  | error e =>
    refine ⟨.error (storeFailure action e), d.counting n, Nat.le_add_right _ n, fun faults hf => ?_⟩
    unfold store
    rw [perform_transact, Transaction.perform, Desk.under, hx faults hf]
    rfl

end Act

open Act

namespace Instances

variable (name : String)

theorem local_names : Local names := local_store Connectors.local_names _

theorem local_row? : Local (row? name) := by
  refine local_node.bind fun n => ?_
  split
  · exact .pure _
  · exact (local_store (Connectors.local_find? name) _).replacing _ _

theorem local_row : Local (row name) :=
  (local_row? name).bind fun r => by
    cases r with
    | some r => exact .pure r
    | none => exact .throw _

theorem local_schedule? : Local (schedule? name) :=
  (local_row name).bind fun _ => (local_store (Schedules.local_find? name) _).map _

theorem local_setSchedule (text : String) : Local (setSchedule name text) :=
  (local_row name).bind fun _ => local_store (Schedules.local_put name text) _

theorem local_filledForm (typeName : String) (locale : Locale) :
    Local (filledForm name typeName locale) := by
  refine (local_row name).bind fun r => (local_findType? typeName).bind fun t => ?_
  cases t with
  | none => exact .throw _
  | some t => exact .give _

theorem local_install (t : ConnectorType) (typeName : String) (config : Config) :
    Local (install name t typeName config) := by
  have hbuild : Local (build name t config) := by
    unfold build
    split
    · exact .throw _
    · exact (local_record _).bind fun _ => .pure _
  exact hbuild.bind fun i => (local_store (Connectors.local_put name _) _).bind fun _ =>
    local_changeNode _

theorem local_configure (typeName : String) (config : Config) (locale : Locale) (update : Bool) :
    Local (configure name typeName config locale update) := by
  refine (local_row? name).bind fun r => (Local.give _).bind fun _ =>
    (local_findType? typeName).bind fun t => ?_
  cases t with
  | none => exact .throw _
  | some t =>
    have hinstall : Local (install name t typeName config >>= fun _ => pure none) :=
      (local_install name t typeName config).bind fun _ => Local.pure (none : Option Form)
    refine (Local.give _).bind fun form => ?_
    cases form with
    | none => exact hinstall
    | some form => exact .ite (.pure _) hinstall

theorem local_remove : Local (remove name) :=
  (local_changeNode _).bind fun _ => (local_store (Connectors.local_remove name) _).replacing _ _

theorem local_restart : Local (restart name) :=
  (local_row name).bind fun _ => ((local_store (States.local_reset name) _).bind fun _ =>
    local_store (Schedules.local_markRun name none none) _).replacing _ _

end Instances

namespace Scheduler

/-- The queue and what is watched decide alone how a connector ceases to be watched. -/
theorem untracking_under (name : String) (d : Desk) (faults : Nat → Statement → Bool) :
    (d.under faults).untracking name = (d.untracking name).under faults := by
  have hwaits : (d.under faults).site.isQueued (jobId name) = d.site.isQueued (jobId name) := rfl
  unfold Desk.untracking
  rw [Desk.node_under, hwaits]
  by_cases ht : d.node.tracked.any (·.1 = name) = true
  · rw [if_pos ht, if_pos ht]
    split <;> rfl
  · rw [if_neg ht, if_neg ht]

theorem local_untrack (name : String) : Local (untrack name) := by
  refine local_of_under (fun d faults => ?_) fun d => ?_
  · rw [perform_untrack, perform_untrack, untracking_under]
  · rw [perform_untrack]
    unfold Desk.untracking Desk.issued
    split
    · split <;> rfl
    · rfl

end Scheduler

namespace Administration

variable (name : String)

theorem local_status? : Local (status? name) := by
  refine ((Instances.local_row name).bind fun _ => (Instances.local_schedule? name).bind fun _ =>
    .pure _).tryCatch fun f => ?_
  exact .ite ((local_warn _).bind fun _ => .pure _) (.throw _)

theorem local_status : Local (status name) :=
  (local_status? name).bind fun s => by
    cases s with
    | some s => exact .pure s
    | none => exact .throw _

theorem local_statuses : Local statuses :=
  Instances.local_names.bind fun names => (Local.mapM local_status? names).map _

theorem local_setSchedule (load retryDelay : Int) (intervals : String) :
    Local (setSchedule name load retryDelay intervals) :=
  (Local.give _).bind fun _ => (Local.give _).bind fun _ =>
    (Instances.local_setSchedule name _).bind fun _ => .pure _

theorem local_remove : Local (remove name) :=
  (Instances.local_remove name).bind fun _ => Scheduler.local_untrack name

theorem local_restart : Local (restart name) :=
  (Scheduler.local_untrack name).bind fun _ => Instances.local_restart name

end Administration

end ConnectorHub
