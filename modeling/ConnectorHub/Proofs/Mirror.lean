import ConnectorHub.Proofs.Interleaving

/-! The connectors at hand mirror those that are stored, at a node that alone configures and removes
them. It does not matter which calls fail, or which statements. -/
namespace ConnectorHub

open Store Act Scenario

/-- Performing the action changes no connector, wherever it is performed. -/
abbrev Act.Sparing (a : Act α) : Prop := Moves Desk.Sparing a

theorem Act.sparing_of_steady {a : Act α} (h : Steady a) : Sparing a := fun d => (h d).toSparing

theorem Act.sparing_of_calm {a : Act α} (h : Calm a) : Sparing a := fun d => (h d).toSparing

/-- A store call that leaves the connectors alone. -/
theorem Act.sparing_store {t : Transaction α} {f : Rows → Except DatabaseError (α × Rows)}
    (h : Transaction.Means t f)
    (hf : ∀ rows x rows', f rows = .ok (x, rows') → rows'.connectors = rows.connectors)
    (action : String) : Sparing (store action t) := by
  intro d
  rcases perform_transact_cases h (storeFailure action) d with ⟨x, rows, n, hr, hp⟩ | ⟨e, n, -, hp⟩
  · have hp : (store action t).perform d = _ := hp
    rw [hp]
    exact (Desk.Calm.refl d).sparing_withRows n (hf _ _ _ hr)
  · have hp : (store action t).perform d = _ := hp
    rw [hp]
    exact (d.calm_counting n).toSparing

namespace Instances

theorem sparing_setSchedule (name text : String) : Sparing (setSchedule name text) :=
  (sparing_of_calm (calm_row name)).bind fun _ =>
    sparing_store (Schedules.means_put name text) (by rintro rows x rows' ⟨⟩; rfl) _

theorem sparing_reset (name : String) (action : String) :
    Sparing (store action (States.reset name)) := by
  refine sparing_store (States.means_reset name) ?_ _
  intro rows x rows' h
  split at h
  · cases h
    rfl
  · cases h

theorem sparing_markRun (name : String) (lastRun nextDue : Option Time.DateTime) (action : String) :
    Sparing (store action (Schedules.markRun name lastRun nextDue)) :=
  sparing_store (Schedules.means_markRun name lastRun nextDue)
    (by rintro rows x rows' ⟨⟩; exact Rows.connectors_marked ..) _

theorem sparing_restart (name : String) : Sparing (restart name) :=
  (sparing_of_calm (calm_row name)).bind fun _ =>
    ((sparing_reset name _).bind fun _ => sparing_markRun name _ _ _).tryCatch fun _ => .throw _

theorem sparing_advance (name : String) (checkpoint : Option String) (generation : Int) :
    Sparing (advance name checkpoint generation) := by
  refine sparing_store (States.means_putIfCurrent name checkpoint generation) ?_ _
  intro rows x rows' h
  split at h
  · unfold States.taking at h
    split at h <;> cases h <;> rfl
  · cases h

end Instances

namespace Scenario.Operation

/-- The operation changes no connector. -/
def isSparing : Operation → Bool
  | configure .. | remove _ | removeInstance _ | storeConnector .. | eraseConnector _ => false
  | request .. => false
  | statuses vanishing => vanishing.isEmpty
  | _ => true

theorem sparing_of_isSparing {op : Operation} (h : op.isSparing = true) : Sparing op.perform := by
  by_cases hq : op.isQuestion = true
  · exact sparing_of_calm (calm_of_isQuestion hq)
  · by_cases hs : op.isScheduling = true
    · exact sparing_of_steady (steady_of_isScheduling hs)
    · cases op with
      | setSchedule name load retryDelay intervals =>
        exact Moves.map _ (Moves.bind (.give _) fun _ => Moves.bind (.give _) fun text =>
          (Instances.sparing_setSchedule name text).bind fun _ => .pure _)
      | restart name =>
        exact ((sparing_of_steady (Scheduler.steady_untrack name)).bind fun _ =>
          Instances.sparing_restart name).map _
      | setScheduleText name text => exact (Instances.sparing_setSchedule name text).map _
      | setCheckpoint name mark =>
        exact (sparing_store (States.means_put name mark) (by rintro rows x rows' ⟨⟩; rfl) _).map _
      | advance name mark generation => exact (Instances.sparing_advance _ _ _).map _
      | restartInstance name => exact (Instances.sparing_restart name).map _
      | resetState name => exact (Instances.sparing_reset name _).map _
      | storeSchedule name text =>
        exact (sparing_store (Schedules.means_put name text)
          (by rintro rows x rows' ⟨⟩; rfl) _).map _
      | markRun name lastRun nextDue => exact (Instances.sparing_markRun _ _ _ _).map _
      | statuses vanishing => exact absurd h hq
      | _ => first | exact absurd rfl hq | exact absurd rfl hs | cases h

end Scenario.Operation

namespace Desk

/-- Every connector at hand is stored, with the type and the configuration that it was made from. -/
def Faithful (d : Desk) : Prop :=
  ∀ name i, d.node.live.get? name = some i → d.rows.connectors.get? name = some i.row

variable {d d' : Desk}

theorem Faithful.of_live (h : d.node.live = .empty) : d.Faithful := by
  intro name i hi
  rw [h] at hi
  cases hi

theorem Sparing.faithful (h : d.Sparing d') (hd : d.Faithful) : d'.Faithful := by
  intro name i hi
  rw [h.connectors]
  rcases h.made name i hi with hi | ⟨hi, -⟩
  · exact hd name i hi
  · exact hi

theorem Faithful.configured (h : d.Faithful) {name : String} {i : Instance} {row : ConnectorRow}
    (hi : i.row = row) : ((d.withRows (d.rows.configured name row)).keeping name i).Faithful := by
  intro other j hj
  have hj : (d.node.live.insert name i).get? other = some j := hj
  rw [rows_keeping, rows_withRows]
  simp only [Rows.configured]
  by_cases ho : other = name
  · subst ho
    rw [Table.get?_insert_self] at hj ⊢
    rw [← hi, Option.some.inj hj]
  · rw [Table.get?_insert_of_ne _ _ ho] at hj ⊢
    exact h other j hj

theorem live_forgetting {name other : String} {i : Instance}
    (h : (d.forgetting name).node.live.get? other = some i) :
    other ≠ name ∧ d.node.live.get? other = some i := by
  have h : (d.node.live.erase name).get? other = some i := h
  by_cases ho : other = name
  · rw [ho, Table.get?_erase_self] at h
    cases h
  · rw [Table.get?_erase_of_ne _ ho] at h
    exact ⟨ho, h⟩

theorem Faithful.forgetting (h : d.Faithful) (name : String) (n : Nat) :
    ((d.forgetting name).counting n).Faithful :=
  fun other i hi => h other i (live_forgetting hi).2

theorem Faithful.without (h : d.Faithful) (name : String) (n : Nat) :
    (((d.forgetting name).withRows (d.rows.without name)).counting n).Faithful := by
  intro other i hi
  obtain ⟨ho, hi⟩ := live_forgetting hi
  rw [rows_counting, rows_withRows]
  simp only [Rows.without, Table.get?_erase_of_ne _ ho]
  exact h other i hi

end Desk

theorem Act.Moves.faithful {a : Act α} (h : Sparing a) : Moves (Desk.Keeps Desk.Faithful) a :=
  fun d hd => (h d).faithful hd

theorem Act.Moves.forM {R : Desk → Desk → Prop} [IsPreorder Desk R] {f : α → Act PUnit}
    (hf : ∀ x, Moves R (f x)) (xs : List α) : Moves R (xs.forM f) := by
  induction xs with
  | nil => exact .pure _
  | cons x xs ih => exact (hf x).bind fun _ => ih

namespace Instances

theorem faithful_configure (name typeName : String) (config : Config) (locale : Locale)
    (update : Bool) :
    Moves (Desk.Keeps Desk.Faithful) (configure name typeName config locale update) := by
  intro d hd
  obtain ⟨d₁, hcalm, -, ⟨i, -, hrow, -, hp⟩ | ⟨x, -, hp⟩⟩ :=
    perform_configure name typeName config locale update d
  · rw [hp]
    exact (hcalm.faithful hd).configured hrow
  · rw [hp]
    exact hcalm.faithful hd

theorem faithful_remove (name : String) : Moves (Desk.Keeps Desk.Faithful) (remove name) := by
  intro d hd
  obtain ⟨n, hp | ⟨-, hp⟩⟩ := perform_remove name d
  · rw [hp]
    exact hd.without name n
  · rw [hp]
    exact hd.forgetting name n

end Instances

namespace Scenario.Operation

/-- The operation does not reach past the connectors at hand to those that are stored. -/
def isProper : Operation → Bool
  | storeConnector .. | eraseConnector _ | request .. => false
  | _ => true

theorem faithful_of_isProper {op : Operation} (h : op.isProper = true) :
    Moves (Desk.Keeps Desk.Faithful) op.perform := by
  by_cases hs : op.isSparing = true
  · exact (sparing_of_isSparing hs).faithful
  · cases op with
    | configure => exact (Instances.faithful_configure _ _ _ _ _).map _
    | remove name =>
      exact ((Instances.faithful_remove name).bind fun _ =>
        (sparing_of_steady (Scheduler.steady_untrack name)).faithful).map _
    | removeInstance name => exact (Instances.faithful_remove name).map _
    | statuses vanishing =>
      refine Moves.map _ ((sparing_of_calm Instances.calm_names).faithful.bind fun names => ?_)
      exact (Moves.forM Instances.faithful_remove vanishing).bind fun _ =>
        (sparing_of_calm (Administration.calm_statusesOf names)).faithful
    | _ => first | exact absurd rfl hs | cases h

end Scenario.Operation

/-- The move changes no connector. -/
def Move.isSparing : Move → Bool
  | ask _ op => op.isSparing
  | _ => true

/-- The move is no other node's call, and does not reach past the connectors at hand. -/
def Move.isProper (place : Nat) : Move → Bool
  | ask p op => p = place && op.isProper
  | _ => true

namespace Hub

variable {h : Hub} {place : Nat}

/-- What spares the connectors at one node spares them at all. -/
theorem sparing_leave {p : Nat} {d : Desk} (hd : (h.desk p).Sparing d) (q : Nat) :
    (h.desk q).Sparing ((h.leave p d).desk q) := by
  by_cases hq : q = p
  · subst hq
    rwa [desk_leave_self]
  · have hnode : (h.leave p d).node q = h.node q := Function.update_of_ne hq _ _
    exact .of_eq hd.connectors hd.faults hd.issued hd.catalogs (congrArg Node.catalog hnode)
      (congrArg Node.live hnode)

theorem sparing_begin (h : Hub) (p : Nat) (name : String) (q : Nat) :
    (h.desk q).Sparing ((h.begin p name).1.desk q) := by
  rcases h.begin_cases p name with ⟨t, d, ht, hp⟩ | ⟨d, hd, hp⟩
  · rw [hp]
    exact sparing_leave ht.passing.toSparing q
  · rw [hp]
    exact sparing_leave (hd.toUnharmed.unlock _).toSparing q

/-- Traversals change no connector, at any node. -/
theorem sparing_move (h : Hub) {m : Move} (hm : m.isSparing = true) (q : Nat) :
    (h.desk q).Sparing ((h.move m).1.desk q) := by
  cases m with
  | ask p op => exact sparing_leave (Operation.sparing_of_isSparing hm (h.desk p)) q
  | begin p name => exact h.sparing_begin p name q
  | work p index =>
    cases hj : h.site.queue[index]? with
    | none =>
      simp only [move, hj]
      exact .refl _
    | some job =>
      simp only [move, hj]
      have hd : (h.desk q).Sparing ((h.without index).desk q) := .of_eq rfl rfl (Nat.le_refl _) rfl rfl rfl
      exact hd.trans ((h.without index).sparing_begin p job.connector q)
  | finish index answer =>
    cases hi : h.going[index]? with
    | none =>
      simp only [move, hi]
      exact .refl _
    | some g =>
      obtain ⟨p, t⟩ := g
      obtain ⟨d₁, x, d₂, -, hj, hclosed, -, hp⟩ := finish_cases hi answer
      rw [hp]
      have hd : (h.desk p).Sparing { d₂ with site := d₂.site.unlock (lockKey t.connector) } :=
        hj.sparing.trans (hclosed.passing.toUnharmed.unlock _).toSparing
      exact sparing_leave hd q
  | pause clock => exact .of_eq rfl rfl (Nat.le_refl _) rfl rfl rfl

theorem faithful_move (hf : (h.desk place).Faithful) {m : Move} (hm : m.isProper place = true) :
    ((h.move m).1.desk place).Faithful := by
  cases m with
  | ask p op =>
    obtain ⟨rfl, hop⟩ : p = place ∧ op.isProper = true := by simpa [Move.isProper] using hm
    change ((h.leave p (op.perform.perform (h.desk p)).2).desk p).Faithful
    rw [desk_leave_self]
    exact Operation.faithful_of_isProper hop (h.desk p) hf
  | _ => exact (h.sparing_move rfl place).faithful hf

theorem Run.faithful {start : Hub} {past : List Event} (hs : (start.desk place).Faithful)
    (run : Run (fun _ m => m.isProper place = true) start past h) : (h.desk place).Faithful := by
  induction run with
  | none => exact hs
  | next run here ih => exact faithful_move ih here

end Hub

end ConnectorHub
