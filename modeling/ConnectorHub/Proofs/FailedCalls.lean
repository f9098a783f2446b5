import ConnectorHub.Proofs.Transparency

/-! Calls that are to configure, schedule or remove a connector and do not. Whatever stands against
them, and whichever statement fails, they leave everything as it was, but that a node which cannot
remove a connector no longer has it at hand. -/
namespace ConnectorHub

open Store Act Scenario

namespace Scenario.Operation

/-- The operation configures, schedules or removes a connector, wholly or not at all. -/
def isIndivisible : Operation → Bool
  | configure .. | setSchedule .. | remove _ => true
  | _ => false

/-- The answer says that the operation was not done: it failed, or the type of the connector refused
the configuration with a form. -/
def isDenied : Operation → Except Failure Json → Bool
  | _, .error _ => true
  | configure .., .ok .null => false
  | configure .., .ok _ => true
  | _, .ok _ => false

/-- What a node still has at hand after it was to perform the operation and did not. -/
def keptOf (op : Operation) (live : Table Instance) : Table Instance :=
  match op with
  | remove name => live.erase name
  | _ => live

/-- Where an operation is denied, only the node's own connectors at hand may be fewer. -/
structure Denial (op : Operation) (d d' : Desk) : Prop where
  rows : d'.rows = d.rows
  locks : d'.site.locks = d.site.locks
  queue : d'.site.queue = d.site.queue
  tracked : d'.node.tracked = d.node.tracked
  live : d'.node.live = op.keptOf d.node.live

theorem Denial.of_calm {op : Operation} {d d' : Desk} (h : d.Calm d') (hn : d'.node = d.node)
    (hop : op.keptOf d.node.live = d.node.live) : op.Denial d d' :=
  ⟨h.rows, h.locks, h.queue, h.tracked, (congrArg Node.live hn).trans hop.symm⟩

theorem denial_of_isDenied {op : Operation} (hop : op.isIndivisible = true) {d d' : Desk}
    {answer : Except Failure Json} (h : op.perform.perform d = (answer, d'))
    (ha : op.isDenied answer = true) : op.Denial d d' := by
  have hadmin : op.isAdministrative = true := by
    cases op with
    | configure | setSchedule | remove => rfl
    | _ => cases hop
  have hd := administered_of_isAdministrative hadmin d
  rw [h] at hd
  cases hd with
  | configured | scheduled | removed => cases ha
  | notConfigured calm node => exact .of_calm calm node rfl
  | @notScheduled _ _ _ _ _ n => exact .of_calm (d.calm_counting n) rfl rfl
  -- The schedule is watched no longer only after the store is done, and that cannot fail.
  | notRemoved => exact ⟨rfl, rfl, rfl, rfl, rfl⟩
  | restarted | notRestarted | halfRestarted => cases hop

end Scenario.Operation

namespace Hub

/-- A node that is to configure, schedule or remove a connector and does not leaves all rows, locks and
jobs, what every node watches, and what it has at hand, as they were before, whatever it was asked
and whichever statements failed. A node that does not remove a connector no longer has it at hand. -/
theorem denied_call_leaves_everything (h : Hub) (place : Nat) {op : Operation}
    (hop : op.isIndivisible = true) (hdenied : op.isDenied (h.answer place op) = true) :
    (h.move (.ask place op)).1.rows = h.rows ∧
      (h.move (.ask place op)).1.site.locks = h.site.locks ∧
      (h.move (.ask place op)).1.site.queue = h.site.queue ∧
      (∀ p, ((h.move (.ask place op)).1.node p).tracked = (h.node p).tracked) ∧
      ∀ p, ((h.move (.ask place op)).1.node p).live =
        if p = place then op.keptOf (h.node p).live else (h.node p).live := by
  cases hp : op.perform.perform (h.desk place) with
  | mk answer d =>
    have hmove : (h.move (.ask place op)).1 = h.leave place d := by simp only [move, hp]
    have hanswer : h.answer place op = answer := congrArg Prod.fst hp
    have hd := Operation.denial_of_isDenied hop hp (hanswer ▸ hdenied)
    rw [hmove]
    refine ⟨hd.rows, hd.locks, hd.queue, fun p => ?_, fun p => ?_⟩
    · by_cases hplace : p = place
      · subst hplace
        simpa [leave, desk] using hd.tracked
      · simp [leave, hplace]
    · by_cases hplace : p = place
      · subst hplace
        simpa [leave, desk] using hd.live
      · simp [leave, hplace]

/-- A connector is at hand, watched and queued at a node, and can no longer be deleted from the
store. -/
def undeletable : Hub :=
  (untouched.play (setUp 0 "a" ++ [.ask 0 (.enqueue none)])).1.failing [⟨.delete, .connectors⟩]

/-- The last of three statements fails, after the schedule and the state were deleted. -/
theorem removal_denied_at_last_statement :
    (Operation.remove "a").isIndivisible = true ∧
      undeletable.answer 0 (.remove "a") = .error (.notRemoved "a") ∧
      (undeletable.rows.schedules.get? "a").isSome ∧
      (undeletable.move (.ask 0 (.remove "a"))).1.rows = undeletable.rows ∧
      (undeletable.move (.ask 0 (.remove "a"))).1.site.queue = [⟨"a"⟩] ∧
      ((undeletable.move (.ask 0 (.remove "a"))).1.node 0).trackedNames = ["a"] ∧
      ((undeletable.move (.ask 0 (.remove "a"))).1.node 0).live.get? "a" = none := by
  have hanswer : undeletable.answer 0 (.remove "a") = .error (.notRemoved "a") := rfl
  have hdenied : (Operation.remove "a").isDenied (undeletable.answer 0 (.remove "a")) = true := by
    rw [hanswer]
    rfl
  have hqueue : undeletable.site.queue = [⟨"a"⟩] := rfl
  have htracked : (undeletable.node 0).trackedNames = ["a"] := by decide +kernel
  obtain ⟨hrows, -, hq, ht, hl⟩ := denied_call_leaves_everything undeletable 0 rfl hdenied
  refine ⟨rfl, hanswer, rfl, hrows, hq.trans hqueue, ?_, ?_⟩
  · rw [Node.trackedNames, ht]
    exact htracked
  · rw [hl]
    exact Table.get?_erase_self _ _

end Hub

end ConnectorHub
