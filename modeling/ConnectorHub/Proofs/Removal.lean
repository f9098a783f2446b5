import ConnectorHub.Proofs.Answers
import ConnectorHub.Proofs.Tidiness

/-! Removal is complete and final. At a node that works alone, a connector that is removed leaves
nothing behind, and nothing comes back before it is created again. -/
namespace ConnectorHub

open Store Act Scenario

namespace Hub

variable {place : Nat} {h : Hub}

/-- The traversals of a connector that go on. -/
def traversalsOf (h : Hub) (name : String) : List (Nat × Traversal.Running) :=
  h.going.filter (·.2.connector = name)

/-- A connector that is not stored is not traversed. -/
theorem absent_begin {name : String} (hs : (h.desk place).Sound)
    (hn : h.rows.connectors.get? name = none) (other : String) :
    (h.begin place other).1.rows.connectors.get? name = none ∧
      (h.begin place other).1.traversalsOf name = h.traversalsOf name := by
  rcases h.begin_cases place other with ⟨t, d, ht, hp⟩ | ⟨d, hd, hp⟩
  · rw [hp]
    refine ⟨(congrArg (·.get? name) ht.passing.connectors).trans hn, ?_⟩
    have hne : t.connector ≠ name := by
      rintro rfl
      have hk := ht.known
      rw [← ht.connector, hs.isSome_known] at hk
      exact absurd hn (Option.isSome_iff_ne_none.1 hk)
    simp [traversalsOf, hne]
  · rw [hp]
    exact ⟨(congrArg (·.get? name) hd.connectors).trans hn, rfl⟩

/-- A connector that is not stored is created or stays so. No traversal of it is begun. -/
theorem Tidy.absent_move (ht : h.Tidy place) {m : Move} (hm : m.isAt place = true) {name : String}
    (hn : h.rows.connectors.get? name = none)
    (hnew : ∀ e ∈ (h.move m).2, e.creates name = false) :
    (h.move m).1.rows.connectors.get? name = none ∧
      ((h.move m).1.traversalsOf name).Sublist (h.traversalsOf name) := by
  cases m with
  | ask p op =>
    obtain ⟨rfl, hop⟩ : p = place ∧ op.isManaged = true := by simpa [Move.isAt] using hm
    refine ⟨?_, .refl _⟩
    have hbecame := (Operation.account_of_isManaged hop (h.desk p)).became ht.desk.works
      ht.desk.sound name
    have hcreates := hnew _ List.mem_cons_self
    cases hbecame with
    | created creates => exact absurd (hcreates.symm.trans creates) Bool.false_ne_true
    | restarted _ _ _ known => exact absurd hn known
    | removed _ _ _ gone => exact gone
    | kept _ _ _ connector => exact connector.2 hn
  | begin p other =>
    obtain rfl : p = place := of_decide_eq_true hm
    obtain ⟨hrow, hgoing⟩ := absent_begin ht.desk.sound hn other
    exact ⟨hrow, hgoing ▸ .refl _⟩
  | work p index =>
    obtain rfl : p = place := of_decide_eq_true hm
    cases hj : h.site.queue[index]? with
    | none =>
      simp only [Hub.move, hj]
      exact ⟨hn, .refl _⟩
    | some job =>
      have hsound : ((h.without index).desk p).Sound := ht.desk.sound
      obtain ⟨hrow, hgoing⟩ := absent_begin hsound hn job.connector
      simp only [Hub.move, hj]
      exact ⟨hrow, hgoing ▸ .refl _⟩
  | finish index answer =>
    cases hi : h.going[index]? with
    | none =>
      simp only [Hub.move, hi]
      exact ⟨hn, .refl _⟩
    | some g =>
      obtain ⟨q, t⟩ := g
      obtain ⟨d₁, x, d₂, -, hj, hclosed, -, hp⟩ := finish_cases hi answer
      rw [hp]
      exact ⟨(congrArg (·.get? name) (hclosed.passing.connectors.trans hj.sparing.connectors)).trans hn,
        (List.eraseIdx_sublist ..).filter _⟩
  | pause clock => exact ⟨hn, .refl _⟩

theorem absent_of_run {start : Hub} {past : List Event} {name : String} (ht : start.Tidy place)
    (run : Run (fun _ m => m.isAt place = true) start past h)
    (hn : start.rows.connectors.get? name = none) (hnew : ∀ e ∈ past, e.creates name = false) :
    h.Tidy place ∧ h.rows.connectors.get? name = none ∧
      (h.traversalsOf name).Sublist (start.traversalsOf name) := by
  induction run with
  | none => exact ⟨ht, hn, .refl _⟩
  | next run here ih =>
    obtain ⟨ht', hn', hgoing'⟩ := ih fun e he => hnew e (List.mem_append_right _ he)
    obtain ⟨hrow, hgoing⟩ :=
      ht'.absent_move here hn' fun e he => hnew e (List.mem_append_left _ he)
    exact ⟨ht'.move here, hrow, hgoing.trans hgoing'⟩

/-- Nothing is left of a connector at a node, and the node answers as if it had never been. A lock
that is taken belongs to a traversal that goes on, if the queue takes the jobs of the connector. -/
structure Gone (place : Nat) (name : String) (h : Hub) : Prop where
  rows : h.rows.about name = {}
  live : (h.node place).live.get? name = none
  watched : (h.node place).watches name = false
  waiting : h.site.waiting name = 0
  locked : h.site.refuses ⟨name⟩ = false → h.site.isLocked name = true → h.traversalsOf name ≠ []
  authenticate : ∀ identity,
    ((Administration.authenticate name identity).perform (h.desk place)).1 = .ok false
  authorize : ∀ docids username,
    ((Administration.authorize name docids username).perform (h.desk place)).1 = .ok []
  update : ∀ typeName settings language,
    ((Administration.configure name typeName settings language true).perform (h.desk place)).1 =
      .error (.connectorNotFound name)
  restart : ((Administration.restart name).perform (h.desk place)).1 =
    .error (.connectorNotFound name)
  setSchedule : ∀ load retryDelay intervals s text,
    Schedule.make name load retryDelay intervals = .ok s → s.format = .ok text →
      ((Administration.setSchedule name load retryDelay intervals).perform (h.desk place)).1 =
        .error (.connectorNotFound name)

theorem Tidy.gone (ht : h.Tidy place) {name : String} (hn : h.rows.connectors.get? name = none) :
    h.Gone place name := by
  have hrows : h.rows.about name = {} := ht.desk.rooted name hn
  have hlive : (h.node place).live.get? name = none := by
    cases hl : (h.node place).live.get? name with
    | none => rfl
    | some i =>
      have hstored : (h.rows.connectors.get? name).isSome := ht.desk.sound name i hl
      rw [hn] at hstored
      cases hstored
  have hwatched : (h.node place).watches name = false := by
    cases hw : (h.node place).watches name with
    | false => rfl
    | true =>
      have hscheduled : (h.rows.about name).schedule.isSome := ht.desk.scheduled name hw
      rw [hrows] at hscheduled
      cases hscheduled
  have hwaiting : h.site.waiting name = 0 := by
    unfold Site.waiting
    rw [List.countP_eq_zero]
    rintro j hj hjn
    have hw : (h.node place).watches j.connector = true := ht.desk.queued j hj
    rw [of_decide_eq_true hjn, hwatched] at hw
    cases hw
  have hknown : (h.desk place).known name = none := by
    unfold Desk.known
    rw [show (h.desk place).node.live.get? name = none from hlive]
    exact hn
  have hworks : (h.desk place).Works := ht.works
  have hanswers : (h.desk place).AnswersBy name none := by
    rw [← hknown]
    exact Desk.Genuine.answersBy fun i hi => by
      rw [show (h.desk place).node.live.get? name = none from hlive] at hi
      cases hi
  refine ⟨hrows, hlive, hwatched, hwaiting, ?locked, ?authenticate, ?authorize, ?update, ?restart,
    ?setSchedule⟩
  case locked =>
    intro hr hl hnone
    have hpos := ht.desk.locked name hr hl
    rw [show (h.desk place).site.waiting name = 0 from hwaiting, Nat.zero_add] at hpos
    rw [traversing, List.countP_eq_length_filter, ← traversalsOf, hnone] at hpos
    cases hpos
  case authenticate =>
    exact fun identity => (hanswers.authenticate identity).resolve_right fun hw => hw.1 hworks
  case authorize =>
    exact fun docids username =>
      (hanswers.authorize docids username).resolve_right fun hw => hw.1 hworks
  case update =>
    exact fun typeName settings language =>
      (Instances.gives_configure_of_unknown hknown typeName settings _).of_works hworks
  case restart =>
    have hsteady := (h.desk place).steady_untracking name
    simp only [Administration.restart, perform_bind, Scheduler.perform_untrack]
    exact (Instances.gives_restart_of_unknown ((hsteady.known name).trans hknown)).of_works
      (hsteady.works hworks)
  case setSchedule =>
    intro load retryDelay intervals s text hs hf
    simp only [Administration.setSchedule, perform_bind, perform_give, hs, hf, mapError_ok]
    have hanswer := (Instances.gives_setSchedule_of_unknown hknown text).of_works hworks
    cases hp : (Instances.setSchedule name text).perform (h.desk place) with
    | mk x d =>
      rw [hp] at hanswer
      cases hanswer
      rfl

theorem answer_remove (hw : h.Works) (name : String) :
    h.answer place (.remove name) = .ok .null ∧
      (h.move (.ask place (.remove name))).1.rows.connectors.get? name = none := by
  have hd : (h.desk place).Works := hw
  simp only [answer, move, Operation.perform, Operation.noAnswer, Administration.remove,
    perform_bind]
  obtain ⟨n, hp | ⟨hn, -⟩⟩ := Instances.perform_remove name (h.desk place)
  · simp only [hp, Scheduler.perform_untrack, perform_pure, rows_leave]
    have hsteady := Desk.steady_untracking
      ((((h.desk place).forgetting name).withRows ((h.desk place).rows.without name)).counting n) name
    refine ⟨trivial, ?_⟩
    rw [hsteady.rows]
    exact Table.get?_erase_self ..
  · exact absurd hd hn

/-- A connector that is removed is gone, and stays so until it is created again, whatever happens in
between. At most those of its traversals go on that did when it was removed. -/
theorem removal_is_final {start h₀ : Hub} {past later : List Event} {name : String}
    (hs : start.IsBlank place) (run : Run (fun _ m => m.isAt place = true) start past h₀)
    (after : Run (fun _ m => m.isAt place = true) (h₀.move (.ask place (.remove name))).1 later h)
    (hnew : ∀ e ∈ later, e.creates name = false) :
    h₀.answer place (.remove name) = .ok .null ∧ h.Gone place name ∧
      (h.traversalsOf name).Sublist (h₀.traversalsOf name) := by
  have ht := run.tidy hs
  have ht₁ : (h₀.move (.ask place (.remove name))).1.Tidy place := ht.move (by
    simp [Move.isAt, Operation.isManaged, Operation.isAdministrative])
  obtain ⟨hanswer, hremoved⟩ := answer_remove ht.works name
  obtain ⟨hth, hn, hgoing⟩ := absent_of_run ht₁ after hremoved hnew
  exact ⟨hanswer, hth.gone hn, hgoing⟩

/-- A connector is traversed, and its lock is taken. -/
def traversed : Hub := (untouched.play (setUp 0 "a" ++ [.ask 0 (.enqueue none), .work 0 0])).1

/-- Its traversal ends, and its next one would be due. -/
def traversalEnds : List Move :=
  [.ask 0 (.enqueue none), .finish 0 (.ok ⟨[], some "x"⟩), .ask 0 (.enqueue none)]

/-- The traversal that went on when its connector was removed brings nothing back. -/
theorem removal_survives_traversal :
    (traversed.traversalsOf "a").length = 1 ∧ traversed.site.isLocked "a" = true ∧
      traversed.answer 0 (.remove "a") = .ok .null ∧
      ((traversed.move (.ask 0 (.remove "a"))).1.play traversalEnds).1.Gone 0 "a" ∧
      ((traversed.move (.ask 0 (.remove "a"))).1.play traversalEnds).1.traversalsOf "a" = [] := by
  have hblank : untouched.IsBlank 0 := ⟨⟨fun _ _ _ => rfl, rfl, rfl, rfl⟩, rfl, rfl, rfl⟩
  have hbefore : untouched.Allows (fun _ m => m.isAt 0 = true)
      (setUp 0 "a" ++ [.ask 0 (.enqueue none), .work 0 0]) := by decide +kernel
  have hafter : (traversed.move (.ask 0 (.remove "a"))).1.Allows (fun _ m => m.isAt 0 = true)
      traversalEnds := by decide +kernel
  have hnew : ∀ e ∈ ((traversed.move (.ask 0 (.remove "a"))).1.play traversalEnds).2,
      e.creates "a" = false := by decide +kernel
  obtain ⟨hanswer, hgone, -⟩ := removal_is_final hblank (untouched.run_play _ hbefore)
    ((traversed.move (.ask 0 (.remove "a"))).1.run_play traversalEnds hafter) hnew
  exact ⟨by decide +kernel, by decide +kernel, hanswer, hgone, by decide +kernel⟩

/-- A hub whose queue takes no jobs. -/
def withoutQueue : Hub := { untouched with site := { untouched.site with refuses := fun _ => true } }

/-- A schedule is made before it is asked whether its connector exists. And where the queue does not
take a job, the lock that was taken for it stays. -/
theorem removal_not_final_at_bad_schedule_or_refused_job :
    ((untouched.play (setUp 0 "a" ++ [.ask 0 (.remove "a")])).1.answer 0
        (.setSchedule "a" 0 0 "0-24") = .error (.schedule .loadNotPositive)) ∧
      (withoutQueue.play (setUp 0 "a" ++ [.ask 0 (.enqueue none), .ask 0 (.remove "a")])).1.going =
        [] ∧
      (withoutQueue.play (setUp 0 "a" ++
        [.ask 0 (.enqueue none), .ask 0 (.remove "a")])).1.site.isLocked "a" = true :=
  ⟨rfl, by decide +kernel, by decide +kernel⟩

end Hub

end ConnectorHub
