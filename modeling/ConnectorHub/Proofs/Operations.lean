import ConnectorHub.Proofs.Changes

/-! What operations change. The answer of an operation tells what it did to the rows, unless a
statement fails. -/
namespace ConnectorHub

open Store Act

namespace Desk

/-- Every connector at hand is stored. -/
def Sound (d : Desk) : Prop :=
  ∀ name i, d.node.live.get? name = some i → (d.rows.connectors.get? name).isSome

theorem Sparing.sound {d d' : Desk} (h : d.Sparing d') (hd : d.Sound) : d'.Sound := by
  intro name i hi
  rw [h.connectors]
  rcases h.made name i hi with hi | ⟨hi, -⟩
  · exact hd name i hi
  · rw [hi]
    rfl

/-- Where every connector at hand is stored, the connectors that are known are those stored. -/
theorem Sound.isSome_known {d : Desk} (h : d.Sound) (name : String) :
    (d.known name).isSome = (d.rows.connectors.get? name).isSome := by
  unfold known
  cases hi : d.node.live.get? name with
  | none => rfl
  | some i => exact (h name i hi).symm

theorem Sound.configured {d : Desk} (h : d.Sound) (name : String) (row : ConnectorRow)
    (i : Instance) : ((d.withRows (d.rows.configured name row)).keeping name i).Sound := by
  intro other j hj
  by_cases ho : other = name
  · subst ho
    simp [Rows.configured]
  · have hl : d.node.live.get? other = some j := (Table.get?_insert_of_ne _ _ ho).symm.trans hj
    simpa [Rows.configured, Table.get?_insert_of_ne _ _ ho] using h other j hl

theorem Sound.without {d : Desk} (h : d.Sound) (name : String) (n : Nat) :
    (((d.forgetting name).withRows (d.rows.without name)).counting n).Sound := by
  intro other j hj
  have hj : (d.node.live.erase name).get? other = some j := hj
  by_cases ho : other = name
  · rw [ho, Table.get?_erase_self] at hj
    cases hj
  · rw [Table.get?_erase_of_ne _ ho] at hj
    simpa [Rows.without, Table.get?_erase_of_ne _ ho] using h other j hj

/-- A connector is no longer watched, and its job does not wait any more. -/
def untracking (d : Desk) (name : String) : Desk :=
  if d.node.tracked.any (·.1 = name) then
    { node := { d.node with tracked := d.node.tracked.filter (·.1 ≠ name) }
      site :=
        if d.site.isQueued (jobId name) then (d.site.dropJobs (jobId name)).unlock (lockKey name)
        else d.site.dropJobs (jobId name) }
  else d

theorem steady_untracking (d : Desk) (name : String) : d.Steady (d.untracking name) := by
  unfold untracking
  split
  · split <;> exact ⟨.of_eq rfl rfl (Nat.le_refl _) rfl rfl rfl, rfl, rfl, rfl⟩
  · exact .refl d

/-- A change of rows that leaves the connectors alone. -/
theorem Sound.withRows {d : Desk} (h : d.Sound) {rows : Rows} (n : Nat)
    (hc : rows.connectors = d.rows.connectors) : ((d.withRows rows).counting n).Sound := by
  intro name i hi
  simpa [hc] using h name i hi

end Desk

namespace Act

/-- Performing the action changes nothing that is stored or known, wherever it is performed. -/
abbrev Steady (a : Act α) : Prop := Moves Desk.Steady a

theorem Moves.steady {a : Act α} (h : Calm a) : Steady a := fun d => (h d).toSteady

theorem steady_tracked (f : Node → List (String × ScheduleRow)) :
    Steady (changeNode fun n => { n with tracked := f n }) := fun _ =>
  ⟨.of_eq rfl rfl (Nat.le_refl _) rfl rfl rfl, rfl, rfl, rfl⟩

end Act

namespace Scheduler

theorem perform_untrack (name : String) (d : Desk) :
    (untrack name).perform d = (.ok (), d.untracking name) := by
  simp only [untrack, perform_bind, perform_node, Desk.untracking]
  split
  · simp only [perform_bind, perform_changeNode, perform_site, perform_changeSite]
    split <;> rfl
  · rfl

theorem steady_untrack (name : String) : Steady (untrack name) := fun d => by
  rw [perform_untrack]
  exact d.steady_untracking name

theorem steady_sync : Steady sync :=
  (Moves.steady (calm_store Schedules.means_all _)).bind fun _ => steady_tracked _

theorem calm_isDue (now : Time.DateTime) (t : String × ScheduleRow) :
    Calm (isDue now t.1 t.2) := by
  unfold isDue
  cases Schedule.parse t.2.text with
  | ok s => exact .pure _
  | error _ => exact (calm_warn _).bind fun _ => .pure _

theorem calm_dueAmong (now : Time.DateTime) (tracked : List (String × ScheduleRow)) :
    Calm (dueAmong now tracked) :=
  (Moves.filterM fun t _ => calm_isDue now t).bind fun _ => .pure _

/-- The job of a connector is put on the queue with its lock, unless the lock is taken. The lock stays
if the queue does not take the job. -/
theorem perform_enqueue (now : Time.DateTime) (name : String) (d : Desk) :
    (d.site.locks.contains (lockKey name) = true ∧ (enqueue now name).perform d = (.ok false, d)) ∨
    (d.site.locks.contains (lockKey name) = false ∧ ∃ s,
      s = { d.site with
        locks := d.site.locks.insert (lockKey name) (lockAt now d.site.settings.lockTtl) } ∧
      (d.site.refuses ⟨name⟩ = true ∧
          (enqueue now name).perform d = (.error (.notQueued name), { d with site := s }) ∨
        d.site.refuses ⟨name⟩ = false ∧
          (enqueue now name).perform d = (.ok true, { d with site := s.enqueue ⟨name⟩ }))) := by
  simp only [enqueue, perform_bind, perform_site]
  unfold Site.lock?
  by_cases hl : d.site.locks.contains (lockKey name) = true
  · rw [if_pos hl]
    exact .inl ⟨hl, rfl⟩
  · rw [if_neg hl]
    refine .inr ⟨Bool.eq_false_iff.2 hl, _, rfl, ?_⟩
    simp only [queueUp, perform_bind, perform_changeSite, perform_site]
    by_cases hr : d.site.refuses ⟨name⟩ = true
    · rw [if_pos hr]
      exact .inl ⟨hr, rfl⟩
    · rw [if_neg hr]
      exact .inr ⟨Bool.eq_false_iff.2 hr, rfl⟩

theorem steady_enqueue (now : Time.DateTime) (name : String) : Steady (enqueue now name) := by
  intro d
  rcases perform_enqueue now name d with ⟨-, hp⟩ | ⟨-, s, rfl, ⟨-, hp⟩ | ⟨-, hp⟩⟩ <;> rw [hp]
  · exact .refl d
  · exact ⟨.of_eq rfl rfl (Nat.le_refl _) rfl rfl rfl, rfl, rfl, rfl⟩
  · exact ⟨.of_eq rfl rfl (Nat.le_refl _) rfl rfl rfl, rfl, rfl, rfl⟩

/-- What the scheduler does once it knows the time. -/
def pass (now : Time.DateTime) : Act (List String) := do
  sync
  let due ← dueAmong now (← node).tracked
  due.filterM (enqueue now)

theorem perform_enqueueDue (now : Option Time.DateTime) (d : Desk) :
    ∃ d₁, d.Calm d₁ ∧ d₁.site.log = d.site.log ∧
      (enqueueDue now).perform d = (pass (now.getD d.site.clock.now).inUtc).perform d₁ := by
  cases now with
  | none => exact ⟨_, calm_readClock d, rfl, rfl⟩
  | some t => exact ⟨d, .refl d, rfl, rfl⟩

theorem moves_enqueueDue {R : Desk → Desk → Prop} [IsPreorder Desk R] (hclock : Moves R readClock)
    (hpass : ∀ t, Moves R (pass t)) (now : Option Time.DateTime) : Moves R (enqueueDue now) := by
  cases now with
  | none => exact hclock.bind fun t => hpass t.inUtc
  | some t => exact Moves.bind (.pure t) fun t => hpass t.inUtc

theorem steady_pass (now : Time.DateTime) : Steady (pass now) :=
  steady_sync.bind fun _ => moves_node.bind fun _ => (Moves.steady (calm_dueAmong _ _)).bind
    fun _ => Moves.filterM fun name _ => steady_enqueue now name

theorem steady_enqueueDue (now : Option Time.DateTime) : Steady (enqueueDue now) :=
  moves_enqueueDue (Moves.steady calm_readClock) steady_pass now

end Scheduler

namespace Scenario.Operation

theorem perform_noAnswer (a : Act Unit) (d : Desk) :
    (noAnswer a).perform d = ((a.perform d).1.map fun _ => .null, (a.perform d).2) :=
  perform_map a _ d

/-- The operation watches schedules and puts traversals on the queue. -/
def isScheduling : Operation → Bool
  | sync | untrack _ | enqueue _ | startup => true
  | _ => false

/-- The operation changes what is stored about a connector, by way of the manager. -/
def isAdministrative : Operation → Bool
  | configure .. | setSchedule .. | remove _ | restart _ => true
  | _ => false

/-- The operation does not reach past the manager and the scheduler. -/
def isManaged (op : Operation) : Bool := op.isQuestion || op.isScheduling || op.isAdministrative

theorem steady_startInterface : Steady startInterface :=
  (Scheduler.steady_enqueueDue none).attempt.bind fun x => by
    cases x with
    | ok _ => exact .pure _
    | error _ => exact Moves.steady (calm_logs _)

theorem steady_of_isScheduling {op : Operation} (h : op.isScheduling = true) :
    Steady op.perform := by
  cases op with
  | sync => exact Scheduler.steady_sync.map _
  | untrack name => exact (Scheduler.steady_untrack name).map _
  | enqueue now => exact (Scheduler.steady_enqueueDue now).map _
  | startup => exact steady_startInterface.map _
  | _ => cases h

/-- The parts of which the operations of manager and scheduler are made move along the relation. -/
structure Guided (R : Desk → Desk → Prop) : Prop where
  calm : ∀ {α : Type} {a : Act α}, Calm a → Moves R a
  sync : Moves R Scheduler.sync
  untrack : ∀ name, Moves R (Scheduler.untrack name)
  enqueueDue : ∀ now, Moves R (Scheduler.enqueueDue now)
  configure : ∀ name typeName config locale update,
    Moves R (Instances.configure name typeName config locale update)
  setSchedule : ∀ name text, Moves R (Instances.setSchedule name text)
  remove : ∀ name, Moves R (Administration.remove name)
  restart : ∀ name, Moves R (Administration.restart name)

theorem Guided.setting {R : Desk → Desk → Prop} [IsPreorder Desk R] (h : Guided R) (name : String)
    (load retryDelay : Int) (intervals : String) :
    Moves R (Administration.setSchedule name load retryDelay intervals) :=
  Moves.bind (.give _) fun _ => Moves.bind (.give _) fun text =>
    (h.setSchedule name text).bind fun _ => .pure _

theorem Guided.moves {R : Desk → Desk → Prop} [IsPreorder Desk R] (h : Guided R) {op : Operation}
    (hop : op.isManaged = true) : Moves R op.perform := by
  rcases Bool.or_eq_true_iff.1 hop with hop | hop
  · rcases Bool.or_eq_true_iff.1 hop with hop | hop
    · exact h.calm (calm_of_isQuestion hop)
    · cases op with
      | sync => exact h.sync.map _
      | untrack name => exact (h.untrack name).map _
      | enqueue now => exact (h.enqueueDue now).map _
      | startup =>
        refine Moves.map _ ((h.enqueueDue none).attempt.bind fun x => ?_)
        cases x with
        | ok _ => exact .pure _
        | error _ => exact h.calm (calm_logs _)
      | _ => cases hop
  · cases op with
    | configure => exact (h.configure _ _ _ _ _).map _
    | setSchedule name load retryDelay intervals =>
      exact (h.setting name load retryDelay intervals).map _
    | remove name => exact (h.remove name).map _
    | restart name => exact (h.restart name).map _
    | _ => cases hop

/-- What it comes to to administer a connector at a desk: the answer, and the desk afterwards. -/
inductive Administered (d : Desk) : Operation → Except Failure Json → Desk → Prop
  | configured {name typeName : String} {settings : Config} {language : Option String}
      {update : Bool} {d₁ : Desk} {i : Instance} (calm : d.Calm d₁)
      (checked : Instances.checkConfigurable name typeName (d.known name) update = .ok ())
      (row : i.row = ⟨typeName, settings⟩) (made : d.made? i.row = some i.connector) :
      Administered d (configure name typeName settings language update) (.ok .null)
        ((d₁.withRows (d₁.rows.configured name ⟨typeName, settings⟩)).keeping name i)
  | notConfigured {name typeName : String} {settings : Config} {language : Option String}
      {update : Bool} {answer : Except Failure Json} {d₁ : Desk} (calm : d.Calm d₁)
      (node : d₁.node = d.node) (refused : answer ≠ .ok .null) :
      Administered d (configure name typeName settings language update) answer d₁
  | scheduled {name : String} {load retryDelay : Int} {intervals : String} {s : Schedule}
      {text : String} {n : Nat} (make : Schedule.make name load retryDelay intervals = .ok s)
      (format : s.format = .ok text) (known : (d.known name).isSome) :
      Administered d (setSchedule name load retryDelay intervals) (.ok (.text text))
        ((d.withRows (d.rows.scheduled name text)).counting n)
  | notScheduled {name : String} {load retryDelay : Int} {intervals : String} {f : Failure}
      {n : Nat} :
      Administered d (setSchedule name load retryDelay intervals) (.error f) (d.counting n)
  | removed {name : String} {n : Nat} :
      Administered d (remove name) (.ok .null)
        ((((d.forgetting name).withRows (d.rows.without name)).counting n).untracking name)
  | notRemoved {name : String} {n : Nat} (works : ¬ d.Works) :
      Administered d (remove name) (.error (.notRemoved name)) ((d.forgetting name).counting n)
  | restarted {name : String} {n : Nat} (known : (d.known name).isSome) :
      Administered d (restart name) (.ok .null)
        (((d.untracking name).withRows ((d.rows.reset name).marked name none none)).counting n)
  | notRestarted {name : String} {f : Failure} {n : Nat} :
      Administered d (restart name) (.error f) ((d.untracking name).counting n)
  /-- The state begins anew, but the times stay. -/
  | halfRestarted {name : String} {f : Failure} {n : Nat} (works : ¬ d.Works)
      (known : (d.known name).isSome) :
      Administered d (restart name) (.error f)
        (((d.untracking name).withRows (d.rows.reset name)).counting n)

theorem administered_configure (name typeName : String) (settings : Config)
    (language : Option String) (update : Bool) (d : Desk) :
    let p := (configure name typeName settings language update).perform.perform d
    Administered d (configure name typeName settings language update) p.1 p.2 := by
  simp only [perform, Administration.configure, perform_bind]
  obtain ⟨d₁, hd, hn, ⟨i, hc, hrow, hmade, hp⟩ | ⟨x, hx, hp⟩⟩ :=
    Instances.perform_configure name typeName settings (.ofTag? language) update d
  · rw [hp]
    exact .configured hd hc hrow hmade
  · rw [hp]
    rcases x with f | _ | form
    · exact .notConfigured hd hn nofun
    · exact absurd rfl hx
    · exact .notConfigured hd hn nofun

theorem administered_setSchedule (name : String) (load retryDelay : Int) (intervals : String)
    (d : Desk) :
    let p := (setSchedule name load retryDelay intervals).perform.perform d
    Administered d (setSchedule name load retryDelay intervals) p.1 p.2 := by
  simp only [perform, Administration.setSchedule, perform_bind, perform_give]
  cases hs : Schedule.make name load retryDelay intervals with
  | error e => exact .notScheduled (n := 0)
  | ok s =>
    rw [mapError_ok]
    dsimp only
    cases ht : s.format with
    | error e => exact .notScheduled (n := 0)
    | ok text =>
      rw [mapError_ok]
      dsimp only
      obtain ⟨n, ⟨hk, hp⟩ | ⟨f, hp⟩⟩ := Instances.perform_setSchedule name text d
      · rw [hp]
        exact .scheduled hs ht hk
      · rw [hp]
        exact .notScheduled

theorem administered_remove (name : String) (d : Desk) :
    let p := (remove name).perform.perform d
    Administered d (remove name) p.1 p.2 := by
  simp only [perform, noAnswer, Administration.remove, perform_bind]
  obtain ⟨n, hp | ⟨hw, hp⟩⟩ := Instances.perform_remove name d
  · simp only [hp, Scheduler.perform_untrack]
    exact .removed
  · simp only [hp]
    exact .notRemoved hw

theorem administered_restart (name : String) (d : Desk) :
    let p := (restart name).perform.perform d
    Administered d (restart name) p.1 p.2 := by
  simp only [perform, noAnswer, Administration.restart, perform_bind, Scheduler.perform_untrack]
  have ht := d.steady_untracking name
  obtain ⟨n, ⟨hk, hp⟩ | ⟨f, hp⟩ | ⟨hw, hk, f, hp⟩⟩ :=
    Instances.perform_restart name (d.untracking name)
  · rw [hp, ht.rows]
    exact .restarted (ht.known name ▸ hk)
  · rw [hp]
    exact .notRestarted
  · rw [hp, ht.rows]
    exact .halfRestarted (mt ht.works hw) (ht.known name ▸ hk)

theorem administered_of_isAdministrative {op : Operation} (h : op.isAdministrative = true)
    (d : Desk) : Administered d op (op.perform.perform d).1 (op.perform.perform d).2 := by
  cases op with
  | configure => exact administered_configure ..
  | setSchedule => exact administered_setSchedule ..
  | remove => exact administered_remove ..
  | restart => exact administered_restart ..
  | _ => cases h

/-- The rows after an operation, by its answer. -/
def effect : Operation → Except Failure Json → Rows → Rows
  | configure name typeName settings _ _, .ok .null, rows =>
    rows.configured name ⟨typeName, settings⟩
  | setSchedule name .., .ok (.text text), rows => rows.scheduled name text
  | remove name, .ok _, rows => rows.without name
  | restart name, .ok _, rows => (rows.reset name).marked name none none
  | _, _, rows => rows

/-- What an operation comes to that answers so. Only a failing statement can leave a restart half
done. -/
structure Account (op : Operation) (answer : Except Failure Json) (d d' : Desk) : Prop where
  works : d.Works → d'.Works
  rows : d'.rows = op.effect answer d.rows ∨
    ¬ d.Works ∧ ∃ name f, op = restart name ∧ answer = .error f ∧ d'.rows = d.rows.reset name
  sound : d.Works → d.Sound → d'.Sound
  configured : ∀ name typeName settings language update,
    op = configure name typeName settings language update → answer = .ok .null →
      (d.known name).isSome = update
  restarted : ∀ name v, op = restart name → answer = .ok v → (d.known name).isSome

/-- An operation that has no effect and only moves on steadily. -/
theorem Account.of_steady {op : Operation} {answer : Except Failure Json} {d d' : Desk}
    (h : d.Steady d') (he : op.effect answer d.rows = d.rows)
    (hc : ∀ name typeName settings language update,
      op = configure name typeName settings language update → answer ≠ .ok .null)
    (hr : ∀ name v, op = restart name → answer ≠ .ok v) : Account op answer d d' where
  works := h.works
  rows := .inl (h.rows.trans he.symm)
  sound := fun _ => h.sound
  configured := fun name typeName settings language update ho ha =>
    absurd ha (hc name typeName settings language update ho)
  restarted := fun name v ho ha => absurd ha (hr name v ho)

theorem Administered.account {op : Operation} {answer : Except Failure Json} {d d' : Desk}
    (h : Administered d op answer d') : Account op answer d d' := by
  cases h with
  | @configured name typeName settings language update d₁ i calm checked =>
    refine ⟨calm.works, .inl (by simp [effect, ← calm.rows]),
      fun _ hs => (calm.sound hs).configured name _ i, ?_, nofun⟩
    intro name' typeName' settings' language' update' ho _
    cases ho
    cases hk : d.known name with
    | none =>
      cases update with
      | false => rfl
      | true => simp [hk, Instances.checkConfigurable] at checked
    | some r =>
      cases update with
      | false => simp [hk, Instances.checkConfigurable] at checked
      | true => rfl
  | notConfigured calm _ refused =>
    refine .of_steady calm.toSteady ?_ (fun _ _ _ _ _ _ => refused) nofun
    rcases answer with f | v
    · rfl
    · cases v with
      | null => exact absurd rfl refused
      | _ => rfl
  | @scheduled name _ _ _ s text n =>
    exact ⟨fun hw => hw.counting _ n, .inl (by simp [effect]), fun _ hs => hs.withRows n rfl, nofun,
      nofun⟩
  | @notScheduled _ _ _ _ _ n =>
    exact .of_steady (d.calm_counting n).toSteady (by simp [effect]) nofun nofun
  | @removed name n =>
    have ht := Desk.steady_untracking
      (((d.forgetting name).withRows (d.rows.without name)).counting n) name
    exact ⟨fun hw => ht.works ((hw.forgetting name).counting _ n),
      .inl (by simp [effect, ht.rows]), fun _ hs => ht.sound (hs.without name n), nofun, nofun⟩
  | notRemoved works =>
    exact ⟨fun h => absurd h works, .inl (by simp [effect]), fun h => absurd h works, nofun, nofun⟩
  | @restarted name n known =>
    have ht := d.steady_untracking name
    refine ⟨fun hw => (ht.works hw).counting _ n, .inl (by simp [effect]),
      fun _ hs => (ht.sound hs).withRows n ?_, nofun, ?_⟩
    · simp [ht.rows]
    · intro name' v ho _
      cases ho
      exact known
  | @notRestarted name _ n =>
    have ht := d.steady_untracking name
    exact .of_steady (ht.trans (Desk.calm_counting _ n).toSteady) (by simp [effect]) nofun nofun
  | @halfRestarted name f n works =>
    have ht := d.steady_untracking name
    exact ⟨fun h => absurd h works, .inr ⟨works, name, f, rfl, rfl, by simp⟩,
      fun h => absurd h works, nofun, nofun⟩

theorem Account.of_not_isAdministrative {op : Operation} (h : op.isAdministrative = false)
    {answer : Except Failure Json} {d d' : Desk} (hd : d.Steady d') : Account op answer d d' := by
  refine .of_steady hd ?_ ?_ ?_
  · cases op with
    | configure | setSchedule | remove | restart => cases h
    | _ => rfl
  · rintro name typeName settings language update rfl
    cases h
  · rintro name v rfl
    cases h

theorem steady_of_not_isAdministrative {op : Operation} (h : op.isManaged = true)
    (ha : op.isAdministrative = false) : Steady op.perform := by
  rcases Bool.or_eq_true_iff.1 h with h | h
  · rcases Bool.or_eq_true_iff.1 h with h | h
    · exact Moves.steady (calm_of_isQuestion h)
    · exact steady_of_isScheduling h
  · rw [ha] at h
    cases h

/-- What is asked of a hub by way of the manager and the scheduler changes no more than its answer
tells. -/
theorem account_of_isManaged {op : Operation} (h : op.isManaged = true) (d : Desk) :
    Account op (op.perform.perform d).1 d (op.perform.perform d).2 := by
  cases ha : op.isAdministrative with
  | false => exact .of_not_isAdministrative ha (steady_of_not_isAdministrative h ha d)
  | true => exact (administered_of_isAdministrative ha d).account

end Scenario.Operation

end ConnectorHub
