import ConnectorHub.Proofs.DuePasses

/-! Passes of the scheduler where the queue does not take every job. Such a pass breaks off at the first
connector whose job is not taken, and leaves its lock taken without a job: no later pass queues it, at
any node, as long as the lock stands. The other locks that it took came with their jobs. -/
namespace ConnectorHub

open Store Act Scenario

namespace Site

/-- The locks that are taken when those of some connectors were. -/
theorem isLocked_iff {names : List String} {lock : Lock} {s s' : Site}
    (h : ∀ key, s'.locks.get? key =
      if key ∈ names.map lockKey then some lock else s.locks.get? key) (name : String) :
    s'.isLocked name = true ↔ name ∈ names ∨ s.isLocked name = true := by
  have hmem : lockKey name ∈ names.map lockKey ↔ name ∈ names :=
    List.mem_map_of_injective fun _ _ => lockKey_inj.1
  unfold isLocked Table.contains
  rw [h]
  by_cases hn : name ∈ names
  · simp [hmem, hn]
  · simp [hmem, hn]

/-- The locks that are taken when one more is. -/
theorem Enqueues.locks_withLock {t : Time.DateTime} {names : List String} {s s' : Site}
    (h : s.Enqueues t names s') (hs : s'.settings = s.settings) (name key : String) :
    (s'.withLock t name).locks.get? key =
      if key ∈ (name :: names).map lockKey then some (Scheduler.lockAt t s.settings.lockTtl)
      else s.locks.get? key := by
  rw [withLock, hs, List.map_cons]
  by_cases hkey : key = lockKey name
  · rw [hkey, if_pos List.mem_cons_self]
    exact Table.get?_insert_self ..
  · simp only [List.mem_cons, hkey, false_or]
    rw [← h.locks]
    exact Table.get?_insert_of_ne _ _ hkey

/-- The lock of a connector is taken, and no job of it waits. -/
structure Stuck (name : String) (s : Site) : Prop where
  locked : s.isLocked name = true
  waiting : s.waiting name = 0

end Site

namespace Desk

/-- The connector is due at the time, and its lock is free. -/
def Due (d : Desk) (t : Time.DateTime) (name : String) : Prop :=
  (∃ row, d.rows.schedules.get? name = some row ∧ row.DueAt t) ∧ d.site.isLocked name = false

/-- From one desk to the other every lock that was taken came with a job of its connector. -/
def Tight (d d' : Desk) : Prop :=
  ∃ jobs, d'.site.queue = d.site.queue ++ jobs ∧
    ∀ name, d.site.isLocked name = false → d'.site.isLocked name = true → ⟨name⟩ ∈ jobs

/-- From one desk to the other a pass queued some connectors that are due, and broke off at one whose
job the queue did not take. The locks of all of them were taken. -/
structure BrokenOff (t : Time.DateTime) (names : List String) (name : String) (d d' : Desk) : Prop
    extends d.Steady d' where
  nodup : (name :: names).Nodup
  due : ∀ c ∈ name :: names, d.Due t c
  taken : ∀ c ∈ names, d.site.refuses ⟨c⟩ = false
  refused : d.site.refuses ⟨name⟩ = true
  queue : d'.site.queue = d.site.queue ++ names.map Job.mk
  locks : ∀ key, d'.site.locks.get? key =
    if key ∈ (name :: names).map lockKey then some (Scheduler.lockAt t d.site.settings.lockTtl)
    else d.site.locks.get? key

/-- What a pass comes to: its answer, and the desk afterwards. -/
inductive PassEnd (t : Time.DateTime) (d : Desk) : Except Failure (List String) → Desk → Prop
  | unread {d' : Desk} (hbroken : ¬ d.Works) (h : d.Calm d') :
      PassEnd t d (.error (.store "list schedules")) d'
  | passed {names : List String} {d' : Desk} (h : d.Passed t names d')
      (htaken : ∀ c ∈ names, d.site.refuses ⟨c⟩ = false) : PassEnd t d (.ok names) d'
  | brokenOff {names : List String} {name : String} {d' : Desk} (h : d.BrokenOff t names name d') :
      PassEnd t d (.error (.notQueued name)) d'

variable {t : Time.DateTime} {names : List String} {name : String} {d d' e : Desk}
  {x : Except Failure (List String)}

theorem Surveyed.due_iff {due : List String} (h : d.Surveyed t due d') (c : String) :
    c ∈ due ∧ d'.site.isLocked c = false ↔ d.Due t c := by
  rw [h.due, Site.isLocked_congr h.locks]
  rfl

theorem Calm.due_iff (h : d.Calm d') (c : String) : d'.Due t c ↔ d.Due t c := by
  unfold Due
  rw [h.rows, Site.isLocked_congr h.locks]

theorem Calm.passEnd (h : d.Calm d') (k : d'.PassEnd t x e) : d.PassEnd t x e := by
  cases k with
  | unread hbroken k => exact .unread (mt h.works hbroken) (h.trans k)
  | passed k htaken => exact .passed (h.passed k) fun c hc => h.refuses ▸ htaken c hc
  | brokenOff k =>
    exact .brokenOff {
      toSteady := h.toSteady.trans k.toSteady
      nodup := k.nodup
      due := fun c hc => (h.due_iff c).1 (k.due c hc)
      taken := fun c hc => h.refuses ▸ k.taken c hc
      refused := h.refuses ▸ k.refused
      queue := by rw [k.queue, h.queue]
      locks := fun key => by rw [k.locks, h.locks, h.settings] }

theorem Tight.congr (h : d.Tight d') (hl : e.site.locks = d'.site.locks)
    (hq : e.site.queue = d'.site.queue) : d.Tight e := by
  obtain ⟨jobs, hqueue, hjobs⟩ := h
  refine ⟨jobs, hq.trans hqueue, fun name hfree hlocked => hjobs name hfree ?_⟩
  rwa [Site.isLocked_congr hl] at hlocked

/-- Where a pass is not broken off, it took no lock without a job. -/
theorem Passed.tight (h : d.Passed t names d') : d.Tight d' := by
  refine ⟨_, h.queue, fun name hfree hlocked => List.mem_map.2 ⟨name, ?_, rfl⟩⟩
  refine ((Site.isLocked_iff h.locks name).1 hlocked).resolve_right ?_
  rw [hfree]
  exact Bool.false_ne_true

theorem Calm.tight (h : d.Calm d') : d.Tight d' := by
  refine ⟨[], by rw [h.queue, List.append_nil], fun name hfree hlocked => ?_⟩
  rw [Site.isLocked_congr h.locks, hfree] at hlocked
  cases hlocked

/-- Where a pass is broken off, one lock was taken without a job, and no other. -/
theorem BrokenOff.leak (h : d.BrokenOff t names name d') :
    ¬ d.Tight d' ∧ ∀ c, d.site.isLocked c = false → d'.site.isLocked c = true →
      c ≠ name → ⟨c⟩ ∈ names.map Job.mk := by
  have hlocked := Site.isLocked_iff h.locks
  refine ⟨?_, fun c hfree hc hne => List.mem_map.2 ⟨c, ?_, rfl⟩⟩
  · rintro ⟨jobs, hqueue, hjobs⟩
    obtain rfl : names.map Job.mk = jobs := List.append_cancel_left (h.queue.symm.trans hqueue)
    have hname := hjobs name (h.due name List.mem_cons_self).2 ((hlocked name).2 (.inl List.mem_cons_self))
    obtain ⟨c, hc, heq⟩ := List.mem_map.1 hname
    cases heq
    exact (List.nodup_cons.1 h.nodup).1 hc
  · rcases (hlocked c).1 hc with hc | hc
    · exact (List.mem_cons.1 hc).resolve_left hne
    · rw [hfree] at hc
      cases hc

/-- No job of a connector that a pass was broken off at has come. -/
theorem BrokenOff.stuck (h : d.BrokenOff t names name d') (hw : d.site.waiting name = 0) :
    d'.site.Stuck name where
  locked := (Site.isLocked_iff h.locks name).2 (.inl List.mem_cons_self)
  waiting := by
    have hnone : (names.map Job.mk).countP (·.connector = name) = 0 := by
      rw [List.countP_eq_zero]
      intro j hj hname
      obtain ⟨c, hc, rfl⟩ := List.mem_map.1 hj
      exact (List.nodup_cons.1 h.nodup).1 (of_decide_eq_true hname ▸ hc)
    rw [Site.waiting, h.queue, List.countP_append, hnone]
    exact hw

namespace PassEnd

/-- A pass takes a lock without a job exactly if it is broken off. -/
theorem tight_iff (h : d.PassEnd t x d') : d.Tight d' ↔ ∀ c, x ≠ .error (.notQueued c) := by
  cases h with
  | unread _ h => exact iff_of_true h.tight nofun
  | passed h => exact iff_of_true h.tight nofun
  | brokenOff h => exact iff_of_false h.leak.1 fun hne => hne _ rfl

/-- It is broken off exactly if the queue does not take the job of one that is due. -/
theorem brokenOff_iff (h : d.PassEnd t x d') (hworks : d.Works) :
    (∃ c, x = .error (.notQueued c)) ↔ ∃ c, d.Due t c ∧ d.site.refuses ⟨c⟩ = true := by
  cases h with
  | unread hbroken => exact absurd hworks hbroken
  | passed h htaken =>
    refine iff_of_false nofun ?_
    rintro ⟨c, hdue, hrefused⟩
    rw [htaken c ((h.due c).2 hdue)] at hrefused
    cases hrefused
  | brokenOff h => exact iff_of_true ⟨_, rfl⟩ ⟨_, h.due _ List.mem_cons_self, h.refused⟩

end PassEnd

end Desk

namespace Scheduler

theorem passEnd_pass (t : Time.DateTime) (d : Desk) :
    d.PassEnd t ((pass t).perform d).1 ((pass t).perform d).2 := by
  have hsteady := steady_pass t d
  rcases pass_cases t d with ⟨due, d₁, hsurveyed, hp⟩ | ⟨hbroken, n, hp⟩
  case inr =>
    rw [hp]
    exact .unread hbroken (d.calm_counting n)
  have hqueueing := queueing_filterM t due d₁
  rw [hp] at hsteady ⊢
  generalize (due.filterM (enqueue t)).perform d₁ = r at hqueueing hsteady
  cases hqueueing with
  | all h hnames htaken =>
    exact .passed (hsurveyed.passed h hsteady hnames) fun c hc => hsurveyed.refuses ▸ htaken c hc
  | @refused names c s h hc hrefused hnames htaken =>
    have k := hsurveyed.enqueues h
    exact .brokenOff {
      toSteady := hsteady
      nodup := List.nodup_cons.2 ⟨hc, h.nodup⟩
      due := fun x hx => (hsurveyed.due_iff x).1 (hnames x hx)
      taken := fun x hx => hsurveyed.refuses ▸ htaken x hx
      refused := hsurveyed.refuses ▸ hrefused
      queue := k.queue
      locks := k.locks_withLock hsteady.settings c }

theorem passEnd_enqueueDue (now : Option Time.DateTime) (d : Desk) :
    d.PassEnd (now.getD d.site.clock.now).inUtc ((enqueueDue now).perform d).1
      ((enqueueDue now).perform d).2 := by
  obtain ⟨d₁, hd, -, hp⟩ := perform_enqueueDue now d
  rw [hp]
  exact hd.passEnd (passEnd_pass _ d₁)

end Scheduler

namespace Site

variable {name : String} {s : Site}

theorem Stuck.not_isQueued (h : s.Stuck name) : s.isQueued (jobId name) = false := by
  refine List.any_eq_false.2 fun j hj hid => ?_
  have hnone := List.countP_eq_zero.1 h.waiting j hj
  exact hnone (decide_eq_true (jobId_inj.1 (of_decide_eq_true hid)))

theorem Stuck.unlock (h : s.Stuck name) {other : String} (ho : other ≠ name) :
    (s.unlock (lockKey other)).Stuck name :=
  ⟨by rw [isLocked_unlock_of_ne _ ho.symm, h.locked], h.waiting⟩

end Site

namespace Desk

variable {name : String} {d d' : Desk}

theorem Bypasses.stuck (h : d.Bypasses name d') (hd : d.site.Stuck name) : d'.site.Stuck name :=
  ⟨h.isLocked.trans hd.locked, h.waiting.trans hd.waiting⟩

/-- To watch a connector no longer frees its lock only with its job. -/
theorem stuck_untracking (h : d.site.Stuck name) (other : String) :
    (d.untracking other).site.Stuck name := by
  unfold untracking
  split
  case isFalse => exact h
  by_cases ho : other = name
  · subst ho
    rw [if_neg (Bool.not_eq_true _ ▸ h.not_isQueued)]
    exact ⟨h.locked, Site.waiting_dropJobs_self ..⟩
  · have hdropped : (d.site.dropJobs (jobId other)).Stuck name :=
      ⟨h.locked, by rw [Site.waiting_dropJobs_of_ne _ (Ne.symm ho), h.waiting]⟩
    dsimp only
    split
    · exact hdropped.unlock ho
    · exact hdropped

end Desk

/-- The action leaves a connector stuck, wherever it is performed. -/
abbrev Act.LeavesStuck (name : String) (a : Act α) : Prop :=
  Moves (Desk.Keeps fun d => d.site.Stuck name) a

theorem Act.Moves.leavesStuck {a : Act α} {name : String} (h : Moves (Desk.Bypasses name) a) :
    LeavesStuck name a := fun d hd => (h d).stuck hd

theorem Act.Moves.leavesStuck_of_idle {a : Act α} (h : Moves Desk.Idle a) (name : String) :
    LeavesStuck name a := fun d hd => ((h d).bypasses name).stuck hd

theorem Act.leavesStuck_of_calm {a : Act α} (h : Calm a) (name : String) : LeavesStuck name a :=
  fun d hd => ((h d).idle.bypasses name).stuck hd

namespace Scheduler

variable (name : String)

theorem leavesStuck_untrack (other : String) : LeavesStuck name (untrack other) := fun d hd => by
  rw [perform_untrack]
  exact Desk.stuck_untracking hd other

theorem leavesStuck_sync : LeavesStuck name sync :=
  (leavesStuck_of_calm (calm_store Schedules.means_all _) name).bind fun _ _ hd =>
    ⟨hd.locked, hd.waiting⟩

/-- A job is put on the queue only with the lock of its connector, which was free. -/
theorem leavesStuck_enqueue (now : Time.DateTime) (other : String) :
    LeavesStuck name (enqueue now other) := by
  by_cases ho : other = name
  · subst ho
    intro d hd
    rcases perform_enqueue now other d with ⟨-, hp⟩ | ⟨hl, -⟩
    · rw [hp]
      exact hd
    · exact absurd (hd.locked.symm.trans hl) (Ne.symm Bool.false_ne_true)
  · exact (bypasses_enqueue ho now).leavesStuck

theorem leavesStuck_enqueueDue (now : Option Time.DateTime) : LeavesStuck name (enqueueDue now) :=
  moves_enqueueDue (leavesStuck_of_calm calm_readClock name)
    (fun t => (leavesStuck_sync name).bind fun _ => moves_node.bind fun _ =>
      (leavesStuck_of_calm (calm_dueAmong _ _) name).bind fun _ =>
        Moves.filterM fun other _ => leavesStuck_enqueue name t other) now

end Scheduler

theorem Scenario.Operation.guided_leavesStuck (name : String) :
    Guided (Desk.Keeps fun d => d.site.Stuck name) where
  calm h := leavesStuck_of_calm h name
  sync := Scheduler.leavesStuck_sync name
  untrack := Scheduler.leavesStuck_untrack name
  enqueueDue := Scheduler.leavesStuck_enqueueDue name
  configure other typeName config locale update :=
    (Instances.idle_configure other typeName config locale update).leavesStuck_of_idle name
  setSchedule other text := (Instances.idle_setSchedule other text).leavesStuck_of_idle name
  remove other := ((Instances.idle_remove other).leavesStuck_of_idle name).bind fun _ =>
    Scheduler.leavesStuck_untrack name other
  restart other := (Scheduler.leavesStuck_untrack name other).bind fun _ =>
    (Instances.idle_restart other).leavesStuck_of_idle name

namespace Hub

variable {name : String} {h : Hub}

/-- The lock of a connector is taken, though it neither waits nor is traversed. -/
structure Stuck (name : String) (h : Hub) : Prop where
  site : h.site.Stuck name
  going : h.traversing name = 0

/-- Whatever waits or goes on is of another connector. -/
theorem ne_of_countP_eq_zero {l : List α} {f : α → String} (hl : l.countP (f · = name) = 0) {i : Nat}
    {a : α} (ha : l[i]? = some a) : f a ≠ name := by
  simpa using List.countP_eq_zero.1 hl a (List.mem_of_getElem? ha)

theorem stuck_move (hs : h.Stuck name) {m : Move} (hm : m.isRegular = true) :
    (h.move m).1.Stuck name := by
  cases m with
  | ask place op =>
    exact ⟨(Scenario.Operation.guided_leavesStuck name).moves hm (h.desk place) hs.site, hs.going⟩
  | begin place other => cases hm
  | work place index =>
    cases hj : h.site.queue[index]? with
    | none =>
      simp only [move, hj]
      exact hs
    | some job =>
      simp only [move, hj]
      have hother : job.connector ≠ name := ne_of_countP_eq_zero hs.site.waiting hj
      have hwithout : (h.without index).site.Stuck name := by
        refine ⟨hs.site.locked, ?_⟩
        have hw := waiting_without hj name
        rw [hs.site.waiting, if_neg hother] at hw
        exact hw.symm
      rcases (h.without index).begin_cases place job.connector with ⟨t, d, ht, hp⟩ | ⟨d, hd, hp⟩
      · rw [hp]
        refine ⟨(ht.passing.toIdle.bypasses name).stuck hwithout, ?_⟩
        simpa [traversing, without, List.countP_append, List.countP_singleton, ht.connector,
          hother] using hs.going
      · rw [hp]
        exact ⟨((hd.toIdle.bypasses name).stuck hwithout).unlock hother, hs.going⟩
  | finish index answer =>
    cases hi : h.going[index]? with
    | none =>
      simp only [move, hi]
      exact hs
    | some g =>
      obtain ⟨place, t⟩ := g
      obtain ⟨d₁, x, d₂, -, hj, hc, -, hp⟩ := finish_cases hi answer
      have hother : t.connector ≠ name := ne_of_countP_eq_zero (f := fun g => g.2.connector)
        (l := h.going) hs.going hi
      rw [hp]
      refine ⟨(((hj.idle.trans hc.passing.toIdle).bypasses name).stuck hs.site).unlock hother, ?_⟩
      exact Nat.eq_zero_of_add_eq_zero_right ((countP_eraseIdx hi _).symm.trans hs.going)
  | pause clock => exact ⟨⟨hs.site.locked, hs.site.waiting⟩, hs.going⟩

/-- A connector that is stuck stays so, whatever is asked of the nodes. -/
theorem Run.stuck {start h : Hub} {past : List Event} (hs : start.Stuck name)
    (run : Run (fun _ m => m.isRegular = true) start past h) : h.Stuck name := by
  induction run with
  | none => exact hs
  | next run here ih => exact stuck_move ih here

end Hub

/-- The start of the management interface hides how its pass ends, and leaves the same locks and
jobs. -/
theorem Scenario.Operation.perform_startInterface (d : Desk) :
    (startInterface.perform d).1 = .ok () ∧
      (startInterface.perform d).2.site.locks =
        ((Scheduler.enqueueDue none).perform d).2.site.locks ∧
      (startInterface.perform d).2.site.queue =
        ((Scheduler.enqueueDue none).perform d).2.site.queue := by
  simp only [startInterface, perform_bind, perform_attempt]
  cases ((Scheduler.enqueueDue none).perform d).1 <;> exact ⟨rfl, rfl, rfl⟩

namespace Scheduler

/-- A pass takes a lock without a job exactly if it is broken off at a job that the queue does not take,
and that happens exactly if there is such a job among those of the connectors that are due. It is one
lock, and as long as it stands its connector is never queued again. The start of the management
interface hides the failure and leaves the lock. -/
theorem failing_pass_leaks_its_lock (d : Desk) (now : Option Time.DateTime) :
    (∃ x d', (enqueueDue now).perform d = (x, d') ∧
      d.PassEnd (now.getD d.site.clock.now).inUtc x d' ∧
      (d.Tight d' ↔ ∀ c, x ≠ .error (.notQueued c)) ∧
      (d.Works → ((∃ c, x = .error (.notQueued c)) ↔
        ∃ c, d.Due (now.getD d.site.clock.now).inUtc c ∧ d.site.refuses ⟨c⟩ = true)) ∧
      ∀ c, x = .error (.notQueued c) →
        (∀ other ≠ c, d.site.isLocked other = false → d'.site.isLocked other = true →
          ⟨other⟩ ∈ d'.site.queue.drop d.site.queue.length) ∧
        (d.site.waiting c = 0 → ∀ (start h : Hub) past, start.site.locks = d'.site.locks →
          start.site.queue = d'.site.queue → start.traversing c = 0 →
            Hub.Run (fun _ m => m.isRegular = true) start past h → h.Stuck c)) ∧
    (Operation.startInterface.perform d).1 = .ok () ∧
    (d.Tight (Operation.startInterface.perform d).2 ↔ d.Tight ((enqueueDue none).perform d).2) := by
  obtain ⟨hanswer, hlocks, hqueue⟩ := Operation.perform_startInterface d
  refine ⟨?_, hanswer, fun h => h.congr hlocks.symm hqueue.symm, fun h => h.congr hlocks hqueue⟩
  have hend := passEnd_enqueueDue now d
  rcases hp : (enqueueDue now).perform d with ⟨x, d'⟩
  rw [hp] at hend
  refine ⟨x, d', rfl, hend, hend.tight_iff, hend.brokenOff_iff, fun c hc => ?_⟩
  subst hc
  cases hend with
  | @brokenOff names _ _ h =>
    refine ⟨fun other hne hfree hlocked => ?_, fun hwaiting start h' past hl hq hgoing run => ?_⟩
    · rw [h.queue, List.drop_left]
      exact h.leak.2 other hfree hlocked hne
    · have hstuck := h.stuck hwaiting
      refine run.stuck ⟨⟨(Site.isLocked_congr hl _).trans hstuck.locked, ?_⟩, hgoing⟩
      rw [Site.waiting, hq]
      exact hstuck.waiting

/-- The queue does not take one of two jobs. -/
def picky : Desk :=
  { motley with site := { motley.site with refuses := fun j => j.connector = "due" } }

/-- The hub that a pass leaves where the queue does not take that job, when it takes every job again. -/
def afterPicky : Hub where
  site := { ((enqueueDue none).perform picky).2.site with refuses := fun _ => false }
  node _ := ((enqueueDue none).perform picky).2.node

/-- The jobs that wait are taken off the queue, the management interface is started at another node,
the connector is removed, and what is due is to be queued again. -/
def afterwards : List Move :=
  [.work 0 0, .work 0 0, .ask 1 .startup, .ask 0 (.remove "due"), .ask 0 (.enqueue none)]

theorem failing_pass_leaks_its_lock_of_picky :
    ((enqueueDue none).perform picky).1 = .error (.notQueued "due") ∧
      ¬ picky.Tight ((enqueueDue none).perform picky).2 ∧
      afterPicky.Allows (fun _ m => m.isRegular = true) afterwards ∧
      (afterPicky.play afterwards).1.Stuck "due" := by
  have hanswer : ((enqueueDue none).perform picky).1 = .error (.notQueued "due") := by
    decide +kernel
  have hallows : afterPicky.Allows (fun _ m => m.isRegular = true) afterwards := by decide +kernel
  obtain ⟨⟨x, d', hp, -, htight, -, hstuck⟩, -⟩ := failing_pass_leaks_its_lock picky none
  rw [hp] at hanswer ⊢
  refine ⟨hanswer, fun h => htight.1 h "due" hanswer, hallows, ?_⟩
  have hlocks : afterPicky.site.locks = d'.site.locks := by rw [afterPicky, hp]
  have hqueue : afterPicky.site.queue = d'.site.queue := by rw [afterPicky, hp]
  exact (hstuck "due" hanswer).2 (by decide) afterPicky _ _ hlocks hqueue rfl
    (afterPicky.run_play afterwards hallows)

/-- A pass that fails may leave a lock without a job, so that its connector is not queued by the next
one, though the queue takes every job then. -/
theorem lock_leaks_at_refused_job :
    (¬ ∀ (d : Desk) (now : Option Time.DateTime), d.Tight ((enqueueDue now).perform d).2) ∧
      ((enqueueDue none).perform (afterPicky.desk 0)).1 = .ok [] := by
  refine ⟨fun h => ?_, by decide +kernel⟩
  obtain ⟨jobs, hqueue, hjobs⟩ := h picky none
  have hleft : ((enqueueDue none).perform picky).2.site.queue = picky.site.queue ++ [⟨"idle"⟩] := by
    decide +kernel
  obtain rfl : jobs = [⟨"idle"⟩] := List.append_cancel_left (hqueue.symm.trans hleft)
  exact absurd (hjobs "due" (by decide) (by decide +kernel)) (by decide)

end Scheduler

end ConnectorHub
