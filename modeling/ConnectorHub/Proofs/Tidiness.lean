import ConnectorHub.Proofs.Continuity
import ConnectorHub.Proofs.Passes

/-! Everything about a connector hangs on its being stored. At a node that works alone, connectors at
hand are stored, and so are those that have other rows; those that are watched have a schedule, and
those that have a job are watched. -/
namespace ConnectorHub

open Store Act Scenario

namespace Store

theorem Table.any_entries (t : Table α) (name : String) :
    t.entries.any (·.1 = name) = (t.get? name).isSome := by
  have hlist (es : List (String × α)) :
      es.any (·.1 = name) = (Table.lookup name es).isSome := by
    induction es with
    | nil => rfl
    | cons e es ih =>
      rw [List.any_cons, ih, Table.lookup]
      by_cases he : e.1 = name <;> simp [he]
  exact hlist t.entries

namespace Rows

/-- What is stored about a connector is stored with it. -/
def Rooted (rows : Rows) : Prop :=
  ∀ name, (rows.about name).connector = none → rows.about name = {}

theorem Rooted.change {rows rows' : Rows} (h : rows.Rooted) {name : String}
    (hother : ∀ other, other ≠ name → rows'.about other = rows.about other)
    (hthere : (rows'.about name).connector ≠ none) : rows'.Rooted := by
  intro other ho
  by_cases hn : other = name
  · subst hn
    exact absurd ho hthere
  · rw [hother other hn] at ho ⊢
    exact h other ho

theorem Rooted.without {rows : Rows} (h : rows.Rooted) (name : String) :
    (rows.without name).Rooted := by
  intro other ho
  by_cases hn : other = name
  · rw [hn, about_without_self]
  · rw [about_without_of_ne _ hn] at ho ⊢
    exact h other ho

end Rows

end Store

/-- The node watches the schedule of a connector. -/
def Node.watches (n : Node) (name : String) : Bool := n.tracked.any (·.1 = name)

namespace Scheduler

/-- After the schedules were read exactly those connectors are watched that have one. -/
theorem any_refresh (tracked : List (String × ScheduleRow)) (stored : Table ScheduleRow)
    (name : String) :
    (refresh tracked stored.entries).any (·.1 = name) = stored.entries.any (·.1 = name) := by
  rw [Bool.eq_iff_iff]
  simp only [List.any_eq_true, mem_refresh_iff]

end Scheduler

namespace Desk

/-- Where so many traversals of each connector go on: connectors at hand are stored, and so are those
about which anything else is; schedules are stored for connectors that are watched; a job waits only
for one that is watched; and where the queue takes its jobs, a lock stands for a job or a
traversal. -/
structure Tidy (going : String → Nat) (d : Desk) : Prop where
  works : d.Works
  sound : d.Sound
  rooted : d.rows.Rooted
  scheduled : ∀ name, d.node.watches name = true → (d.rows.schedules.get? name).isSome
  queued : ∀ j ∈ d.site.queue, d.node.watches j.connector = true
  locked : ∀ name, d.site.refuses ⟨name⟩ = false → d.site.isLocked name = true →
    0 < d.site.waiting name + going name

variable {going : String → Nat} {d d' : Desk}

/-- What does not matter to locks and jobs, and to what is watched. -/
theorem Tidy.of_idle (h : d.Tidy going) (hi : d.Idle d') (hw : d'.Works) (hs : d'.Sound)
    (hr : d'.rows.Rooted)
    (ht : ∀ name, (d.rows.schedules.get? name).isSome → (d'.rows.schedules.get? name).isSome) :
    d'.Tidy going where
  works := hw
  sound := hs
  rooted := hr
  scheduled := by
    intro name hn
    rw [Node.watches, hi.tracked] at hn
    exact ht name (h.scheduled name hn)
  queued := by
    intro j hj
    rw [hi.queue] at hj
    rw [Node.watches, hi.tracked]
    exact h.queued j hj
  locked := by
    intro name hn hl
    rw [hi.refuses] at hn
    rw [Site.isLocked, hi.locks] at hl
    rw [Site.waiting, hi.queue]
    exact h.locked name hn hl

theorem Unharmed.rooted (h : d.Unharmed d') (hd : d.rows.Rooted) : d'.rows.Rooted := by
  intro name hn
  have hn : d'.rows.connectors.get? name = none := hn
  rw [h.connectors] at hn
  have habout := hd name hn
  have hschedule : (d'.rows.schedules.get? name).isSome = false := by
    rw [h.schedules]
    exact congrArg (·.schedule.isSome) habout
  have hstate : d'.rows.states.get? name = none := by
    rw [h.states]
    exact congrArg (·.state) habout
  rw [Option.isSome_eq_false_iff, Option.isNone_iff_eq_none] at hschedule
  rw [Rows.about, h.connectors, hn, hschedule, hstate]

theorem Passing.tidy (h : d.Passing d') (hd : d.Tidy going) : d'.Tidy going :=
  hd.of_idle h.toIdle (h.works hd.works) (h.sound hd.sound) (h.rooted hd.rooted)
    fun name hn => by rw [h.schedules]; exact hn

theorem Tidy.mono (h : d.Tidy going) {going' : String → Nat} (hle : ∀ name, going name ≤ going' name) :
    d.Tidy going' :=
  { h with locked := fun name hn hl =>
      Nat.lt_of_lt_of_le (h.locked name hn hl) (Nat.add_le_add_left (hle name) _) }

/-- A lock that is freed no longer stands for anything. -/
theorem Tidy.unlock (h : d.Tidy going) {going' : String → Nat} {name : String}
    (hle : ∀ other, other ≠ name → going other ≤ going' other) :
    Tidy going' { d with site := d.site.unlock (lockKey name) } :=
  { h with
    locked := by
      intro other hn hl
      by_cases ho : other = name
      · subst ho
        rw [Site.isLocked_unlock_self] at hl
        cases hl
      · rw [Site.isLocked_unlock_of_ne _ ho] at hl
        exact Nat.lt_of_lt_of_le (h.locked other hn hl) (Nat.add_le_add_left (hle other ho) _) }

theorem watches_untracking (d : Desk) (name other : String) :
    (d.untracking name).node.watches other = (d.node.watches other && decide (other ≠ name)) := by
  unfold untracking
  split
  · simp only [Node.watches, List.any_filter]
    rw [Bool.eq_iff_iff]
    simp only [List.any_eq_true, Bool.and_eq_true, decide_eq_true_eq]
    constructor
    · rintro ⟨t, ht, hne, rfl⟩
      exact ⟨⟨t, ht, rfl⟩, hne⟩
    · rintro ⟨⟨t, ht, rfl⟩, hne⟩
      exact ⟨t, ht, hne, rfl⟩
  · rename_i hn
    by_cases ho : other = name
    · subst ho
      rw [Node.watches, Bool.eq_false_iff.2 hn, Bool.false_and]
    · simp [ho]

end Desk

theorem Site.waiting_eq_zero {s : Site} {name : String} (h : s.isQueued (jobId name) = false) :
    s.waiting name = 0 := by
  unfold waiting
  rw [List.countP_eq_zero]
  intro j hj hn
  have hid : j.id = jobId name := congrArg jobId (of_decide_eq_true hn)
  exact List.any_eq_false.1 h j hj (decide_eq_true hid)

namespace Desk

variable {going : String → Nat} {d d' : Desk}

/-- A connector that is no longer watched has no job any more. -/
theorem Tidy.untracking (h : d.Tidy going) (name : String) : (d.untracking name).Tidy going := by
  have hsteady := d.steady_untracking name
  have hwatches := watches_untracking d name
  refine ⟨hsteady.works h.works, hsteady.sound h.sound, by rw [hsteady.rows]; exact h.rooted,
    ?scheduled, ?queued, ?locked⟩
  case scheduled =>
    intro other ho
    rw [hwatches, Bool.and_eq_true] at ho
    rw [hsteady.rows]
    exact h.scheduled other ho.1
  case queued =>
    intro j hj
    rw [hwatches, Bool.and_eq_true]
    unfold Desk.untracking at hj
    split at hj
    · have hj : j ∈ d.site.queue.filter (·.id ≠ jobId name) := by split at hj <;> exact hj
      obtain ⟨hj, hid⟩ := List.mem_filter.1 hj
      refine ⟨h.queued j hj, decide_eq_true fun hn => of_decide_eq_true hid (congrArg jobId hn)⟩
    · rename_i hn
      refine ⟨h.queued j hj, decide_eq_true fun hjn => hn ?_⟩
      rw [← hjn]
      exact h.queued j hj
  case locked =>
    intro other hn hl
    rw [hsteady.refuses] at hn
    unfold Desk.untracking at hl ⊢
    by_cases hw : d.node.tracked.any (·.1 = name) = true
    · rw [if_pos hw] at hl ⊢
      -- The jobs of other connectors stay; its own lock is freed with its job.
      by_cases ho : other = name
      · subst ho
        by_cases hq : d.site.isQueued (jobId other) = true
        · rw [if_pos hq, Site.isLocked_unlock_self] at hl
          cases hl
        · rw [if_neg hq] at hl ⊢
          have hpos := h.locked other hn hl
          rw [Site.waiting_eq_zero (Bool.eq_false_iff.2 hq), Nat.zero_add] at hpos
          exact Nat.lt_of_lt_of_le hpos (Nat.le_add_left ..)
      · have hlocked : d.site.isLocked other = true := by
          split at hl
          · rwa [Site.isLocked_unlock_of_ne _ ho] at hl
          · exact hl
        have hpos := h.locked other hn hlocked
        rw [← Site.waiting_dropJobs_of_ne _ ho] at hpos
        split <;> exact hpos
    · rw [if_neg hw] at hl ⊢
      exact h.locked other hn hl

/-- Nothing hangs on a connector that is not watched. -/
theorem Tidy.without (h : d.Tidy going) {name : String} (hw : d.node.watches name = false) (n : Nat) :
    (((d.forgetting name).withRows (d.rows.without name)).counting n).Tidy going := by
  refine ⟨(h.works.forgetting name).counting _ n, h.sound.without name n, h.rooted.without name, ?_, h.queued,
    h.locked⟩
  intro other ho
  have hne : other ≠ name := by
    rintro rfl
    exact Bool.false_ne_true (hw.symm.trans ho)
  rw [rows_counting, rows_withRows]
  simp only [Rows.without, Table.get?_erase_of_ne _ hne]
  exact h.scheduled other ho

theorem untracking_without (d : Desk) (name : String) (n : Nat) :
    (((d.forgetting name).withRows (d.rows.without name)).counting n).untracking name =
      (((d.untracking name).forgetting name).withRows (d.rows.without name)).counting n := by
  have hqueued : (((d.forgetting name).withRows (d.rows.without name)).counting n).site.isQueued
    (jobId name) = d.site.isQueued (jobId name) := rfl
  unfold untracking
  by_cases hw : d.node.tracked.any (·.1 = name) = true
  · rw [if_pos hw, if_pos (by exact hw), hqueued]
    by_cases hq : d.site.isQueued (jobId name) = true
    · rw [if_pos hq, if_pos hq]
      rfl
    · rw [if_neg hq, if_neg hq]
      rfl
  · rw [if_neg hw, if_neg (by exact hw)]

end Desk

/-- The action keeps a desk tidy, wherever it is performed. -/
abbrev Act.Tidying (going : String → Nat) (a : Act α) : Prop :=
  Moves (Desk.Keeps (Desk.Tidy going)) a

theorem Act.tidying_of_calm {a : Act α} (h : Calm a) (going : String → Nat) : Tidying going a :=
  fun d hd => (h d).passing.tidy hd

namespace Scheduler

variable (going : String → Nat)

theorem tidying_untrack (name : String) : Tidying going (untrack name) := fun d hd => by
  rw [perform_untrack]
  exact hd.untracking name

theorem tidying_sync : Tidying going sync := by
  intro d hd
  obtain ⟨n, hp | ⟨-, hp⟩⟩ := perform_sync d
  · rw [hp]
    have hwatches (name : String) :
        Node.watches { d.node with tracked := refresh d.node.tracked d.rows.schedules.entries } name =
          (d.rows.schedules.get? name).isSome :=
      (any_refresh ..).trans (Table.any_entries ..)
    refine ⟨hd.works.counting _ n, hd.sound, hd.rooted, ?_, ?_, hd.locked⟩
    · intro name hn
      exact (hwatches name).symm.trans hn
    · intro j hj
      exact (hwatches j.connector).trans (hd.scheduled _ (hd.queued j hj))
  · rw [hp]
    exact (d.calm_counting n).passing.tidy hd

/-- A job is put on the queue for a connector that is watched, after its lock was taken. -/
theorem tidying_enqueue (now : Time.DateTime) {names : List String} {name : String}
    (hn : name ∈ names) :
    Moves (Desk.Keeps fun d => d.Tidy going ∧ ∀ n ∈ names, d.node.watches n = true)
      (enqueue now name) := by
  rintro d ⟨hd, hw⟩
  rcases perform_enqueue now name d with ⟨-, hp⟩ | ⟨-, s, hs, hp⟩
  · rw [hp]
    exact ⟨hd, hw⟩
  · generalize lockAt now d.site.settings.lockTtl = lock at hs
    subst hs
    have hother (other : String) (ho : other ≠ name) :
        Site.isLocked { d.site with locks := d.site.locks.insert (lockKey name) lock } other =
          d.site.isLocked other := by
      simp [Site.isLocked, Table.contains, Table.get?_insert_of_ne _ _ (mt lockKey_inj.1 ho)]
    rcases hp with ⟨hr, hp⟩ | ⟨-, hp⟩
    · rw [hp]
      refine ⟨⟨hd.works, hd.sound, hd.rooted, hd.scheduled, hd.queued, ?_⟩, hw⟩
      intro other ho hlocked
      have hne : other ≠ name := by
        rintro rfl
        exact Bool.false_ne_true (ho.symm.trans hr)
      exact hd.locked other ho ((hother other hne).symm.trans hlocked)
    · rw [hp]
      refine ⟨⟨hd.works, hd.sound, hd.rooted, hd.scheduled, ?_, ?_⟩, hw⟩
      · intro j hj
        rcases List.mem_append.1 hj with hj | hj
        · exact hd.queued j hj
        · rw [List.mem_singleton.1 hj]
          exact hw name hn
      · intro other ho hlocked
        have hwaiting := Site.waiting_enqueue
          { d.site with locks := d.site.locks.insert (lockKey name) lock } ⟨name⟩ other
        refine Nat.lt_of_lt_of_eq ?_ (congrArg (· + going other) hwaiting.symm)
        by_cases hne : other = name
        · rw [if_pos hne.symm]
          exact Nat.lt_of_lt_of_le (Nat.succ_pos _) (Nat.le_add_right ..)
        · rw [if_neg (Ne.symm hne)]
          exact hd.locked other ho ((hother other hne).symm.trans hlocked)

theorem tidying_pass (now : Time.DateTime) : Tidying going (pass now) := by
  refine (tidying_sync going).bind fun _ d hd => ?_
  rw [perform_bind, perform_node]
  dsimp only
  rw [perform_bind]
  have hcalm := calm_dueAmong now d.node.tracked d
  cases hp : (dueAmong now d.node.tracked).perform d with
  | mk due d' =>
    rw [hp] at hcalm
    cases due with
    | error f => exact hcalm.passing.tidy hd
    | ok due =>
      have hdue : ∀ name ∈ due, d'.node.watches name = true := by
        intro name hname
        obtain ⟨s, hs, rfl, -⟩ := mem_dueAmong hp name hname
        rw [Node.watches, hcalm.tracked]
        exact List.any_eq_true.2 ⟨s, hs, decide_eq_true rfl⟩
      exact (Moves.filterM (fun name hn => tidying_enqueue going now hn) d'
        ⟨hcalm.passing.tidy hd, hdue⟩).1

theorem tidying_enqueueDue (now : Option Time.DateTime) : Tidying going (enqueueDue now) :=
  moves_enqueueDue (tidying_of_calm calm_readClock going) (tidying_pass going) now

end Scheduler

namespace Instances

variable {going : String → Nat}

theorem tidying_configure (name typeName : String) (config : Config) (locale : Locale)
    (update : Bool) : Tidying going (configure name typeName config locale update) := by
  intro d hd
  have hidle := idle_configure name typeName config locale update d
  obtain ⟨d₁, hcalm, -, ⟨i, -, -, -, hp⟩ | ⟨x, -, hp⟩⟩ :=
    perform_configure name typeName config locale update d
  · rw [hp] at hidle ⊢
    have hd₁ := hcalm.passing.tidy hd
    refine hd.of_idle hidle hd₁.works (hd₁.sound.configured name _ i) ?_ ?_
    · exact hd₁.rooted.change (fun _ ho => Rows.about_configured_of_ne _ ho _)
        (by rw [Desk.rows_keeping, Desk.rows_withRows, Rows.about_configured_self]; nofun)
    · intro other ho
      rw [← hcalm.rows] at ho
      exact ho
  · rw [hp]
    exact hcalm.passing.tidy hd

theorem tidying_setSchedule (name text : String) : Tidying going (setSchedule name text) := by
  intro d hd
  have hidle := idle_setSchedule name text d
  obtain ⟨n, ⟨hk, hp⟩ | ⟨f, hp⟩⟩ := perform_setSchedule name text d
  · rw [hp] at hidle ⊢
    rw [hd.sound.isSome_known] at hk
    refine hd.of_idle hidle (hd.works.counting _ n) (hd.sound.withRows n rfl) ?_ ?_
    · exact hd.rooted.change (fun _ ho => Rows.about_scheduled_of_ne _ ho _)
        (Option.isSome_iff_ne_none.1 hk)
    · intro other ho
      by_cases hn : other = name
      · subst hn
        simp [Rows.scheduled]
      · simpa [Rows.scheduled, Table.get?_insert_of_ne _ _ hn] using ho
  · rw [hp]
    exact (d.calm_counting n).passing.tidy hd

/-- A connector that is started over is stored. -/
theorem tidying_restart (name : String) : Tidying going (restart name) := by
  intro d hd
  have hidle := idle_restart name d
  obtain ⟨n, ⟨hk, hp⟩ | ⟨f, hp⟩ | ⟨hw, -⟩⟩ := perform_restart name d
  · rw [hp] at hidle ⊢
    rw [hd.sound.isSome_known] at hk
    refine hd.of_idle hidle (hd.works.counting _ n) (hd.sound.withRows n (by simp)) ?_ ?_
    · refine hd.rooted.change (fun other (ho : other ≠ name) => ?_) ?_
      · exact (Rows.about_marked_of_ne _ ho _ _).trans (Rows.about_reset_of_ne _ ho)
      · rw [Desk.rows_counting, Desk.rows_withRows, Rows.about, Rows.connectors_marked]
        exact Option.isSome_iff_ne_none.1 hk
    · intro other ho
      rw [Desk.rows_counting, Desk.rows_withRows, Rows.isSome_schedules_marked]
      exact ho
  · rw [hp]
    exact (d.calm_counting n).passing.tidy hd
  · exact absurd hd.works hw

end Instances

theorem Administration.tidying_remove {going : String → Nat} (name : String) :
    Tidying going (remove name) := by
  intro d hd
  unfold remove
  rw [perform_bind]
  obtain ⟨n, hp | ⟨hw, -⟩⟩ := Instances.perform_remove name d
  · rw [hp]
    dsimp only
    rw [Scheduler.perform_untrack, Desk.untracking_without]
    have hunwatched : (d.untracking name).node.watches name = false := by
      rw [Desk.watches_untracking, decide_eq_false (not_not_intro rfl), Bool.and_false]
    have htidy := (hd.untracking name).without hunwatched n
    rwa [(d.steady_untracking name).rows] at htidy
  · exact absurd hd.works hw

namespace Scenario.Operation

theorem guided_tidy (going : String → Nat) : Guided (Desk.Keeps (Desk.Tidy going)) where
  calm h := tidying_of_calm h going
  sync := Scheduler.tidying_sync going
  untrack := Scheduler.tidying_untrack going
  enqueueDue := Scheduler.tidying_enqueueDue going
  configure _ _ _ _ _ := Instances.tidying_configure _ _ _ _ _
  setSchedule _ _ := Instances.tidying_setSchedule _ _
  remove := Administration.tidying_remove
  restart name := (Scheduler.tidying_untrack going name).bind fun _ =>
    Instances.tidying_restart name

end Scenario.Operation

/-- How a traversal is judged leaves the desk tidy: a checkpoint is stored only for a connector that
is. -/
theorem Traversal.Judged.tidy {t : Running} {answer : Except Failure Batch} {r : Result}
    {d d' : Desk} (h : Judged t d answer r d') {going : String → Nat} (hd : d.Tidy going) :
    d'.Tidy going := by
  cases h with
  | @stored b r d₁ n usable known current status overtaken calm =>
    have hd₁ := calm.passing.tidy hd
    rw [hd.sound.isSome_known] at known
    refine hd.of_idle ⟨calm.locks, calm.queue, calm.refuses, calm.tracked⟩
      (hd₁.works.counting _ n) (hd₁.sound.withRows _ ?_) ?_ fun _ hn => hn
    · rw [calm.rows]
      rfl
    · exact hd.rooted.change (fun _ ho => Rows.about_advanced_of_ne _ ho _)
        (Option.isSome_iff_ne_none.1 known)
  | overtaken _ _ _ _ calm => exact calm.passing.tidy hd
  | failed _ _ _ calm => exact calm.passing.tidy hd

namespace Hub

/-- A node that works alone is tidy, and all traversals are its own. -/
structure Tidy (place : Nat) (h : Hub) : Prop where
  desk : (h.desk place).Tidy h.traversing
  here : ∀ g ∈ h.going, g.1 = place

variable {place : Nat} {h : Hub}

theorem Tidy.works (ht : h.Tidy place) : h.Works := ht.desk.works

/-- A traversal that is begun makes up for a job that is missing. -/
theorem tidy_begin {name : String}
    (hd : (h.desk place).Tidy fun n => h.traversing n + if name = n then 1 else 0)
    (hh : ∀ g ∈ h.going, g.1 = place) : (h.begin place name).1.Tidy place := by
  rcases h.begin_cases place name with ⟨t, d, ht, hp⟩ | ⟨d, hpass, hp⟩
  · rw [hp]
    refine ⟨?_, ?_⟩
    · change (((h.leave place d).desk place).Tidy _)
      rw [desk_leave_self]
      refine (ht.passing.tidy hd).mono fun n => Nat.le_of_eq ?_
      simp [traversing, List.countP_append, List.countP_singleton, ht.connector]
    · intro g hg
      rcases List.mem_append.1 hg with hg | hg
      · exact hh g hg
      · rw [List.mem_singleton.1 hg]
  · rw [hp]
    refine ⟨?_, hh⟩
    rw [desk_leave_self]
    refine (hpass.tidy hd).unlock fun other ho => ?_
    rw [if_neg (Ne.symm ho)]
    exact Nat.le_refl _

theorem Tidy.begin (ht : h.Tidy place) (name : String) : (h.begin place name).1.Tidy place :=
  tidy_begin (ht.desk.mono fun _ => Nat.le_add_right ..) ht.here

theorem Tidy.work (ht : h.Tidy place) {index : Nat} {job : Job}
    (hj : h.site.queue[index]? = some job) :
    ((h.without index).begin place job.connector).1.Tidy place := by
  refine tidy_begin ⟨ht.desk.works, ht.desk.sound, ht.desk.rooted, ht.desk.scheduled, ?_, ?_⟩ ht.here
  · exact fun j hj => ht.desk.queued j (List.mem_of_mem_eraseIdx hj)
  · intro name hn hl
    refine Nat.lt_of_lt_of_eq (ht.desk.locked name hn hl) ?_
    change h.site.waiting name + h.traversing name =
      (h.without index).site.waiting name + (h.traversing name + _)
    rw [waiting_without hj name, Nat.add_right_comm, Nat.add_assoc]

theorem Tidy.finish (ht : h.Tidy place) (index : Nat) (answer : Except Failure Batch) :
    (h.move (.finish index answer)).1.Tidy place := by
  cases hi : h.going[index]? with
  | none =>
    simp only [move, hi]
    exact ht
  | some g =>
    obtain ⟨q, t⟩ := g
    obtain rfl : q = place := ht.here _ (List.mem_of_getElem? hi)
    obtain ⟨d₁, x, d₂, -, hj, hclosed, -, hp⟩ := finish_cases hi answer
    rw [hp]
    refine ⟨?_, fun g hg => ht.here g (List.mem_of_mem_eraseIdx hg)⟩
    change ((h.leave q _).desk q).Tidy _
    rw [desk_leave_self]
    refine (hclosed.passing.tidy (hj.tidy ht.desk)).unlock fun other ho => Nat.le_of_eq ?_
    have hcount := countP_eraseIdx hi (·.2.connector = other)
    rw [if_neg (by simpa using Ne.symm ho), Nat.add_zero] at hcount
    exact hcount

theorem Tidy.move (ht : h.Tidy place) {m : Move} (hm : m.isAt place = true) :
    (h.move m).1.Tidy place := by
  cases m with
  | ask p op =>
    obtain ⟨rfl, hop⟩ : p = place ∧ op.isManaged = true := by simpa [Move.isAt] using hm
    refine ⟨?_, ht.here⟩
    change (((h.leave p (op.perform.perform (h.desk p)).2)).desk p).Tidy h.traversing
    rw [desk_leave_self]
    exact (Operation.guided_tidy h.traversing).moves hop (h.desk p) ht.desk
  | begin p name =>
    obtain rfl : p = place := of_decide_eq_true hm
    exact ht.begin name
  | work p index =>
    obtain rfl : p = place := of_decide_eq_true hm
    cases hj : h.site.queue[index]? with
    | none =>
      simp only [Hub.move, hj]
      exact ht
    | some job =>
      simp only [Hub.move, hj]
      exact ht.work hj
  | finish index answer => exact ht.finish index answer
  | pause clock =>
    exact ⟨⟨ht.desk.works, ht.desk.sound, ht.desk.rooted, ht.desk.scheduled, ht.desk.queued,
      ht.desk.locked⟩, ht.here⟩

/-- A hub that works, where nothing has been stored and nothing is under way. -/
structure IsBlank (place : Nat) (h : Hub) : Prop extends IsNew place h where
  locks : h.site.locks = .empty
  queue : h.site.queue = []
  tracked : (h.node place).tracked = []

theorem IsBlank.tidy (hb : h.IsBlank place) : h.Tidy place := by
  refine ⟨⟨hb.works, ?_, ?_, ?_, ?_, ?_⟩, ?_⟩
  · exact hb.toIsNew.continuous.sound
  · intro name _
    change h.rows.about name = {}
    rw [hb.rows]
    rfl
  · intro name hn
    have hn : (h.node place).watches name = true := hn
    rw [Node.watches, hb.tracked] at hn
    cases hn
  · intro j hj
    have hj : j ∈ h.site.queue := hj
    rw [hb.queue] at hj
    cases hj
  · intro name _ hl
    have hl : h.site.isLocked name = true := hl
    rw [Site.isLocked, hb.locks] at hl
    cases hl
  · intro g hg
    rw [hb.going] at hg
    cases hg

theorem Run.tidy {start : Hub} {past : List Event} (hs : start.IsBlank place)
    (run : Run (fun _ m => m.isAt place = true) start past h) : h.Tidy place := by
  induction run with
  | none => exact hs.tidy
  | next run here ih => exact ih.move here

end Hub

end ConnectorHub
