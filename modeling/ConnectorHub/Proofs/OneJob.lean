import ConnectorHub.Proofs.Interleaving
import Mathlib.Data.List.Perm.Basic

/-! One job per connector. The lock of a connector is taken exactly as long as its traversal waits or
goes on, at whatever nodes and in whatever order that is asked for, begun and ended. -/
namespace ConnectorHub

open Store Act

theorem lockKey_inj {a b : String} : lockKey a = lockKey b ↔ a = b := by
  unfold lockKey
  rw [String.append_left_inj, String.append_right_inj]

theorem jobId_inj {a b : String} : jobId a = jobId b ↔ a = b := by
  unfold jobId
  rw [String.append_right_inj]

namespace Site

/-- How many jobs of a connector wait. -/
def waiting (s : Site) (name : String) : Nat := s.queue.countP (·.connector = name)

/-- The lock of a connector is taken. -/
def isLocked (s : Site) (name : String) : Bool := s.locks.contains (lockKey name)

/-- Where so many traversals of each connector go on, the jobs and traversals of a connector are one
if its lock is taken, and none if not. The queue takes every job. -/
structure Balanced (going : String → Nat) (s : Site) : Prop where
  takes : ∀ j, s.refuses j = false
  count : ∀ name, s.waiting name + going name = if s.isLocked name then 1 else 0

theorem isLocked_congr {s s' : Site} (h : s'.locks = s.locks) (name : String) :
    s'.isLocked name = s.isLocked name := by
  unfold isLocked
  rw [h]

theorem isLocked_unlock_self (s : Site) (name : String) :
    (s.unlock (lockKey name)).isLocked name = false := by
  simp [isLocked, unlock, Table.contains]

theorem isLocked_unlock_of_ne (s : Site) {name other : String} (h : other ≠ name) :
    (s.unlock (lockKey name)).isLocked other = s.isLocked other := by
  simp [isLocked, unlock, Table.contains, Table.get?_erase_of_ne _ (mt lockKey_inj.1 h)]

theorem queue_dropJobs (s : Site) (name : String) :
    (s.dropJobs (jobId name)).queue = s.queue.filter (·.connector ≠ name) := by
  unfold dropJobs Job.id
  simp only [ne_eq, jobId_inj]

theorem waiting_dropJobs_self (s : Site) (name : String) :
    (s.dropJobs (jobId name)).waiting name = 0 := by
  unfold waiting
  rw [queue_dropJobs, List.countP_eq_zero]
  intro j hj
  simpa using (List.mem_filter.1 hj).2

theorem waiting_dropJobs_of_ne (s : Site) {name other : String} (h : other ≠ name) :
    (s.dropJobs (jobId name)).waiting other = s.waiting other := by
  unfold waiting
  rw [queue_dropJobs, List.countP_filter]
  refine List.countP_congr fun j _ => ?_
  have hj : j.connector = other → j.connector ≠ name := fun hn => hn ▸ h
  simpa using hj

/-- A lock that is freed with the one job or traversal that it stood for. -/
theorem Balanced.unlock {going going' : String → Nat} {s s' : Site} (h : s.Balanced going)
    {name : String} (hr : s'.refuses = s.refuses) (hl : s'.locks = s.locks)
    (hone : ∀ other, s.waiting other + going other =
      s'.waiting other + going' other + if name = other then 1 else 0) :
    (s'.unlock (lockKey name)).Balanced going' where
  takes := fun j => (congrFun hr j).trans (h.takes j)
  count := by
    intro other
    have hc := h.count other
    rw [hone other] at hc
    change s'.waiting other + going' other = _
    by_cases ho : name = other
    · subst ho
      rw [isLocked_unlock_self, if_neg Bool.false_ne_true]
      rw [if_pos rfl] at hc
      split at hc <;> omega
    · have hlocked : s'.isLocked other = s.isLocked other := isLocked_congr hl other
      rw [isLocked_unlock_of_ne _ (Ne.symm ho), hlocked, ← hc, if_neg ho, Nat.add_zero]

theorem waiting_enqueue (s : Site) (j : Job) (name : String) :
    (s.enqueue j).waiting name = s.waiting name + if j.connector = name then 1 else 0 := by
  simp [waiting, enqueue, List.countP_append, List.countP_singleton]

/-- A job that is put on the queue with a lock that was free. -/
theorem Balanced.enqueue {going : String → Nat} {s : Site} (h : s.Balanced going) (name : String)
    (lock : Lock) (hfree : s.isLocked name = false) :
    ({ s with locks := s.locks.insert (lockKey name) lock }.enqueue ⟨name⟩).Balanced going where
  takes := h.takes
  count := by
    intro other
    rw [waiting_enqueue]
    have hc := h.count other
    by_cases ho : name = other
    · subst ho
      have hlocked : Site.isLocked
          (Site.enqueue { s with locks := s.locks.insert (lockKey name) lock } ⟨name⟩) name =
            true := by
        simp [isLocked, Site.enqueue, Table.contains]
      rw [hfree] at hc
      rw [hlocked, if_pos rfl, if_pos rfl]
      have hw : Site.waiting { s with locks := s.locks.insert (lockKey name) lock } name =
        s.waiting name := rfl
      simp only [Bool.false_eq_true, if_false] at hc
      omega
    · have hlocked : Site.isLocked
          (Site.enqueue { s with locks := s.locks.insert (lockKey name) lock } ⟨name⟩) other =
            s.isLocked other := by
        simp [isLocked, Site.enqueue, Table.contains,
          Table.get?_insert_of_ne _ _ (mt lockKey_inj.1 (Ne.symm ho))]
      rw [hlocked, if_neg ho]
      exact hc

end Site

namespace Desk

theorem Idle.balanced {d d' : Desk} (h : d.Idle d') {going : String → Nat}
    (hd : d.site.Balanced going) : d'.site.Balanced going where
  takes := fun j => (congrFun h.refuses j).trans (hd.takes j)
  count := by
    intro name
    have hc := hd.count name
    unfold Site.waiting Site.isLocked at hc ⊢
    rwa [h.queue, h.locks]

/-- Watching a connector no longer drops its job with its lock, or neither. -/
theorem balanced_untracking {d : Desk} {going : String → Nat} (h : d.site.Balanced going)
    (name : String) : (d.untracking name).site.Balanced going := by
  unfold untracking
  split
  · by_cases hq : d.site.isQueued (jobId name) = true
    -- The balance leaves room for one job only, so that its lock is no one else's.
    · rw [if_pos hq]
      have hpos : 0 < d.site.waiting name := by
        obtain ⟨j, hj, hid⟩ := List.any_eq_true.1 hq
        refine List.countP_pos_iff.2 ⟨j, hj, ?_⟩
        simpa using jobId_inj.1 (of_decide_eq_true hid)
      refine h.unlock rfl rfl fun other => ?_
      by_cases ho : name = other
      · subst ho
        have hc := h.count name
        rw [Site.waiting_dropJobs_self, if_pos rfl]
        split at hc <;> omega
      · rw [Site.waiting_dropJobs_of_ne _ (Ne.symm ho), if_neg ho, Nat.add_zero]
    -- The lock, if it is taken, belongs to a traversal and stays.
    · rw [if_neg hq]
      have hsame : d.site.queue.filter (fun j => decide (j.id ≠ jobId name)) = d.site.queue := by
        refine List.filter_eq_self.2 fun j hj => ?_
        have hne : ¬ j.id = jobId name := fun hid =>
          hq (List.any_eq_true.2 ⟨j, hj, decide_eq_true hid⟩)
        simpa using hne
      refine ⟨h.takes, fun other => ?_⟩
      have hwaiting : (d.site.dropJobs (jobId name)).waiting other = d.site.waiting other := by
        unfold Site.waiting Site.dropJobs
        rw [hsame]
      rw [hwaiting]
      exact h.count other
  · exact h

end Desk

/-- The action keeps the balance, wherever it is performed. -/
abbrev Act.Balancing (going : String → Nat) (a : Act α) : Prop :=
  Moves (Desk.Keeps fun d => d.site.Balanced going) a

theorem Act.Moves.balancing {a : Act α} (h : Moves Desk.Idle a) (going : String → Nat) :
    Balancing going a := fun d hd => (h d).balanced hd

theorem Act.balancing_of_calm {a : Act α} (h : Calm a) (going : String → Nat) :
    Balancing going a := fun d hd => (h d).idle.balanced hd

namespace Scheduler

variable (going : String → Nat)

theorem balancing_untrack (name : String) : Balancing going (untrack name) := fun d hd => by
  rw [perform_untrack]
  exact Desk.balanced_untracking hd name

theorem balancing_sync : Balancing going sync :=
  (balancing_of_calm (calm_store Schedules.means_all _) going).bind fun _ _ hd =>
    ⟨hd.takes, hd.count⟩

/-- A job is put on the queue only with the lock of its connector, which was free. -/
theorem balancing_enqueue (now : Time.DateTime) (name : String) :
    Balancing going (enqueue now name) := by
  intro d hd
  rcases perform_enqueue now name d with ⟨-, hp⟩ | ⟨hl, s, rfl, ⟨hr, -⟩ | ⟨-, hp⟩⟩
  · rw [hp]
    exact hd
  · rw [hd.takes] at hr
    cases hr
  · rw [hp]
    exact hd.enqueue name _ hl

theorem balancing_pass (now : Time.DateTime) : Balancing going (pass now) :=
  (balancing_sync going).bind fun _ => moves_node.bind fun _ =>
    (balancing_of_calm (calm_dueAmong _ _) going).bind fun _ =>
      Moves.filterM fun name _ => balancing_enqueue going now name

theorem balancing_enqueueDue (now : Option Time.DateTime) : Balancing going (enqueueDue now) :=
  moves_enqueueDue (balancing_of_calm calm_readClock going) (balancing_pass going) now

end Scheduler

namespace Instances

theorem idle_configure (name typeName : String) (config : Config) (locale : Locale)
    (update : Bool) : Moves Desk.Idle (configure name typeName config locale update) := by
  intro d
  obtain ⟨d₁, hd, -, ⟨i, -, -, -, hp⟩ | ⟨x, -, hp⟩⟩ :=
    perform_configure name typeName config locale update d
  · rw [hp]
    exact ⟨hd.locks, hd.queue, hd.refuses, hd.tracked⟩
  · rw [hp]
    exact hd.idle

theorem idle_setSchedule (name text : String) : Moves Desk.Idle (setSchedule name text) := by
  intro d
  obtain ⟨n, ⟨-, hp⟩ | ⟨f, hp⟩⟩ := perform_setSchedule name text d <;> rw [hp] <;>
    exact ⟨rfl, rfl, rfl, rfl⟩

theorem idle_remove (name : String) : Moves Desk.Idle (remove name) := by
  intro d
  obtain ⟨n, hp | ⟨-, hp⟩⟩ := perform_remove name d <;> rw [hp] <;> exact ⟨rfl, rfl, rfl, rfl⟩

theorem idle_restart (name : String) : Moves Desk.Idle (restart name) := by
  intro d
  obtain ⟨n, ⟨-, hp⟩ | ⟨f, hp⟩ | ⟨-, -, f, hp⟩⟩ := perform_restart name d <;> rw [hp] <;>
    exact ⟨rfl, rfl, rfl, rfl⟩

end Instances

namespace Scenario.Operation

theorem guided_balanced (going : String → Nat) :
    Guided (Desk.Keeps fun d => d.site.Balanced going) where
  calm h := balancing_of_calm h going
  sync := Scheduler.balancing_sync going
  untrack := Scheduler.balancing_untrack going
  enqueueDue := Scheduler.balancing_enqueueDue going
  configure name typeName config locale update :=
    (Instances.idle_configure name typeName config locale update).balancing going
  setSchedule name text := (Instances.idle_setSchedule name text).balancing going
  remove name := ((Instances.idle_remove name).balancing going).bind fun _ =>
    Scheduler.balancing_untrack going name
  restart name := (Scheduler.balancing_untrack going name).bind fun _ =>
    (Instances.idle_restart name).balancing going

end Scenario.Operation

/-- An entry of a list that is taken out counts no longer. -/
theorem countP_eraseIdx {l : List α} {i : Nat} {a : α} (h : l[i]? = some a) (p : α → Bool) :
    l.countP p = (l.eraseIdx i).countP p + if p a then 1 else 0 := by
  obtain ⟨hi, rfl⟩ := List.getElem?_eq_some_iff.1 h
  rw [← (List.getElem_cons_eraseIdx_perm hi).countP_eq p, List.countP_cons]

/-- The move is one of manager, scheduler, worker or connector. A traversal is begun only for a job
off the queue. -/
def Move.isRegular : Move → Bool
  | .ask _ op => op.isManaged
  | .begin .. => false
  | _ => true

namespace Hub

/-- How many traversals of a connector go on. -/
def traversing (h : Hub) (name : String) : Nat := h.going.countP (·.2.connector = name)

def Balanced (h : Hub) : Prop := h.site.Balanced h.traversing

/-- A job that is taken off the queue waits no longer. -/
theorem waiting_without {h : Hub} {index : Nat} {job : Job} (hj : h.site.queue[index]? = some job)
    (name : String) : h.site.waiting name =
      (h.without index).site.waiting name + if job.connector = name then 1 else 0 := by
  simpa [Site.waiting, without] using countP_eraseIdx hj (·.connector = name)

/-- A traversal that is begun for a job off the queue takes its place, or the lock is freed. -/
theorem Balanced.work {h : Hub} (hb : h.Balanced) (place : Nat) {index : Nat} {job : Job}
    (hj : h.site.queue[index]? = some job) :
    ((h.without index).begin place job.connector).1.Balanced := by
  have hwaiting := waiting_without hj
  rcases (h.without index).begin_cases place job.connector with ⟨t, d, ht, hp⟩ | ⟨d, hd, hp⟩
  · rw [hp]
    refine ht.passing.toIdle.balanced ⟨hb.takes, fun name => ?_⟩
    have hgoing : (((h.without index).leave place d).withGoing
        ((h.without index).going ++ [(place, t)])).traversing name =
          h.traversing name + if job.connector = name then 1 else 0 := by
      simp [traversing, without, List.countP_append, List.countP_singleton, ht.connector]
    have hc := hb.count name
    rw [hwaiting name] at hc
    refine Eq.trans ?_ hc
    rw [hgoing, Nat.add_comm (h.traversing name), ← Nat.add_assoc]
    rfl
  · rw [hp]
    refine hb.unlock hd.refuses hd.locks fun name => ?_
    have hw : d.site.waiting name = (h.without index).site.waiting name := by
      unfold Site.waiting
      rw [hd.queue]
      rfl
    rw [hw, hwaiting name]
    exact Nat.add_right_comm ..

theorem balanced_move {h : Hub} (hb : h.Balanced) {m : Move} (hm : m.isRegular = true) :
    (h.move m).1.Balanced := by
  cases m with
  | ask place op => exact (Scenario.Operation.guided_balanced h.traversing).moves hm (h.desk place) hb
  | begin place name => cases hm
  | work place index =>
    cases hj : h.site.queue[index]? with
    | none =>
      simp only [move, hj]
      exact hb
    | some job =>
      simp only [move, hj]
      exact hb.work place hj
  | finish index answer =>
    cases hi : h.going[index]? with
    | none =>
      simp only [move, hi]
      exact hb
    | some g =>
      obtain ⟨place, t⟩ := g
      obtain ⟨d₁, x, d₂, -, hj, hc, -, hp⟩ := finish_cases hi answer
      rw [hp]
      have hd := hj.idle.trans hc.passing.toIdle
      refine hb.unlock hd.refuses hd.locks fun name => ?_
      have hw : d₂.site.waiting name = h.site.waiting name := by
        unfold Site.waiting
        rw [hd.queue]
        rfl
      rw [hw, Nat.add_assoc]
      congr 1
      simpa [traversing] using countP_eraseIdx hi (·.2.connector = name)
  | pause clock => exact ⟨hb.takes, hb.count⟩

/-- Nothing waits, nothing goes on, no lock is taken, and the queue takes every job. -/
structure Unused (h : Hub) : Prop where
  locks : h.site.locks = .empty
  queue : h.site.queue = []
  going : h.going = []
  takes : ∀ j, h.site.refuses j = false

theorem Unused.balanced {h : Hub} (hu : h.Unused) : h.Balanced where
  takes := hu.takes
  count := by
    intro name
    simp [Site.waiting, traversing, Site.isLocked, Table.contains, hu.locks, hu.queue, hu.going]

theorem Run.balanced {start h : Hub} {past : List Event} (hs : start.Unused)
    (run : Run (fun _ m => m.isRegular = true) start past h) : h.Balanced := by
  induction run with
  | none => exact hs.balanced
  | next run here ih => exact balanced_move ih here

/-- A connector never has more than one job or traversal, and its lock is taken exactly while it has
one: at any nodes, whatever is asked of them and when, and however its traversals end. -/
theorem one_job_per_connector {start h : Hub} {past : List Event} (hs : start.Unused)
    (run : Run (fun _ m => m.isRegular = true) start past h) (name : String) :
    h.site.waiting name + h.traversing name ≤ 1 ∧
      (h.site.isLocked name = true ↔ h.site.waiting name + h.traversing name = 1) := by
  have hc := (run.balanced hs).count name
  cases hl : h.site.isLocked name with
  | false =>
    rw [hl, if_neg Bool.false_ne_true] at hc
    rw [hc]
    simp
  | true =>
    rw [hl, if_pos rfl] at hc
    rw [hc]
    simp

/-- A connector is queued at one node, restarted and to be queued at another while it is traversed,
and queued again after its traversal has failed. -/
def queuedTwice : List Move :=
  setUp 0 "a" ++ [.ask 1 (.enqueue none), .work 1 0, .ask 0 (.restart "a"), .ask 0 (.enqueue none),
    .finish 0 (.error (.raised .runtime "down")), .ask 1 (.enqueue none)]

theorem one_job_queuedTwice :
    untouched.Unused ∧ untouched.Allows (fun _ m => m.isRegular = true) queuedTwice ∧
      (untouched.play queuedTwice).1.site.waiting "a" = 1 ∧
      (untouched.play queuedTwice).1.site.waiting "a" +
        (untouched.play queuedTwice).1.traversing "a" ≤ 1 ∧
      ((untouched.play queuedTwice).1.site.isLocked "a" = true ↔
        (untouched.play queuedTwice).1.site.waiting "a" +
          (untouched.play queuedTwice).1.traversing "a" = 1) := by
  have hunused : untouched.Unused := ⟨rfl, rfl, rfl, fun _ => rfl⟩
  have hallows : untouched.Allows (fun _ m => m.isRegular = true) queuedTwice := by
    decide +kernel
  exact ⟨hunused, hallows, by decide +kernel,
    one_job_per_connector hunused (untouched.run_play queuedTwice hallows) "a"⟩

end Hub

end ConnectorHub
