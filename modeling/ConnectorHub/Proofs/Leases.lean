import ConnectorHub.Proofs.OneJob
import Mathlib.Data.List.Nodup

/-! Locks that lapse. A lock may be gone once it is as old as it was to become, though its job still
waits or its traversal goes on. The jobs are numbered in the order in which they are put on the queue,
so that it can be told which lock a traversal frees in the end. -/
namespace ConnectorHub

open Store Act Scenario

namespace Site

/-- From one site to the other jobs of these connectors were put on the queue, each with a lock that
was free. -/
structure QueuesUp (names : List String) (s s' : Site) : Prop where
  refuses : s'.refuses = s.refuses
  queue : s'.queue = s.queue ++ names.map Job.mk
  nodup : names.Nodup
  free : ∀ name ∈ names, s.isLocked name = false
  locked : ∀ name, s'.isLocked name = (s.isLocked name || names.contains name)

/-- From one site to the other the jobs of a connector were dropped, and its lock was freed if there
were any. -/
structure Drops (name : String) (s s' : Site) : Prop where
  refuses : s'.refuses = s.refuses
  queue : s'.queue = s.queue.filter (·.connector ≠ name)
  locked : ∀ other, s'.isLocked other =
    if other = name ∧ s.isQueued (jobId name) = true then false else s.isLocked other

variable {s s' s'' : Site} {names names' : List String} {name : String}

theorem queuesUp_nil (hr : s'.refuses = s.refuses) (hq : s'.queue = s.queue)
    (hl : s'.locks = s.locks) : s.QueuesUp [] s' where
  refuses := hr
  queue := by rw [hq, List.map_nil, List.append_nil]
  nodup := .nil
  free := nofun
  locked other := by rw [isLocked_congr hl, List.contains_nil, Bool.or_false]

theorem QueuesUp.trans (h : s.QueuesUp names s') (k : s'.QueuesUp names' s'') :
    s.QueuesUp (names ++ names') s'' where
  refuses := k.refuses.trans h.refuses
  queue := by rw [k.queue, h.queue, List.map_append, List.append_assoc]
  nodup := by
    refine List.nodup_append.2 ⟨h.nodup, k.nodup, ?_⟩
    rintro name hn _ hn' rfl
    have hfree := k.free name hn'
    simp [h.locked, hn] at hfree
  free := by
    intro name hn
    rcases List.mem_append.1 hn with hn | hn
    · exact h.free name hn
    · have hfree := k.free name hn
      rw [h.locked] at hfree
      exact (Bool.or_eq_false_iff.1 hfree).1
  locked other := by
    rw [k.locked, h.locked, Bool.or_assoc]
    simp

end Site

namespace Desk

/-- Where the queue takes every job, some are put on it, each with a lock that was free. -/
def QueuesUp (d d' : Desk) : Prop :=
  d'.site.refuses = d.site.refuses ∧
    ((∀ j, d.site.refuses j = false) → ∃ names, d.site.QueuesUp names d'.site)

variable {d d' e : Desk}

theorem Idle.queuesUp (h : d.Idle d') : d.QueuesUp d' :=
  ⟨h.refuses, fun _ => ⟨[], Site.queuesUp_nil h.refuses h.queue h.locks⟩⟩

instance : IsPreorder Desk QueuesUp where
  refl _ := ⟨rfl, fun _ => ⟨[], Site.queuesUp_nil rfl rfl rfl⟩⟩
  trans := by
    rintro d e f ⟨hr, h⟩ ⟨kr, k⟩
    refine ⟨kr.trans hr, fun htakes => ?_⟩
    obtain ⟨names, hn⟩ := h htakes
    obtain ⟨names', hn'⟩ := k fun j => (congrFun hr j).trans (htakes j)
    exact ⟨names ++ names', hn.trans hn'⟩

/-- From one desk to the other jobs were put on the queue, or those of one connector were dropped. -/
def Dispatches (d d' : Desk) : Prop := d.QueuesUp d' ∨ ∃ name, d.site.Drops name d'.site

theorem Idle.dispatches (h : d.Idle d') : d.Dispatches d' := .inl h.queuesUp

theorem Idle.trans_dispatches (h : d.Idle d') (k : d'.Dispatches e) : d.Dispatches e := by
  rcases k with k | ⟨name, k⟩
  · exact .inl (trans_of QueuesUp h.queuesUp k)
  · refine .inr ⟨name, k.refuses.trans h.refuses, by rw [k.queue, h.queue], fun other => ?_⟩
    rw [k.locked, Site.isLocked_congr h.locks]
    unfold Site.isQueued
    rw [h.queue]

theorem Dispatches.trans_idle (h : d.Dispatches d') (k : d'.Idle e) : d.Dispatches e := by
  rcases h with h | ⟨name, h⟩
  · exact .inl (trans_of QueuesUp h k.queuesUp)
  · refine .inr ⟨name, k.refuses.trans h.refuses, k.queue.trans h.queue, fun other => ?_⟩
    rw [Site.isLocked_congr k.locks, h.locked]

theorem dispatches_untracking (d : Desk) (name : String) : d.Dispatches (d.untracking name) := by
  unfold untracking
  split
  · refine .inr ⟨name, ?_, ?_, fun other => ?_⟩
    · split <;> rfl
    · split <;> exact Site.queue_dropJobs ..
    · by_cases hq : d.site.isQueued (jobId name) = true
      · rw [if_pos hq]
        by_cases ho : other = name
        · rw [if_pos ⟨ho, hq⟩, ho]
          exact Site.isLocked_unlock_self ..
        · rw [if_neg (fun h => ho h.1)]
          exact Site.isLocked_unlock_of_ne _ ho
      · rw [if_neg hq, if_neg (fun h => hq h.2)]
        rfl
  · exact Idle.dispatches ⟨rfl, rfl, rfl, rfl⟩

end Desk

namespace Scheduler

theorem queuesUp_sync : Moves Desk.QueuesUp sync :=
  Moves.bind (fun d => (calm_store Schedules.means_all _ d).idle.queuesUp) fun _ _ =>
    ⟨rfl, fun _ => ⟨[], Site.queuesUp_nil rfl rfl rfl⟩⟩

theorem queuesUp_enqueue (now : Time.DateTime) (name : String) :
    Moves Desk.QueuesUp (enqueue now name) := by
  intro d
  rcases perform_enqueue now name d with ⟨-, hp⟩ | ⟨hl, s, rfl, ⟨hr, hp⟩ | ⟨-, hp⟩⟩
  · rw [hp]
    exact refl d
  · rw [hp]
    refine ⟨rfl, fun htakes => ?_⟩
    rw [htakes] at hr
    cases hr
  · rw [hp]
    refine ⟨rfl, fun _ => ⟨[name], rfl, rfl, List.nodup_singleton name, ?_, fun other => ?_⟩⟩
    · intro other ho
      rw [List.mem_singleton.1 ho]
      exact hl
    · by_cases ho : other = name
      · subst ho
        simp [Site.isLocked, Site.enqueue, Table.contains]
      · simp [Site.isLocked, Site.enqueue, Table.contains, ho,
          Table.get?_insert_of_ne _ _ (mt lockKey_inj.1 ho)]

theorem queuesUp_enqueueDue (now : Option Time.DateTime) :
    Moves Desk.QueuesUp (enqueueDue now) :=
  moves_enqueueDue (fun d => (calm_readClock d).idle.queuesUp)
    (fun t => queuesUp_sync.bind fun _ => moves_node.bind fun _ =>
      Moves.bind (fun d => (calm_dueAmong _ _ d).idle.queuesUp) fun _ =>
        Moves.filterM fun name _ => queuesUp_enqueue t name) now

theorem dispatches_untrack (name : String) (d : Desk) :
    d.Dispatches ((untrack name).perform d).2 := by
  rw [perform_untrack]
  exact d.dispatches_untracking name

end Scheduler

namespace Scenario.Operation

theorem dispatches_remove (name : String) (d : Desk) :
    d.Dispatches ((remove name).perform.perform d).2 := by
  have hidle := Instances.idle_remove name d
  simp only [perform, perform_noAnswer, Administration.remove, perform_bind]
  cases hp : (Instances.remove name).perform d with
  | mk x e =>
    rw [hp] at hidle
    cases x with
    | ok _ => exact hidle.trans_dispatches (Scheduler.dispatches_untrack name e)
    | error _ => exact hidle.dispatches

theorem dispatches_restart (name : String) (d : Desk) :
    d.Dispatches ((restart name).perform.perform d).2 := by
  simp only [perform, perform_noAnswer, Administration.restart, perform_bind,
    Scheduler.perform_untrack]
  exact (d.dispatches_untracking name).trans_idle (Instances.idle_restart name _)

/-- What is asked of a node by way of manager and scheduler puts jobs on the queue, or drops those of
one connector. -/
theorem dispatches_of_isManaged {op : Operation} (h : op.isManaged = true) (d : Desk) :
    d.Dispatches (op.perform.perform d).2 := by
  have hidle {α : Type} {a : Act α} (ha : Moves Desk.Idle a) : Moves Desk.QueuesUp a :=
    fun d => (ha d).queuesUp
  have hcalm {α : Type} {a : Act α} (ha : Calm a) : Moves Desk.QueuesUp a :=
    fun d => (ha d).idle.queuesUp
  rcases Bool.or_eq_true_iff.1 h with h | h
  · rcases Bool.or_eq_true_iff.1 h with h | h
    · exact .inl (hcalm (calm_of_isQuestion h) d)
    · cases op with
      | sync => exact .inl ((Scheduler.queuesUp_sync.map _) d)
      | untrack name =>
        simp only [perform, perform_noAnswer]
        exact Scheduler.dispatches_untrack name d
      | enqueue now => exact .inl (((Scheduler.queuesUp_enqueueDue now).map _) d)
      | startup =>
        refine .inl (Moves.map _ ((Scheduler.queuesUp_enqueueDue none).attempt.bind fun x => ?_) d)
        cases x with
        | ok _ => exact .pure _
        | error _ => exact hcalm (calm_logs _)
      | _ => cases h
  · cases op with
    | configure name typeName settings language update =>
      exact .inl (((hidle (Instances.idle_configure name typeName settings _ update)).map _) d)
    | setSchedule name load retryDelay intervals =>
      exact .inl (Moves.map _ (Moves.bind (.give _) fun _ => Moves.bind (.give _) fun text =>
        (hidle (Instances.idle_setSchedule name text)).bind fun _ => .pure _) d)
    | remove name => exact dispatches_remove name d
    | restart name => exact dispatches_restart name d
    | _ => cases h

end Scenario.Operation

/-- A job with its number. -/
structure Ticket where
  number : Nat
  connector : String
  deriving DecidableEq, Repr

def Ticket.job (t : Ticket) : Job := ⟨t.connector⟩

/-- With which job a lock was taken, and at which second. -/
structure Lease where
  number : Nat
  since : Nat
  deriving DecidableEq, Repr

/-- A lock that lapsed, whose it was, and how old it was to become. -/
structure Lapse extends Lease where
  connector : String
  ttl : Int
  deriving DecidableEq, Repr

/-- A hub, and what there has been of its jobs and locks: the numbers of the jobs that wait and of the
traversals that go on, in the same order, and the locks that are taken and those that lapsed. -/
structure Ledger where
  hub : Hub
  now : Nat := 0
  issued : Nat := 0
  waiting : List Ticket := []
  going : List Ticket := []
  leases : String → Option Lease := fun _ => none
  lapses : List Lapse := []

/-- What can happen where locks lapse. -/
inductive Turn
  | move (m : Move)
  | wait (seconds : Nat)
  | lapse (name : String)

/-- A traversal is begun only for a job off the queue. -/
def Turn.isRegular : Turn → Bool
  | move m => m.isRegular
  | _ => true

namespace Ledger

/-- Jobs with their numbers. -/
def tickets (first : Nat) : List Job → List Ticket
  | [] => []
  | j :: js => ⟨first, j.connector⟩ :: tickets (first + 1) js

/-- The locks that are still taken. -/
def remaining (l : Ledger) (hub : Hub) (name : String) : Option Lease :=
  if hub.site.isLocked name then l.leases name else none

/-- The ledger when a node has left the hub so. Jobs that are new stand behind those that are left. -/
def asked (l : Ledger) (hub : Hub) : Ledger :=
  let kept := l.waiting.filter fun t => hub.site.queue.contains t.job
  let new := tickets l.issued (hub.site.queue.drop kept.length)
  { l with
    hub
    issued := l.issued + new.length
    waiting := kept ++ new
    leases := fun name =>
      (l.remaining hub name).or
        (if hub.site.isLocked name then
          (new.find? (·.connector = name)).map fun t => ⟨t.number, l.now⟩
        else none) }

/-- The ledger when a job was taken off the queue. -/
def begun (l : Ledger) (index : Nat) (hub : Hub) : Ledger :=
  match l.waiting[index]? with
  | none => { l with hub }
  | some t =>
    { l with
      hub
      waiting := l.waiting.eraseIdx index
      going := if l.hub.going.length < hub.going.length then l.going ++ [t] else l.going
      leases := l.remaining hub }

/-- The ledger when a traversal has ended. -/
def ended (l : Ledger) (index : Nat) (hub : Hub) : Ledger :=
  { l with hub, going := l.going.eraseIdx index, leases := l.remaining hub }

def follow (l : Ledger) (m : Move) : Ledger :=
  let hub := (l.hub.move m).1
  match m with
  | .ask .. => l.asked hub
  | .work _ index => l.begun index hub
  | .finish index _ => l.ended index hub
  | .begin .. | .pause _ => { l with hub }

/-- The ledger when a lock has lapsed. -/
def lapsed (l : Ledger) (lapse : Lapse) : Ledger :=
  { l with
    hub := { l.hub with site := l.hub.site.unlock (lockKey lapse.connector) }
    leases := fun name => if name = lapse.connector then none else l.leases name
    lapses := lapse :: l.lapses }

/-- The lock of a connector lapses, if it is taken and is old enough. -/
def lapse (l : Ledger) (name : String) : Ledger :=
  match l.leases name, (l.hub.site.locks.get? (lockKey name)).bind (·.ttl) with
  | some lease, some ttl =>
    if lease.since + ttl ≤ l.now then l.lapsed { lease with connector := name, ttl } else l
  | _, _ => l

def turn (l : Ledger) : Turn → Ledger
  | .move m => l.follow m
  | .wait seconds => { l with now := l.now + seconds }
  | .lapse name => l.lapse name

/-- The job whose traversal ends with this turn. A traversal can end as soon as its job is taken off the
queue, without going on. -/
def ending (l : Ledger) : Turn → Option Ticket
  | .move (.finish index _) => l.going[index]?
  | .move (.work place index) =>
    if l.hub.going.length < (l.hub.move (.work place index)).1.going.length then none
    else l.waiting[index]?
  | _ => none

/-- The jobs that wait, and those whose traversals go on. -/
def pending (l : Ledger) : List Ticket := l.waiting ++ l.going

/-- The lock that was taken with the job is still taken. -/
def Holds (l : Ledger) (t : Ticket) : Prop :=
  ∃ lease, l.leases t.connector = some lease ∧ lease.number = t.number

/-- A lock of the connector lapsed that was taken no later than with the job. -/
def Lapsed (l : Ledger) (t : Ticket) : Prop :=
  ∃ lapse ∈ l.lapses, lapse.connector = t.connector ∧ lapse.number ≤ t.number ∧
    lapse.since + lapse.ttl ≤ l.now

/-- The ledger tells jobs and locks as they are. A lock that is taken was taken with the latest job, and
a job without its lock has lost it since one lapsed. For each lock that lapsed there is room for one
more job. -/
structure Sound (l : Ledger) : Prop where
  takes : ∀ j, l.hub.site.refuses j = false
  waiting : l.waiting.map Ticket.job = l.hub.site.queue
  going : l.going.map (·.connector) = l.hub.going.map (·.2.connector)
  leased : ∀ name, (l.leases name).isSome = l.hub.site.isLocked name
  numbered : ∀ t ∈ l.pending, t.number < l.issued
  distinct : (l.pending.map (·.number)).Nodup
  latest : ∀ name lease, l.leases name = some lease →
    ∀ t ∈ l.pending, t.connector = name → t.number ≤ lease.number
  kept : ∀ t ∈ l.pending, l.Holds t ∨ l.Lapsed t
  bounded : ∀ name, l.pending.countP (·.connector = name) ≤
    (if l.hub.site.isLocked name then 1 else 0) + l.lapses.countP (·.connector = name)

variable {l l' : Ledger} {hub : Hub}

theorem move_work {h : Hub} {index : Nat} {j : Job} (hj : h.site.queue[index]? = some j)
    (place : Nat) : (h.move (.work place index)).1 =
      ((h.without index).begin place j.connector).1 := by
  simp only [Hub.move, hj]

/-- The ledger follows the hub. -/
theorem hub_turn_move (l : Ledger) (m : Move) : (l.turn (.move m)).hub = (l.hub.move m).1 := by
  cases m with
  | work place index =>
    change (l.begun index (l.hub.move (.work place index)).1).hub = _
    unfold Ledger.begun
    split <;> rfl
  | _ => rfl

theorem Sound.eq_of_number (h : l.Sound) {t u : Ticket} (ht : t ∈ l.pending) (hu : u ∈ l.pending)
    (hn : t.number = u.number) : t = u := List.inj_on_of_nodup_map h.distinct ht hu hn

theorem Sound.distinct_of_subperm (h : l.Sound) {ts : List Ticket} (hts : ts.Subperm l.pending) :
    (ts.map (·.number)).Nodup := by
  obtain ⟨us, hperm, hsub⟩ := hts
  exact (hperm.map _).nodup_iff.1 ((hsub.map _).nodup h.distinct)

/-- What is taken out of the pending jobs is not among the rest. -/
theorem Sound.not_mem_of_perm (h : l.Sound) {t : Ticket} {rest : List Ticket}
    (hp : (t :: rest).Perm l.pending) : t ∉ rest := by
  intro ht
  have hnodup := (hp.map (·.number)).nodup_iff.2 h.distinct
  exact (List.nodup_cons.1 hnodup).1 (List.mem_map_of_mem ht)

theorem Lapsed.later {t u : Ticket} (h : l.Lapsed t) (hc : u.connector = t.connector)
    (hn : t.number ≤ u.number) : l.Lapsed u := by
  obtain ⟨lapse, hl, hconnector, hnumber, hold⟩ := h
  exact ⟨lapse, hl, hconnector.trans hc.symm, Nat.le_trans hnumber hn, hold⟩

/-- Some jobs are pending no longer, and a lock is freed only if one of its connector's is not. -/
theorem Sound.fewer (h : l.Sound) (htakes : l'.hub.site.refuses = l.hub.site.refuses)
    (hwaiting : l'.waiting.map Ticket.job = l'.hub.site.queue)
    (hgoing : l'.going.map (·.connector) = l'.hub.going.map (·.2.connector))
    (hleased : ∀ name, (l'.leases name).isSome = l'.hub.site.isLocked name)
    (hissued : l'.issued = l.issued) (hlapses : l'.lapses = l.lapses) (hnow : l.now ≤ l'.now)
    (hpending : l'.pending.Subperm l.pending)
    (hleases : ∀ name, l'.leases name = l.leases name ∨ l'.leases name = none ∧
      ∃ t ∈ l.pending, t.connector = name ∧ t ∉ l'.pending) : l'.Sound where
  takes j := (congrFun htakes j).trans (h.takes j)
  waiting := hwaiting
  going := hgoing
  leased := hleased
  numbered t ht := by
    rw [hissued]
    exact h.numbered t (hpending.subset ht)
  distinct := h.distinct_of_subperm hpending
  latest name lease hlease t ht hn := by
    rcases hleases name with hsame | ⟨hnone, -⟩
    · exact h.latest name lease (hsame ▸ hlease) t (hpending.subset ht) hn
    · rw [hnone] at hlease
      cases hlease
  kept t ht := by
    have hlapsed {u : Ticket} (hu : l.Lapsed u) : l'.Lapsed u := by
      obtain ⟨lapse, hl, hconnector, hnumber, hold⟩ := hu
      exact ⟨lapse, hlapses ▸ hl, hconnector, hnumber, Int.le_trans hold (Int.ofNat_le.2 hnow)⟩
    have htl := hpending.subset ht
    rcases h.kept t htl with ⟨lease, hlease, hnumber⟩ | ht
    · rcases hleases t.connector with hsame | ⟨-, u, hu, hconnector, hgone⟩
      · exact .inl ⟨lease, hsame.trans hlease, hnumber⟩
      -- The job that is pending no longer had lost its lock before the one whose lock it freed.
      · refine .inr (hlapsed ?_)
        have hle : u.number ≤ t.number := hnumber ▸ h.latest _ lease hlease u hu hconnector
        rcases h.kept u hu with ⟨lease', hlease', hnumber'⟩ | hu'
        · rw [hconnector, hlease] at hlease'
          have hsame : u = t := h.eq_of_number hu htl
            (by rw [← hnumber', ← Option.some.inj hlease', hnumber])
          exact absurd ht (hsame ▸ hgone)
        · exact hu'.later hconnector.symm hle
    · exact .inr (hlapsed ht)
  bounded name := by
    have hb := h.bounded name
    rw [hlapses]
    rcases hleases name with hsame | ⟨-, t, ht, hconnector, hgone⟩
    · rw [← hleased, hsame, h.leased]
      exact Nat.le_trans (hpending.countP_le _) hb
    · have hsub := List.cons_subperm_of_not_mem_of_mem hgone ht hpending
      have hcount := Nat.le_trans (hsub.countP_le (·.connector = name)) hb
      rw [List.countP_cons_of_pos (by simpa using hconnector)] at hcount
      split at hcount <;> omega

theorem Sound.remaining_eq (h : l.Sound) {name : String}
    (hl : hub.site.isLocked name = l.hub.site.isLocked name) : l.remaining hub name = l.leases name := by
  unfold remaining
  rw [hl, ← h.leased]
  cases l.leases name <;> rfl

theorem Sound.leases_of_free (h : l.Sound) {name : String}
    (hl : l.hub.site.isLocked name = false) : l.leases name = none := by
  have hleased := h.leased name
  rw [hl] at hleased
  simpa using hleased

theorem remaining_of_free {name : String} (hl : hub.site.isLocked name = false) :
    l.remaining hub name = none := by
  unfold remaining
  rw [hl]
  rfl

theorem Sound.isSome_remaining (h : l.Sound) {name : String}
    (hl : hub.site.isLocked name = true → l.hub.site.isLocked name = true) :
    (l.remaining hub name).isSome = hub.site.isLocked name := by
  unfold remaining
  cases hf : hub.site.isLocked name with
  | false => rfl
  | true => exact (h.leased name).trans (hl hf)

/-- The lock of one connector is freed, one of whose jobs is pending no longer. -/
theorem Sound.freed (h : l.Sound) {t : Ticket} {waiting going : List Ticket}
    (htakes : hub.site.refuses = l.hub.site.refuses)
    (hwaiting : waiting.map Ticket.job = hub.site.queue)
    (hgoing : going.map (·.connector) = hub.going.map (·.2.connector))
    (ht : t ∈ l.pending) (hgone : t ∉ waiting ++ going)
    (hpending : (waiting ++ going).Subperm l.pending)
    (hfree : hub.site.isLocked t.connector = false)
    (hsame : ∀ other, other ≠ t.connector → hub.site.isLocked other = l.hub.site.isLocked other) :
    Sound { l with hub, waiting, going, leases := l.remaining hub } := by
  refine h.fewer htakes hwaiting hgoing (fun name => h.isSome_remaining fun hl => ?_) rfl rfl
    (Nat.le_refl _) hpending fun name => ?_
  · by_cases hn : name = t.connector
    · rw [hn, hfree] at hl
      cases hl
    · rwa [← hsame name hn]
  · by_cases hn : name = t.connector
    · subst hn
      exact .inr ⟨remaining_of_free hfree, t, ht, rfl, hgone⟩
    · exact .inl (h.remaining_eq (hsame name hn))

/-- All locks and pending jobs are as they were. -/
theorem Sound.same (h : l.Sound) {waiting going : List Ticket} {now : Nat}
    {leases : String → Option Lease}
    (htakes : hub.site.refuses = l.hub.site.refuses)
    (hwaiting : waiting.map Ticket.job = hub.site.queue)
    (hgoing : going.map (·.connector) = hub.going.map (·.2.connector))
    (hpending : (waiting ++ going).Subperm l.pending) (hnow : l.now ≤ now)
    (hlocked : ∀ name, hub.site.isLocked name = l.hub.site.isLocked name)
    (hleases : ∀ name, leases name = l.leases name) :
    Sound { l with hub, now, waiting, going, leases } :=
  h.fewer htakes hwaiting hgoing
    (fun name => (congrArg Option.isSome (hleases name)).trans
      ((h.leased name).trans (hlocked name).symm)) rfl rfl hnow hpending
    fun name => .inl (hleases name)

theorem Sound.ended (h : l.Sound) (index : Nat) (answer : Except Failure Batch) :
    (l.turn (.move (.finish index answer))).Sound := by
  cases hi : l.hub.going[index]? with
  | none =>
    have hhub : (l.hub.move (.finish index answer)).1 = l.hub := by simp only [Hub.move, hi]
    have hgoing : l.going.eraseIdx index = l.going := by
      apply List.eraseIdx_of_length_le
      have hlength := congrArg List.length h.going
      rw [List.length_map, List.length_map] at hlength
      rw [hlength]
      exact List.getElem?_eq_none_iff.1 hi
    change Sound (l.ended index (l.hub.move (.finish index answer)).1)
    unfold Ledger.ended
    rw [hhub, hgoing]
    exact h.same rfl h.waiting h.going (List.Subperm.refl _) (Nat.le_refl _) (fun _ => rfl)
      fun name => h.remaining_eq rfl
  | some g =>
    obtain ⟨place, r⟩ := g
    obtain ⟨d₁, x, d₂, -, hj, hc, -, hp⟩ := Hub.finish_cases hi answer
    have hd := hj.idle.trans hc.passing.toIdle
    have hticket : l.going[index]?.map (·.connector) = some r.connector := by
      rw [← List.getElem?_map, h.going, List.getElem?_map, hi]
      rfl
    obtain ⟨t, ht, hconnector⟩ := Option.map_eq_some_iff.1 hticket
    have hperm : (t :: (l.waiting ++ l.going.eraseIdx index)).Perm l.pending := by
      obtain ⟨hlt, rfl⟩ := List.getElem?_eq_some_iff.1 ht
      exact List.perm_middle.symm.trans
        ((List.getElem_cons_eraseIdx_perm hlt).append_left l.waiting)
    have hlocks : d₂.site.locks = l.hub.site.locks := hd.locks
    change Sound (l.ended index (l.hub.move (.finish index answer)).1)
    rw [hp]
    refine h.freed hd.refuses (h.waiting.trans hd.queue.symm) ?_
      (hperm.subset List.mem_cons_self) (h.not_mem_of_perm hperm) ?_ ?_ fun other ho => ?_
    · rw [← List.eraseIdx_map, h.going, List.eraseIdx_map]
      rfl
    · exact (List.sublist_cons_self _ _).subperm.trans hperm.subperm
    · rw [hconnector]
      exact Site.isLocked_unlock_self ..
    · exact (Site.isLocked_unlock_of_ne _ (hconnector ▸ ho)).trans (Site.isLocked_congr hlocks other)

theorem Sound.begun (h : l.Sound) (place index : Nat) :
    (l.turn (.move (.work place index))).Sound := by
  change Sound (l.begun index (l.hub.move (.work place index)).1)
  cases hj : l.hub.site.queue[index]? with
  | none =>
    have hhub : (l.hub.move (.work place index)).1 = l.hub := by simp only [Hub.move, hj]
    have ht : l.waiting[index]? = none := by
      rw [← h.waiting, List.getElem?_map, Option.map_eq_none_iff] at hj
      exact hj
    unfold Ledger.begun
    rw [hhub, ht]
    exact h
  | some job =>
    have hticket : l.waiting[index]?.map Ticket.job = some job := by
      rw [← List.getElem?_map, h.waiting, hj]
    obtain ⟨t, ht, rfl⟩ := Option.map_eq_some_iff.1 hticket
    have hhub : (l.hub.move (.work place index)).1 =
        ((l.hub.without index).begin place t.connector).1 := move_work hj place
    have hwaiting : (l.waiting.eraseIdx index).map Ticket.job =
        (l.hub.without index).site.queue := by
      rw [← List.eraseIdx_map, h.waiting]
      rfl
    have hperm : (t :: (l.waiting.eraseIdx index ++ l.going)).Perm l.pending := by
      obtain ⟨hlt, rfl⟩ := List.getElem?_eq_some_iff.1 ht
      exact (List.getElem_cons_eraseIdx_perm hlt).append_right l.going
    unfold Ledger.begun
    rw [hhub, ht]
    rcases (l.hub.without index).begin_cases place t.connector with ⟨r, d, hr, hp⟩ | ⟨d, hd, hp⟩
    · have hidle := hr.passing.toIdle
      rw [hp]
      dsimp only
      rw [if_pos (by simp [Hub.without])]
      refine h.same hidle.refuses (hwaiting.trans hidle.queue.symm) ?_ ?_
        (Nat.le_refl l.now) (fun name => Site.isLocked_congr hidle.locks name)
        fun name => h.remaining_eq (Site.isLocked_congr hidle.locks name)
      · simp [h.going, Hub.without, hr.connector]
      · refine (List.Perm.subperm ?_).trans hperm.subperm
        rw [← List.append_assoc]
        exact List.perm_append_singleton t _
    · have hidle := hd.toIdle
      have hlocks : d.site.locks = l.hub.site.locks := hidle.locks
      rw [hp]
      dsimp only
      rw [if_neg (by simp [Hub.without])]
      refine h.freed hidle.refuses (hwaiting.trans hidle.queue.symm) h.going
        (hperm.subset List.mem_cons_self) (h.not_mem_of_perm hperm)
        ((List.sublist_cons_self _ _).subperm.trans hperm.subperm) ?_ fun other ho => ?_
      · exact Site.isLocked_unlock_self ..
      · exact (Site.isLocked_unlock_of_ne _ ho).trans (Site.isLocked_congr hlocks other)

/-- The jobs of a connector were dropped. -/
theorem Sound.dropped (h : l.Sound) {name : String} (hd : l.hub.site.Drops name hub.site)
    (hgoing : hub.going = l.hub.going) : (l.asked hub).Sound := by
  have hkept : (l.waiting.filter fun t => hub.site.queue.contains t.job) =
      l.waiting.filter (·.connector ≠ name) := by
    refine List.filter_congr fun t ht => ?_
    have hqueued : ⟨t.connector⟩ ∈ l.hub.site.queue :=
      h.waiting ▸ List.mem_map_of_mem ht
    rw [hd.queue, List.contains_eq_mem]
    simpa [Ticket.job] using fun _ => hqueued
  have hwaiting : (l.waiting.filter (·.connector ≠ name)).map Ticket.job = hub.site.queue := by
    rw [hd.queue, ← h.waiting, List.filter_map]
    rfl
  have hlength : (l.waiting.filter (·.connector ≠ name)).length = hub.site.queue.length := by
    rw [← hwaiting, List.length_map]
  have hnew : l.asked hub = { l with
      hub, waiting := l.waiting.filter (·.connector ≠ name), leases := l.remaining hub } := by
    unfold Ledger.asked
    simp only [hkept, hlength, List.drop_length, tickets, List.length_nil, Nat.add_zero,
      List.append_nil, List.find?_nil, Option.map_none, ite_self, Option.or_none]
  have hsub : (l.waiting.filter (·.connector ≠ name) ++ l.going).Subperm l.pending :=
    (List.filter_sublist.append_right l.going).subperm
  rw [hnew]
  by_cases hq : l.hub.site.isQueued (jobId name) = true
  · obtain ⟨j, hj, hid⟩ := List.any_eq_true.1 hq
    rw [← h.waiting] at hj
    obtain ⟨t, ht, rfl⟩ := List.mem_map.1 hj
    have hname : t.connector = name := jobId_inj.1 (of_decide_eq_true hid)
    refine h.freed hd.refuses hwaiting (h.going.trans (by rw [hgoing]))
      (List.mem_append_left _ ht) ?_ hsub ?_ fun other ho => ?_
    · intro hmem
      rcases List.mem_append.1 hmem with hmem | hmem
      · simpa [hname] using (List.mem_filter.1 hmem).2
      · exact List.disjoint_of_nodup_append (List.Nodup.of_map _ h.distinct) ht hmem
    · rw [hname, hd.locked, if_pos ⟨rfl, hq⟩]
    · rw [hd.locked, if_neg fun h => ho (h.1.trans hname.symm)]
  · have hsame (other : String) : hub.site.isLocked other = l.hub.site.isLocked other := by
      rw [hd.locked, if_neg fun h => hq h.2]
    exact h.same hd.refuses hwaiting (h.going.trans (by rw [hgoing])) hsub
      (Nat.le_refl l.now) hsame fun other => h.remaining_eq (hsame other)

theorem number_of_mem_tickets {t : Ticket} {first : Nat} {js : List Job} (h : t ∈ tickets first js) :
    first ≤ t.number ∧ t.number < first + (tickets first js).length := by
  induction js generalizing first with
  | nil => cases h
  | cons j js ih =>
    rw [tickets, List.length_cons]
    rcases List.mem_cons.1 h with rfl | h
    · exact ⟨Nat.le_refl first, by simp⟩
    · obtain ⟨hfirst, hlast⟩ := ih h
      omega

theorem map_job_tickets (first : Nat) (js : List Job) : (tickets first js).map Ticket.job = js := by
  induction js generalizing first with
  | nil => rfl
  | cons j js ih => rw [tickets, List.map_cons, ih]; rfl

theorem nodup_tickets (first : Nat) (js : List Job) :
    ((tickets first js).map (·.number)).Nodup := by
  induction js generalizing first with
  | nil => exact .nil
  | cons j js ih =>
    refine List.nodup_cons.2 ⟨fun h => ?_, ih (first + 1)⟩
    obtain ⟨t, ht, hn⟩ := List.mem_map.1 h
    have hn : t.number = first := hn
    have hfirst := (number_of_mem_tickets ht).1
    omega

theorem map_connector_tickets (first : Nat) (names : List String) :
    (tickets first (names.map Job.mk)).map (·.connector) = names := by
  have h := congrArg (List.map Job.connector) (map_job_tickets first (names.map Job.mk))
  rw [List.map_map, List.map_map] at h
  exact h.trans (List.map_id _)

theorem connector_of_mem_tickets {t : Ticket} {first : Nat} {names : List String}
    (ht : t ∈ tickets first (names.map Job.mk)) : t.connector ∈ names :=
  map_connector_tickets first names ▸ List.mem_map_of_mem ht

theorem exists_ticket {name : String} {names : List String} (hn : name ∈ names) (first : Nat) :
    ∃ t ∈ tickets first (names.map Job.mk), t.connector = name := by
  rw [← map_connector_tickets first names] at hn
  exact List.mem_map.1 hn

theorem countP_tickets (first : Nat) (names : List String) (name : String) :
    (tickets first (names.map Job.mk)).countP (·.connector = name) = names.count name := by
  have hcount := congrArg (List.countP (· == name)) (map_connector_tickets first names)
  rw [List.countP_map] at hcount
  refine Eq.trans (List.countP_congr fun t _ => ?_) hcount
  simp

/-- Where jobs of different connectors are put on the queue, there is one ticket for each. -/
theorem find?_tickets {t : Ticket} {first : Nat} {names : List String} (hnames : names.Nodup)
    (ht : t ∈ tickets first (names.map Job.mk)) :
    (tickets first (names.map Job.mk)).find? (·.connector = t.connector) = some t := by
  have hnodup := hnames
  rw [← map_connector_tickets first names] at hnodup
  cases hf : (tickets first (names.map Job.mk)).find? (·.connector = t.connector) with
  | none => simpa using List.find?_eq_none.1 hf t ht
  | some u =>
    refine congrArg some (List.inj_on_of_nodup_map hnodup (List.mem_of_find?_eq_some hf) ht ?_)
    simpa using List.find?_some hf

theorem Sound.number_lt (h : l.Sound) {t u : Ticket} {js : List Job} (ht : t ∈ l.pending)
    (hu : u ∈ tickets l.issued js) : t.number < u.number :=
  Nat.lt_of_lt_of_le (h.numbered t ht) (number_of_mem_tickets hu).1

section

variable {names : List String} (h : l.Sound) (hq : l.hub.site.QueuesUp names hub.site)

include h hq

/-- The ledger when jobs were put on the queue. -/
theorem Sound.asked_queuesUp :
    l.asked hub =
      let new := tickets l.issued (names.map Job.mk)
      { l with
        hub
        issued := l.issued + new.length
        waiting := l.waiting ++ new
        leases := fun name =>
          (l.remaining hub name).or
            (if hub.site.isLocked name then
              (new.find? (·.connector = name)).map fun t => ⟨t.number, l.now⟩
            else none) } := by
  have hkept : (l.waiting.filter fun t => hub.site.queue.contains t.job) = l.waiting := by
    refine List.filter_eq_self.2 fun t ht => ?_
    have hqueued : t.job ∈ l.hub.site.queue := h.waiting ▸ List.mem_map_of_mem ht
    rw [hq.queue, List.contains_eq_mem]
    simp [hqueued]
  have hdrop : hub.site.queue.drop l.waiting.length = names.map Job.mk := by
    have hlength : l.waiting.length = l.hub.site.queue.length := by
      rw [← h.waiting, List.length_map]
    rw [hq.queue, hlength, List.drop_left]
  unfold Ledger.asked
  simp only [hkept, hdrop]

theorem Sound.leases_of_notMem {name : String} (hn : name ∉ names) :
    (l.asked hub).leases name = l.leases name := by
  have hnone : (tickets l.issued (names.map Job.mk)).find? (·.connector = name) = none := by
    refine List.find?_eq_none.2 fun t ht => ?_
    have hne : t.connector ≠ name := fun hc => hn (hc ▸ connector_of_mem_tickets ht)
    simpa using hne
  have hlocked : hub.site.isLocked name = l.hub.site.isLocked name := by
    rw [hq.locked]
    simp [hn]
  rw [h.asked_queuesUp hq]
  simp only [hnone, h.remaining_eq hlocked, Option.map_none, ite_self, Option.or_none]

theorem Sound.leases_of_mem {t : Ticket} (ht : t ∈ tickets l.issued (names.map Job.mk)) :
    (l.asked hub).leases t.connector = some ⟨t.number, l.now⟩ := by
  have hmem := connector_of_mem_tickets ht
  have hlocked : hub.site.isLocked t.connector = true := by
    rw [hq.locked]
    simp [hmem]
  rw [h.asked_queuesUp hq]
  simp only [remaining, hlocked, if_true, h.leases_of_free (hq.free _ hmem),
    find?_tickets hq.nodup ht, Option.none_or, Option.map_some]

theorem Sound.pending_queued :
    (l.asked hub).pending.Perm (l.pending ++ tickets l.issued (names.map Job.mk)) := by
  unfold pending
  rw [h.asked_queuesUp hq, List.append_assoc, List.append_assoc]
  exact List.perm_append_comm.append_left l.waiting

/-- A job that is pending was pending before, or has just been put on the queue. -/
theorem Sound.mem_queued {t : Ticket} (ht : t ∈ (l.asked hub).pending) :
    t ∈ l.pending ∨ t ∈ tickets l.issued (names.map Job.mk) :=
  List.mem_append.1 ((h.pending_queued hq).subset ht)

/-- Jobs were put on the queue, each with a lock. -/
theorem Sound.queued (hgoing : hub.going = l.hub.going) : (l.asked hub).Sound where
  takes j := (congrFun hq.refuses j).trans (h.takes j)
  waiting := by
    rw [h.asked_queuesUp hq, List.map_append, h.waiting, map_job_tickets, ← hq.queue]
  going := by
    change l.going.map _ = hub.going.map _
    rw [h.going, hgoing]
  leased name := by
    change _ = hub.site.isLocked name
    rw [hq.locked]
    by_cases hn : name ∈ names
    · obtain ⟨t, ht, rfl⟩ := exists_ticket hn l.issued
      rw [h.leases_of_mem hq ht]
      simp [hn]
    · rw [h.leases_of_notMem hq hn, h.leased]
      simp [hn]
  numbered t ht := by
    rw [h.asked_queuesUp hq]
    rcases h.mem_queued hq ht with ht | ht
    · exact Nat.lt_add_right _ (h.numbered t ht)
    · exact (number_of_mem_tickets ht).2
  distinct := by
    refine (((h.pending_queued hq).map (·.number)).nodup_iff).2 ?_
    rw [List.map_append]
    refine List.nodup_append.2 ⟨h.distinct, nodup_tickets _ _, ?_⟩
    rintro n hn _ hn' rfl
    obtain ⟨t, ht, rfl⟩ := List.mem_map.1 hn
    obtain ⟨u, hu, hun⟩ := List.mem_map.1 hn'
    exact absurd hun.symm (Nat.ne_of_lt (h.number_lt ht hu))
  latest name lease hlease t ht hn := by
    rcases h.mem_queued hq ht with ht | ht
    · by_cases hname : name ∈ names
      · obtain ⟨u, hu, rfl⟩ := exists_ticket hname l.issued
        rw [h.leases_of_mem hq hu] at hlease
        obtain rfl := Option.some.inj hlease
        exact Nat.le_of_lt (h.number_lt ht hu)
      · exact h.latest name lease ((h.leases_of_notMem hq hname).symm.trans hlease) t ht hn
    · rw [← hn, h.leases_of_mem hq ht] at hlease
      exact Nat.le_of_eq (congrArg Lease.number (Option.some.inj hlease))
  kept t ht := by
    rcases h.mem_queued hq ht with ht | ht
    · by_cases hname : t.connector ∈ names
      -- Its lock is taken anew, so that the job had lost its own.
      · refine .inr ((h.kept t ht).resolve_left ?_)
        rintro ⟨lease, hlease, -⟩
        rw [h.leases_of_free (hq.free _ hname)] at hlease
        cases hlease
      · refine (h.kept t ht).imp_left ?_
        rintro ⟨lease, hlease, hnumber⟩
        exact ⟨lease, (h.leases_of_notMem hq hname).trans hlease, hnumber⟩
    · exact .inl ⟨_, h.leases_of_mem hq ht, rfl⟩
  bounded name := by
    have hb := h.bounded name
    change (l.asked hub).pending.countP _ ≤
      (if hub.site.isLocked name then 1 else 0) + l.lapses.countP _
    rw [(h.pending_queued hq).countP_eq, List.countP_append, countP_tickets, hq.locked]
    by_cases hname : name ∈ names
    · have hone : names.count name ≤ 1 := List.nodup_iff_count_le_one.1 hq.nodup name
      rw [hq.free name hname] at hb
      simp [hname] at hb ⊢
      omega
    · simpa [hname, List.count_eq_zero_of_not_mem hname] using hb

end

theorem Sound.lapsed (h : l.Sound) {lapse : Lapse}
    (hlease : l.leases lapse.connector = some lapse.toLease)
    (hold : lapse.since + lapse.ttl ≤ l.now) : (l.lapsed lapse).Sound where
  takes := h.takes
  waiting := h.waiting
  going := h.going
  leased name := by
    change (if name = lapse.connector then none else l.leases name).isSome =
      (l.hub.site.unlock (lockKey lapse.connector)).isLocked name
    by_cases hn : name = lapse.connector
    · rw [if_pos hn, hn, Site.isLocked_unlock_self]
      rfl
    · rw [if_neg hn, Site.isLocked_unlock_of_ne _ hn]
      exact h.leased name
  numbered := h.numbered
  distinct := h.distinct
  latest name lease hl := by
    have hn : name ≠ lapse.connector := by
      rintro rfl
      simp [Ledger.lapsed] at hl
    exact h.latest name lease ((if_neg hn).symm.trans hl)
  kept t ht := by
    rcases h.kept t ht with ⟨lease, hl, hnumber⟩ | ⟨earlier, hmem, hearlier⟩
    · by_cases hn : t.connector = lapse.connector
      · rw [hn, hlease] at hl
        obtain rfl := Option.some.inj hl
        exact .inr ⟨lapse, List.mem_cons_self, hn.symm, Nat.le_of_eq hnumber, hold⟩
      · exact .inl ⟨lease, (if_neg hn).trans hl, hnumber⟩
    · exact .inr ⟨earlier, List.mem_cons_of_mem _ hmem, hearlier⟩
  bounded name := by
    have hb := h.bounded name
    change l.pending.countP _ ≤ (if (l.hub.site.unlock (lockKey lapse.connector)).isLocked name
      then 1 else 0) + (lapse :: l.lapses).countP _
    rw [List.countP_cons]
    by_cases hn : name = lapse.connector
    · rw [hn, Site.isLocked_unlock_self]
      rw [hn] at hb
      simp at hb ⊢
      split at hb <;> omega
    · rw [Site.isLocked_unlock_of_ne _ hn]
      simpa [Ne.symm hn] using hb

theorem Sound.lapse (h : l.Sound) (name : String) : (l.lapse name).Sound := by
  unfold Ledger.lapse
  split
  · rename_i lease ttl hlease hlock
    split
    · rename_i hold
      exact h.lapsed hlease hold
    · exact h
  · exact h

theorem Sound.turn (h : l.Sound) {t : Turn} (ht : t.isRegular = true) : (l.turn t).Sound := by
  cases t with
  | move m =>
    cases m with
    | ask place op =>
      rcases Operation.dispatches_of_isManaged ht (l.hub.desk place) with hq | ⟨name, hd⟩
      · obtain ⟨names, hq⟩ := hq.2 h.takes
        exact h.queued hq rfl
      · exact h.dropped hd rfl
    | begin => cases ht
    | work place index => exact h.begun place index
    | finish index answer => exact h.ended index answer
    | pause clock =>
      exact h.same rfl h.waiting h.going (List.Subperm.refl _) (Nat.le_refl _) (fun _ => rfl)
        fun _ => rfl
  | wait seconds =>
    exact h.same rfl h.waiting h.going (List.Subperm.refl _) (Nat.le_add_right ..) (fun _ => rfl)
      fun _ => rfl
  | lapse name => exact h.lapse name

/-- The ledger of a hub where nothing has happened yet. -/
def fresh (h : Hub) : Ledger := { hub := h }

theorem sound_fresh {h : Hub} (hs : h.Unused) : (fresh h).Sound where
  takes := hs.takes
  waiting := hs.queue.symm
  going := by
    change [] = h.going.map _
    rw [hs.going]
    rfl
  leased name := by simp [fresh, Site.isLocked, Table.contains, hs.locks]
  numbered := nofun
  distinct := .nil
  latest := nofun
  kept := nofun
  bounded _ := Nat.zero_le _

/-- The ledger after these turns, the first of the list first. -/
def play (l : Ledger) (turns : List Turn) : Ledger := turns.foldl turn l

theorem Sound.play (h : l.Sound) {turns : List Turn} (ht : ∀ t ∈ turns, t.isRegular = true) :
    (l.play turns).Sound := by
  induction turns generalizing l with
  | nil => exact h
  | cons t turns ih =>
    exact ih (h.turn (ht t List.mem_cons_self)) fun u hu => ht u (List.mem_cons_of_mem t hu)

/-- A traversal that ends frees the lock of its connector, whosever it is. -/
theorem Sound.free_of_ending (h : l.Sound) {u : Turn} {t : Ticket} (ht : l.ending u = some t) :
    t ∈ l.pending ∧ (l.turn u).hub.site.isLocked t.connector = false := by
  cases u with
  | move m =>
    cases m with
    | finish index answer =>
      have ht : l.going[index]? = some t := ht
      have hgoing : l.hub.going[index]?.map (·.2.connector) = some t.connector := by
        rw [← List.getElem?_map, ← h.going, List.getElem?_map, ht]
        rfl
      obtain ⟨⟨place, r⟩, hr, hconnector⟩ := Option.map_eq_some_iff.1 hgoing
      refine ⟨List.mem_append_right _ (List.mem_of_getElem? ht), ?_⟩
      obtain ⟨d₁, x, d₂, -, -, -, -, hp⟩ := Hub.finish_cases hr answer
      rw [hub_turn_move, hp, ← hconnector]
      exact Site.isLocked_unlock_self ..
    | work place index =>
      obtain ⟨hends, ht⟩ := Option.ite_none_left_eq_some.1 ht
      refine ⟨List.mem_append_left _ (List.mem_of_getElem? ht), ?_⟩
      have hjob : l.hub.site.queue[index]? = some t.job := by
        rw [← h.waiting, List.getElem?_map, ht]
        rfl
      have hhub : (l.hub.move (.work place index)).1 =
          ((l.hub.without index).begin place t.connector).1 := move_work hjob place
      rw [hub_turn_move, hhub]
      rw [hhub] at hends
      rcases (l.hub.without index).begin_cases place t.connector with ⟨r, d, -, hp⟩ | ⟨d, -, hp⟩
      · rw [hp] at hends
        exact absurd (by simp [Hub.without]) hends
      · rw [hp]
        exact Site.isLocked_unlock_self ..
    | _ => cases ht
  | _ => cases ht

/-- A traversal that ends frees the lock of its connector. That is its own lock, or the lock of a later
job: the latter only if a lock of the connector that was taken no later than its own has lapsed, when it
was as old as it was to become. The jobs and traversals of a connector are never more than one and the
locks of it that have lapsed, and one less if its lock is free. -/
theorem frees_own_lock_unless_lapsed {h : Hub} (hs : h.Unused) {turns : List Turn}
    (hturns : ∀ u ∈ turns, u.isRegular = true) {last : Turn} {t : Ticket}
    (ht : ((fresh h).play turns).ending last = some t) :
    let l := (fresh h).play turns
    (l.waiting.map Ticket.job = l.hub.site.queue ∧
      l.going.map (·.connector) = l.hub.going.map (·.2.connector) ∧
      ∀ name, (l.leases name).isSome = l.hub.site.isLocked name) ∧
    t ∈ l.pending ∧ (l.turn last).hub.site.isLocked t.connector = false ∧
    (∀ lease, l.leases t.connector = some lease → t.number ≤ lease.number) ∧
    (l.Holds t ∨ l.Lapsed t) ∧
    ∀ name, l.pending.countP (·.connector = name) ≤
      (if l.hub.site.isLocked name then 1 else 0) + l.lapses.countP (·.connector = name) := by
  intro l
  have hsound : l.Sound := (sound_fresh hs).play hturns
  obtain ⟨hmem, hfree⟩ := hsound.free_of_ending ht
  exact ⟨⟨hsound.waiting, hsound.going, hsound.leased⟩, hmem, hfree,
    fun lease hlease => hsound.latest _ lease hlease t hmem rfl, hsound.kept t hmem,
    hsound.bounded⟩

open Hub (setUp untouched)

/-- Two connectors are queued, and the traversal of one goes on. The lock of the other lapses. -/
def elsewhere : List Turn :=
  List.map Turn.move (setUp 0 "a" ++ setUp 1 "b" ++ [.ask 0 (.enqueue none), .work 1 0]) ++
    [.wait 1800, .lapse "b"]

/-- A traversal whose lock has not lapsed frees its own. -/
theorem frees_own_lock_elsewhere :
    untouched.Unused ∧ (∀ u ∈ elsewhere, u.isRegular = true) ∧
      ((fresh untouched).play elsewhere).ending (.move (.finish 0 (.ok ⟨[], none⟩))) =
        some ⟨0, "a"⟩ ∧
      ((fresh untouched).play elsewhere).Holds ⟨0, "a"⟩ ∧
      (((fresh untouched).play elsewhere).turn
        (.move (.finish 0 (.ok ⟨[], none⟩)))).hub.site.isLocked "a" = false := by
  have hunused : untouched.Unused := ⟨rfl, rfl, rfl, fun _ => rfl⟩
  have hregular : ∀ u ∈ elsewhere, u.isRegular = true := by decide +kernel
  have hending : ((fresh untouched).play elsewhere).ending (.move (.finish 0 (.ok ⟨[], none⟩))) =
      some ⟨0, "a"⟩ := by decide +kernel
  have hlapses : ∀ lapse ∈ ((fresh untouched).play elsewhere).lapses, lapse.connector ≠ "a" := by
    decide +kernel
  obtain ⟨-, -, hfree, -, hlock, -⟩ := frees_own_lock_unless_lapsed hunused hregular hending
  refine ⟨hunused, hregular, hending, hlock.resolve_right ?_, hfree⟩
  rintro ⟨lapse, hl, hconnector, -⟩
  exact hlapses lapse hl hconnector

/-- The lock of a traversal lapses while it goes on, and its connector is queued again. -/
def outlived : List Turn :=
  List.map Turn.move (setUp 0 "a" ++ [.ask 0 (.enqueue none), .work 0 0]) ++
    [.wait 1800, .lapse "a", .move (.ask 0 (.enqueue none))]

/-- The connector is queued once more, and its jobs are taken off the queue. -/
def onceMore : List Turn :=
  List.map Turn.move [.ask 0 (.enqueue none), .work 0 0, .work 0 0]

/-- A traversal that outlives its lock frees the lock of the next job when it ends, and then there are
two traversals of the connector at once. -/
theorem frees_later_lock :
    (∀ u ∈ outlived, u.isRegular = true) ∧
      ((fresh untouched).play outlived).ending (.move (.finish 0 (.ok ⟨[], none⟩))) =
        some ⟨0, "a"⟩ ∧
      ((fresh untouched).play outlived).leases "a" = some ⟨1, 1800⟩ ∧
      (((fresh untouched).play outlived).turn
        (.move (.finish 0 (.ok ⟨[], none⟩)))).hub.site.isLocked "a" = false ∧
      ((((fresh untouched).play outlived).turn
        (.move (.finish 0 (.ok ⟨[], none⟩)))).play onceMore).going = [⟨1, "a"⟩, ⟨2, "a"⟩] := by
  decide +kernel

end Ledger

end ConnectorHub
