import ConnectorHub.Proofs.Passes

/-! Whom a pass of the scheduler queues: the connectors whose stored schedule says that they are due
and whose lock is free, each once. It neither matters what else is stored, nor what was watched
before. -/
namespace ConnectorHub

open Store Act

/-- The schedule can be read and is open at the time, by which its connector is due. -/
def Store.ScheduleRow.DueAt (row : ScheduleRow) (t : Time.DateTime) : Prop :=
  ∃ s, Schedule.parse row.text = .ok s ∧ s.isDisabled = false ∧ s.isOpen t = true ∧
    ∀ due, row.nextDue = some due → due.instant ≤ t.instant

theorem Store.ScheduleRow.dueAt_iff {row : ScheduleRow} {s : Schedule}
    (h : Schedule.parse row.text = .ok s) (t : Time.DateTime) :
    row.DueAt t ↔ s.isDue row.nextDue t = true := by
  unfold DueAt
  rw [h]
  simp only [Except.ok.injEq, exists_eq_left', Schedule.isDue, Bool.and_eq_true, Bool.not_eq_true',
    and_assoc]
  cases row.nextDue <;> simp

namespace Site

/-- From one site to the other the jobs of these connectors were put on the queue in this order, each
with its lock. -/
structure Enqueues (t : Time.DateTime) (names : List String) (s s' : Site) : Prop where
  nodup : names.Nodup
  queue : s'.queue = s.queue ++ names.map Job.mk
  locks : ∀ key, s'.locks.get? key =
    if key ∈ names.map lockKey then some (Scheduler.lockAt t s.settings.lockTtl)
    else s.locks.get? key

variable {t : Time.DateTime} {names names' : List String} {s s' : Site}

theorem Enqueues.nil (t : Time.DateTime) (s : Site) : s.Enqueues t [] s where
  nodup := .nil
  queue := (List.append_nil _).symm
  locks key := by simp

/-- The site when the lock of a connector was taken. -/
def withLock (s : Site) (t : Time.DateTime) (name : String) : Site :=
  { s with locks := s.locks.insert (lockKey name) (Scheduler.lockAt t s.settings.lockTtl) }

/-- The site when the job of a connector was put on the queue with its lock. -/
def withJob (s : Site) (t : Time.DateTime) (name : String) : Site :=
  Site.enqueue { s with
    locks := s.locks.insert (lockKey name) (Scheduler.lockAt t s.settings.lockTtl) } ⟨name⟩

theorem isLocked_withJob (s : Site) (t : Time.DateTime) (name other : String) :
    (s.withJob t name).isLocked other = true ↔ other = name ∨ s.isLocked other = true := by
  by_cases ho : other = name
  · subst ho
    simp [isLocked, withJob, enqueue, Table.contains]
  · simp [isLocked, withJob, enqueue, Table.contains, ho,
      Table.get?_insert_of_ne _ _ (mt lockKey_inj.1 ho)]

theorem Enqueues.cons {name : String} (hn : name ∉ names)
    (h : (s.withJob t name).Enqueues t names s') : s.Enqueues t (name :: names) s' where
  nodup := List.nodup_cons.2 ⟨hn, h.nodup⟩
  queue := by
    rw [h.queue, List.map_cons, List.append_cons]
    rfl
  locks key := by
    rw [h.locks key, List.map_cons]
    simp only [List.mem_cons]
    by_cases hkey : key ∈ names.map lockKey
    · rw [if_pos hkey, if_pos (.inr hkey)]
      rfl
    · rw [if_neg hkey]
      by_cases hk : key = lockKey name
      · rw [if_pos (.inl hk), hk]
        exact Table.get?_insert_self ..
      · rw [if_neg (not_or_intro hk hkey)]
        exact Table.get?_insert_of_ne _ _ hk

/-- The order in which jobs are put on the queue does not matter to the locks. -/
theorem Enqueues.locks_eq {s₁ s₂ : Site} (h : s.Enqueues t names s₁) (k : s'.Enqueues t names' s₂)
    (hl : s'.locks = s.locks) (hs : s'.settings = s.settings) (hn : ∀ c, c ∈ names' ↔ c ∈ names) :
    s₂.locks = s₁.locks := by
  apply Table.ext
  intro key
  have hkey : key ∈ names'.map lockKey ↔ key ∈ names.map lockKey := by
    simp only [List.mem_map, hn]
  rw [h.locks, k.locks, hl, hs]
  simp only [hkey]

end Site

namespace Scheduler

variable {tracked : List (String × ScheduleRow)} {stored : Table ScheduleRow}

/-- Nothing is watched twice if nothing was. -/
theorem nodup_refresh (h : (tracked.map (·.1)).Nodup) :
    ((refresh tracked stored.entries).map (·.1)).Nodup := by
  rw [refresh, List.map_append]
  refine List.nodup_append.2 ⟨?kept, ?new, ?disjoint⟩
  case kept =>
    refine List.pairwise_map.2 (List.pairwise_filterMap.2 ((List.pairwise_map.1 h).imp ?_))
    intro u v huv e he f hf
    rwa [(find?_stored he).1, (find?_stored hf).1]
  case new => exact stored.nodup_names.sublist (List.filter_sublist.map _)
  case disjoint =>
    intro name hkept other hnew
    obtain ⟨e, he, rfl⟩ := List.mem_map.1 hkept
    obtain ⟨f, hf, rfl⟩ := List.mem_map.1 hnew
    obtain ⟨u, hu, hfind⟩ := List.mem_filterMap.1 he
    have hne : u.1 ≠ f.1 := by simpa using List.all_eq_true.1 (List.mem_filter.1 hf).2 u hu
    rwa [(find?_stored hfind).1]

/-- The names of what is watched are then those of what is stored. -/
theorem trackedNames_refresh {n : Node} (h : (n.tracked.map (·.1)).Nodup)
    (stored : Table ScheduleRow) :
    Node.trackedNames { n with tracked := refresh n.tracked stored.entries } = stored.names := by
  unfold Node.trackedNames
  generalize hnames : (refresh n.tracked stored.entries).map (·.1) = names
  have hsorted : (names.mergeSort fun a b => decide (a ≤ b)).Pairwise (· ≤ ·) := by
    refine List.Pairwise.imp of_decide_eq_true (List.pairwise_mergeSort ?_ ?_ names)
    · intro a b c hab hbc
      exact decide_eq_true (String.le_trans (of_decide_eq_true hab) (of_decide_eq_true hbc))
    · intro a b
      simpa using String.le_total a b
  have hstored : stored.names.Pairwise (· ≤ ·) := List.pairwise_map.2 (stored.sorted.imp fun h =>
    String.not_lt.1 fun hlt => String.lt_irrefl _ (String.lt_trans h hlt))
  have hperm : names.Perm stored.names := by
    rw [← hnames]
    refine (List.perm_ext_iff_of_nodup (nodup_refresh h) stored.nodup_names).2 fun name => ?_
    simp only [Table.names, List.mem_map]
    constructor <;> rintro ⟨e, he, rfl⟩
    · exact ⟨e, (mem_refresh_iff ..).1 he, rfl⟩
    · exact ⟨e, (mem_refresh_iff ..).2 he, rfl⟩
  exact ((List.mergeSort_perm _ _).trans hperm).eq_of_pairwise
    (fun _ _ _ _ => String.le_antisymm) hsorted hstored

/-- What is in a filtered list, where its first entry is judged like the others. -/
theorem mem_filtered {α : Type} {b : Bool} {x : α} {xs ys : List α} {P : α → Prop}
    (hb : b = true ↔ P x) (h : ∀ y, y ∈ ys ↔ y ∈ xs ∧ P y) (y : α) :
    y ∈ (if b then x :: ys else ys) ↔ y ∈ x :: xs ∧ P y := by
  rw [List.mem_cons, or_and_right]
  cases b with
  | false =>
    rw [if_neg Bool.false_ne_true, h]
    refine (or_iff_right ?_).symm
    rintro ⟨rfl, hy⟩
    cases hb.2 hy
  | true =>
    rw [if_pos rfl, List.mem_cons, h]
    refine or_congr_left (iff_self_and.2 ?_)
    rintro rfl
    exact hb.1 rfl

/-- A schedule tells whether its connector is due, and that is all. -/
theorem isDue_tells (t : Time.DateTime) (e : String × ScheduleRow) (d : Desk) :
    ∃ b d', (isDue t e.1 e.2).perform d = (.ok b, d') ∧ d.Calm d' ∧
      (b = true ↔ e.2.DueAt t) := by
  have hcalm := calm_isDue t e d
  cases hs : Schedule.parse e.2.text with
  | ok s =>
    exact ⟨_, d, perform_isDue hs t e.1 d, .refl d, (ScheduleRow.dueAt_iff hs t).symm⟩
  | error f =>
    unfold isDue at hcalm ⊢
    simp only [hs] at hcalm ⊢
    refine ⟨false, _, rfl, hcalm, nofun, ?_⟩
    rintro ⟨s, hs', -⟩
    rw [hs] at hs'
    cases hs'

/-- What is due among the watched is told. -/
theorem perform_dueAmong (t : Time.DateTime) (tracked : List (String × ScheduleRow)) (d : Desk) :
    ∃ due d', (dueAmong t tracked).perform d = (.ok due, d') ∧ d.Calm d' ∧
      ∀ c, c ∈ due ↔ ∃ e ∈ tracked, e.1 = c ∧ e.2.DueAt t := by
  have hfilter : ∃ es d', (tracked.filterM fun u => isDue t u.1 u.2).perform d = (.ok es, d') ∧
      d.Calm d' ∧ ∀ e, e ∈ es ↔ e ∈ tracked ∧ e.2.DueAt t := by
    induction tracked generalizing d with
    | nil => exact ⟨[], d, rfl, .refl d, by simp⟩
    | cons u us ih =>
      obtain ⟨b, d₁, hu, hcalm, hb⟩ := isDue_tells t u d
      obtain ⟨es, d₂, hus, hcalm', hes⟩ := ih d₁
      refine ⟨if b then u :: es else es, d₂, ?_, hcalm.trans hcalm', mem_filtered hb hes⟩
      rw [perform_filterM_cons, hu]
      dsimp only
      rw [hus]
  obtain ⟨es, d', hp, hcalm, hes⟩ := hfilter
  refine ⟨es.map (·.1), d', ?_, hcalm, fun c => ?_⟩
  · rw [dueAmong, perform_bind, hp]
    rfl
  · simp only [List.mem_map, hes]
    constructor <;> rintro ⟨e, h⟩
    · exact ⟨e, h.1.1, h.2, h.1.2⟩
    · exact ⟨e, ⟨h.1, h.2.2⟩, h.2.1⟩

/-- What it comes to to queue some connectors: those are queued whose locks are free, or those in
front of one that the queue does not take. The lock of that one is taken then. -/
inductive Queueing (t : Time.DateTime) (due : List String) (d : Desk) :
    Except Failure (List String) × Desk → Prop
  | all {names : List String} {s : Site} (h : d.site.Enqueues t names s)
      (hnames : ∀ c, c ∈ names ↔ c ∈ due ∧ d.site.isLocked c = false)
      (htaken : ∀ c ∈ names, d.site.refuses ⟨c⟩ = false) :
      Queueing t due d (.ok names, { d with site := s })
  | refused {names : List String} {c : String} {s : Site} (h : d.site.Enqueues t names s)
      (hc : c ∉ names) (hrefused : d.site.refuses ⟨c⟩ = true)
      (hnames : ∀ x ∈ c :: names, x ∈ due ∧ d.site.isLocked x = false)
      (htaken : ∀ x ∈ names, d.site.refuses ⟨x⟩ = false) :
      Queueing t due d (.error (.notQueued c), { d with site := s.withLock t c })

variable {t : Time.DateTime} {due : List String} {d : Desk} {x : String}
  {r : Except Failure (List String) × Desk}

/-- Of a connector whose lock is taken nothing comes. -/
theorem Queueing.skip (hl : d.site.isLocked x = true) (h : Queueing t due d r) :
    Queueing t (x :: due) d r := by
  have hmem (c : String) : c ∈ due ∧ d.site.isLocked c = false ↔
      c ∈ x :: due ∧ d.site.isLocked c = false := by
    refine and_congr_left fun hfree => (List.mem_cons.trans (or_iff_right ?_)).symm
    rintro rfl
    rw [hl] at hfree
    cases hfree
  cases h with
  | all h hnames htaken => exact .all h (fun c => (hnames c).trans (hmem c)) htaken
  | refused h hc hrefused hnames htaken =>
    exact .refused h hc hrefused (fun c hc => (hmem c).1 (hnames c hc)) htaken

/-- A connector that was queued stands in front of those that are queued after it. -/
theorem Queueing.take (hl : d.site.isLocked x = false) (hr : d.site.refuses ⟨x⟩ = false)
    (h : Queueing t due { d with site := d.site.withJob t x } r) :
    Queueing t (x :: due) d (r.1.map (x :: ·), r.2) := by
  -- The lock of `x` is taken from now on, so that `x` is not queued a second time.
  have hfree (c : String) : (d.site.withJob t x).isLocked c = false ↔
      c ≠ x ∧ d.site.isLocked c = false := by
    rw [← Bool.not_eq_true, Site.isLocked_withJob, not_or, Bool.not_eq_true]
  cases h with
  | all h hnames htaken =>
    refine .all (h.cons fun hx => ((hfree x).1 ((hnames x).1 hx).2).1 rfl) (fun c => ?_)
      (List.forall_mem_cons.2 ⟨hr, htaken⟩)
    rw [List.mem_cons, hnames, hfree, List.mem_cons]
    by_cases hc : c = x
    · simp [hc, hl]
    · simp [hc]
  | refused h hc hrefused hnames htaken =>
    have hrest (y : String) (hy : y ∈ _ :: _) : y ∈ due ∧ y ≠ x ∧ d.site.isLocked y = false :=
      (hnames y hy).imp_right (hfree y).1
    refine .refused (h.cons fun hx => (hrest x (List.mem_cons_of_mem _ hx)).2.1 rfl)
      (List.not_mem_cons_of_ne_of_not_mem (hrest _ List.mem_cons_self).2.1 hc) hrefused (fun y hy => ?_)
      (List.forall_mem_cons.2 ⟨hr, htaken⟩)
    rcases List.mem_cons.1 ((List.Perm.swap ..).mem_iff.1 hy) with rfl | hy
    · exact ⟨List.mem_cons_self, hl⟩
    · exact ⟨List.mem_cons_of_mem _ (hrest y hy).1, (hrest y hy).2.2⟩

theorem queueing_filterM (t : Time.DateTime) (due : List String) (d : Desk) :
    Queueing t due d ((due.filterM (enqueue t)).perform d) := by
  induction due generalizing d with
  | nil => exact .all (.nil t d.site) (by simp) nofun
  | cons x xs ih =>
    rw [perform_filterM_cons]
    rcases perform_enqueue t x d with ⟨hl, hp⟩ | ⟨hl, s, rfl, ⟨hr, hp⟩ | ⟨hr, hp⟩⟩
    · have h := (ih d).skip hl
      rw [hp]
      dsimp only
      generalize (xs.filterM (enqueue t)).perform d = r at h ⊢
      obtain ⟨_ | names, d'⟩ := r <;> exact h
    · rw [hp]
      exact .refused (.nil t d.site) List.not_mem_nil hr (by simp [Site.isLocked, hl]) nofun
    · replace hp : (enqueue t x).perform d = (.ok true, { d with site := d.site.withJob t x }) := hp
      have h := (ih { d with site := d.site.withJob t x }).take hl hr
      rw [hp]
      dsimp only
      generalize (xs.filterM (enqueue t)).perform { d with site := d.site.withJob t x } = r at h ⊢
      obtain ⟨_ | names, d'⟩ := r <;> exact h

end Scheduler

namespace Desk

/-- From one desk to the other a pass at this time queued these connectors: those that are due and
whose locks were free. What is stored is as before, and is watched. -/
structure Passed (t : Time.DateTime) (names : List String) (d d' : Desk) : Prop
    extends d.Steady d', d.site.Enqueues t names d'.site where
  due : ∀ c, c ∈ names ↔
    (∃ row, d.rows.schedules.get? c = some row ∧ row.DueAt t) ∧ d.site.isLocked c = false
  watched : ∀ e, e ∈ d'.node.tracked ↔ e ∈ d.rows.schedules.entries
  trackedNames : (d.node.tracked.map (·.1)).Nodup → d'.node.trackedNames = d.rows.schedules.names

variable {t : Time.DateTime} {names names' : List String} {d d' e e' : Desk}

theorem Calm.passed (h : d.Calm d') (k : d'.Passed t names e) : d.Passed t names e where
  toSteady := h.toSteady.trans k.toSteady
  nodup := k.nodup
  queue := by rw [k.queue, h.queue]
  locks key := by rw [k.locks, h.locks, h.settings]
  due c := by rw [k.due, h.rows, Site.isLocked_congr h.locks]
  watched u := by rw [k.watched, h.rows]
  trackedNames hn := by rw [k.trackedNames (h.tracked ▸ hn), h.rows]

/-- From one desk to the other a pass at this time found out which connectors are due. -/
structure Surveyed (t : Time.DateTime) (due : List String) (d d' : Desk) : Prop
    extends d.Steady d' where
  locks : d'.site.locks = d.site.locks
  queue : d'.site.queue = d.site.queue
  tracked : d'.node.tracked = Scheduler.refresh d.node.tracked d.rows.schedules.entries
  due : ∀ c, c ∈ due ↔ ∃ row, d.rows.schedules.get? c = some row ∧ row.DueAt t

/-- Jobs that are put on the queue after that are put there by the pass. -/
theorem Surveyed.enqueues {due : List String} {s : Site} (h : d.Surveyed t due d')
    (k : d'.site.Enqueues t names s) : d.site.Enqueues t names s where
  nodup := k.nodup
  queue := by rw [k.queue, h.queue]
  locks key := by rw [k.locks, h.locks, h.settings]

theorem Surveyed.passed {due : List String} {s : Site} (h : d.Surveyed t due d')
    (k : d'.site.Enqueues t names s) (hs : d.Steady { d' with site := s })
    (hnames : ∀ c, c ∈ names ↔ c ∈ due ∧ d'.site.isLocked c = false) :
    d.Passed t names { d' with site := s } where
  toSteady := hs
  toEnqueues := h.enqueues k
  due c := by rw [hnames, h.due, Site.isLocked_congr h.locks]
  watched u := by
    change u ∈ d'.node.tracked ↔ _
    rw [h.tracked, Scheduler.mem_refresh_iff]
  trackedNames hn := by
    refine Eq.trans ?_ (Scheduler.trackedNames_refresh hn d.rows.schedules)
    exact congrArg (fun l : List (String × ScheduleRow) => Node.trackedNames { d.node with tracked := l })
      h.tracked

/-- A pass comes to the same whatever was watched before. -/
theorem Passed.watching {tracked : List (String × ScheduleRow)} (h : d.Passed t names d')
    (k : (d.watching tracked).Passed t names' e') :
    names'.Perm names ∧ e'.rows = d'.rows ∧ e'.site.locks = d'.site.locks ∧
      ∀ u, u ∈ e'.node.tracked ↔ u ∈ d'.node.tracked := by
  have hnames (c : String) : c ∈ names' ↔ c ∈ names := (k.due c).trans (h.due c).symm
  refine ⟨(List.perm_ext_iff_of_nodup k.nodup h.nodup).2 hnames, k.rows.trans h.rows.symm,
    h.toEnqueues.locks_eq k.toEnqueues rfl rfl hnames, fun u => ?_⟩
  exact (k.watched u).trans (h.watched u).symm

end Desk

namespace Scheduler

/-- Before a pass queues connectors it watches what is stored and finds out who is due, unless the
store fails. -/
theorem pass_cases (t : Time.DateTime) (d : Desk) :
    (∃ due d', d.Surveyed t due d' ∧ (pass t).perform d = (due.filterM (enqueue t)).perform d') ∨
    ¬ d.Works ∧ ∃ n, (pass t).perform d = (.error (.store "list schedules"), d.counting n) := by
  simp only [pass, perform_bind, perform_node]
  obtain ⟨n, hsync | ⟨hbroken, hsync⟩⟩ := perform_sync d
  case inr => exact .inr ⟨hbroken, n, by rw [hsync]⟩
  generalize hd₁ : (d.counting n).watching (refresh d.node.tracked d.rows.schedules.entries) = d₁ at hsync
  have hsteady : d.Steady d₁ := hd₁ ▸ ⟨.of_eq rfl rfl (Nat.le_add_right _ n) rfl rfl rfl, rfl, rfl, rfl⟩
  have htracked : d₁.node.tracked = refresh d.node.tracked d.rows.schedules.entries := hd₁ ▸ rfl
  obtain ⟨due, d₂, hamong, hcalm, hdue⟩ := perform_dueAmong t d₁.node.tracked d₁
  refine .inl ⟨due, d₂, {
    toSteady := hsteady.trans hcalm.toSteady
    locks := hcalm.locks.trans (hd₁ ▸ rfl)
    queue := hcalm.queue.trans (hd₁ ▸ rfl)
    tracked := hcalm.tracked.trans htracked
    due := ?_ }, by simp only [hsync, hamong]⟩
  intro c
  rw [hdue, htracked]
  constructor
  · rintro ⟨u, hu, rfl, hat⟩
    exact ⟨u.2, Table.get?_of_mem ((mem_refresh_iff ..).1 hu), hat⟩
  · rintro ⟨row, hrow, hat⟩
    exact ⟨(c, row), (mem_refresh_iff ..).2 (Table.mem_of_get? hrow), rfl, hat⟩

theorem passed_pass (t : Time.DateTime) {d : Desk} (hworks : d.Works)
    (htakes : ∀ j, d.site.refuses j = false) :
    ∃ names d', (pass t).perform d = (.ok names, d') ∧ d.Passed t names d' := by
  have hsteady := steady_pass t d
  rcases pass_cases t d with ⟨due, d₁, hsurveyed, hp⟩ | ⟨hbroken, -⟩
  case inr => exact absurd hworks hbroken
  have hqueueing := queueing_filterM t due d₁
  rw [hp] at hsteady ⊢
  generalize (due.filterM (enqueue t)).perform d₁ = r at hqueueing hsteady
  cases hqueueing with
  | all h hnames htaken => exact ⟨_, _, rfl, hsurveyed.passed h hsteady hnames⟩
  | refused h hc hrefused =>
    rw [hsurveyed.refuses, htakes] at hrefused
    cases hrefused

/-- A pass queues exactly the connectors that are due and whose locks are free, whatever is stored,
locked, queued and watched. It comes to the same whatever was watched before. -/
theorem queues_exactly_due {d : Desk} (hworks : d.Works) (htakes : ∀ j, d.site.refuses j = false)
    (now : Option Time.DateTime) :
    ∃ names d', (enqueueDue now).perform d = (.ok names, d') ∧
      d.Passed (now.getD d.site.clock.now).inUtc names d' ∧
      ∀ tracked, ∃ names' e', (enqueueDue now).perform (d.watching tracked) = (.ok names', e') ∧
        names'.Perm names ∧ e'.rows = d'.rows ∧ e'.site.locks = d'.site.locks ∧
        ∀ u, u ∈ e'.node.tracked ↔ u ∈ d'.node.tracked := by
  have hpasses {e : Desk} (hworks : e.Works) (htakes : ∀ j, e.site.refuses j = false) :
      ∃ names d', (enqueueDue now).perform e = (.ok names, d') ∧
        e.Passed (now.getD e.site.clock.now).inUtc names d' := by
    obtain ⟨e₁, he, -, hp⟩ := perform_enqueueDue now e
    obtain ⟨names, d', hd, hpassed⟩ := passed_pass (now.getD e.site.clock.now).inUtc
      (he.works hworks) fun j => (congrFun he.refuses j).trans (htakes j)
    exact ⟨names, d', hp.trans hd, he.passed hpassed⟩
  obtain ⟨names, d', hp, hpassed⟩ := hpasses hworks htakes
  refine ⟨names, d', hp, hpassed, fun tracked => ?_⟩
  obtain ⟨names', e', hp', hpassed'⟩ := hpasses (e := d.watching tracked) hworks htakes
  exact ⟨names', e', hp', hpassed.watching hpassed'⟩

/-- One schedule cannot be read, one is never open, one connector is due later, one has its lock
taken, and two are due. What is watched is out of date. -/
def motley : Desk where
  node := { tracked := [("gone", { text := "gone:1:0:0-24" }), ("idle", { text := "idle" })] }
  site := {
    database := { rows := { schedules := .ofList [
      ("broken", { text := "broken:1" }),
      ("busy", { text := "busy:1:0:0-24" }),
      ("due", { text := "due:1:0:8-18", nextDue := some Clock.standard.now }),
      ("idle", { text := "idle:1:0:22-14" }),
      ("later", { text := "later:1:0:0-24", nextDue := Clock.standard.now.add? 1 }),
      ("shut", { text := "shut:1:0:12-12" })] } }
    locks := .ofList [(lockKey "busy", ⟨"0.0", none⟩)]
    queue := [⟨"other"⟩] }

theorem motley_queues_two :
    ∃ names d', (enqueueDue none).perform motley = (.ok names, d') ∧ names = ["idle", "due"] ∧
      d'.site.queue.map Job.id = ["traversal:other", "traversal:idle", "traversal:due"] ∧
      ∀ tracked, ∃ names' e', (enqueueDue none).perform (motley.watching tracked) = (.ok names', e') ∧
        names'.Perm names ∧ e'.site.locks = d'.site.locks := by
  have hanswer : ((enqueueDue none).perform motley).1 = .ok ["idle", "due"] := by decide +kernel
  obtain ⟨names, d', hp, hpassed, hsame⟩ :=
    queues_exactly_due (d := motley) (fun _ _ _ => rfl) (fun _ => rfl) none
  rw [hp] at hanswer
  obtain rfl : names = ["idle", "due"] := by cases hanswer; rfl
  refine ⟨_, d', hp, rfl, ?_, fun tracked => ?_⟩
  · rw [hpassed.queue]
    decide
  · obtain ⟨names', e', hp', hperm, -, hlocks, -⟩ := hsame tracked
    exact ⟨names', e', hp', hperm, hlocks⟩

end Scheduler

end ConnectorHub
