import ConnectorHub.Proofs.Tidiness
import ConnectorHub.Proofs.Transparency

/-! Connectors do not interfere. What a node is asked to do about one connector depends only on what
there is about it, and leaves alone what there is about the others, so that it does not matter in
which order two connectors are administered. -/
namespace ConnectorHub

open Store Act Scenario

section

variable {α : Type} {key : α → String} {l l' : List α}

/-- Two lists that differ only in one name have the same of another. -/
theorem filter_eq_of_filter_ne {name other : String} (ho : other ≠ name)
    (h : l'.filter (key · ≠ name) = l.filter (key · ≠ name)) :
    l'.filter (key · = other) = l.filter (key · = other) := by
  have hpart (l : List α) : l.filter (key · = other) =
      (l.filter (key · ≠ name)).filter (key · = other) := by
    rw [List.filter_filter]
    refine List.filter_congr fun x _ => ?_
    by_cases hx : key x = other
    · simp [hx, ho]
    · simp [hx]
  rw [hpart, hpart l, h]

/-- Two parts of a list that were chosen by names are the same if they are so for each name. -/
theorem filter_eq_filter_of_names {p q : String → Bool}
    (h : ∀ name, (l.filter (p <| key ·)).filter (key · = name) =
      (l.filter (q <| key ·)).filter (key · = name)) :
    l.filter (p <| key ·) = l.filter (q <| key ·) := by
  apply List.filter_congr
  intro x hx
  have hmem : x ∈ (l.filter (p <| key ·)).filter (key · = key x) ↔
      x ∈ (l.filter (q <| key ·)).filter (key · = key x) := by rw [h]
  rw [List.mem_filter, List.mem_filter, List.mem_filter, List.mem_filter] at hmem
  apply Bool.eq_iff_iff.2
  constructor
  · intro hp
    exact (hmem.1 ⟨⟨hx, hp⟩, decide_eq_true rfl⟩).1.2
  · intro hq
    exact (hmem.2 ⟨⟨hx, hq⟩, decide_eq_true rfl⟩).1.2

end

namespace Store

/-- Rows are determined by what they say about each connector, and by the runs. -/
theorem Rows.ext_about {rows rows' : Rows} (h : ∀ name, rows.about name = rows'.about name)
    (hruns : rows.runs = rows'.runs) : rows = rows' := by
  have hconnectors : rows.connectors = rows'.connectors :=
    Table.ext fun name => congrArg Record.connector (h name)
  have hschedules : rows.schedules = rows'.schedules :=
    Table.ext fun name => congrArg Record.schedule (h name)
  have hstates : rows.states = rows'.states := Table.ext fun name => congrArg Record.state (h name)
  cases rows
  cases rows'
  congr

/-- What is done to the rows is about one connector: it leaves alone the runs and what is stored about
the others, and depends only on what is stored about the one. -/
structure Concerns (name : String) (f : Rows → Except DatabaseError (α × Rows)) : Prop where
  runs : ∀ {rows x rows'}, f rows = .ok (x, rows') → rows'.runs = rows.runs
  others : ∀ {rows x rows'}, f rows = .ok (x, rows') →
    ∀ other, other ≠ name → rows'.about other = rows.about other
  own : ∀ {rows rows'}, rows'.about name = rows.about name →
    (f rows').map (fun p => (p.1, p.2.about name)) = (f rows).map fun p => (p.1, p.2.about name)

variable {name : String}

theorem concerns_read (x : Record → α) :
    Concerns name fun rows => .ok (x (rows.about name), rows) where
  runs := by
    rintro rows x rows' ⟨⟩
    rfl
  others := by
    rintro rows x rows' ⟨⟩ other -
    rfl
  own := by
    intro rows rows' h
    simp only [Except.map, h]

theorem concerns_change {f : Rows → Rows} (runs : ∀ rows, (f rows).runs = rows.runs)
    (others : ∀ rows other, other ≠ name → (f rows).about other = rows.about other)
    (own : ∀ {rows rows'}, rows'.about name = rows.about name →
      (f rows').about name = (f rows).about name) : Concerns name fun rows => .ok ((), f rows) where
  runs := by
    rintro rows x rows' ⟨⟩
    exact runs rows
  others := by
    rintro rows x rows' ⟨⟩
    exact others rows
  own := by
    intro rows rows' h
    simp only [Except.map, own h]

theorem concerns_configured (row : ConnectorRow) :
    Concerns name fun rows => .ok ((), rows.configured name row) :=
  concerns_change (fun _ => rfl) (fun rows _ ho => rows.about_configured_of_ne ho row) fun h => by
    rw [Rows.about_configured_self, Rows.about_configured_self, h]

theorem concerns_scheduled (text : String) :
    Concerns name fun rows => .ok ((), rows.scheduled name text) :=
  concerns_change (fun _ => rfl) (fun rows _ ho => rows.about_scheduled_of_ne ho text) fun h => by
    rw [Rows.about_scheduled_self, Rows.about_scheduled_self, h]

theorem concerns_marked (lastRun nextDue : Option Time.DateTime) :
    Concerns name fun rows => .ok ((), rows.marked name lastRun nextDue) :=
  concerns_change (fun rows => rows.runs_marked name lastRun nextDue)
    (fun rows _ ho => rows.about_marked_of_ne ho lastRun nextDue) fun h => by
      rw [Rows.about_marked_self, Rows.about_marked_self, h]

theorem concerns_without : Concerns name fun rows => .ok ((), rows.without name) :=
  concerns_change (fun _ => rfl) (fun rows _ ho => rows.about_without_of_ne ho) fun _ => by
    rw [Rows.about_without_self, Rows.about_without_self]

/-- A reset is possible or not by the generation of the one connector. -/
theorem concerns_reset : Concerns name fun rows =>
    if generationOf (rows.states.get? name) + 1 < 9223372036854775808 then
      .ok ((), rows.reset name)
    else .error .integerTooLarge := by
  have hreset : Concerns name fun rows => .ok ((), rows.reset name) :=
    concerns_change (fun _ => rfl) (fun rows _ ho => rows.about_reset_of_ne ho) fun h => by
      rw [Rows.about_reset_self, Rows.about_reset_self, h]
  refine ⟨?_, ?_, ?_⟩
  · intro rows x rows' h
    split at h
    · exact hreset.runs h
    · cases h
  · intro rows x rows' h
    split at h
    · exact hreset.others h
    · cases h
  · intro rows rows' h
    have hstate : rows'.states.get? name = rows.states.get? name := congrArg Record.state h
    rw [hstate]
    split
    · exact hreset.own h
    · rfl

end Store

namespace Desk

/-- The same statements fail at both desks, and the types of connectors are the same. -/
structure SameGround (d e : Desk) : Prop where
  faults : e.site.database.faults = d.site.database.faults
  catalogs : e.site.catalogs = d.site.catalogs
  catalog : e.node.catalog = d.node.catalog

/-- There is the same about a connector at two desks where no statement fails: what is stored and at
hand, what is watched, and its jobs and its lock. -/
structure Alike (name : String) (d e : Desk) : Prop extends SameGround d e where
  works : d.Works ∧ e.Works
  about : e.rows.about name = d.rows.about name
  live : e.node.live.get? name = d.node.live.get? name
  tracked : e.node.tracked.filter (·.1 = name) = d.node.tracked.filter (·.1 = name)
  queue : e.site.queue.filter (·.connector = name) = d.site.queue.filter (·.connector = name)
  lock : e.site.locks.get? (lockKey name) = d.site.locks.get? (lockKey name)

/-- From one desk to the other nothing changed but what there is about one connector. -/
structure Elsewhere (name : String) (d d' : Desk) : Prop extends SameGround d d' where
  issued : d.site.database.issued ≤ d'.site.database.issued
  runs : d'.rows.runs = d.rows.runs
  about : ∀ other, other ≠ name → d'.rows.about other = d.rows.about other
  live : ∀ other, other ≠ name → d'.node.live.get? other = d.node.live.get? other
  tracked : d'.node.tracked.filter (·.1 ≠ name) = d.node.tracked.filter (·.1 ≠ name)
  queue : d'.site.queue.filter (·.connector ≠ name) = d.site.queue.filter (·.connector ≠ name)
  locks : ∀ key, key ≠ lockKey name → d'.site.locks.get? key = d.site.locks.get? key

/-- From one desk to the other some connectors are no longer watched, and some jobs were dropped. -/
structure Thinned (d d' : Desk) : Prop where
  tracked : ∃ p : String → Bool, d'.node.tracked = d.node.tracked.filter (p ·.1)
  queue : ∃ p : String → Bool, d'.site.queue = d.site.queue.filter (p ·.connector)

variable {name other : String} {d d' e : Desk}

theorem Elsewhere.works (h : d.Elsewhere name d') (hw : d.Works) : d'.Works :=
  Database.Works.of_le hw h.faults h.issued

instance (name : String) : IsPreorder Desk (Elsewhere name) where
  refl _ := ⟨⟨rfl, rfl, rfl⟩, Nat.le_refl _, rfl, fun _ _ => rfl, fun _ _ => rfl, rfl, rfl,
    fun _ _ => rfl⟩
  trans _ _ _ h k :=
    ⟨⟨k.faults.trans h.faults, k.catalogs.trans h.catalogs, k.catalog.trans h.catalog⟩,
      Nat.le_trans h.issued k.issued, k.runs.trans h.runs, fun n hn => (k.about n hn).trans (h.about n hn),
      fun n hn => (k.live n hn).trans (h.live n hn), k.tracked.trans h.tracked,
      k.queue.trans h.queue, fun key hk => (k.locks key hk).trans (h.locks key hk)⟩

instance : IsPreorder Desk Thinned where
  refl _ := ⟨⟨fun _ => true, by simp⟩, ⟨fun _ => true, by simp⟩⟩
  trans := by
    rintro d e f ⟨⟨p, hp⟩, ⟨q, hq⟩⟩ ⟨⟨p', hp'⟩, ⟨q', hq'⟩⟩
    refine ⟨⟨fun n => p' n && p n, ?_⟩, ⟨fun n => q' n && q n, ?_⟩⟩
    · rw [hp', hp, List.filter_filter]
    · rw [hq', hq, List.filter_filter]

/-- What changed about one connector does not matter to another. -/
theorem Elsewhere.alike (h : d.Elsewhere name d') (hw : d.Works) (ho : other ≠ name) :
    d.Alike other d' where
  toSameGround := h.toSameGround
  works := ⟨hw, h.works hw⟩
  about := h.about other ho
  live := h.live other ho
  tracked := filter_eq_of_filter_ne ho h.tracked
  queue := filter_eq_of_filter_ne ho h.queue
  lock := h.locks _ (mt lockKey_inj.1 ho)

theorem Alike.find? (h : d.Alike name e) (typeName : String) :
    (e.site.catalog e.node.catalog).find? typeName =
      (d.site.catalog d.node.catalog).find? typeName := by
  unfold Site.catalog
  rw [h.catalogs, h.catalog]

theorem Idle.thinned (h : d.Idle d') : d.Thinned d' :=
  ⟨⟨fun _ => true, by simp [h.tracked]⟩, ⟨fun _ => true, by simp [h.queue]⟩⟩

theorem thinned_untracking (d : Desk) (name : String) : d.Thinned (d.untracking name) := by
  unfold untracking
  split
  · refine ⟨⟨fun n => n ≠ name, rfl⟩, ⟨fun n => n ≠ name, ?_⟩⟩
    split <;> exact Site.queue_dropJobs ..
  · exact refl d

theorem elsewhere_untracking (d : Desk) (name : String) : d.Elsewhere name (d.untracking name) := by
  unfold untracking
  split
  · have hqueue : (d.site.dropJobs (jobId name)).queue.filter (·.connector ≠ name) =
        d.site.queue.filter (·.connector ≠ name) := by
      rw [Site.queue_dropJobs, List.filter_filter]
      simp
    refine ⟨?_, ?_, ?_, ?_, fun _ _ => rfl, ?_, ?_, ?_⟩
    · split <;> exact ⟨rfl, rfl, rfl⟩
    · split <;> exact Nat.le_refl _
    · split <;> rfl
    · intro other _
      split <;> rfl
    · simp
    · split <;> exact hqueue
    · intro key hkey
      split
      · exact Table.get?_erase_of_ne _ hkey
      · rfl
  · exact refl d

theorem Alike.untracking (h : d.Alike name e) :
    (d.untracking name).Alike name (e.untracking name) := by
  have hwatched (d : Desk) : d.node.tracked.any (·.1 = name) =
      (d.node.tracked.filter (·.1 = name)).any fun _ => true := by
    rw [List.any_filter]
    simp
  have hqueued (d : Desk) : d.site.isQueued (jobId name) =
      (d.site.queue.filter (·.connector = name)).any fun _ => true := by
    unfold Site.isQueued Job.id
    rw [List.any_filter]
    simp [jobId_inj]
  have htracked (d : Desk) : (d.node.tracked.filter (·.1 ≠ name)).filter (·.1 = name) = [] := by
    simp
  have hdropped (d : Desk) :
      (d.site.dropJobs (jobId name)).queue.filter (·.connector = name) = [] := by
    rw [Site.queue_dropJobs, List.filter_filter]
    simp
  unfold Desk.untracking
  rw [hwatched d, hwatched e, hqueued d, hqueued e, h.tracked, h.queue]
  split
  · have ht := (htracked e).trans (htracked d).symm
    have hq := (hdropped e).trans (hdropped d).symm
    split
    · refine ⟨⟨h.faults, h.catalogs, h.catalog⟩, h.works, h.about, h.live, ht, hq, ?_⟩
      exact (Table.get?_erase_self ..).trans (Table.get?_erase_self ..).symm
    · exact ⟨⟨h.faults, h.catalogs, h.catalog⟩, h.works, h.about, h.live, ht, hq, h.lock⟩
  · exact h

end Desk

namespace Act

/-- The action is about one connector: it changes nothing but what there is about it, and depends on
nothing else. -/
structure On (name : String) (a : Act α) : Prop where
  elsewhere : Moves (Desk.Elsewhere name) a
  within : Respects (Desk.Alike name) a

variable {name : String}

theorem On.pure (x : α) : On name (pure x : Act α) := ⟨.pure x, .pure x⟩

theorem On.throw (f : Failure) : On name (throw f : Act α) := ⟨.throw f, .throw f⟩

theorem On.give (x : Except Failure α) : On name (give x) := ⟨.give x, .give x⟩

theorem On.bind {a : Act α} {f : α → Act β} (ha : On name a) (hf : ∀ x, On name (f x)) :
    On name (a >>= f) :=
  ⟨ha.elsewhere.bind fun x => (hf x).elsewhere, ha.within.bind fun x => (hf x).within⟩

theorem On.tryCatch {a : Act α} {f : Failure → Act α} (ha : On name a)
    (hf : ∀ e, On name (f e)) : On name (tryCatch a f) :=
  ⟨ha.elsewhere.tryCatch fun e => (hf e).elsewhere, ha.within.tryCatch fun e => (hf e).within⟩

theorem On.map {a : Act α} (f : α → β) (ha : On name a) : On name (do return f (← a)) :=
  ha.bind fun _ => .pure _

/-- A store call that is about one connector. -/
theorem on_store {t : Transaction α} {f : Rows → Except DatabaseError (α × Rows)}
    (h : Transaction.Means t f) (hf : Concerns name f) (action : String) :
    On name (store action t) where
  elsewhere := by
    intro d
    rcases perform_transact_cases h (storeFailure action) d with ⟨x, rows, n, hr, hp⟩ | ⟨e, n, -, hp⟩
    · have hp : (store action t).perform d = _ := hp
      rw [hp]
      exact ⟨⟨rfl, rfl, rfl⟩, Nat.le_add_right _ n, hf.runs hr, hf.others hr, fun _ _ => rfl, rfl,
        rfl, fun _ _ => rfl⟩
    · have hp : (store action t).perform d = _ := hp
      rw [hp]
      exact ⟨⟨rfl, rfl, rfl⟩, Nat.le_add_right _ n, rfl, fun _ _ => rfl, fun _ _ => rfl, rfl, rfl,
        fun _ _ => rfl⟩
  within := by
    intro d e halike
    obtain ⟨n, hd⟩ := perform_store_of_works h action halike.works.1
    obtain ⟨m, he⟩ := perform_store_of_works h action halike.works.2
    have hworks (rows rows' : Rows) :
        ((d.withRows rows).counting n).Works ∧ ((e.withRows rows').counting m).Works :=
      ⟨halike.works.1.counting rows n, halike.works.2.counting rows' m⟩
    have hown := hf.own halike.about
    rw [hd, he]
    cases hr : f d.rows with
    | error x =>
      cases hs : f e.rows with
      | error y =>
        rw [hr, hs] at hown
        obtain rfl : y = x := Except.error.inj hown
        exact ⟨rfl, ⟨halike.faults, halike.catalogs, halike.catalog⟩, hworks d.rows e.rows,
          halike.about, halike.live, halike.tracked, halike.queue, halike.lock⟩
      | ok q =>
        rw [hr, hs] at hown
        cases hown
    | ok p =>
      cases hs : f e.rows with
      | error y =>
        rw [hr, hs] at hown
        cases hown
      | ok q =>
        rw [hr, hs] at hown
        obtain ⟨hx, habout⟩ := Prod.mk.inj (Except.ok.inj hown)
        exact ⟨congrArg Except.ok hx, ⟨halike.faults, halike.catalogs, halike.catalog⟩,
          hworks p.2 q.2, habout, halike.live, halike.tracked, halike.queue, halike.lock⟩

theorem on_record (c : Call) : On name (changeSite (·.record c)) where
  elsewhere _ :=
    ⟨⟨rfl, rfl, rfl⟩, Nat.le_refl _, rfl, fun _ _ => rfl, fun _ _ => rfl, rfl, rfl, fun _ _ => rfl⟩
  within _ _ h :=
    ⟨rfl, ⟨h.faults, h.catalogs, h.catalog⟩, h.works, h.about, h.live, h.tracked, h.queue, h.lock⟩

/-- What is at hand of a connector changes. -/
theorem on_changeLive {f : Table Instance → Table Instance} {i : Option Instance}
    (others : ∀ live other, other ≠ name → (f live).get? other = live.get? other)
    (own : ∀ live, (f live).get? name = i) :
    On name (changeNode fun n => { n with live := f n.live }) where
  elsewhere d := ⟨⟨rfl, rfl, rfl⟩, Nat.le_refl _, rfl, fun _ _ => rfl, others d.node.live, rfl, rfl,
    fun _ _ => rfl⟩
  within d e h := ⟨rfl, ⟨h.faults, h.catalogs, h.catalog⟩, h.works, h.about,
    (own e.node.live).trans (own d.node.live).symm, h.tracked, h.queue, h.lock⟩

theorem on_findType? (typeName : String) : On name (findType? typeName) where
  elsewhere d := refl d
  within _ _ h := ⟨congrArg Except.ok (h.find? typeName), h⟩

end Act

namespace Instances

variable (name : String)

theorem on_readRow : On name (readRow name) :=
  (on_store (Connectors.means_find? name) (concerns_read Record.connector) _).tryCatch
    fun _ => .throw _

theorem on_row? : On name (row? name) where
  elsewhere := Moves.bind moves_node fun n => by
    cases n.live.get? name with
    | some i => exact .pure _
    | none => exact (on_readRow name).elsewhere
  within := by
    intro d e h
    simp only [row?, perform_bind, perform_node, h.live]
    cases d.node.live.get? name with
    | some i => exact ⟨rfl, h⟩
    | none => exact (on_readRow name).within d e h

theorem on_row : On name (row name) :=
  (on_row? name).bind fun r => by
    cases r with
    | some r => exact .pure r
    | none => exact .throw _

theorem on_install (t : ConnectorType) (typeName : String) (config : Config) :
    On name (install name t typeName config) := by
  have hbuild : On name (build name t config) := by
    unfold build
    cases t.make config with
    | error f => exact .throw _
    | ok c => exact (on_record _).bind fun _ => .pure _
  refine hbuild.bind fun i =>
    (on_store (Connectors.means_put name _) (concerns_configured _) _).bind fun _ => ?_
  exact on_changeLive (fun live _ ho => Table.get?_insert_of_ne live i ho)
    fun live => Table.get?_insert_self live name i

theorem on_configure (typeName : String) (config : Config) (locale : Locale) (update : Bool) :
    On name (configure name typeName config locale update) := by
  refine (on_row? name).bind fun r => (On.give _).bind fun _ =>
    (on_findType? typeName).bind fun t => ?_
  cases t with
  | none => exact .throw _
  | some t =>
    have hinstall := (on_install name t typeName config).map fun _ => (none : Option Form)
    refine (On.give _).bind fun form => ?_
    cases form with
    | none => exact hinstall
    | some form =>
      dsimp only
      split
      · exact .pure _
      · exact hinstall

theorem on_setSchedule (text : String) : On name (setSchedule name text) :=
  (on_row name).bind fun _ => on_store (Schedules.means_put name text) (concerns_scheduled text) _

theorem on_remove : On name (remove name) :=
  (on_changeLive (fun live _ ho => Table.get?_erase_of_ne live ho)
    fun live => Table.get?_erase_self live name).bind fun _ =>
      (on_store (Connectors.means_remove name) concerns_without _).tryCatch fun _ => .throw _

theorem on_restart : On name (restart name) :=
  (on_row name).bind fun _ =>
    ((on_store (States.means_reset name) concerns_reset _).bind fun _ =>
      on_store (Schedules.means_markRun name none none) (concerns_marked none none) _).tryCatch
        fun _ => .throw _

end Instances

theorem Scheduler.on_untrack (name : String) : On name (untrack name) where
  elsewhere d := by
    rw [perform_untrack]
    exact d.elsewhere_untracking name
  within d e h := by
    rw [perform_untrack, perform_untrack]
    exact ⟨rfl, h.untracking⟩

theorem Scheduler.thinned_untrack (name : String) : Moves Desk.Thinned (untrack name) := fun d => by
  rw [perform_untrack]
  exact d.thinned_untracking name

namespace Scenario.Operation

/-- The connector that the operation administers. -/
def administers? : Operation → Option String
  | configure name .. | setSchedule name .. | remove name | restart name => some name
  | _ => none

theorem on_of_administers {op : Operation} {name : String} (h : op.administers? = some name) :
    On name op.perform := by
  cases op with
  | configure name typeName settings language update =>
    cases h
    exact (Instances.on_configure name typeName settings _ update).map _
  | setSchedule name load retryDelay intervals =>
    cases h
    exact On.map _ ((On.give _).bind fun _ => (On.give _).bind fun text =>
      (Instances.on_setSchedule name text).bind fun _ => .pure _)
  | remove name =>
    cases h
    exact ((Instances.on_remove name).bind fun _ => Scheduler.on_untrack name).map _
  | restart name =>
    cases h
    exact ((Scheduler.on_untrack name).bind fun _ => Instances.on_restart name).map _
  | _ => cases h

theorem thinned_of_administers {op : Operation} {name : String} (h : op.administers? = some name) :
    Moves Desk.Thinned op.perform := by
  have hidle {α : Type} {a : Act α} (ha : Moves Desk.Idle a) : Moves Desk.Thinned a :=
    fun d => (ha d).thinned
  cases op with
  | configure name typeName settings language update =>
    exact (hidle (Instances.idle_configure name typeName settings _ update)).map _
  | setSchedule name load retryDelay intervals =>
    exact Moves.map _ (Moves.bind (.give _) fun _ => Moves.bind (.give _) fun text =>
      (hidle (Instances.idle_setSchedule name text)).bind fun _ => .pure _)
  | remove name =>
    exact ((hidle (Instances.idle_remove name)).bind fun _ => Scheduler.thinned_untrack name).map _
  | restart name =>
    exact ((Scheduler.thinned_untrack name).bind fun _ => hidle (Instances.idle_restart name)).map _
  | _ => cases h

end Scenario.Operation

namespace Desk

/-- The rows are the same at both desks, and so are the locks and jobs, and what is at hand and
watched. -/
structure Same (d e : Desk) : Prop where
  rows : e.rows = d.rows
  live : e.node.live = d.node.live
  tracked : e.node.tracked = d.node.tracked
  locks : e.site.locks = d.site.locks
  queue : e.site.queue = d.site.queue

variable {name : String} {d e f : Desk}

theorem Alike.symm (h : d.Alike name e) : e.Alike name d :=
  ⟨⟨h.faults.symm, h.catalogs.symm, h.catalog.symm⟩, h.works.symm, h.about.symm, h.live.symm,
    h.tracked.symm, h.queue.symm, h.lock.symm⟩

theorem Alike.trans (h : d.Alike name e) (k : e.Alike name f) : d.Alike name f :=
  ⟨⟨k.faults.trans h.faults, k.catalogs.trans h.catalogs, k.catalog.trans h.catalog⟩,
    ⟨h.works.1, k.works.2⟩, k.about.trans h.about, k.live.trans h.live, k.tracked.trans h.tracked,
    k.queue.trans h.queue, k.lock.trans h.lock⟩

/-- Where the same is found about each connector, the lists are the same too if both were thinned out of
the same ones. -/
theorem same_of_alike (h : ∀ name, e.Alike name f) (he : d.Thinned e) (hf : d.Thinned f)
    (hruns : f.rows.runs = e.rows.runs)
    (hlocks : ∀ key, f.site.locks.get? key = e.site.locks.get? key) : e.Same f where
  rows := Rows.ext_about (fun name => (h name).about) hruns
  live := Table.ext fun name => (h name).live
  tracked := by
    obtain ⟨p, hp⟩ := he.tracked
    obtain ⟨q, hq⟩ := hf.tracked
    rw [hp, hq]
    apply filter_eq_filter_of_names
    intro name
    have hname := (h name).tracked
    rwa [hp, hq] at hname
  locks := Table.ext hlocks
  queue := by
    obtain ⟨p, hp⟩ := he.queue
    obtain ⟨q, hq⟩ := hf.queue
    rw [hp, hq]
    apply filter_eq_filter_of_names
    intro name
    have hname := (h name).queue
    rwa [hp, hq] at hname

end Desk

/-- Two actions about different connectors answer the same in either order, and leave the same. -/
theorem Act.On.comm {a b : String} {f : Act α} {g : Act β} (hf : On a f) (hg : On b g)
    (tf : Moves Desk.Thinned f) (tg : Moves Desk.Thinned g) (hab : a ≠ b) {d : Desk}
    (hw : d.Works) :
    (f.perform (g.perform d).2).1 = (f.perform d).1 ∧
      (g.perform (f.perform d).2).1 = (g.perform d).1 ∧
      (g.perform (f.perform d).2).2.Same (f.perform (g.perform d).2).2 := by
  have hdf := hf.elsewhere d
  have hdg := hg.elsewhere d
  have hfg := hg.elsewhere (f.perform d).2
  have hgf := hf.elsewhere (g.perform d).2
  have hwf : (f.perform d).2.Works := hdf.works hw
  have hwg : (g.perform d).2.Works := hdg.works hw
  obtain ⟨hanswer, ha⟩ := hf.within _ _ (hdg.alike hw hab)
  obtain ⟨hanswer', hb⟩ := hg.within _ _ (hdf.alike hw hab.symm)
  have halike (name : String) :
      (g.perform (f.perform d).2).2.Alike name (f.perform (g.perform d).2).2 := by
    by_cases hna : name = a
    · subst hna
      exact (hfg.alike hwf hab).symm.trans ha
    · by_cases hnb : name = b
      · subst hnb
        exact hb.symm.trans (hgf.alike hwg hab.symm)
      · exact ((hdf.alike hw hna).trans (hfg.alike hwf hnb)).symm.trans
          ((hdg.alike hw hnb).trans (hgf.alike hwg hna))
  have hthin : d.Thinned (g.perform (f.perform d).2).2 := trans_of Desk.Thinned (tf d) (tg _)
  have hthin' : d.Thinned (f.perform (g.perform d).2).2 := trans_of Desk.Thinned (tg d) (tf _)
  refine ⟨hanswer, hanswer', Desk.same_of_alike halike hthin hthin' ?_ fun key => ?_⟩
  · rw [hgf.runs, hdg.runs, hfg.runs, hdf.runs]
  · by_cases hka : key = lockKey a
    · subst hka
      exact (halike a).lock
    · by_cases hkb : key = lockKey b
      · subst hkb
        exact (halike b).lock
      · rw [hgf.locks key hka, hdg.locks key hkb, hfg.locks key hkb, hdf.locks key hka]

namespace Hub

/-- Where no statement fails, two operations that administer different connectors at a node answer the
same in either order, and the rows, the locks, the jobs, and what each node has at hand and watches are
the same afterwards. Neither changes anything but what there is about its own connector. -/
theorem connectors_do_not_interfere {h : Hub} (hw : h.Works) (place : Nat) {a b : String}
    (hab : a ≠ b) {op op' : Operation} (ha : op.administers? = some a)
    (hb : op'.administers? = some b) :
    let first := (h.move (.ask place op)).1
    let first' := (h.move (.ask place op')).1
    let both := (first.move (.ask place op')).1
    let both' := (first'.move (.ask place op)).1
    first'.answer place op = h.answer place op ∧ first.answer place op' = h.answer place op' ∧
      both'.rows = both.rows ∧ both'.site.locks = both.site.locks ∧
      both'.site.queue = both.site.queue ∧
      (∀ p, (both'.node p).live = (both.node p).live ∧
        (both'.node p).tracked = (both.node p).tracked) ∧
      (h.desk place).Elsewhere a (first.desk place) ∧
      (h.desk place).Elsewhere b (first'.desk place) := by
  have hmove (h : Hub) (op : Operation) : (h.move (.ask place op)).1 =
      h.leave place (op.perform.perform (h.desk place)).2 := rfl
  have hon := Operation.on_of_administers ha
  have hon' := Operation.on_of_administers hb
  obtain ⟨hanswer, hanswer', hsame⟩ := hon.comm hon' (Operation.thinned_of_administers ha)
    (Operation.thinned_of_administers hb) hab (d := h.desk place) hw
  simp only [answer, hmove, desk_leave_self, rows_leave, site_leave]
  refine ⟨hanswer, hanswer', hsame.rows, hsame.locks, hsame.queue, fun p => ?_, hon.elsewhere _,
    hon'.elsewhere _⟩
  by_cases hp : p = place
  · subst hp
    simpa [leave] using ⟨hsame.live, hsame.tracked⟩
  · simp [leave, hp]

/-- Two connectors are scheduled and queued, the name of one within the other's. -/
@[irreducible]
def bothQueued : Hub :=
  (untouched.play (setUp 0 "a" ++ setUp 0 "a b" ++ [.ask 0 (.enqueue none)])).1

/-- One of them is removed, and the other restarted. -/
theorem removal_and_restart_do_not_interfere :
    bothQueued.Works ∧ "a" ≠ "a b" ∧ bothQueued.site.queue = [⟨"a"⟩, ⟨"a b"⟩] ∧
      ((bothQueued.move (.ask 0 (.remove "a"))).1.answer 0 (.restart "a b")).isOk = true ∧
      ((bothQueued.move (.ask 0 (.restart "a b"))).1.move (.ask 0 (.remove "a"))).1.rows =
        ((bothQueued.move (.ask 0 (.remove "a"))).1.move (.ask 0 (.restart "a b"))).1.rows ∧
      (bothQueued.move (.ask 0 (.remove "a"))).1.site.queue = [⟨"a b"⟩] ∧
      (bothQueued.move (.ask 0 (.remove "a"))).1.site.isLocked "a b" = true := by
  have hblank : untouched.IsBlank 0 := ⟨⟨fun _ _ _ => rfl, rfl, rfl, rfl⟩, rfl, rfl, rfl⟩
  have hallows : untouched.Allows (fun _ m => m.isAt 0 = true)
      (setUp 0 "a" ++ setUp 0 "a b" ++ [.ask 0 (.enqueue none)]) := by decide +kernel
  have hworks : bothQueued.Works := by
    unfold bothQueued
    exact ((untouched.run_play _ hallows).tidy hblank).works
  have hne : "a" ≠ "a b" := by decide
  have hrestarts : (bothQueued.answer 0 (.restart "a b")).isOk = true := by decide +kernel
  have hlocked : bothQueued.site.isLocked "a b" = true := by decide +kernel
  have hremove : (Operation.remove "a").administers? = some "a" := rfl
  have hrestart : (Operation.restart "a b").administers? = some "a b" := rfl
  obtain ⟨-, hanswer, hrows, -, -, -, helsewhere, -⟩ :=
    connectors_do_not_interfere hworks 0 hne hremove hrestart
  refine ⟨hworks, hne, by decide +kernel, ?_, hrows, by decide +kernel, ?_⟩
  · rw [hanswer]
    exact hrestarts
  · rw [← hlocked]
    exact congrArg Option.isSome (helsewhere.locks _ (mt lockKey_inj.1 hne.symm))

end Hub

end ConnectorHub
