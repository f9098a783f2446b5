import ConnectorHub.Proofs.OneJob

/-! What a pass of the scheduler does: it watches what is stored, judges each schedule by itself, and
puts on the queue what it finds due. -/
namespace ConnectorHub

open Store Act

/-- These schedules are watched. -/
def Desk.watching (d : Desk) (tracked : List (String × ScheduleRow)) : Desk :=
  { d with node := { d.node with tracked } }

namespace Scheduler

/-- What is watched is found among what is stored, by its name. -/
theorem find?_stored {stored : Table ScheduleRow} {name : String} {e : String × ScheduleRow}
    (h : stored.entries.find? (·.1 = name) = some e) :
    e.1 = name ∧ stored.get? name = some e.2 := by
  have hname : e.1 = name := by simpa using List.find?_some h
  exact ⟨hname, hname ▸ Table.get?_of_mem (List.mem_of_find?_eq_some h)⟩

/-- After the stored schedules were read, exactly those are watched. -/
theorem mem_refresh_iff (tracked : List (String × ScheduleRow)) (stored : Table ScheduleRow)
    (e : String × ScheduleRow) :
    e ∈ refresh tracked stored.entries ↔ e ∈ stored.entries := by
  constructor
  · intro h
    rcases List.mem_append.1 h with h | h
    · obtain ⟨_, -, hfind⟩ := List.mem_filterMap.1 h
      exact List.mem_of_find?_eq_some hfind
    · exact (List.mem_filter.1 h).1
  intro h
  by_cases hwatched : ∃ u ∈ tracked, u.1 = e.1
  · obtain ⟨u, hu, hname⟩ := hwatched
    refine List.mem_append_left _ (List.mem_filterMap.2 ⟨u, hu, ?_⟩)
    rw [hname]
    cases hf : stored.entries.find? (·.1 = e.1) with
    | none => exact absurd (List.find?_eq_none.1 hf e h) (by simp)
    | some f =>
      obtain ⟨hf₁, hf₂⟩ := find?_stored hf
      rw [Table.get?_of_mem h] at hf₂
      exact congrArg some (Prod.ext hf₁ (Option.some.inj hf₂).symm)
  · refine List.mem_append_right _ (List.mem_filter.2 ⟨h, List.all_eq_true.2 fun u hu => ?_⟩)
    simpa using fun hname => hwatched ⟨u, hu, hname⟩

/-- The stored schedules are watched, unless the store fails. -/
theorem perform_sync (d : Desk) :
    ∃ n, sync.perform d =
        (.ok (), (d.counting n).watching (refresh d.node.tracked d.rows.schedules.entries)) ∨
      ¬ d.Works ∧ sync.perform d = (.error (.store "list schedules"), d.counting n) := by
  unfold sync
  rw [perform_bind]
  rcases perform_store_cases Schedules.means_all "list schedules" d with ⟨n, hp⟩ | ⟨hw, n, hp⟩
  · exact ⟨n, .inl (by rw [hp]; rfl)⟩
  · exact ⟨n, .inr ⟨hw, by rw [hp]⟩⟩

/-- A schedule that can be read tells whether it is due, and that is all. -/
theorem perform_isDue {s : Schedule} {row : ScheduleRow} (h : Schedule.parse row.text = .ok s)
    (now : Time.DateTime) (name : String) (d : Desk) :
    (isDue now name row).perform d = (.ok (s.isDue row.nextDue now), d) := by
  unfold isDue
  rw [h]
  rfl

/-- What is due is watched, and its schedule says that it is due. -/
theorem mem_dueAmong {now : Time.DateTime} {tracked : List (String × ScheduleRow)}
    {due : List String} {d d' : Desk} (h : (dueAmong now tracked).perform d = (.ok due, d')) :
    ∀ name ∈ due, ∃ t ∈ tracked, t.1 = name ∧
      ∃ e, ((isDue now t.1 t.2).perform e).1 = .ok true := by
  intro name hn
  rw [dueAmong, perform_bind] at h
  cases hp : (tracked.filterM fun t => isDue now t.1 t.2).perform d with
  | mk ts e =>
    rw [hp] at h
    cases ts with
    | error f => cases h
    | ok ts =>
      cases h
      obtain ⟨t, ht, rfl⟩ := List.mem_map.1 hn
      obtain ⟨hmem, hdue⟩ := mem_of_filterM hp t ht
      exact ⟨t, hmem, rfl, hdue⟩

end Scheduler

namespace Desk

/-- From one desk to the other no job or lock of a connector came or went. -/
structure Bypasses (name : String) (d d' : Desk) : Prop where
  waiting : d'.site.waiting name = d.site.waiting name
  isLocked : d'.site.isLocked name = d.site.isLocked name

instance (name : String) : IsPreorder Desk (Bypasses name) where
  refl _ := ⟨rfl, rfl⟩
  trans _ _ _ h k := ⟨k.waiting.trans h.waiting, k.isLocked.trans h.isLocked⟩

theorem Idle.bypasses {d d' : Desk} (h : d.Idle d') (name : String) : d.Bypasses name d' :=
  ⟨congrArg (·.countP (·.connector = name)) h.queue, congrArg (·.contains (lockKey name)) h.locks⟩

end Desk

namespace Scheduler

/-- To put one connector on the queue does not matter to the others. -/
theorem bypasses_enqueue {name other : String} (h : other ≠ name) (now : Time.DateTime) :
    Moves (Desk.Bypasses name) (enqueue now other) := by
  intro d
  rcases perform_enqueue now other d with ⟨-, hp⟩ | ⟨-, s, rfl, hp⟩
  · rw [hp]
    exact refl d
  · have hlocked (lock : Lock) :
        Site.isLocked { d.site with locks := d.site.locks.insert (lockKey other) lock } name =
          d.site.isLocked name := by
      simp [Site.isLocked, Table.contains, Table.get?_insert_of_ne _ _ (mt lockKey_inj.1 h.symm)]
    rcases hp with ⟨-, hp⟩ | ⟨-, hp⟩ <;> rw [hp]
    · exact ⟨rfl, hlocked _⟩
    · refine ⟨?_, hlocked _⟩
      exact (Site.waiting_enqueue _ ⟨other⟩ name).trans (by rw [if_neg h]; rfl)

/-- A pass leaves a connector alone whose schedule is not due. -/
theorem bypasses_pass {name : String} {row : ScheduleRow} {now : Time.DateTime} {d : Desk}
    (hrow : d.rows.schedules.get? name = some row)
    (hnot : ∀ e, ((isDue now name row).perform e).1 ≠ .ok true) :
    d.Bypasses name ((pass now).perform d).2 ∧
      ∀ names, ((pass now).perform d).1 = .ok names → name ∉ names := by
  simp only [pass, perform_bind, perform_node]
  obtain ⟨n, hp | ⟨-, hp⟩⟩ := perform_sync d
  · rw [hp]
    dsimp only
    generalize hd₁ : (d.counting n).watching (refresh d.node.tracked d.rows.schedules.entries) = d₁
    have hsame : d.Bypasses name d₁ := hd₁ ▸ ⟨rfl, rfl⟩
    have hcalm := calm_dueAmong now d₁.node.tracked d₁
    cases hq : (dueAmong now d₁.node.tracked).perform d₁ with
    | mk due d₂ =>
      rw [hq] at hcalm
      have hsame := trans_of (Desk.Bypasses name) hsame (hcalm.idle.bypasses name)
      cases due with
      | error f => exact ⟨hsame, nofun⟩
      | ok due =>
        have hdue : name ∉ due := by
          intro hn
          obtain ⟨t, ht, rfl, e, he⟩ := mem_dueAmong hq name hn
          have hstored : d.rows.schedules.get? t.1 = some t.2 := by
            rw [← hd₁] at ht
            exact Table.get?_of_mem ((mem_refresh_iff ..).1 ht)
          rw [hrow] at hstored
          cases hstored
          exact hnot e he
        dsimp only
        refine ⟨trans_of _ hsame (Moves.filterM (fun other ho => bypasses_enqueue ?_ now) d₂), ?_⟩
        · rintro rfl
          exact hdue ho
        · intro names hnames hn
          cases hr : (due.filterM (enqueue now)).perform d₂ with
          | mk x d₃ =>
            rw [hr] at hnames
            cases hnames
            exact hdue (mem_of_filterM hr name hn).1
  · rw [hp]
    exact ⟨(d.calm_counting n).idle.bypasses name, nofun⟩

end Scheduler

/-- From one desk to the other nothing was logged. -/
def Desk.Silent (d d' : Desk) : Prop := d'.site.log = d.site.log

instance : IsPreorder Desk Desk.Silent where
  refl _ := rfl
  trans _ _ _ h k := Eq.trans k h

namespace Scheduler

theorem silent_enqueue (now : Time.DateTime) (name : String) :
    Moves Desk.Silent (enqueue now name) := by
  intro d
  rcases perform_enqueue now name d with ⟨-, hp⟩ | ⟨-, s, rfl, ⟨-, hp⟩ | ⟨-, hp⟩⟩ <;> rw [hp] <;> rfl

/-- A pass says nothing, as long as all schedules that are stored can be read. -/
theorem silent_enqueueDue {d : Desk}
    (h : ∀ name row, d.rows.schedules.get? name = some row → ∃ s, Schedule.parse row.text = .ok s)
    (now : Option Time.DateTime) : d.Silent ((enqueueDue now).perform d).2 := by
  obtain ⟨d₁, hd, hlog, hp⟩ := perform_enqueueDue now d
  rw [hp]
  generalize (now.getD d.site.clock.now).inUtc = t
  refine Eq.trans ?_ hlog
  simp only [pass, perform_bind, perform_node]
  obtain ⟨n, hp | ⟨-, hp⟩⟩ := perform_sync d₁
  · rw [hp]
    dsimp only
    generalize hd₂ : (d₁.counting n).watching (refresh d₁.node.tracked d₁.rows.schedules.entries) = d₂
    have hsame : d₁.Silent d₂ := hd₂ ▸ rfl
    have hread : ∀ t ∈ d₂.node.tracked, ∃ s, Schedule.parse t.2.text = .ok s := by
      intro t ht
      rw [← hd₂] at ht
      exact h t.1 t.2 (hd.rows ▸ Table.get?_of_mem ((mem_refresh_iff ..).1 ht))
    have hdue : d₂.Silent ((dueAmong t d₂.node.tracked).perform d₂).2 := by
      refine Moves.map _ (Moves.filterM fun u hu d => ?_) d₂
      obtain ⟨s, hs⟩ := hread u hu
      rw [perform_isDue hs]
      rfl
    cases hq : (dueAmong t d₂.node.tracked).perform d₂ with
    | mk due d₃ =>
      rw [hq] at hdue
      have hsame := trans_of Desk.Silent hsame hdue
      cases due with
      | error f => exact hsame
      | ok due => exact trans_of _ hsame (Moves.filterM (fun name _ => silent_enqueue t name) d₃)
  · rw [hp]
    rfl

end Scheduler

end ConnectorHub
