import ConnectorHub.Proofs.Openings
import ConnectorHub.Proofs.Passes

/-! When a connector is due. The time that is worked out at the end of a batch and the test by which
a pass of the scheduler finds connectors due agree: from that time on, and not before, the connector
is due whenever its schedule is open. -/
namespace ConnectorHub

open Store Time Act

/-- The calendar has a day left, on the clock as well as in UTC. -/
structure Time.DateTime.HasRoom (t : DateTime) : Prop where
  begun : 0 ≤ t.instant
  instant : t.instant + microsPerDay < endOfTime
  clock : t.micros + microsPerDay < endOfTime

namespace Schedule

variable {s : Schedule}

/-- A search that begins a day before the end of the calendar does not leave it. -/
theorem inReach_of_hasRoom {t : DateTime} (h : t.HasRoom) : s.InReach t := by
  obtain ⟨hbegun, hinstant, hclock⟩ := h
  refine .inr ⟨?_, fun u hu => ?_⟩
  · simp only [DateTime.isInCalendar, Bool.and_eq_true, decide_eq_true_eq]
    omega
  · obtain ⟨w, -, -, rfl⟩ := mem_openingTimes.1 hu
    obtain ⟨hlater, hwithin, -⟩ := w.nextOpening_spec t.inUtc
    have hlater : t.micros < w.nextOpening t.inUtc := hlater
    have hwithin : w.nextOpening t.inUtc ≤ t.micros + microsPerDay := hwithin
    have hoff : t.inUtc.offset.getD 0 = t.offset.getD 0 := rfl
    simp only [DateTime.instant] at hbegun hinstant
    simp only [DateTime.isInCalendar, DateTime.instant, hoff, Bool.and_eq_true,
      decide_eq_true_eq]
    omega

/-- In UTC a search leaves the calendar only at its end. -/
theorem inReach_of_inUtc {t : DateTime} (hoff : t.offset.getD 0 = 0)
    (ht : t.micros + microsPerDay < endOfTime) : s.InReach t := by
  have hinstant : t.instant = t.micros := by simp [DateTime.instant, hoff]
  exact inReach_of_hasRoom ⟨by omega, by omega, ht⟩

/-- The schedule is open at the time at which it is next open. -/
theorem nextOpen_spec (h : s.isDisabled = false) {t : DateTime} (hoff : t.offset.getD 0 = 0)
    (ht : t.micros + microsPerDay < endOfTime) :
    ∃ m, s.nextOpen t = .ok (some m) ∧ m.offset = some 0 ∧ t.micros ≤ m.micros ∧
      s.isOpen m = true := by
  obtain ⟨m, hnext, hfirst⟩ := nextOpen_of_inReach h (inReach_of_inUtc hoff ht)
  have hm : m.offset = some 0 := by rw [hfirst.offset, hoff]
  have hle := hfirst.le
  simp only [DateTime.instant, hoff, hm, Option.getD_some] at hle
  exact ⟨m, hnext, hm, by omega, hfirst.isOpen⟩

/-- How long a connector waits after a traversal that brought so many documents, in microseconds. -/
def wait (s : Schedule) (items : Int) : Nat := if items ≤ 0 then s.retryDelay * 1000 else 0

/-- A connector is due next when its schedule is open after it has waited. -/
theorem nextDue_eq {items : Int} {t : DateTime} (hoff : t.offset.getD 0 = 0)
    (ht : t.micros + s.wait items < endOfTime) :
    s.nextDue items t = s.nextOpen ⟨t.micros + s.wait items, some 0⟩ := by
  have hutc : t.inUtc = ⟨t.micros, some 0⟩ := by rw [DateTime.inUtc, hoff]
  by_cases hi : items ≤ 0
  · have hwait : s.wait items = s.retryDelay * 1000 := if_pos hi
    rw [hwait] at ht ⊢
    have hadd : (⟨t.micros, some 0⟩ : DateTime).add? (s.retryDelay * 1000) =
        some ⟨t.micros + s.retryDelay * 1000, some 0⟩ := by
      have hlate : (0 : Int) ≤ t.micros + s.retryDelay * 1000 ∧
          (t.micros + s.retryDelay * 1000 : Int) < endOfTime := by omega
      simp only [DateTime.add?, if_pos hlate, Option.some.injEq, DateTime.mk.injEq, and_true]
      omega
    rw [nextDue, if_pos hi, hutc, hadd]
  · have hwait : s.wait items = 0 := if_neg hi
    rw [hwait, nextDue, if_neg hi]
    simp only [nextOpen, hutc]
    rfl

end Schedule

namespace Store.ScheduleRow

/-- It does not matter that a time in UTC is stored without its offset. -/
theorem isDue_marked {s : Schedule} {due : Option DateTime}
    (hutc : ∀ m, due = some m → m.offset = some 0) (row : ScheduleRow)
    (lastRun : Option DateTime) (now : DateTime) :
    s.isDue (row.marked lastRun due).nextDue now = s.isDue due now := by
  unfold marked
  split
  · rename_i h
    rw [h.2]
  · cases due with
    | none => rfl
    | some m => simp [Schedule.isDue, DateTime.withoutOffset, DateTime.instant, hutc m rfl]

/-- A connector with this schedule row is due from a time on whenever its schedule is open, and no
pass of the scheduler puts it on the queue before. -/
structure DueFrom (row : ScheduleRow) (s : Schedule) (due : DateTime) : Prop where
  iff : ∀ now name d, (Scheduler.isDue now name row).perform d =
    (.ok (decide (due.instant ≤ now.instant) && s.isOpen now), d)
  passed : ∀ now name d, d.rows.schedules.get? name = some row →
    (now.getD d.site.clock.now).instant < due.instant →
      d.Bypasses name ((Scheduler.enqueueDue now).perform d).2 ∧
        ∀ names, ((Scheduler.enqueueDue now).perform d).1 = .ok names → name ∉ names

theorem dueFrom_of_isDue {row : ScheduleRow} {s : Schedule} {due : DateTime}
    (hs : Schedule.parse row.text = .ok s)
    (h : ∀ now, s.isDue row.nextDue now = (decide (due.instant ≤ now.instant) && s.isOpen now)) :
    row.DueFrom s due where
  iff now name d := by rw [Scheduler.perform_isDue hs, h]
  passed now name d hrow hnow := by
    obtain ⟨d₁, hd, -, hp⟩ := Scheduler.perform_enqueueDue now d
    have hnot : ∀ e, ((Scheduler.isDue (now.getD d.site.clock.now).inUtc name row).perform e).1 ≠
        .ok true := by
      intro e
      have hearly : ¬ due.instant ≤ (now.getD d.site.clock.now).inUtc.instant := Int.not_le.2 hnow
      rw [Scheduler.perform_isDue hs, h, decide_eq_false hearly]
      simp
    rw [hp]
    obtain ⟨hpass, hnames⟩ := Scheduler.bypasses_pass (hd.rows ▸ hrow) hnot
    exact ⟨trans_of _ (hd.idle.bypasses name) hpass, hnames⟩

end Store.ScheduleRow

namespace Schedule

/-- The time that is worked out at the end of a batch says when the connector is due. There is none
if no window is ever open; else it is a time at which the schedule is open, after the connector has
waited, and from it on the connector is due whenever the schedule is open. -/
theorem due_from_nextDue (s : Schedule) (items : Int) {finished : DateTime}
    (hutc : finished.offset.getD 0 = 0)
    (hin : finished.micros + s.wait items + microsPerDay < endOfTime) :
    ∃ due, s.nextDue items finished = .ok due ∧
      ((∀ w ∈ s.windows, w.opens = w.closes) →
        due = none ∧ ∀ row : ScheduleRow, parse row.text = .ok s → ∀ now name d,
          (Scheduler.isDue now name (row.marked (some finished) due)).perform d =
            (.ok false, d)) ∧
      ((∃ w ∈ s.windows, w.opens ≠ w.closes) →
        ∃ m, due = some m ∧ finished.instant ≤ m.instant ∧
          (items ≤ 0 → finished.instant + s.retryDelay * 1000 ≤ m.instant) ∧
          s.isOpen m = true ∧ ∀ row : ScheduleRow, parse row.text = .ok s →
            (row.marked (some finished) due).DueFrom s m ∧ ∀ name d,
              (Scheduler.isDue m name (row.marked (some finished) due)).perform d =
                (.ok true, d)) := by
  have hnext := nextDue_eq hutc (Nat.lt_of_le_of_lt (Nat.le_add_right _ _) hin)
  by_cases hdis : s.isDisabled = true
  · refine ⟨none, hnext.trans (nextOpen_of_isDisabled hdis _), fun _ => ⟨rfl, ?_⟩, ?_⟩
    · intro row hrow now name d
      rw [Scheduler.perform_isDue ((row.text_marked _ _).symm ▸ hrow), isDue, hdis]
      rfl
    · rintro ⟨w, hw, hne⟩
      exact absurd (isDisabled_iff.1 hdis w hw) hne
  · have hdis : s.isDisabled = false := Bool.eq_false_iff.2 hdis
    obtain ⟨m, hm, hoff, hle, hopen⟩ :=
      nextOpen_spec (t := ⟨finished.micros + s.wait items, some 0⟩) hdis rfl hin
    have hle : finished.micros + s.wait items ≤ m.micros := hle
    have hlater : finished.instant + s.wait items ≤ m.instant := by
      simp only [DateTime.instant, hutc, hoff, Option.getD_some]
      omega
    refine ⟨some m, hnext.trans hm, fun hall => ?_, fun _ => ⟨m, rfl, by omega, fun hi => ?_,
      hopen, fun row hrow => ?_⟩⟩
    · exact absurd (isDisabled_iff.2 hall) (Bool.eq_false_iff.1 hdis)
    · have hwait : s.wait items = s.retryDelay * 1000 := if_pos hi
      rw [hwait] at hlater
      omega
    · have hisDue : ∀ now, s.isDue (row.marked (some finished) (some m)).nextDue now =
          (decide (m.instant ≤ now.instant) && s.isOpen now) := by
        intro now
        rw [row.isDue_marked fun _ h => Option.some.inj h ▸ hoff, isDue, hdis, Bool.and_comm]
        rfl
      have hdue := ScheduleRow.dueFrom_of_isDue ((row.text_marked _ _).symm ▸ hrow) hisDue
      refine ⟨hdue, fun name d => ?_⟩
      rw [hdue.iff, decide_eq_true (Int.le_refl _), hopen]
      rfl

/-- A schedule that is open at night, with a window that never is. -/
def nightly : Schedule where
  connector := "a"
  load := 1
  retryDelay := 60000
  intervals := "22-6:3-3"
  windows := [⟨22, 6, by decide, by decide⟩, ⟨3, 3, by decide, by decide⟩]
  connector_ne := by decide
  colon_notin := by decide
  load_pos := by decide
  windows_eq := by decide

/-- After an empty batch at noon. -/
theorem nightly_due_from_nextDue :
    ∃ m, nightly.nextDue 0 Clock.standard.now = .ok (some m) ∧ nightly.isOpen m = true ∧
      Clock.standard.now.instant + 60000000 ≤ m.instant ∧
      (ScheduleRow.marked { text := "a:1:60000:22-6:3-3" } (some Clock.standard.now)
        (some m)).DueFrom nightly m := by
  have hparse : parse "a:1:60000:22-6:3-3" = .ok nightly := by decide +kernel
  have hopen : ∃ w ∈ nightly.windows, w.opens ≠ w.closes := ⟨_, List.mem_cons_self, by decide⟩
  obtain ⟨due, hdue, -, hspec⟩ :=
    @due_from_nextDue nightly 0 Clock.standard.now rfl (by decide +kernel)
  obtain ⟨m, rfl, -, hwait, hm, hrow⟩ := hspec hopen
  exact ⟨m, hdue, hm, hwait (by decide), (hrow { text := "a:1:60000:22-6:3-3" } hparse).1⟩

end Schedule

end ConnectorHub
