import ConnectorHub.Proofs.DueTimes
import ConnectorHub.Proofs.Overtaking
import ConnectorHub.Proofs.TraversalOutcome

/-! Delays that the calendar has no room for. A schedule may ask for any delay; only when a connector
is to wait for it, after a traversal that brought no documents, is the end of the delay looked up. If
the calendar ends before, the traversal fails, though its run is logged and its checkpoint stored. -/
namespace ConnectorHub

open Store Time Act

namespace Schedule

variable {s : Schedule} {t : DateTime} {items : Int}

/-- The calendar has room for a wait from `t` on: for the delay, and then for the next time at which
the schedule is open, if it ever is. -/
structure DelayFits (s : Schedule) (t : DateTime) : Prop where
  ends : t.micros + s.retryDelay * 1000 < endOfTime
  opens : s.isDisabled = true ∨ s.InReach ⟨t.micros + s.retryDelay * 1000, some 0⟩

/-- A day is enough for every schedule to open. -/
theorem delayFits_of_lt (h : t.micros + s.retryDelay * 1000 + microsPerDay < endOfTime) :
    s.DelayFits t :=
  ⟨by omega, .inr (inReach_of_inUtc rfl h)⟩

theorem nextOpen_isOk_iff : (∃ o, s.nextOpen t = .ok o) ↔ s.isDisabled = true ∨ s.InReach t := by
  by_cases hdis : s.isDisabled = true
  · exact iff_of_true ⟨none, nextOpen_of_isDisabled hdis t⟩ (.inl hdis)
  · rw [or_iff_right hdis]
    simp only [nextOpen_eq_ok_iff (Bool.eq_false_iff.2 hdis)]
    constructor
    · rintro ⟨o, hr, -⟩
      exact hr
    · intro hr
      obtain ⟨r, -, hfirst⟩ := nextOpen_of_inReach (Bool.eq_false_iff.2 hdis) hr
      exact ⟨some r, hr, r, rfl, hfirst⟩

theorem nextDue_of_late (hi : items ≤ 0) (h : endOfTime ≤ t.micros + s.retryDelay * 1000) :
    s.nextDue items t = .error .outOfRange := by
  have hlate : ¬ ((0 : Int) ≤ t.micros + s.retryDelay * 1000 ∧
      (t.micros + s.retryDelay * 1000 : Int) < endOfTime) := by omega
  have hadd : t.inUtc.add? (s.retryDelay * 1000) = none := by
    simp only [DateTime.add?, DateTime.inUtc]
    exact if_neg hlate
  rw [nextDue, if_pos hi, hadd]

/-- A connector that need not wait is due some time or never; one that waits is if the calendar has room
for that. -/
theorem nextDue_isOk_iff (hutc : t.offset.getD 0 = 0) (hin : t.micros + microsPerDay < endOfTime) :
    (∃ due, s.nextDue items t = .ok due) ↔ 0 < items ∨ s.DelayFits t := by
  by_cases hi : items ≤ 0
  · rw [or_iff_right (by omega)]
    have hwait : s.wait items = s.retryDelay * 1000 := if_pos hi
    by_cases hend : t.micros + s.retryDelay * 1000 < endOfTime
    · rw [nextDue_eq hutc (hwait ▸ hend), hwait, nextOpen_isOk_iff]
      exact ⟨fun h => ⟨hend, h⟩, DelayFits.opens⟩
    · rw [nextDue_of_late hi (by omega)]
      exact iff_of_false nofun fun h => hend h.ends
  · have hwait : s.wait items = 0 := if_neg hi
    refine iff_of_true ?_ (.inl (by omega))
    rw [nextDue_eq hutc (by omega), hwait, nextOpen_isOk_iff]
    exact .inr (inReach_of_inUtc rfl hin)

end Schedule

namespace Traversal

/-- How a whole traversal goes. One whose connector cannot be handed over to has failed. -/
inductive Went (resume : Running → Act Batch) (name : String) (d : Desk) : Result → Prop
  | handedOver {t : Running} {d₁ : Desk} (h : (begin name).perform d = (.ok (.running t), d₁)) :
      Went resume name d (verdict t ((resume t).perform d₁).1 ((resume t).perform d₁).2)
  | notHandedOver (f : Failure) (h : ∀ t, ((begin name).perform d).1 ≠ .ok (.running t)) :
      Went resume name d (failed 0 f)

/-- What comes of a traversal that went so and turned to its end at `e`, after its connector handed
back this batch; its answer and the desk that it leaves are `p`. It is answered if its connector need
not wait, or the calendar has room for that. If it is not, it leaves the times of the connector as
they were, though its checkpoint may be stored. -/
structure Settled (name : String) (s : Schedule) (r : Result) (batch : Option Batch) (e : Desk)
    (p : Except Failure Nat × Desk) : Prop where
  answered : (∃ items, p.1 = .ok items) ↔
    r.overtaken = true ∨ 0 < r.counted ∨ s.DelayFits e.site.clock.now
  marked : (∃ items, p.1 = .ok items) → r.overtaken = false →
    ∃ due, s.nextDue r.counted e.site.clock.now = .ok due ∧
      (p.2.rows.about name).schedule =
        (e.rows.about name).schedule.map (·.marked (some e.site.clock.now) due)
  unmarked : (∀ items, p.1 ≠ .ok items) →
    (p.2.rows.about name).schedule = (e.rows.about name).schedule
  stored : r.Stores → ∃ b, batch = some b ∧
    (p.2.rows.about name).state = some ⟨b.checkpoint, e.generation name⟩

section

variable {t : Opened} {r : Result} {c c' : Desk} {x : Except Failure Nat}

/-- Where no statement fails, a traversal that is closed is answered if it was overtaken, or if there is
a time at which its connector is due next. -/
theorem Closed.isOk_iff (h : Closed t r c x c') (hw : c.Works) :
    (∃ items, x = .ok items) ↔ r.overtaken = true ∨
      ∃ due, t.schedule.nextDue r.counted c.site.clock.now = .ok due := by
  cases h with
  | unlogged broken => exact absurd hw broken
  | overtaken overtaken => exact iff_of_true ⟨_, rfl⟩ (.inl overtaken)
  | unmarked overtaken why =>
    obtain ⟨f, hf⟩ := why.resolve_left fun broken => broken hw
    rw [hf, overtaken]
    exact iff_of_false nofun (by simp)
  | marked _ next => exact iff_of_true ⟨_, rfl⟩ (.inr ⟨_, next⟩)

theorem Closed.settled {name : String} {batch : Option Batch} {e : Desk}
    (h : Closed t r c x c') (hw : c.Works) (hname : t.connector = name)
    (hschedule : (c.rows.about name).schedule = (e.rows.about name).schedule)
    (hclock : c.site.clock = e.site.clock) (hutc : e.site.clock.now.offset.getD 0 = 0)
    (hin : e.site.clock.now.micros + microsPerDay < endOfTime)
    (hstored : r.Stores → ∃ b, batch = some b ∧
      (c'.rows.about name).state = some ⟨b.checkpoint, e.generation name⟩) :
    Settled name t.schedule r batch e (x, { c' with site := c'.site.unlock (lockKey name) }) where
  answered := by
    rw [h.isOk_iff hw, hclock, Schedule.nextDue_isOk_iff hutc hin, Int.natCast_pos]
  marked := by
    rintro ⟨items, rfl⟩ hovertaken
    rcases h.of_works hw hovertaken with ⟨due, hdue, -, habout⟩ | ⟨f, g, -, hx, -⟩
    · rw [hclock] at hdue habout
      exact ⟨due, hdue, by rw [← hschedule, ← hname]; exact habout⟩
    · cases hx
  unmarked := by
    intro hx
    rcases h.about with ⟨-, ⟨items, hok⟩, -⟩ | ⟨-, habout⟩
    · exact absurd hok (hx items)
    · rw [← hschedule, ← hname]
      exact congrArg Record.schedule habout
  stored := hstored

end

/-- A traversal of a connector that is there and has a schedule comes to its end, and that settles it. -/
theorem settled_run {name : String} {d : Desk} {row : ScheduleRow} {s : Schedule} (hw : d.Works)
    (hrow : d.rows.schedules.get? name = some row) (hknown : (d.known name).isSome)
    (hs : Schedule.parse row.text = .ok s) (resume : Running → Act Batch)
    (hback : (handBack resume name d).2.Works)
    (hutc : (handBack resume name d).2.site.clock.now.offset.getD 0 = 0)
    (hin : (handBack resume name d).2.site.clock.now.micros + microsPerDay < endOfTime) :
    ∃ r, Went resume name d r ∧ Settled name s r (handBack resume name d).1
      (handBack resume name d).2 ((run resume name).perform d) := by
  obtain ⟨n, ho⟩ := perform_open?_of_known hw hrow hknown hs
  generalize hd₁ : ((readClock.perform d).2.withRows
    (d.rows.started name d.site.clock.now)).counting n = d₁ at ho
  have hstarted : (d₁.rows.about name).schedule = (d.rows.about name).schedule := hd₁ ▸ rfl
  have hclock : d₁.site.clock = (readClock.perform d).2.site.clock := hd₁ ▸ rfl
  have hworks : d₁.Works := hd₁ ▸ ((calm_readClock d).works hw).counting _ n
  have htime := timeless_handOver ⟨name, s, Runs.nextId d.rows.runs⟩ d₁
  rcases perform_handOver ⟨name, s, Runs.nextId d.rows.runs⟩ d₁ with
    ⟨t, d₂, ht, -, -, -, hh⟩ | ⟨f, d₂, hcalm, hh⟩
  · -- Whatever the connector does, the traversal is judged and closed where it hands back.
    have hbegin := begin_of_handedOver ho hh
    have hname : t.connector = name := congrArg Opened.connector ht
    have hschedule : t.schedule = s := congrArg Opened.schedule ht
    refine ⟨_, .handedOver hbegin, ?_⟩
    rw [handBack_of_handedOver hbegin] at hback hutc hin ⊢
    rw [run_of_handedOver hbegin]
    generalize ((resume t).perform d₂).1 = answer
    generalize ((resume t).perform d₂).2 = e at hback hutc hin ⊢
    obtain ⟨c, x, c', hjudge, hj, hc, hfinish⟩ := perform_finish t answer e
    have hjudged := timeless_judge t answer e
    rw [hjudge] at hjudged
    subst hname hschedule
    rw [hfinish]
    refine hc.settled (hj.sparing.works hback) rfl hj.schedule hjudged hutc hin fun hstores => ?_
    rcases state_of_finish hj hc with ⟨-, b, rfl, hgeneration, hstate⟩ | ⟨hno, -⟩
    · exact ⟨b, rfl, hgeneration ▸ hstate⟩
    · exact absurd hstores hno
  · -- A connector that cannot be handed over to brought nothing, so that it has to wait.
    obtain ⟨hnone, hrun⟩ := @run_of_not_handedOver resume name d d₁ d₂ _ f ho hh
    rw [hh] at htime
    refine ⟨failed 0 f, .notHandedOver f fun t => ?_, ?_⟩
    · rw [begin_of_not_handedOver ho hh]
      cases ((close ⟨name, s, Runs.nextId d.rows.runs⟩ (failed 0 f)).perform d₂).1 <;> nofun
    · rw [hnone] at hback hutc hin ⊢
      rw [hrun]
      have hclosed := closed_of_perform ⟨name, s, Runs.nextId d.rows.runs⟩ (failed 0 f) d₂
      exact hclosed.settled (hcalm.works hworks) rfl (by rw [hcalm.rows]; exact hstarted)
        (Eq.trans htime hclock) hutc hin
        fun hstores => absurd hstores (Result.not_stores_of_error rfl)

end Traversal

namespace Hub

/-- The time at which a connector is due next is found exactly if the connector need not wait, or the
calendar has room for its delay, which is the case for every delay that ends a day before the calendar
does. So over a database that works a traversal of a connector that is there is answered exactly if it
was overtaken, brought documents, or may wait. Unless it was overtaken its connector then gets its
times; a traversal that is not answered leaves them as they were, with its checkpoint stored. -/
theorem answered_iff_delayFits (s : Schedule) :
    (∀ (items : Int) (t : DateTime), t.offset.getD 0 = 0 → t.micros + microsPerDay < endOfTime →
      ((∃ due, s.nextDue items t = .ok due) ↔ 0 < items ∨ s.DelayFits t)) ∧
    (∀ t : DateTime, t.micros + s.retryDelay * 1000 + microsPerDay < endOfTime → s.DelayFits t) ∧
    ∀ (d : Desk) (name : String) (row : ScheduleRow), d.Works → (d.known name).isSome →
      d.rows.schedules.get? name = some row → Schedule.parse row.text = .ok s →
      ∀ resume : Traversal.Running → Act Batch,
        let back := Traversal.handBack resume name d
        let now := back.2.site.clock.now
        back.2.Works → now.offset.getD 0 = 0 → now.micros + microsPerDay < endOfTime →
        ∃ r, Traversal.Went resume name d r ∧
          Traversal.Settled name s r back.1 back.2 ((Traversal.run resume name).perform d) :=
  ⟨fun _ _ hutc hin => Schedule.nextDue_isOk_iff hutc hin, fun _ => Schedule.delayFits_of_lt,
    fun _ _ _ hw hknown hrow hs resume hback hutc hin =>
      Traversal.settled_run hw hrow hknown hs resume hback hutc hin⟩

/-- A connector is created, and given a schedule that is always open and asks for this delay. -/
def delayed (millis : Int) : List Move :=
  [.ask 0 (.configure "a" "plain" .empty none false), .ask 0 (.setSchedule "a" 1 millis "0-24")]

/-- The schedule with a delay of one minute. -/
def minutely : Schedule :=
  (Schedule.parse "a:1:60000:0-24").toOption.get (by decide +kernel)

/-- An empty batch. -/
def emptyBatch : Batch := ⟨[], some "x"⟩

/-- After an empty batch a connector may wait for a minute. -/
theorem answered_with_delay_of_minute :
    let d := (untouched.play (delayed 60000)).1.desk 0
    let p := (Traversal.run (fun _ => pure emptyBatch) "a").perform d
    (∃ items, p.1 = .ok items) ∧ (p.2.rows.about "a").state = some ⟨some "x", 0⟩ ∧
      (p.2.rows.about "a").schedule.map (fun row => (row.lastRun.isSome, row.nextDue.isSome)) =
        some (true, true) := by
  intro d p
  have hs : Schedule.parse "a:1:60000:0-24" = .ok minutely := by decide +kernel
  obtain ⟨-, hfits, hruns⟩ := answered_iff_delayFits minutely
  obtain ⟨r, -, hsettled⟩ := hruns d "a" ⟨"a:1:60000:0-24", none, none⟩ (fun _ _ _ => rfl)
    (by decide +kernel) (by decide +kernel) hs (fun _ => pure emptyBatch) (fun _ _ _ => rfl)
    (by decide +kernel) (by decide +kernel)
  exact ⟨hsettled.answered.2 (.inr (.inr (hfits _ (by decide +kernel)))), by decide +kernel,
    by decide +kernel⟩

/-- A delay of some billion years is accepted, but not waited for: the checkpoint is stored, and the
connector is due again at once. -/
theorem unanswered_with_delay_beyond_calendar :
    let millis : Int := 100000000000000000000
    let d := (untouched.play (delayed millis)).1.desk 0
    let p := (Traversal.run (fun _ => pure emptyBatch) "a").perform d
    let row : ScheduleRow := ⟨"a:1:100000000000000000000:0-24", none, none⟩
    ((untouched.play (delayed 0)).1.answer 0 (.setSchedule "a" 1 millis "0-24")).isOk = true ∧
      p.1 = .error (.calendar .outOfRange) ∧
      (p.2.rows.about "a").state = some ⟨some "x", 0⟩ ∧
      (p.2.rows.about "a").schedule = some row ∧
      ((Scheduler.isDue p.2.site.clock.now "a" row).perform p.2).1 = .ok true := by
  decide +kernel

end Hub

end ConnectorHub
