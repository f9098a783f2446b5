import ConnectorHub.Proofs.DueTimes

/-! Clocks that show one instant in different offsets. A schedule goes by the hour that a clock shows,
so its answers depend on the offset: they are alike for two clocks exactly if the schedule stays closed
for the same time from what either clock shows, and for all schedules only if the clocks show the same
time of day, their offsets differing by whole days. -/
namespace ConnectorHub

open Store Time Act

namespace Time.DateTime

variable {t u : DateTime}

/-- The microseconds since midnight on the clock. -/
def timeOfDay (t : DateTime) : Nat := t.micros % microsPerDay

theorem hour_eq (t : DateTime) : t.hour = t.timeOfDay / microsPerHour := by
  have hhour : microsPerHour = 3600000000 := rfl
  have hday : microsPerDay = 86400000000 := rfl
  simp only [hour, timeOfDay, hhour, hday]
  omega

theorem timeOfDay_lt (t : DateTime) : t.timeOfDay < microsPerDay := Nat.mod_lt _ (by decide)

/-- Two clocks that show one instant show the same time of day if whole days lie between them. -/
theorem timeOfDay_eq_iff (h : t.instant = u.instant) :
    t.timeOfDay = u.timeOfDay ↔ (t.offset.getD 0 - u.offset.getD 0) % 1440 = 0 := by
  have hminute : microsPerMinute = 60000000 := rfl
  have hday : microsPerDay = 86400000000 := rfl
  simp only [instant, timeOfDay, hminute, hday] at h ⊢
  omega

end Time.DateTime

namespace Window

variable {w : Window} {time : Nat}

/-- How long after a time of day the window opens next. -/
def wait (w : Window) (time : Nat) : Nat :=
  if time < w.opens * microsPerHour then w.opens * microsPerHour - time
  else w.opens * microsPerHour + microsPerDay - time

theorem wait_pos (h : time < microsPerDay) : 0 < w.wait time := by
  unfold wait
  split <;> omega

theorem nextOpening_eq (w : Window) (t : DateTime) :
    w.nextOpening t = t.micros + w.wait t.timeOfDay := by
  have hday : microsPerDay = 86400000000 := rfl
  simp only [nextOpening, wait, DateTime.dayStart, DateTime.timeOfDay, hday]
  split <;> split <;> omega

/-- From different times of day a window is waited for differently long. -/
theorem wait_injective {time' : Nat} (h : time < microsPerDay) (h' : time' < microsPerDay)
    (heq : w.wait time = w.wait time') : time = time' := by
  unfold wait at heq
  split at heq <;> split at heq <;> omega

end Window

namespace Schedule

variable {s : Schedule} {t u : DateTime}

/-- How long the windows that are ever open are waited for from a time of day on. -/
def waits (s : Schedule) (time : Nat) : List Nat :=
  (s.windows.filter (!·.isEmpty)).map (·.wait time)

/-- How long the schedule stays closed from a time of day on, if it is ever open. -/
def idle (s : Schedule) (time : Nat) : Option Nat :=
  if s.windows.any (·.covers (time / microsPerHour)) then some 0 else (s.waits time).min?

theorem idle_of_isOpen (h : s.isOpen t = true) : s.idle t.timeOfDay = some 0 := by
  rw [isOpen, DateTime.hour_eq] at h
  exact if_pos h

theorem idle_of_closed (h : s.isOpen t = false) :
    s.idle t.timeOfDay = (s.waits t.timeOfDay).min? := by
  rw [isOpen, DateTime.hour_eq] at h
  exact if_neg (by simp [h])

theorem isOpen_iff : s.isOpen t = true ↔ s.idle t.timeOfDay = some 0 := by
  refine ⟨idle_of_isOpen, fun hidle => ?_⟩
  by_contra hclosed
  rw [idle_of_closed (Bool.eq_false_iff.2 hclosed)] at hidle
  obtain ⟨w, -, hw⟩ := List.mem_map.1 (List.min?_eq_some_iff.1 hidle).1
  exact absurd hw (Nat.ne_of_gt (Window.wait_pos t.timeOfDay_lt))

theorem earliest?_openingTimes (s : Schedule) (t : DateTime) :
    earliest? (s.openingTimes t) = (s.waits t.timeOfDay).min?.map (t.micros + ·) := by
  have htimes : (s.openingTimes t).map (·.micros) = (s.waits t.timeOfDay).map (t.micros + ·) := by
    simp only [openingTimes, waits, List.map_map, Function.comp_def, Window.nextOpening_eq]
  rw [earliest?, htimes]
  cases hmin : (s.waits t.timeOfDay).min? with
  | none => simp [List.min?_eq_none_iff.1 hmin]
  | some n =>
    obtain ⟨hmem, hle⟩ := List.min?_eq_some_iff.1 hmin
    refine List.min?_eq_some_iff.2 ⟨List.mem_map_of_mem hmem, fun m hm => ?_⟩
    obtain ⟨k, hk, rfl⟩ := List.mem_map.1 hm
    exact Nat.add_le_add_left (hle k hk) _

/-- What is found is the instant at which the time is over for which the schedule stays closed. -/
theorem instant_of_nextOpen {o : Option DateTime} (h : s.nextOpen t = .ok o) :
    o.map (·.instant) = (s.idle t.timeOfDay).map fun n : Nat => t.instant + n := by
  by_cases hopen : s.isOpen t = true
  · have ho : some t.inUtc = o := Except.ok.inj ((if_pos hopen).symm.trans h)
    rw [idle_of_isOpen hopen, ← ho]
    simp [DateTime.instant, DateTime.inUtc]
  · rw [idle_of_closed (Bool.eq_false_iff.2 hopen)]
    cases hdis : s.isDisabled with
    | true =>
      have hnone : none = o := Except.ok.inj ((nextOpen_of_isDisabled hdis t).symm.trans h)
      have hwaits : s.waits t.timeOfDay = [] := by
        simpa [waits, isDisabled] using hdis
      rw [hwaits, ← hnone]
      rfl
    | false =>
      have hnext : (s.openings t.inUtc).map (fun times => (earliest? times).map fun m =>
          { t.inUtc with micros := m }) = .ok o := (if_neg hopen).symm.trans h
      cases hfound : s.openings t.inUtc with
      | error e =>
        rw [hfound] at hnext
        cases hnext
      | ok times =>
        obtain ⟨rfl, -⟩ := (openings_eq_ok_iff hdis times).1 hfound
        rw [hfound] at hnext
        have ho : (earliest? (s.openingTimes t.inUtc)).map (fun m => { t.inUtc with micros := m }) =
          o := Except.ok.inj hnext
        rw [← ho, earliest?_openingTimes, Option.map_map, Option.map_map]
        congr 1
        funext n
        simp only [Function.comp_apply, DateTime.instant, DateTime.inUtc, Option.getD_some]
        omega

/-- Both searches end, and in the same instant, or neither finds a time. -/
def FindsAlike (s : Schedule) (t u : DateTime) : Prop :=
  ∃ a b, s.nextOpen t = .ok a ∧ s.nextOpen u = .ok b ∧ a.map (·.instant) = b.map (·.instant)

/-- What the schedule answers for `t` is what it answers for `u`: whether it is open, when it opens
next, and whether a connector with this schedule is due, whatever time is stored for it. -/
structure AnswersAlike (s : Schedule) (t u : DateTime) : Prop where
  isOpen : s.isOpen t = s.isOpen u
  nextOpen : s.FindsAlike t u
  isDue : ∀ row : ScheduleRow, parse row.text = .ok s → ∀ name d,
    (Scheduler.isDue t name row).perform d = (Scheduler.isDue u name row).perform d

theorem isOpen_eq_iff : s.isOpen t = s.isOpen u ↔
    (s.idle t.timeOfDay = some 0 ↔ s.idle u.timeOfDay = some 0) := by
  rw [Bool.eq_iff_iff, isOpen_iff, isOpen_iff]

/-- The searches from one instant end alike if both end, after schedules that stay closed equally
long. -/
theorem findsAlike_iff (h : t.instant = u.instant) : s.FindsAlike t u ↔
    (∃ a, s.nextOpen t = .ok a) ∧ (∃ b, s.nextOpen u = .ok b) ∧
      s.idle t.timeOfDay = s.idle u.timeOfDay := by
  have hinjective : Function.Injective fun n : Nat => u.instant + (n : Int) := by
    intro m n hmn
    exact Int.ofNat.inj (Int.add_left_cancel hmn)
  constructor
  · rintro ⟨a, b, ha, hb, hab⟩
    rw [instant_of_nextOpen ha, instant_of_nextOpen hb, h] at hab
    exact ⟨⟨a, ha⟩, ⟨b, hb⟩, Option.map_injective hinjective hab⟩
  · rintro ⟨⟨a, ha⟩, ⟨b, hb⟩, hidle⟩
    exact ⟨a, b, ha, hb, by rw [instant_of_nextOpen ha, instant_of_nextOpen hb, h, hidle]⟩

/-- The due test differs only for a connector whose time has come, and then exactly if the schedule
is open for one of the two clocks only. -/
theorem isDue_eq_iff (h : t.instant = u.instant) (due : Option DateTime) :
    s.isDue due t = s.isDue due u ↔
      s.isOpen t = s.isOpen u ∨ ∃ d, due = some d ∧ t.instant < d.instant := by
  by_cases hdis : s.isDisabled = true
  · have hopen : s.isOpen t = s.isOpen u :=
      (isOpen_of_isDisabled hdis t).trans (isOpen_of_isDisabled hdis u).symm
    exact iff_of_true (by simp [isDue, hdis]) (.inl hopen)
  · have hcome : (due.all fun d => d.instant ≤ u.instant) = false ↔
        ∃ d, due = some d ∧ u.instant < d.instant := by
      cases due <;> simp
    rw [isDue, isDue, h, Bool.eq_false_iff.2 hdis, ← hcome]
    cases s.isOpen t <;> cases s.isOpen u <;> simp

/-- All answers are alike for two clocks that show one instant if both searches end, and the schedule
stays closed equally long from what either clock shows. -/
theorem answersAlike_iff (h : t.instant = u.instant) : s.AnswersAlike t u ↔
    (∃ a, s.nextOpen t = .ok a) ∧ (∃ b, s.nextOpen u = .ok b) ∧
      s.idle t.timeOfDay = s.idle u.timeOfDay := by
  rw [← findsAlike_iff h]
  refine ⟨AnswersAlike.nextOpen, fun hfinds => ?_⟩
  obtain ⟨-, -, hidle⟩ := (findsAlike_iff h).1 hfinds
  have hopen : s.isOpen t = s.isOpen u := isOpen_eq_iff.2 (by rw [hidle])
  refine ⟨hopen, hfinds, fun row hrow name d => ?_⟩
  rw [Scheduler.perform_isDue hrow, Scheduler.perform_isDue hrow,
    (isDue_eq_iff h row.nextDue).2 (.inl hopen)]

/-- Some schedule is open for one hour of the day only, and that is none of two hours. -/
theorem exists_single_hour (a b : Nat) : ∃ (s : Schedule) (w : Window),
    s.windows = [w] ∧ w.closes = w.opens + 1 ∧ w.opens ≠ a ∧ w.opens ≠ b := by
  have hour : ∀ (w : Window) (text : String), Window.readIntervals text = .ok [w] →
      ∃ s : Schedule, s.windows = [w] := fun w text h =>
    ⟨⟨"a", 1, 0, text, [w], by decide, by decide, by decide, h⟩, rfl⟩
  obtain ⟨s₀, h₀⟩ := hour ⟨0, 1, by decide, by decide⟩ "0-1" (by decide)
  obtain ⟨s₁, h₁⟩ := hour ⟨1, 2, by decide, by decide⟩ "1-2" (by decide)
  obtain ⟨s₂, h₂⟩ := hour ⟨2, 3, by decide, by decide⟩ "2-3" (by decide)
  by_cases hzero : 0 ≠ a ∧ 0 ≠ b
  · exact ⟨s₀, _, h₀, rfl, hzero⟩
  · by_cases hone : 1 ≠ a ∧ 1 ≠ b
    · exact ⟨s₁, _, h₁, rfl, hone⟩
    · exact ⟨s₂, _, h₂, rfl, by dsimp only; omega, by dsimp only; omega⟩

theorem exists_nextOpen_of_hasRoom (h : t.HasRoom) : ∃ o, s.nextOpen t = .ok o := by
  cases hdis : s.isDisabled with
  | true => exact ⟨none, nextOpen_of_isDisabled hdis t⟩
  | false =>
    obtain ⟨r, hnext, -⟩ := nextOpen_of_inReach hdis (inReach_of_hasRoom h)
    exact ⟨some r, hnext⟩

/-- A schedule with a single hour is closed at any other hour. -/
theorem closed_of_single_hour {w : Window} (hs : s.windows = [w]) (hw : w.closes = w.opens + 1)
    (ht : w.opens ≠ t.hour) : s.isOpen t = false := by
  have hcovers : w.covers t.hour = false := by
    rw [Window.covers, if_pos (by omega), hw]
    simp only [Bool.and_eq_false_iff, decide_eq_false_iff_not]
    omega
  rw [isOpen, hs, List.any_cons, hcovers]
  rfl

/-- It stays closed until the hour begins. -/
theorem idle_of_single_hour {w : Window} (hs : s.windows = [w]) (hw : w.closes = w.opens + 1)
    (ht : w.opens ≠ t.hour) : s.idle t.timeOfDay = some (w.wait t.timeOfDay) := by
  have hsome : [w].filter (!·.isEmpty) = [w] := by
    simp [Window.isEmpty, hw]
  rw [idle_of_closed (closed_of_single_hour hs hw ht), waits, hs, hsome,
    List.map_singleton, List.min?_singleton]

/-- Clocks that show different times of day are told apart by some schedule. -/
theorem timeOfDay_eq_of_answersAlike (h : t.instant = u.instant)
    (hall : ∀ s : Schedule, s.AnswersAlike t u) : t.timeOfDay = u.timeOfDay := by
  obtain ⟨s, w, hs, hw, ht, hu⟩ := exists_single_hour t.hour u.hour
  obtain ⟨-, -, hidle⟩ := (answersAlike_iff h).1 (hall s)
  rw [idle_of_single_hour hs hw ht, idle_of_single_hour hs hw hu] at hidle
  exact Window.wait_injective t.timeOfDay_lt u.timeOfDay_lt (Option.some.inj hidle)

/-- Windows are about what a clock shows. For two clocks that show one instant the answers of a
schedule are alike exactly as said: to be open, if it stays closed for no time from what the one shows
just if it does from what the other shows; to open next, if both searches end and it stays closed for
the same time; to be due, if it is open for both or neither or the connector has to wait anyway. All of
this holds, for whatever is stored, exactly if the searches end alike. Away from the ends of the
calendar the answers of every schedule are alike exactly if the offsets differ by whole days. -/
theorem windows_go_by_the_clock (h : t.instant = u.instant) :
    (∀ s : Schedule,
      (s.isOpen t = s.isOpen u ↔
        (s.idle t.timeOfDay = some 0 ↔ s.idle u.timeOfDay = some 0)) ∧
      (s.FindsAlike t u ↔ (∃ a, s.nextOpen t = .ok a) ∧ (∃ b, s.nextOpen u = .ok b) ∧
        s.idle t.timeOfDay = s.idle u.timeOfDay) ∧
      (∀ row : ScheduleRow, parse row.text = .ok s → ∀ name d,
        ((Scheduler.isDue t name row).perform d = (Scheduler.isDue u name row).perform d ↔
          s.isOpen t = s.isOpen u ∨ ∃ due, row.nextDue = some due ∧ t.instant < due.instant)) ∧
      (s.AnswersAlike t u ↔ s.FindsAlike t u)) ∧
    (t.HasRoom → u.HasRoom →
      ((∀ s : Schedule, s.AnswersAlike t u) ↔
        (t.offset.getD 0 - u.offset.getD 0) % 1440 = 0)) := by
  refine ⟨fun s => ⟨isOpen_eq_iff, findsAlike_iff h, fun row hrow name d => ?_, ?_⟩,
    fun ht hu => ?_⟩
  · rw [Scheduler.perform_isDue hrow, Scheduler.perform_isDue hrow, ← isDue_eq_iff h]
    simp
  · rw [answersAlike_iff h, findsAlike_iff h]
  · rw [← DateTime.timeOfDay_eq_iff h]
    refine ⟨timeOfDay_eq_of_answersAlike h, fun htime s => (answersAlike_iff h).2 ⟨?_, ?_, ?_⟩⟩
    · exact exists_nextOpen_of_hasRoom ht
    · exact exists_nextOpen_of_hasRoom hu
    · rw [htime]

/-- A time in the form in which it is written. -/
def timeAt (text : String) (h : (DateTime.read? text).isSome = true := by decide +kernel) : DateTime :=
  (DateTime.read? text).get h

/-- A schedule that is open during the day. -/
def officeHours : Schedule := (parse "a:1:0:9-17").toOption.get (by decide +kernel)

/-- On the two sides of the date line the clocks show the same time of two days. A schedule that is
open at night is open for all clocks from which the night is seen, and a connector whose time has not
come waits by every clock, though the office is open by one of them only. -/
theorem windows_go_by_the_clock_abroad :
    (∀ s : Schedule,
      s.AnswersAlike (timeAt "2024-01-02T00:30:00+12:00") (timeAt "2024-01-01T00:30:00-12:00")) ∧
    nightly.AnswersAlike (timeAt "2024-01-01T23:00:00+00:00")
      (timeAt "2024-01-02T04:30:00+05:30") ∧
    ∀ d, (Scheduler.isDue (timeAt "2024-01-01T12:00:00+00:00") "a"
        ⟨"a:1:0:9-17", none, some (timeAt "2024-01-02T09:00:00")⟩).perform d =
      (Scheduler.isDue (timeAt "2024-01-01T17:30:00+05:30") "a"
        ⟨"a:1:0:9-17", none, some (timeAt "2024-01-02T09:00:00")⟩).perform d := by
  have heast : (timeAt "2024-01-02T00:30:00+12:00").HasRoom :=
    ⟨by decide +kernel, by decide +kernel, by decide +kernel⟩
  have hwest : (timeAt "2024-01-01T00:30:00-12:00").HasRoom :=
    ⟨by decide +kernel, by decide +kernel, by decide +kernel⟩
  have hnight : (timeAt "2024-01-01T23:00:00+00:00").HasRoom :=
    ⟨by decide +kernel, by decide +kernel, by decide +kernel⟩
  have hmorning : (timeAt "2024-01-02T04:30:00+05:30").HasRoom :=
    ⟨by decide +kernel, by decide +kernel, by decide +kernel⟩
  have hparse : parse "a:1:0:9-17" = .ok officeHours := by decide +kernel
  have hdateline : (timeAt "2024-01-02T00:30:00+12:00").instant =
      (timeAt "2024-01-01T00:30:00-12:00").instant := by decide +kernel
  have hnightly : (timeAt "2024-01-01T23:00:00+00:00").instant =
      (timeAt "2024-01-02T04:30:00+05:30").instant := by decide +kernel
  have hnoon : (timeAt "2024-01-01T12:00:00+00:00").instant =
      (timeAt "2024-01-01T17:30:00+05:30").instant := by decide +kernel
  refine ⟨((windows_go_by_the_clock hdateline).2 heast hwest).2 (by decide +kernel), ?_, fun d => ?_⟩
  · obtain ⟨-, hfinds, -, halike⟩ := (windows_go_by_the_clock hnightly).1 nightly
    exact halike.2 (hfinds.2 ⟨exists_nextOpen_of_hasRoom hnight,
      exists_nextOpen_of_hasRoom hmorning, by decide +kernel⟩)
  · obtain ⟨-, -, hdue, -⟩ := (windows_go_by_the_clock hnoon).1 officeHours
    exact (hdue _ hparse "a" d).2 (.inr ⟨_, rfl, by decide +kernel⟩)

/-- At noon in UTC the office is open, but not for a clock that shows half past five then; a connector
that is due by the one has to wait for more than half a day by the other. -/
theorem office_closed_abroad :
    let noon := timeAt "2024-01-01T12:00:00+00:00"
    let evening := timeAt "2024-01-01T17:30:00+05:30"
    let morning := timeAt "2024-01-02T09:00:00+05:30"
    noon.instant = evening.instant ∧
      officeHours.isOpen noon = true ∧ officeHours.isOpen evening = false ∧
      officeHours.nextOpen noon = .ok (some noon) ∧
      officeHours.nextOpen evening = .ok (some morning) ∧ noon.instant < morning.instant ∧
      officeHours.isDue none noon = true ∧ officeHours.isDue none evening = false := by
  decide +kernel

end Schedule

end ConnectorHub
