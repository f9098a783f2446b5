import ConnectorHub.Schedule.Opening

/-! When a schedule opens next. Of all times from a given one on, on the clock that shows it, the one
that is found is the earliest at which some window is open. Only openings of windows are compared;
this is enough, since a window that is closed comes to be open only by opening. -/
namespace ConnectorHub

open Time

namespace Window

/-- A window that is ever open is open when it opens. -/
theorem covers_opens {w : Window} (h : w.isEmpty = false) : w.covers w.opens = true := by
  have hne : w.opens ≠ w.closes := by simpa [isEmpty] using h
  unfold covers
  split
  · simpa
  · rw [if_pos (by omega)]
    simp

theorem isEmpty_of_covers {w : Window} {h : Nat} (hw : w.covers h = true) : w.isEmpty = false := by
  have hne : w.opens ≠ w.closes := by
    intro he
    simp [covers, he] at hw
  simpa [isEmpty] using hne

/-- A window opens at its hour of some day, and within a day from any time. -/
theorem nextOpening_spec (w : Window) (t : DateTime) :
    t.micros < w.nextOpening t ∧ w.nextOpening t ≤ t.micros + microsPerDay ∧
      ∃ day, w.nextOpening t = day * microsPerDay + w.opens * microsPerHour := by
  have hopens := w.opens_le
  have hday : microsPerDay = 86400000000 := rfl
  have hhour : microsPerHour = 3600000000 := rfl
  simp only [nextOpening, DateTime.dayStart, hday, hhour]
  by_cases h : t.micros < t.micros / 86400000000 * 86400000000 + w.opens * 3600000000
  · rw [if_pos h]
    exact ⟨h, by omega, _, rfl⟩
  · rw [if_neg h]
    exact ⟨by omega, by omega, t.micros / 86400000000 + 1, by omega⟩

theorem hour_nextOpening (w : Window) (t : DateTime) (offset : Option Int) :
    (DateTime.mk (w.nextOpening t) offset).hour = w.opens := by
  obtain ⟨-, -, day, hday⟩ := w.nextOpening_spec t
  have hopens := w.opens_le
  have hmicros : microsPerDay = 24 * microsPerHour := rfl
  have hpos : 0 < microsPerHour := by decide
  rw [DateTime.hour, hday, hmicros, ← Nat.mul_assoc, ← Nat.add_mul, Nat.mul_div_cancel _ hpos]
  omega

/-- A window that is closed at one time and open at a later one has opened in between. -/
theorem nextOpening_le {w : Window} {t u : DateTime} (h : t.micros ≤ u.micros)
    (ht : w.covers t.hour = false) (hu : w.covers u.hour = true) :
    w.nextOpening t ≤ u.micros := by
  have hopens := w.opens_le
  have hday : microsPerDay = 86400000000 := rfl
  have hhour : microsPerHour = 3600000000 := rfl
  simp only [nextOpening, DateTime.dayStart, DateTime.hour, hday, hhour, covers] at ht hu ⊢
  by_cases hlt : w.opens < w.closes
  · simp only [hlt, if_true, Bool.and_eq_true, Bool.and_eq_false_iff, decide_eq_true_eq,
      decide_eq_false_iff_not] at ht hu
    split <;> omega
  · by_cases hgt : w.closes < w.opens
    · simp only [hlt, hgt, if_true, if_false, Bool.or_eq_true, Bool.or_eq_false_iff,
        decide_eq_true_eq, decide_eq_false_iff_not] at ht hu
      split <;> omega
    · simp [hlt, hgt] at hu

end Window

namespace Schedule

variable {s : Schedule} {t r : DateTime}

theorem isDisabled_iff : s.isDisabled = true ↔ ∀ w ∈ s.windows, w.opens = w.closes := by
  simp [isDisabled, Window.isEmpty]

/-- A schedule all of whose windows are empty is never open. -/
theorem isOpen_of_isDisabled (h : s.isDisabled = true) (t : DateTime) : s.isOpen t = false := by
  rw [isOpen, List.any_eq_false]
  intro w hw
  simp [Window.covers, isDisabled_iff.1 h w hw]

theorem nextOpen_of_isDisabled (h : s.isDisabled = true) (t : DateTime) :
    s.nextOpen t = .ok none := by
  have hnone : s.windows.filter (!·.isEmpty) = [] := by
    rw [List.filter_eq_nil_iff]
    intro w hw
    simpa using List.all_eq_true.1 h w hw
  rw [nextOpen, isOpen_of_isDisabled h, if_neg Bool.false_ne_true, openings, hnone]
  rfl

/-- The first of the times from `t` on, on the same clock, at which the schedule is open. -/
structure OpensFirst (s : Schedule) (t r : DateTime) : Prop where
  offset : r.offset = some (t.offset.getD 0)
  le : t.instant ≤ r.instant
  isOpen : s.isOpen r = true
  least : ∀ u : DateTime, u.offset.getD 0 = t.offset.getD 0 → t.instant ≤ u.instant →
    u.instant < r.instant → s.isOpen u = false

/-- Later times open later. -/
theorem OpensFirst.mono (h : s.OpensFirst t r) {t' r' : DateTime} (h' : s.OpensFirst t' r')
    (hoff : t'.offset.getD 0 = t.offset.getD 0) (hle : t.instant ≤ t'.instant) :
    r.instant ≤ r'.instant := by
  refine Int.not_lt.1 fun hlt => ?_
  have hclosed := h.least r' (by rw [h'.offset, Option.getD_some, hoff])
    (Int.le_trans hle h'.le) hlt
  exact Bool.false_ne_true (hclosed.symm.trans h'.isOpen)

theorem OpensFirst.unique {r' : DateTime} (h : s.OpensFirst t r) (h' : s.OpensFirst t r') :
    r = r' := by
  have hle := h.mono h' rfl (Int.le_refl _)
  have hge := h'.mono h rfl (Int.le_refl _)
  have hoff : r.offset = r'.offset := h.offset.trans h'.offset.symm
  simp only [DateTime.instant, hoff] at hle hge
  have hmicros : r.micros = r'.micros := by omega
  cases r
  cases r'
  simp_all

/-- It does not matter whether a clock without offset is said to show UTC. -/
theorem OpensFirst.of_inUtc (h : s.OpensFirst t.inUtc r) : s.OpensFirst t r :=
  ⟨h.offset, h.le, h.isOpen, h.least⟩

theorem OpensFirst.of_isOpen (h : s.isOpen t = true) : s.OpensFirst t t.inUtc where
  offset := rfl
  le := Int.le_refl _
  isOpen := h
  least _ _ hle hlt := absurd hlt (Int.not_lt.2 hle)

theorem OpensFirst.self (h : s.OpensFirst t r) : s.OpensFirst r r where
  offset := by rw [h.offset, Option.getD_some]
  le := Int.le_refl _
  isOpen := h.isOpen
  least _ _ hle hlt := absurd hlt (Int.not_lt.2 hle)

/-- When the windows that are ever open do so after a time, on the same clock. -/
def openingTimes (s : Schedule) (t : DateTime) : List DateTime :=
  (s.windows.filter (!·.isEmpty)).map fun w => { t with micros := w.nextOpening t }

theorem mem_openingTimes {u : DateTime} : u ∈ s.openingTimes t ↔
    ∃ w ∈ s.windows, w.isEmpty = false ∧ u = { t with micros := w.nextOpening t } := by
  simp only [openingTimes, List.mem_map, List.mem_filter, Bool.not_eq_true', and_assoc,
    eq_comm (a := u)]

theorem openingTimes_ne_nil (h : s.isDisabled = false) (t : DateTime) : s.openingTimes t ≠ [] := by
  rw [isDisabled, List.all_eq_false] at h
  obtain ⟨w, hw, hne⟩ := h
  exact List.ne_nil_of_mem (mem_openingTimes.2 ⟨w, hw, by simpa using hne, rfl⟩)

/-- The search for the next time at which a schedule is open does not leave the calendar. No search is
needed if the schedule is open. -/
def InReach (s : Schedule) (t : DateTime) : Prop :=
  s.isOpen t = true ∨
    t.isInCalendar = true ∧ ∀ u ∈ s.openingTimes t.inUtc, u.isInCalendar = true

/-- A search that comes to an opening in the calendar may begin. -/
theorem checkSearch_of_opening {w : Window} (hin : t.isInCalendar = true)
    (hw : ({ t with micros := w.nextOpening t } : DateTime).isInCalendar = true) :
    checkSearch t = .ok () := by
  obtain ⟨hlater, -, day, hday⟩ := w.nextOpening_spec t
  have hminutes : microsPerMinute = 60000000 := rfl
  have hhours : microsPerHour = 3600000000 := rfl
  have hdays : microsPerDay = 86400000000 := rfl
  have hend : endOfTime = 3652059 * 86400000000 := rfl
  -- Openings and the end of the calendar fall on whole minutes, on whatever clock.
  have hnext : ¬ (endOfTime : Int) ≤ t.instant + microsPerMinute ∧
      ({ t with micros := t.micros + microsPerMinute } : DateTime).isInCalendar = true := by
    simp only [DateTime.isInCalendar, DateTime.instant, Bool.and_eq_true,
      decide_eq_true_eq, hminutes, hhours, hdays, hend] at hin hw hday ⊢
    omega
  rw [checkSearch, if_neg (by simp [hin]), if_neg hnext.1, if_neg (by simp [hnext.2])]

/-- The openings are found exactly if they, and the time from which they are searched, are in the
calendar. -/
theorem openings_eq_ok_iff (h : s.isDisabled = false) (times : List DateTime) :
    s.openings t = .ok times ↔ times = s.openingTimes t ∧ t.isInCalendar = true ∧
      ∀ u ∈ s.openingTimes t, u.isInCalendar = true := by
  have hsome := openingTimes_ne_nil h t
  have hopenings : s.openings t = (checkSearch t).bind fun _ =>
      if (s.openingTimes t).all (·.isInCalendar) then .ok (s.openingTimes t)
      else .error .outOfRange := by
    unfold openings
    split
    · rename_i hnil
      exact absurd (by rw [openingTimes, hnil]; rfl) hsome
    · rfl
  obtain ⟨u, hu⟩ := List.exists_mem_of_ne_nil _ hsome
  obtain ⟨w, -, -, rfl⟩ := mem_openingTimes.1 hu
  rw [hopenings]
  constructor
  · intro hok
    cases hc : checkSearch t with
    | error e =>
      rw [hc] at hok
      cases hok
    | ok _ =>
      have hin : t.isInCalendar = true := by
        cases hin : t.isInCalendar with
        | true => rfl
        | false =>
          rw [checkSearch, if_pos (by simp [hin])] at hc
          cases hc
      rw [hc] at hok
      simp only [Except.bind] at hok
      split at hok
      · rename_i hall
        exact ⟨(Except.ok.inj hok).symm, hin, List.all_eq_true.1 hall⟩
      · cases hok
  · rintro ⟨rfl, hin, hall⟩
    rw [checkSearch_of_opening hin (hall _ hu)]
    exact if_pos (List.all_eq_true.2 hall)

/-- The earliest opening of a schedule that is closed is the first time at which it is open. -/
theorem opensFirst_of_earliest {m : Nat} (hoff : t.offset.isSome) (hclosed : s.isOpen t = false)
    (hm : earliest? (s.openingTimes t) = some m) : s.OpensFirst t { t with micros := m } := by
  obtain ⟨hmem, hmin⟩ := List.min?_eq_some_iff.1 hm
  obtain ⟨u, hu, rfl⟩ := List.mem_map.1 hmem
  obtain ⟨w, hw, hne, rfl⟩ := mem_openingTimes.1 hu
  obtain ⟨hlater, -, -⟩ := w.nextOpening_spec t
  refine ⟨?_, ?_, List.any_eq_true.2 ⟨w, hw, ?_⟩, ?_⟩
  · obtain ⟨o, ho⟩ := Option.isSome_iff_exists.1 hoff
    simp [ho]
  · simp only [DateTime.instant]
    omega
  · rw [Window.hour_nextOpening]
    exact Window.covers_opens hne
  · intro u hoff hle hlt
    simp only [DateTime.instant, hoff] at hle hlt
    -- A window that were open at `u` would have opened before the earliest opening.
    rw [isOpen, List.any_eq_false] at hclosed ⊢
    intro v hv hopen
    have hopening : v.nextOpening t ≤ u.micros :=
      Window.nextOpening_le (by omega) (Bool.eq_false_iff.2 (hclosed v hv)) hopen
    have hfirst : w.nextOpening t ≤ v.nextOpening t := hmin _ (List.mem_map.2
      ⟨_, mem_openingTimes.2 ⟨v, hv, Window.isEmpty_of_covers hopen, rfl⟩, rfl⟩)
    omega

/-- A search that does not leave the calendar finds the first time at which the schedule is open. -/
theorem nextOpen_of_inReach (h : s.isDisabled = false) (hr : s.InReach t) :
    ∃ r, s.nextOpen t = .ok (some r) ∧ s.OpensFirst t r := by
  by_cases hopen : s.isOpen t = true
  · exact ⟨t.inUtc, if_pos hopen, .of_isOpen hopen⟩
  · have hfound : s.openings t.inUtc = .ok (s.openingTimes t.inUtc) :=
      (openings_eq_ok_iff h _).2 ⟨rfl, hr.resolve_left hopen⟩
    cases he : earliest? (s.openingTimes t.inUtc) with
    | none =>
      exact absurd (List.map_eq_nil_iff.1 (List.min?_eq_none_iff.1 he)) (openingTimes_ne_nil h _)
    | some m =>
      have hclosed : ¬ s.isOpen t.inUtc = true := hopen
      refine ⟨{ t.inUtc with micros := m }, ?_,
        .of_inUtc (opensFirst_of_earliest rfl (Bool.eq_false_iff.2 hclosed) he)⟩
      rw [nextOpen, if_neg hclosed, hfound]
      simp [Except.map, he]

/-- Nothing else is found, and not if the search leaves the calendar. -/
theorem nextOpen_eq_ok_iff (h : s.isDisabled = false) (o : Option DateTime) :
    s.nextOpen t = .ok o ↔ s.InReach t ∧ ∃ r, o = some r ∧ s.OpensFirst t r := by
  constructor
  · intro hok
    have hr : s.InReach t := by
      by_cases hopen : s.isOpen t.inUtc = true
      · exact .inl hopen
      · cases ho : s.openings t.inUtc with
        | error e =>
          rw [nextOpen, if_neg hopen, ho] at hok
          cases hok
        | ok times => exact .inr ((openings_eq_ok_iff h times).1 ho).2
    obtain ⟨r, hnext, hfirst⟩ := nextOpen_of_inReach h hr
    exact ⟨hr, r, Except.ok.inj (hok.symm.trans hnext), hfirst⟩
  · rintro ⟨hr, r, rfl, hfirst⟩
    obtain ⟨r', hnext, hfirst'⟩ := nextOpen_of_inReach h hr
    rw [hnext, hfirst.unique hfirst']

/-- Where the search does not leave the calendar, and only there, the earliest time is found at which
the schedule is open, from the given one on and on the same clock: the given time exactly if the
schedule is open then, the same time if it is searched from there, and no earlier one if it is
searched from a later time. There is none if no window is ever open. -/
theorem nextOpen_is_earliest (s : Schedule) (t : DateTime) :
    (s.isDisabled = true → (∀ u, s.isOpen u = false) ∧ s.nextOpen t = .ok none) ∧
    (s.isDisabled = false →
      ((∃ o, s.nextOpen t = .ok o) ↔ s.InReach t) ∧
      (s.InReach t → ∃ r, s.nextOpen t = .ok (some r) ∧ s.OpensFirst t r ∧
        (r = t.inUtc ↔ s.isOpen t = true) ∧ s.nextOpen r = .ok (some r) ∧
        ∀ t' r', t'.offset.getD 0 = t.offset.getD 0 → t.instant ≤ t'.instant →
          s.nextOpen t' = .ok (some r') → r.instant ≤ r'.instant)) := by
  refine ⟨fun h => ⟨isOpen_of_isDisabled h, nextOpen_of_isDisabled h t⟩, fun h => ⟨⟨?_, ?_⟩, ?_⟩⟩
  · rintro ⟨o, ho⟩
    exact ((nextOpen_eq_ok_iff h o).1 ho).1
  · intro hr
    obtain ⟨r, hnext, -⟩ := nextOpen_of_inReach h hr
    exact ⟨_, hnext⟩
  · intro hr
    obtain ⟨r, hnext, hfirst⟩ := nextOpen_of_inReach h hr
    refine ⟨r, hnext, hfirst, ⟨?_, fun hopen => hfirst.unique (.of_isOpen hopen)⟩, ?_, ?_⟩
    · rintro rfl
      exact hfirst.isOpen
    · exact (nextOpen_eq_ok_iff h _).2 ⟨.inl hfirst.isOpen, r, rfl, hfirst.self⟩
    · intro t' r' hoff hle hnext'
      obtain ⟨-, r'', hr'', hfirst'⟩ := (nextOpen_eq_ok_iff h _).1 hnext'
      cases hr''
      exact hfirst.mono hfirst' hoff hle

/-- A schedule with windows that overlap and touch, in no order, and one that is never open. -/
def patchwork : Schedule where
  connector := "patch"
  load := 9
  retryDelay := 0
  intervals := "10-12:8-9:9-11:14-14"
  windows := [⟨10, 12, by decide, by decide⟩, ⟨8, 9, by decide, by decide⟩,
    ⟨9, 11, by decide, by decide⟩, ⟨14, 14, by decide, by decide⟩]
  connector_ne := by decide
  colon_notin := by decide
  load_pos := by decide
  windows_eq := rfl

/-- A schedule that is never open. -/
def shut : Schedule :=
  { patchwork with
    intervals := "14-14"
    windows := [⟨14, 14, by decide, by decide⟩]
    windows_eq := rfl }

/-- The afternoon of the last day of a year, on a clock that is ahead of UTC. -/
def newYearsEve : DateTime :=
  ⟨(⟨2023, 12, 31⟩ : Date).dayNumber * microsPerDay + 13 * microsPerHour, some 330⟩

/-- The first morning of the next year. -/
def newYear : DateTime :=
  ⟨(⟨2024, 1, 1⟩ : Date).dayNumber * microsPerDay + 8 * microsPerHour, some 330⟩

theorem patchwork_opens_in_newYear :
    (∃ r, patchwork.nextOpen newYearsEve = .ok (some r) ∧ patchwork.OpensFirst newYearsEve r ∧
      r.instant ≤ newYear.instant) ∧ shut.nextOpen newYear = .ok none := by
  have hreach : patchwork.InReach newYearsEve := .inr (by decide +kernel)
  have hopen : patchwork.isOpen newYear = true := by decide +kernel
  have hagain : patchwork.nextOpen newYear = .ok (some newYear) :=
    (nextOpen_eq_ok_iff (by decide) _).2 ⟨.inl hopen, _, rfl, .of_isOpen hopen⟩
  obtain ⟨-, hopens⟩ := (nextOpen_is_earliest patchwork newYearsEve).2 (by decide)
  obtain ⟨r, hnext, hfirst, -, -, hmono⟩ := hopens hreach
  exact ⟨⟨r, hnext, hfirst, hmono newYear newYear rfl (by decide +kernel) hagain⟩,
    ((nextOpen_is_earliest shut newYear).1 (by decide)).2⟩

end Schedule

end ConnectorHub
