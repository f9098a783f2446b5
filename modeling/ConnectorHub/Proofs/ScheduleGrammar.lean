import ConnectorHub.Failure.Basic
import ConnectorHub.Proofs.ScheduleText
import ConnectorHub.Proofs.UrlForm

/-! The texts of schedules, given by a grammar. A schedule is read from a text exactly if the text
follows the grammar, and it has the values that the grammar gives to the text. -/
namespace ConnectorHub

namespace Text

variable {p : Char → Bool} {cs : List Char}

theorem splitOn_eq_self (h : ∀ c ∈ cs, p c = false) : splitOn p cs = [cs] := by
  induction cs with
  | nil => rfl
  | cons c r ih =>
    obtain ⟨hc, hr⟩ := List.forall_mem_cons.1 h
    simp [splitOn, hc, ih hr, consHead]

theorem splitOn_append {sep : Char} (h : ∀ c ∈ cs, p c = false) (hs : p sep = true)
    (r : List Char) : splitOn p (cs ++ sep :: r) = cs :: splitOn p r := by
  induction cs with
  | nil => rw [List.nil_append, splitOn, if_pos hs]
  | cons c cs ih =>
    obtain ⟨hc, hcs⟩ := List.forall_mem_cons.1 h
    rw [List.cons_append, splitOn, if_neg (by simp [hc]), ih hcs, consHead]

/-- The first of several pieces stands in front of the first separator. -/
theorem of_splitAtMost {n : Nat} {a b : List Char} {pieces : List (List Char)}
    (h : splitAtMost p (n + 1) cs = a :: b :: pieces) :
    ∃ sep r, cs = a ++ sep :: r ∧ (∀ c ∈ a, p c = false) ∧ p sep = true ∧
      splitAtMost p n r = b :: pieces := by
  induction cs generalizing a with
  | nil => cases h
  | cons c cs ih =>
    rw [splitAtMost] at h
    split at h
    · rename_i hc
      obtain ⟨rfl, hr⟩ := List.cons.inj h
      exact ⟨c, cs, rfl, List.forall_mem_nil _, hc, hr⟩
    · rename_i hc
      cases hpieces : splitAtMost p (n + 1) cs with
      | nil =>
        rw [hpieces] at h
        cases h
      | cons x xs =>
        rw [hpieces] at h
        obtain ⟨rfl, rfl⟩ := List.cons.inj h
        obtain ⟨sep, r, rfl, hx, hs, hr⟩ := ih hpieces
        exact ⟨sep, r, rfl, List.forall_mem_cons.2 ⟨Bool.eq_false_iff.2 hc, hx⟩, hs, hr⟩

theorem forall_beq_eq_false_iff {c : Char} : (∀ d ∈ cs, (d == c) = false) ↔ c ∉ cs := by
  constructor
  · intro h hc
    simpa using h c hc
  · intro h d hd
    rw [beq_eq_false_iff_ne]
    rintro rfl
    exact h hd

end Text

open Text Number

namespace Window

/-- One or two digits that write a number. -/
structure Hour (cs : List Char) (n : Nat) : Prop where
  length : cs.length = 1 ∨ cs.length = 2
  digits : ∀ c ∈ cs, isDigit c = true
  value : digitsValue cs = n

/-- A window as it may be written: its hours with a hyphen between them and white space around. -/
inductive Chunk : List Char → Window → Prop
  | intro {w : Window} {before opens closes after : List Char}
      (hbefore : ∀ c ∈ before, isBlank c = true) (hopens : Hour opens w.opens)
      (hcloses : Hour closes w.closes) (hafter : ∀ c ∈ after, isBlank c = true) :
      Chunk (before ++ (opens ++ '-' :: closes) ++ after) w

/-- Windows with colons between them. -/
inductive Listing : List Char → List Window → Prop
  | one {cs w} (h : Chunk cs w) : Listing cs [w]
  | cons {cs w r ws} (h : Chunk cs w) (hr : Listing r ws) : Listing (cs ++ ':' :: r) (w :: ws)

/-- The interval text lists the windows; if it is empty, there are none. -/
def Lists (intervals : String) (windows : List Window) : Prop :=
  (intervals = "" ∧ windows = []) ∨ Listing intervals.toList windows

theorem isHourText_iff {cs : List Char} : isHourText cs = true ↔ Hour cs (digitsValue cs) := by
  simp only [isHourText, Bool.and_eq_true, Bool.or_eq_true, decide_eq_true_eq, List.all_eq_true]
  exact ⟨fun h => ⟨h.1, h.2, rfl⟩, fun h => ⟨h.length, h.digits⟩⟩

theorem Hour.notin {cs : List Char} {n : Nat} (h : Hour cs n) {c : Char}
    (hc : isDigit c = false) : c ∉ cs := fun hmem => by
  rw [h.digits c hmem] at hc
  cases hc

theorem Hour.not_isBlank {cs : List Char} {n : Nat} (h : Hour cs n) :
    ∀ c ∈ cs, isBlank c = false := fun c hc => not_isBlank_of_isDigit (h.digits c hc)

theorem ofHours?_eq_some_iff {opens closes : Nat} {w : Window} :
    ofHours? opens closes = some w ↔ w.opens = opens ∧ w.closes = closes := by
  unfold ofHours?
  constructor
  · intro h
    split at h
    · cases h
      exact ⟨rfl, rfl⟩
    · cases h
  · rintro ⟨rfl, rfl⟩
    rw [dif_pos ⟨w.opens_le, w.closes_le⟩]

theorem readChunk_of_chunk {cs : List Char} {w : Window} (h : Chunk cs w) :
    readChunk cs = .ok w := by
  cases h with
  | @intro _ before opens closes after hbefore hopens hcloses hafter =>
    have hinside : ∀ c ∈ opens ++ '-' :: closes, isBlank c = false := by
      intro c hc
      rcases List.mem_append.1 hc with hc | hc
      · exact hopens.not_isBlank c hc
      · rcases List.mem_cons.1 hc with rfl | hc
        · decide
        · exact hcloses.not_isBlank c hc
    have hours : ofHours? (digitsValue opens) (digitsValue closes) = some w :=
      ofHours?_eq_some_iff.2 ⟨hopens.value.symm, hcloses.value.symm⟩
    have hopensText : isHourText opens = true := isHourText_iff.2 ⟨hopens.1, hopens.2, rfl⟩
    have hclosesText : isHourText closes = true := isHourText_iff.2 ⟨hcloses.1, hcloses.2, rfl⟩
    rw [readChunk, trim_append hbefore hinside hafter, cut_append (hopens.notin (by decide))]
    simp only [hopensText, hclosesText, Bool.and_self, if_true, hours]

theorem chunk_of_readChunk {cs : List Char} {w : Window} (h : readChunk cs = .ok w) :
    Chunk cs w := by
  obtain ⟨before, after, hcs, hbefore, hafter⟩ := exists_eq_append_trim_append isBlank cs
  unfold readChunk at h
  split at h
  · rename_i opens closes hcut
    split at h
    · rename_i htexts
      obtain ⟨hopens, hcloses⟩ := (Bool.and_eq_true _ _).mp htexts
      split at h
      · rename_i w' hours
        cases h
        obtain ⟨ho, hc⟩ := ofHours?_eq_some_iff.1 hours
        rw [hcs, (of_cut_eq_some hcut).1]
        exact .intro hbefore (ho ▸ isHourText_iff.1 hopens) (hc ▸ isHourText_iff.1 hcloses) hafter
      · cases h
    · cases h
  · cases h

theorem Chunk.colon_notin {cs : List Char} {w : Window} (h : Chunk cs w) : ':' ∉ cs := by
  cases h with
  | intro hbefore hopens hcloses hafter =>
    have hblank : ∀ cs : List Char, (∀ c ∈ cs, isBlank c = true) → ':' ∉ cs :=
      fun cs hcs hmem => absurd (hcs _ hmem) (by decide)
    simp only [List.mem_append, List.mem_cons, not_or]
    exact ⟨⟨hblank _ hbefore, hopens.notin (by decide), by decide, hcloses.notin (by decide)⟩,
      hblank _ hafter⟩

theorem mapM_readChunk_of_listing {cs : List Char} {ws : List Window} (h : Listing cs ws) :
    (splitOn (· == ':') cs).mapM readChunk = .ok ws := by
  induction h with
  | one h =>
    rw [splitOn_eq_self (forall_beq_eq_false_iff.2 h.colon_notin)]
    simp [readChunk_of_chunk h]
  | cons h _ ih =>
    rw [splitOn_append (forall_beq_eq_false_iff.2 h.colon_notin) rfl, List.mapM_cons,
      readChunk_of_chunk h, ih]
    rfl

/-- The chunks are those before the first colon and those after it. -/
theorem listing_of_mapM_readChunk {cs : List Char} {ws : List Window}
    (h : (splitOn (· == ':') cs).mapM readChunk = .ok ws) : Listing cs ws := by
  by_cases hcolon : ':' ∈ cs
  · obtain ⟨a, r, hcs, ha⟩ := List.eq_append_cons_of_mem hcolon
    rw [hcs, splitOn_append (forall_beq_eq_false_iff.2 ha) rfl, List.mapM_cons] at h
    obtain ⟨w, hw, h⟩ := bind_eq_ok.1 h
    obtain ⟨rest, hrest, h⟩ := bind_eq_ok.1 h
    obtain rfl := Except.ok.inj h
    rw [hcs]
    exact .cons (chunk_of_readChunk hw) (listing_of_mapM_readChunk hrest)
  · rw [splitOn_eq_self (forall_beq_eq_false_iff.2 hcolon), List.mapM_cons] at h
    obtain ⟨w, hw, h⟩ := bind_eq_ok.1 h
    cases h
    exact .one (chunk_of_readChunk hw)
termination_by cs.length
decreasing_by
  rw [hcs, List.length_append, List.length_cons]
  omega

theorem readIntervals_eq_ok_iff {intervals : String} {ws : List Window} :
    readIntervals intervals = .ok ws ↔ Lists intervals ws := by
  unfold readIntervals Lists
  split
  · rename_i hempty
    subst hempty
    refine ⟨fun h => .inl ⟨rfl, (Except.ok.inj h).symm⟩, ?_⟩
    rintro (⟨-, rfl⟩ | h)
    · rfl
    · cases mapM_readChunk_of_listing h
  · rename_i hne
    refine ⟨fun h => .inr (listing_of_mapM_readChunk h), ?_⟩
    rintro (⟨hempty, -⟩ | h)
    · exact absurd hempty hne
    · exact mapM_readChunk_of_listing h

end Window

namespace Schedule

open Window

/-- The text of a schedule as it may be written, with the values that it gives. -/
inductive Written : String → String → Int → Int → String → List Window → Prop
  | intro {name a b intervals : String} {load delay : Int} {windows : List Window}
      (hname : name ≠ "") (hnameColon : ':' ∉ name.toList)
      (haColon : ':' ∉ a.toList) (hbColon : ':' ∉ b.toList)
      (hload : Literal a.toList load) (hdelay : Literal b.toList delay)
      (hloadPos : 1 ≤ load) (hdelayNonneg : 0 ≤ delay) (hintervals : Lists intervals windows) :
      Written (name ++ ":" ++ a ++ ":" ++ b ++ ":" ++ intervals) name load delay intervals windows

/-- A text that follows the grammar is read, and as the grammar says. -/
theorem parse_of_written {text name intervals : String} {load delay : Int} {windows : List Window}
    (h : Written text name load delay intervals windows) :
    ∃ s, parse text = .ok s ∧ s.connector = name ∧ s.load = load ∧ s.retryDelay = delay ∧
      s.intervals = intervals ∧ s.windows = windows := by
  cases h with
  | @intro _ a b _ _ _ _ hname hnameColon haColon hbColon hload hdelay hloadPos hdelayNonneg
      hintervals =>
    let s : Schedule := {
      connector := name, load := load.toNat, retryDelay := delay.toNat, intervals, windows
      connector_ne := hname
      colon_notin := hnameColon
      load_pos := by omega
      windows_eq := readIntervals_eq_ok_iff.2 hintervals }
    have hloadNat : (s.load : Int) = load := Int.toNat_of_nonneg (by omega)
    have hdelayNat : (s.retryDelay : Int) = delay := Int.toNat_of_nonneg hdelayNonneg
    refine ⟨s, ?_, rfl, hloadNat, hdelayNat, rfl, rfl⟩
    have hsplit := splitAtMost_parts (forall_beq_eq_false_iff.2 hnameColon)
      (forall_beq_eq_false_iff.2 haColon) (forall_beq_eq_false_iff.2 hbColon) intervals
    have hparts : ofParts name.toList a.toList b.toList intervals.toList = .ok s := by
      simp only [ofParts, readNumber, String.ofList_toList, readInteger_eq_ok_iff.2 hload,
        readInteger_eq_ok_iff.2 hdelay, ← hloadNat, ← hdelayNat]
      exact s.make_self
    rw [parse, hsplit]
    simp only [hparts]
    rfl

/-- A text that is read follows the grammar. -/
theorem written_of_parse {text : String} {s : Schedule} (h : parse text = .ok s) :
    Written text s.connector s.load s.retryDelay s.intervals s.windows := by
  unfold parse at h
  split at h
  · rename_i name a b intervals hsplit
    obtain ⟨c₁, r₁, htext, hname, hc₁, hsplit⟩ := of_splitAtMost hsplit
    obtain ⟨c₂, r₂, rfl, ha, hc₂, hsplit⟩ := of_splitAtMost hsplit
    obtain ⟨c₃, r₃, rfl, hb, hc₃, hsplit⟩ := of_splitAtMost hsplit
    obtain rfl : r₃ = intervals := by
      simpa only [splitAtMost, List.cons.injEq, and_true] using hsplit
    obtain rfl := eq_of_beq hc₁
    obtain rfl := eq_of_beq hc₂
    obtain rfl := eq_of_beq hc₃
    obtain ⟨load, hload, h⟩ := bind_eq_ok.1 (mapError_eq_ok.1 h)
    obtain ⟨delay, hdelay, hmake⟩ := bind_eq_ok.1 h
    have hload := readInteger_eq_ok_iff.1 (mapError_eq_ok.1 hload)
    have hdelay := readInteger_eq_ok_iff.1 (mapError_eq_ok.1 hdelay)
    obtain ⟨hconnector, rfl, rfl, hintervals⟩ := of_make hmake
    have hwritten : text = s.connector ++ ":" ++ String.ofList a ++ ":" ++ String.ofList b ++ ":" ++
        s.intervals := by
      rw [hconnector, hintervals, ← String.toList_inj, toList_parts, htext]
      simp only [String.toList_ofList]
    rw [hwritten]
    refine .intro s.connector_ne s.colon_notin ?_ ?_ hload hdelay ?_ ?_ ?_
    · rw [String.toList_ofList]
      exact forall_beq_eq_false_iff.1 ha
    · rw [String.toList_ofList]
      exact forall_beq_eq_false_iff.1 hb
    · have := s.load_pos
      omega
    · omega
    · exact readIntervals_eq_ok_iff.1 s.windows_eq
  · cases h

/-- The texts that are read as schedules are those of the grammar, and what is read are the values
that the grammar gives. Any other text is refused as a bad value. -/
theorem parse_accepts_grammar (text : String) :
    (∀ (name : String) (load delay : Int) (intervals : String) (windows : List Window),
      (∃ s, parse text = .ok s ∧ s.connector = name ∧ s.load = load ∧ s.retryDelay = delay ∧
          s.intervals = intervals ∧ s.windows = windows) ↔
        Written text name load delay intervals windows) ∧
    ((¬ ∃ name load delay intervals windows, Written text name load delay intervals windows) →
      ∃ e, parse text = .error e ∧ (Failure.schedule e).kind = .value) := by
  refine ⟨fun name load delay intervals windows => ⟨?_, parse_of_written⟩, fun hnot => ?_⟩
  · rintro ⟨s, h, rfl, rfl, rfl, rfl, rfl⟩
    exact written_of_parse h
  · cases h : parse text with
    | ok s => exact absurd ⟨_, _, _, _, _, written_of_parse h⟩ hnot
    | error e => exact ⟨e, rfl, rfl⟩

/-- A text with signs, blanks, zeros, underscores and digits of another script follows the grammar,
and one that ends with a colon too many does not. -/
theorem night_shift_follows_grammar :
    Written "night\nshift: +0_7:-00: 21-4 :٢-24" "night\nshift" 7 0 " 21-4 :٢-24"
        nightShift.windows ∧
      ∃ e, parse "night\nshift:7:0:21-4:" = .error e ∧ (Failure.schedule e).kind = .value := by
  have hread : parse "night\nshift: +0_7:-00: 21-4 :٢-24" = .ok nightShift := by decide +kernel
  have hrefused : (parse "night\nshift:7:0:21-4:").toOption = none := by decide +kernel
  refine ⟨((parse_accepts_grammar _).1 _ _ _ _ _).1 ⟨nightShift, hread, rfl, rfl, rfl, rfl, rfl⟩,
    (parse_accepts_grammar _).2 ?_⟩
  rintro ⟨name, load, delay, intervals, windows, hwritten⟩
  obtain ⟨s, hs, -⟩ := ((parse_accepts_grammar _).1 _ _ _ _ _).2 hwritten
  rw [hs] at hrefused
  cases hrefused

end Schedule

end ConnectorHub
