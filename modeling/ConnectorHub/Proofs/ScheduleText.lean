import ConnectorHub.Proofs.IntegerLiterals
import ConnectorHub.Schedule.Basic

/-! A schedule is read from the text that it is written as: its numbers are read as they were
written, and the first three colons are those between its parts. -/
namespace ConnectorHub

theorem bind_eq_ok {ε α β : Type} {x : Except ε α} {f : α → Except ε β} {b : β} :
    x >>= f = .ok b ↔ ∃ a, x = .ok a ∧ f a = .ok b := by
  cases x with
  | error e => exact ⟨nofun, nofun⟩
  | ok a => exact ⟨fun h => ⟨a, rfl, h⟩, fun ⟨_, ha, h⟩ => Except.ok.inj ha ▸ h⟩

theorem mapError_eq_ok {ε ε' α : Type} {x : Except ε α} {f : ε → ε'} {a : α} :
    x.mapError f = .ok a ↔ x = .ok a := by
  cases x with
  | error e => exact ⟨nofun, nofun⟩
  | ok b => simp only [Except.mapError, Except.ok.injEq]

namespace Text

variable {p : Char → Bool} {cs : List Char}

/-- The first piece ends at the first separator. -/
theorem splitAtMost_append {sep : Char} (h : ∀ c ∈ cs, p c = false) (hs : p sep = true) (n : Nat)
    (r : List Char) : splitAtMost p (n + 1) (cs ++ sep :: r) = cs :: splitAtMost p n r := by
  induction cs with
  | nil => simp [splitAtMost, hs]
  | cons c cs ih =>
    obtain ⟨hc, hcs⟩ := List.forall_mem_cons.1 h
    simp [splitAtMost, hc, ih hcs, consHead]

end Text

namespace Number

open Text

theorem colon_notin_of_writeInteger {n : Int} {text : String} (h : writeInteger n = .ok text) :
    ∀ c ∈ text.toList, (c == ':') = false := by
  rw [(of_writeInteger h).1]
  intro c hc
  rw [beq_eq_false_iff_ne]
  rintro rfl
  rcases List.mem_append.1 hc with hc | hc
  · split at hc <;> simp at hc
  · exact absurd (isDigit_of_mem_toDigits hc) (by decide)

end Number

namespace Schedule

open Text Number

/-- A schedule is valid. -/
theorem make_self (s : Schedule) : make s.connector s.load s.retryDelay s.intervals = .ok s := by
  have hname : ¬ (s.connector = "" ∨ ':' ∈ s.connector.toList) := by
    rintro (h | h)
    · exact s.connector_ne h
    · exact s.colon_notin h
  have hload : ¬ (s.load : Int) ≤ 0 := by
    have := s.load_pos
    omega
  rw [make, dif_neg hname, dif_neg hload, if_neg (by omega)]
  split
  · rename_i hw
    rw [s.windows_eq] at hw
    cases hw
  · rename_i windows hw
    obtain rfl : s.windows = windows := Except.ok.inj (s.windows_eq.symm.trans hw)
    rfl

/-- A valid schedule has the values that it was made of. -/
theorem of_make {name : String} {load retryDelay : Int} {intervals : String} {s : Schedule}
    (h : make name load retryDelay intervals = .ok s) :
    s.connector = name ∧ s.load = load ∧ s.retryDelay = retryDelay ∧ s.intervals = intervals := by
  unfold make at h
  split at h
  · cases h
  · split at h
    · cases h
    · split at h
      · cases h
      · split at h
        · cases h
        · cases h
          refine ⟨rfl, ?_, ?_, rfl⟩ <;> dsimp only <;> omega

theorem toList_parts (name a b intervals : String) :
    (name ++ ":" ++ a ++ ":" ++ b ++ ":" ++ intervals).toList =
      name.toList ++ ':' :: (a.toList ++ ':' :: (b.toList ++ ':' :: intervals.toList)) := by
  have hcolon : ":".toList = [':'] := rfl
  simp only [String.toList_append, hcolon, List.append_assoc, List.cons_append, List.nil_append]

/-- The text of a schedule is cut at the colons between its parts. -/
theorem splitAtMost_parts {name a b : String} (hname : ∀ c ∈ name.toList, (c == ':') = false)
    (ha : ∀ c ∈ a.toList, (c == ':') = false) (hb : ∀ c ∈ b.toList, (c == ':') = false)
    (intervals : String) :
    splitAtMost (· == ':') 3 (name ++ ":" ++ a ++ ":" ++ b ++ ":" ++ intervals).toList =
      [name.toList, a.toList, b.toList, intervals.toList] := by
  rw [toList_parts, splitAtMost_append hname rfl, splitAtMost_append ha rfl,
    splitAtMost_append hb rfl, splitAtMost]

/-- A schedule is read from the text that it is written as. -/
theorem parse_of_format {s : Schedule} {text : String} (h : s.format = .ok text) :
    parse text = .ok s := by
  unfold format at h
  split at h
  · cases h
  · cases h
  · rename_i load delay hload hdelay
    obtain rfl := Except.ok.inj h
    have hname : ∀ c ∈ s.connector.toList, (c == ':') = false := by
      intro c hc
      rw [beq_eq_false_iff_ne]
      rintro rfl
      exact s.colon_notin hc
    have hsplit := splitAtMost_parts hname (colon_notin_of_writeInteger hload)
      (colon_notin_of_writeInteger hdelay) s.intervals
    have hparts :
        ofParts s.connector.toList load.toList delay.toList s.intervals.toList = .ok s := by
      simp only [ofParts, readNumber, String.ofList_toList, readInteger_of_writeInteger hload,
        readInteger_of_writeInteger hdelay]
      exact s.make_self
    unfold parse
    rw [hsplit]
    simp only [hparts]
    rfl

/-- The numbers of the schedule are not too long to be written. -/
def Writable (s : Schedule) : Prop := s.load < 10 ^ maxDigits ∧ s.retryDelay < 10 ^ maxDigits

/-- The text of a schedule: its name, its numbers and its intervals between colons. -/
theorem format_eq_ok_iff {s : Schedule} {text : String} :
    s.format = .ok text ↔ s.Writable ∧ text = s.connector ++ ":" ++ decimal s.load ++ ":" ++
      decimal s.retryDelay ++ ":" ++ s.intervals := by
  unfold format
  constructor
  · intro h
    split at h
    · cases h
    · cases h
    · rename_i load delay hload hdelay
      obtain rfl := Except.ok.inj h
      obtain ⟨hl, rfl⟩ := writeInteger_eq_ok_iff.1 hload
      obtain ⟨hd, rfl⟩ := writeInteger_eq_ok_iff.1 hdelay
      exact ⟨⟨hl, hd⟩, rfl⟩
  · rintro ⟨⟨hl, hd⟩, rfl⟩
    have hload : writeInteger s.load = .ok (decimal s.load) := writeInteger_eq_ok_iff.2 ⟨hl, rfl⟩
    have hdelay : writeInteger s.retryDelay = .ok (decimal s.retryDelay) :=
      writeInteger_eq_ok_iff.2 ⟨hd, rfl⟩
    rw [hload, hdelay]

theorem natAbs_lt_of_readNumber {cs : List Char} {n : Int} (h : readNumber cs = .ok n) :
    n.natAbs < 10 ^ maxDigits :=
  natAbs_lt_of_readInteger (mapError_eq_ok.1 h)

/-- A schedule that was read can be written. -/
theorem writable_of_parse {text : String} {s : Schedule} (h : parse text = .ok s) : s.Writable := by
  unfold parse at h
  split at h
  · obtain ⟨load, hload, h⟩ := bind_eq_ok.1 (mapError_eq_ok.1 h)
    obtain ⟨delay, hdelay, hmake⟩ := bind_eq_ok.1 h
    obtain ⟨-, rfl, rfl, -⟩ := of_make hmake
    exact ⟨natAbs_lt_of_readNumber hload, natAbs_lt_of_readNumber hdelay⟩
  · cases h

/-- A valid schedule whose numbers are not too long is written as its name, its numbers and its
intervals, just as they are, and read from that text. So is every schedule that was read from any
text. No two schedules have the same text. -/
theorem text_round_trip :
    (∀ (name : String) (load retryDelay : Int) (intervals : String) (s : Schedule),
      make name load retryDelay intervals = .ok s →
      load < 10 ^ maxDigits → retryDelay < 10 ^ maxDigits →
      ∃ text, s.format = .ok text ∧
        text = name ++ ":" ++ decimal load ++ ":" ++ decimal retryDelay ++ ":" ++ intervals ∧
        parse text = .ok s) ∧
    (∀ (text : String) (s : Schedule), parse text = .ok s →
      ∃ text', s.format = .ok text' ∧ parse text' = .ok s) ∧
    ∀ (s s' : Schedule) (text : String), s.format = .ok text → s'.format = .ok text → s = s' := by
  refine ⟨?made, ?read, ?injective⟩
  case made =>
    intro name load retryDelay intervals s hs hload hdelay
    obtain ⟨rfl, rfl, rfl, rfl⟩ := of_make hs
    have hformat := format_eq_ok_iff.2 ⟨⟨by exact_mod_cast hload, by exact_mod_cast hdelay⟩, rfl⟩
    exact ⟨_, hformat, rfl, parse_of_format hformat⟩
  case read =>
    intro text s hs
    have hformat := format_eq_ok_iff.2 ⟨writable_of_parse hs, rfl⟩
    exact ⟨_, hformat, parse_of_format hformat⟩
  case injective =>
    intro s s' text hs hs'
    exact Except.ok.inj ((parse_of_format hs).symm.trans (parse_of_format hs'))

/-- A line feed in the name, and blanks and a digit of another script in the intervals. -/
def nightShift : Schedule where
  connector := "night\nshift"
  load := 7
  retryDelay := 0
  intervals := " 21-4 :٢-24"
  windows := [⟨21, 4, by decide, by decide⟩, ⟨2, 24, by decide, by decide⟩]
  connector_ne := by decide
  colon_notin := by decide
  load_pos := by decide
  windows_eq := by decide +kernel

/-- It is read from a text with signs, blanks and zeros at its numbers as well. -/
theorem night_shift_round_trip :
    make "night\nshift" 7 0 " 21-4 :٢-24" = .ok nightShift ∧
      parse "night\nshift: +0_7:-00: 21-4 :٢-24" = .ok nightShift ∧
      nightShift.format = .ok "night\nshift:7:0: 21-4 :٢-24" ∧
      parse "night\nshift:7:0: 21-4 :٢-24" = .ok nightShift ∧
      ∀ s, s.format = .ok "night\nshift:7:0: 21-4 :٢-24" → s = nightShift := by
  obtain ⟨made, read, injective⟩ := text_round_trip
  have hmake : make "night\nshift" 7 0 " 21-4 :٢-24" = .ok nightShift := nightShift.make_self
  have hread : parse "night\nshift: +0_7:-00: 21-4 :٢-24" = .ok nightShift := by decide +kernel
  have hsmall {n : Int} (hn : n < 10) : n < 10 ^ maxDigits :=
    lt_of_lt_of_le hn (le_self_pow₀ (by decide) (by decide))
  obtain ⟨text, hformat, rfl, -⟩ :=
    made _ _ _ _ nightShift hmake (hsmall (by decide)) (hsmall (by decide))
  obtain ⟨text', hformat', hparse⟩ := read _ nightShift hread
  obtain rfl := Except.ok.inj (hformat.symm.trans hformat')
  exact ⟨hmake, hread, hformat, hparse, fun s hs => injective s nightShift _ hs hformat⟩

end Schedule

end ConnectorHub
