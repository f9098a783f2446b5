import ConnectorHub.FeederGate
import ConnectorHub.Failure.Basic
import ConnectorHub.Proofs.FormData
import ConnectorHub.Proofs.IntegerLiterals
import ConnectorHub.Proofs.JsonText
import Mathlib.Algebra.Order.Floor.Semifield
import Mathlib.Data.Rat.Floor

/-! A file of the feeder gate with any contents. Whatever does not describe a gate is told as a file
that cannot be read, but for values of the wrong kind: they end in failures of other kinds. -/
namespace ConnectorHub

open Number

/-- What is left of a number without its fraction. -/
theorem Number.Binary64.truncate_eq (negative : Bool) (m : Nat) (e : Int) :
    truncate negative m e = signed negative ⌊(m : ℚ) * 2 ^ e⌋₊ := by
  have hfloor : ⌊(m : ℚ) * 2 ^ e⌋₊ =
      if 0 ≤ e then m * twoTo e.toNat else m / twoTo (-e).toNat := by
    split
    case isTrue h =>
      obtain ⟨n, rfl⟩ := Int.eq_ofNat_of_zero_le h
      rw [zpow_natCast, ← Nat.cast_ofNat, ← Nat.cast_pow, ← Nat.cast_mul, Nat.floor_natCast]
      rfl
    case isFalse h =>
      obtain ⟨n, rfl⟩ : ∃ n : Nat, e = -n := ⟨(-e).toNat, by omega⟩
      rw [zpow_neg, zpow_natCast, ← div_eq_mul_inv, ← Nat.cast_ofNat, ← Nat.cast_pow,
        Nat.floor_div_eq_div, neg_neg]
      rfl
  rw [truncate, hfloor]
  rfl

namespace Json

/-- The value stands for a whole number, as a port does. -/
inductive StandsFor : Json → Int → Prop
  | integer (n : Int) : StandsFor (.integer n) n
  | yes : StandsFor (.bool true) 1
  | no : StandsFor (.bool false) 0
  | real (negative : Bool) (m : Nat) (e : Int) :
      StandsFor (.real (.finite negative m e)) (signed negative ⌊(m : ℚ) * 2 ^ e⌋₊)
  | text {s : String} {n : Int} (h : Literal s.toList n) : StandsFor (.text s) n

/-- The value cannot be taken for a whole number, and how that is told. -/
inductive NoNumber : Json → GateError → Prop
  | null : NoNumber .null .wrongShape
  | array (items : List Json) : NoNumber (.array items) .wrongShape
  | object (members : List (String × Json)) : NoNumber (.object members) .wrongShape
  | infinite (negative : Bool) : NoNumber (.real (.infinite negative)) .portTooLarge

/-- The value describes a gate. -/
inductive Describes : Json → FeederGate → Prop
  | intro {members : List (String × Json)} {host port : Json} {n : Int}
      (hhost : member? GateFile.hostName members = some host)
      (hport : member? GateFile.portName members = some port) (h : port.StandsFor n) :
      Describes (.object members) ⟨host, n⟩

/-- The value is of the wrong kind, or has both members and a port of the wrong kind. -/
inductive Misfit : Json → GateError → Prop
  | value {v : Json} (h : ∀ members, v ≠ .object members) : Misfit v .wrongShape
  | port {members : List (String × Json)} {host port : Json} {e : GateError}
      (hhost : member? GateFile.hostName members = some host)
      (hport : member? GateFile.portName members = some port) (h : port.NoNumber e) :
      Misfit (.object members) e

example : Misfit (.object [("feeder_gate_port", .real (.infinite false)), ("feeder_gate_host", .null)])
    .portTooLarge :=
  .port rfl rfl (.infinite false)

/-- Such values do not end in the failure that tells the file. -/
theorem Misfit.kind_ne {v : Json} {e : GateError} (h : v.Misfit e) :
    (Failure.gate e).kind ≠ .persistentStore := by
  cases h with
  | value => decide
  | port _ _ h => cases h <;> decide

theorem Misfit.ne_unreadable {v : Json} {e : GateError} {path : String} (h : v.Misfit e) :
    e ≠ .unreadable path := by
  rintro rfl
  exact h.kind_ne rfl

end Json

namespace GateFile

open Json Files

variable {f : GateFile} {t : Tree} {v : Json} {n : Int} {g : FeederGate} {e : GateError}
  {bytes : List UInt8}

/-- The bytes are a text that writes the value. -/
def Holds (bytes : List UInt8) (v : Json) : Prop :=
  ∃ text, Text.Utf8.decode? bytes = some text ∧ Json.read text = .ok v

theorem readPort_eq_ok_iff : f.readPort v = .ok n ↔ v.StandsFor n := by
  constructor
  · intro h
    cases v with
    | integer m => exact Except.ok.inj h ▸ .integer m
    | bool b =>
      obtain rfl := Except.ok.inj h
      cases b with
      | true => exact .yes
      | false => exact .no
    | real x =>
      cases x with
      | finite negative m e =>
        rw [← Except.ok.inj h, Binary64.truncate_eq]
        exact .real negative m e
      | _ => cases h
    | text s =>
      cases hs : readInteger s with
      | ok m =>
        rw [readPort, hs] at h
        exact Except.ok.inj h ▸ .text (literal_of_readInteger hs)
      | error e =>
        rw [readPort, hs] at h
        cases h
    | _ => cases h
  · intro h
    cases h with
    | real negative m e => rw [readPort, Binary64.truncate_eq]
    | text h =>
      rw [readPort, readInteger_of_literal h]
      rfl
    | _ => rfl

theorem readPort_eq_error_iff (he : e ≠ .unreadable f.shown) :
    f.readPort v = .error e ↔ v.NoNumber e := by
  constructor
  · intro h
    cases v with
    | null => exact Except.error.inj h ▸ .null
    | array items => exact Except.error.inj h ▸ .array items
    | object members => exact Except.error.inj h ▸ .object members
    | real x =>
      cases x with
      | infinite negative => exact Except.error.inj h ▸ .infinite negative
      | nan => exact absurd (Except.error.inj h).symm he
      | finite => cases h
    | text s =>
      rw [readPort] at h
      cases hs : readInteger s with
      | ok n =>
        rw [hs] at h
        cases h
      | error e =>
        rw [hs] at h
        exact absurd (Except.error.inj h).symm he
    | _ => cases h
  · rintro ⟨⟩ <;> rfl

theorem readValue_eq_ok_iff : f.readValue v = .ok g ↔ v.Describes g := by
  constructor
  · intro h
    cases v with
    | object members =>
      simp only [readValue] at h
      split at h
      · cases h
      · rename_i host hhost
        split at h
        · cases h
        · rename_i port hport
          cases hread : f.readPort port with
          | ok n =>
            rw [hread] at h
            exact Except.ok.inj h ▸ .intro hhost hport (readPort_eq_ok_iff.1 hread)
          | error e =>
            rw [hread] at h
            cases h
    | _ => cases h
  · rintro ⟨hhost, hport, h⟩
    simp only [readValue, hhost, hport, readPort_eq_ok_iff.2 h]
    rfl

theorem readValue_eq_error_iff (he : e ≠ .unreadable f.shown) :
    f.readValue v = .error e ↔ v.Misfit e := by
  constructor
  · intro h
    cases v with
    | object members =>
      simp only [readValue] at h
      split at h
      · exact absurd (Except.error.inj h).symm he
      · rename_i host hhost
        split at h
        · exact absurd (Except.error.inj h).symm he
        · rename_i port hport
          cases hread : f.readPort port with
          | ok n =>
            rw [hread] at h
            cases h
          | error e' =>
            rw [hread] at h
            obtain rfl := Except.error.inj h
            exact .port hhost hport ((readPort_eq_error_iff he).1 hread)
    | _ => exact Except.error.inj h ▸ .value nofun
  · intro h
    cases h with
    | value h =>
      cases v with
      | object members => exact absurd rfl (h members)
      | _ => rfl
    | port hhost hport h =>
      simp only [readValue, hhost, hport, (readPort_eq_error_iff he).2 h]
      rfl

/-- What is read from bytes that hold a value is what is read from the value. -/
theorem readBytes_of_holds (h : Holds bytes v) : f.readBytes bytes = f.readValue v := by
  obtain ⟨text, hdecode, hread⟩ := h
  simp only [readBytes, hdecode, hread]

theorem readBytes_of_not_holds (h : ∀ v, ¬ Holds bytes v) :
    f.readBytes bytes = .error (.unreadable f.shown) := by
  rw [readBytes]
  split
  case h_1 => rfl
  case h_2 text hdecode =>
    split
    case h_1 => rfl
    case h_2 v hread => exact absurd ⟨text, hdecode, hread⟩ (h v)

/-- The bytes hold at most one value. -/
theorem Holds.unique {w : Json} (h : Holds bytes v) (k : Holds bytes w) : w = v := by
  obtain ⟨text, hdecode, hread⟩ := h
  obtain ⟨text', hdecode', hread'⟩ := k
  obtain rfl := Option.some.inj (hdecode.symm.trans hdecode')
  exact Except.ok.inj (hread'.symm.trans hread)

theorem readBytes_eq_ok_iff : f.readBytes bytes = .ok g ↔ ∃ v, Holds bytes v ∧ v.Describes g := by
  by_cases hholds : ∃ v, Holds bytes v
  · obtain ⟨v, hv⟩ := hholds
    rw [readBytes_of_holds hv, readValue_eq_ok_iff]
    exact ⟨fun h => ⟨v, hv, h⟩, fun ⟨w, hw, h⟩ => hv.unique hw ▸ h⟩
  · have hnone := not_exists.1 hholds
    rw [readBytes_of_not_holds hnone]
    exact ⟨nofun, fun ⟨w, hw, _⟩ => absurd hw (hnone w)⟩

theorem readBytes_eq_error_iff (he : e ≠ .unreadable f.shown) :
    f.readBytes bytes = .error e ↔ ∃ v, Holds bytes v ∧ v.Misfit e := by
  by_cases hholds : ∃ v, Holds bytes v
  · obtain ⟨v, hv⟩ := hholds
    rw [readBytes_of_holds hv, readValue_eq_error_iff he]
    exact ⟨fun h => ⟨v, hv, h⟩, fun ⟨w, hw, h⟩ => hv.unique hw ▸ h⟩
  · have hnone := not_exists.1 hholds
    rw [readBytes_of_not_holds hnone]
    exact ⟨fun h => absurd (Except.error.inj h).symm he, fun ⟨w, hw, _⟩ => absurd hw (hnone w)⟩

theorem load_of_file (hfile : (t.resolve [] f.path).bind t.at? = some (.file bytes)) :
    f.load t = (f.readBytes bytes).map some := by
  rw [load, hfile]

/-- Every file is read as a gate or told as one that cannot be read, exactly if it does not hold a
value of the wrong kind. This is for values of any depth, and says nothing about a reader that gives up
on deep nesting because its stack is bounded. -/
theorem damaged_file_is_told_unless_misfit
    (hfile : (t.resolve [] f.path).bind t.at? = some (.file bytes)) :
    (((∃ g, f.load t = .ok (some g)) ∨ f.load t = .error (.unreadable f.shown)) ↔
      ∀ v, Holds bytes v → ∀ e, ¬ v.Misfit e) ∧
    (∀ g, f.load t = .ok (some g) ↔ ∃ v, Holds bytes v ∧ v.Describes g) ∧
    ∀ v e, Holds bytes v → v.Misfit e →
      f.load t = .error e ∧ (Failure.gate e).kind ≠ .persistentStore := by
  have hmisfit {v e} (hv : Holds bytes v) (h : v.Misfit e) : f.readBytes bytes = .error e :=
    (readBytes_eq_error_iff h.ne_unreadable).2 ⟨v, hv, h⟩
  rw [load_of_file hfile]
  refine ⟨⟨?_, fun hfit => ?_⟩, fun g => ?_, fun v e hv h => ?_⟩
  · intro hend v hv e h
    rw [hmisfit hv h] at hend
    rcases hend with ⟨g, hend⟩ | hend
    · cases hend
    · exact h.ne_unreadable (Except.error.inj hend)
  · cases hread : f.readBytes bytes with
    | ok g => exact .inl ⟨g, rfl⟩
    | error e =>
      by_cases he : e = .unreadable f.shown
      · exact .inr (he ▸ rfl)
      · obtain ⟨v, hv, h⟩ := (readBytes_eq_error_iff he).1 hread
        exact absurd h (hfit v hv e)
  · rw [← readBytes_eq_ok_iff]
    cases f.readBytes bytes <;> simp [Except.map]
  · rw [hmisfit hv h]
    exact ⟨rfl, h.kind_ne⟩

/-- A file at the top of a tree. -/
def lone : GateFile := ⟨["manager.json"], "manager.json"⟩

/-- The tree that holds nothing but this text in that file. -/
def holding (text : String) : Tree :=
  ({} : Tree).put ["manager.json"] (.file (Text.Utf8.encode text))

theorem resolve_holding (text : String) :
    ((holding text).resolve [] lone.path).bind (holding text).at? =
      some (.file (Text.Utf8.encode text)) :=
  rfl

theorem holds_encode {text : String} (h : Json.read text = .ok v) :
    Holds (Text.Utf8.encode text) v :=
  ⟨text, Text.Utf8.decode?_encode text, h⟩

/-- A text whose port is a text as well. -/
def oddText : String := Json.writeMembers [(hostName, .text "gate"), (portName, .text " +1_0\n")]

theorem damaged_file_is_told_unless_misfit_odd :
    ((holding oddText).resolve [] lone.path).bind (holding oddText).at? =
      some (.file (Text.Utf8.encode oddText)) ∧
    lone.load (holding oddText) = .ok (some ⟨.text "gate", 10⟩) := by
  have hfile := resolve_holding oddText
  have hread : Json.read oddText =
      .ok (.object [(hostName, .text "gate"), (portName, .text " +1_0\n")]) :=
    Json.read_writeMembers (by simp) (by simp [Json.Plain]) (by decide : [hostName, portName].Nodup)
  have hport : Literal " +1_0\n".toList 10 := literal_of_readInteger (by decide +kernel)
  exact ⟨hfile, ((damaged_file_is_told_unless_misfit hfile).2.1 _).2
    ⟨_, holds_encode hread, .intro rfl rfl (.text hport)⟩⟩

/-- An empty array is a value of the wrong kind, and ends in a failure of another kind. -/
theorem empty_array_is_not_told :
    lone.load (holding "[]") = .error .wrongShape ∧
    ¬ ∀ (f : GateFile) (t : Tree) (bytes : List UInt8),
      (t.resolve [] f.path).bind t.at? = some (.file bytes) →
        ∀ e, f.load t = .error e → (Failure.gate e).kind = .persistentStore := by
  have hread : Json.read "[]" = .ok (.array []) := by rfl
  have hload : lone.load (holding "[]") = .error .wrongShape := by
    rw [load_of_file (resolve_holding _), readBytes_of_holds (holds_encode hread)]
    rfl
  refine ⟨hload, fun h => ?_⟩
  have := h lone (holding "[]") _ (resolve_holding _) .wrongShape hload
  cases this

end GateFile

end ConnectorHub
