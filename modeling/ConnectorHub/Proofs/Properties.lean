import ConnectorHub.Document.Property
import ConnectorHub.Proofs.IntegerLiterals

/-! Which properties of a document have a text. One that is null or empty is as good as lacking; any
other has a text unless it is a whole number that is too long to be written, or has one in it. -/
namespace ConnectorHub

open Number

theorem map_eq_error {ε α β : Type} {x : Except ε α} {f : α → β} {e : ε} :
    x.map f = .error e ↔ x = .error e := by
  cases x <;> simp [Except.map]

theorem Number.DecimalLayout.text_ne_nil (layout : DecimalLayout) (d : Decimal) :
    layout.text d ≠ [] := by
  unfold DecimalLayout.text
  dsimp only
  split
  · split
    · simp
    · split <;> simp
  · simp

theorem Number.Binary64.text_ne_empty (x : Binary64) : x.text ≠ "" := by
  unfold text
  cases x with
  | finite negative m e =>
    dsimp only
    rw [Ne, String.append_eq_empty_iff]
    rintro ⟨-, h⟩
    split at h
    · exact absurd h (by decide)
    · exact plainLayout.text_ne_nil _ (String.ofList_eq_empty_iff.1 h)
  | infinite negative => cases negative <;> decide
  | nan => decide

theorem Number.writeInteger_ne_empty (n : Int) : writeInteger n ≠ .ok "" := fun h => by
  obtain ⟨hchars, -⟩ := of_writeInteger h
  have hnil : Nat.toDigits 10 n.natAbs = [] := (List.append_eq_nil_iff.1 hchars.symm).2
  exact Nat.toDigits_ne_nil hnil

namespace Document

/-- A whole number that is too long to be written, or a value with such a number in it. -/
inductive IsUnwritable : Json → Prop
  | integer {n : Int} (long : 10 ^ maxDigits ≤ n.natAbs) : IsUnwritable (.integer n)
  | item {v : Json} {vs : List Json} (mem : v ∈ vs) (inner : IsUnwritable v) :
    IsUnwritable (.array vs)
  | member {m : String × Json} {ms : List (String × Json)} (mem : m ∈ ms)
    (inner : IsUnwritable m.2) : IsUnwritable (.object ms)

theorem isUnwritable_array_iff {vs : List Json} :
    IsUnwritable (.array vs) ↔ ∃ v ∈ vs, IsUnwritable v := by
  constructor
  · rintro (_ | ⟨mem, inner⟩)
    exact ⟨_, mem, inner⟩
  · rintro ⟨v, mem, inner⟩
    exact .item mem inner

theorem isUnwritable_object_iff {ms : List (String × Json)} :
    IsUnwritable (.object ms) ↔ ∃ m ∈ ms, IsUnwritable m.2 := by
  constructor
  · rintro (_ | _ | ⟨mem, inner⟩)
    exact ⟨_, mem, inner⟩
  · rintro ⟨m, mem, inner⟩
    exact .member mem inner

variable {e : IntegerError}

/-- One piece more than others fails to be written if it does, or if they do. -/
theorem bind_map_eq_error_iff {α β : Type} {x : Except IntegerError α}
    {xs : Except IntegerError (List β)} {f : α → List β → List β} {p q : Prop}
    (hx : ∀ e, x = .error e ↔ p ∧ e = .unprintable) (hxs : ∀ e, xs = .error e ↔ q ∧ e = .unprintable) :
    (x.bind fun a => xs.map (f a)) = .error e ↔ (p ∨ q) ∧ e = .unprintable := by
  cases x with
  | error e' =>
    obtain ⟨hp, rfl⟩ := (hx e').1 rfl
    simp [Except.bind, hp, eq_comm]
  | ok a =>
    have hp : ¬ p := fun h => nomatch (hx _).2 ⟨h, rfl⟩
    simpa [Except.bind, map_eq_error, hp] using hxs e

mutual

/-- A value has a text unless there is a number in it that is too long. -/
theorem innerText_eq_error_iff (v : Json) (e : IntegerError) :
    innerText v = .error e ↔ IsUnwritable v ∧ e = .unprintable := by
  cases v with
  | null => exact ⟨nofun, fun h => nomatch h.1⟩
  | bool b => exact ⟨nofun, fun h => nomatch h.1⟩
  | integer n =>
    have hlong : IsUnwritable (.integer n) ↔ 10 ^ maxDigits ≤ n.natAbs :=
      ⟨fun h => by cases h; assumption, .integer⟩
    rw [innerText, map_eq_error, writeInteger_eq_error_iff, hlong]
  | real x => exact ⟨nofun, fun h => nomatch h.1⟩
  | text s => exact ⟨nofun, fun h => nomatch h.1⟩
  | array vs => rw [innerText, map_eq_error, innerTexts_eq_error_iff, isUnwritable_array_iff]
  | object ms => rw [innerText, map_eq_error, memberTexts_eq_error_iff, isUnwritable_object_iff]

theorem innerTexts_eq_error_iff (vs : List Json) (e : IntegerError) :
    innerTexts vs = .error e ↔ (∃ v ∈ vs, IsUnwritable v) ∧ e = .unprintable := by
  cases vs with
  | nil => exact ⟨nofun, fun ⟨⟨_, h, _⟩, _⟩ => nomatch h⟩
  | cons v vs =>
    rw [innerTexts]
    simp only [List.mem_cons, exists_eq_or_imp]
    exact bind_map_eq_error_iff (innerText_eq_error_iff v) (innerTexts_eq_error_iff vs)

theorem memberTexts_eq_error_iff (ms : List (String × Json)) (e : IntegerError) :
    memberTexts ms = .error e ↔ (∃ m ∈ ms, IsUnwritable m.2) ∧ e = .unprintable := by
  cases ms with
  | nil => exact ⟨nofun, fun ⟨⟨_, h, _⟩, _⟩ => nomatch h⟩
  | cons m ms =>
    obtain ⟨k, v⟩ := m
    rw [memberTexts]
    simp only [List.mem_cons, exists_eq_or_imp]
    exact bind_map_eq_error_iff (innerText_eq_error_iff v) (memberTexts_eq_error_iff ms)

end

theorem textOf_eq_error_iff {v : Json} :
    textOf v = .error e ↔ IsUnwritable v ∧ e = .unprintable := by
  cases v with
  | text s => exact ⟨nofun, fun h => nomatch h.1⟩
  | _ =>
    rw [textOf, map_eq_error, innerText_eq_error_iff]
    exact nofun

/-- Nothing but the empty text has the empty text. -/
theorem textOf_eq_empty_iff {v : Json} : textOf v = .ok "" ↔ v = .text "" := by
  cases v with
  | null => simp [textOf, innerText, Except.map]
  | bool b => cases b <;> simp [textOf, innerText, Except.map]
  | integer n =>
    have hne := writeInteger_ne_empty n
    cases hw : writeInteger n with
    | error e => simp [textOf, innerText, hw, Except.map]
    | ok text => simpa [textOf, innerText, hw, Except.map] using hne
  | real x => simpa [textOf, innerText, Except.map] using x.text_ne_empty
  | text s => simp [textOf]
  | array vs => cases h : innerTexts vs <;> simp [textOf, innerText, h, Except.map]
  | object ms => cases h : memberTexts ms <;> simp [textOf, innerText, h, Except.map]

/-- A value that stands for none: null, the empty text, an empty array, or an array that begins with
null or the empty text. -/
inductive IsVoid : Json → Prop
  | null : IsVoid .null
  | emptyText : IsVoid (.text "")
  | emptyArray : IsVoid (.array [])
  | nullFirst (vs : List Json) : IsVoid (.array (.null :: vs))
  | emptyTextFirst (vs : List Json) : IsVoid (.array (.text "" :: vs))

/-- The document does not have the property, or its value stands for none. -/
def Lacks (d : Document) (name : String) : Prop := ∀ v, Json.member? name d = some v → IsVoid v

/-- The document has the property, but the value that counts is not to be written. -/
def Unwritable (d : Document) (name : String) : Prop :=
  ∃ v, Json.member? name d = some v ∧ IsUnwritable (firstValue v)

/-- Of two properties the first one is not to be written, or it is lacking and the second one is not. -/
def UnwritableAmong (d : Document) (first second : String) : Prop :=
  d.Unwritable first ∨ d.Lacks first ∧ d.Unwritable second

theorem isVoid_iff (v : Json) :
    IsVoid v ↔ firstValue v = .null ∨ firstValue v = .text "" := by
  constructor
  · rintro (_ | _ | _ | vs | vs) <;> simp [firstValue]
  · cases v with
    | array vs =>
      cases vs with
      | nil => exact fun _ => .emptyArray
      | cons w vs =>
        rintro (h | h)
        · obtain rfl : w = .null := h
          exact .nullFirst vs
        · obtain rfl : w = .text "" := h
          exact .emptyTextFirst vs
    | null => exact fun _ => .null
    | text s =>
      rintro (h | h) <;> cases h
      exact .emptyText
    | bool _ | integer _ | real _ | object _ => rintro (h | h) <;> cases h

variable {d : Document} {name text : String}

/-- A property has no text exactly if the document lacks it. -/
theorem text?_eq_none_iff : d.text? name = .ok none ↔ d.Lacks name := by
  unfold text? Lacks
  cases hv : Json.member? name d with
  | none => simp [firstValue]
  | some v =>
    simp only [Option.getD_some, Option.some.injEq, forall_eq', isVoid_iff, ← textOf_eq_empty_iff]
    split
    · rename_i h
      simp [h]
    · rename_i h
      rw [or_iff_right h]
      cases textOf (firstValue v) <;> simp [Except.map]

/-- It fails to have one exactly if it is not to be written. -/
theorem text?_eq_error_iff : d.text? name = .error e ↔ d.Unwritable name ∧ e = .unprintable := by
  unfold text? Unwritable
  cases hv : Json.member? name d with
  | none => simp [firstValue]
  | some v =>
    simp only [Option.getD_some, Option.some.injEq, exists_eq_left']
    split
    · rename_i h
      rw [h]
      exact ⟨nofun, fun h => nomatch h.1⟩
    · rw [map_eq_error, textOf_eq_error_iff]

theorem not_lacks (h : d.text? name = .ok (some text)) : ¬ d.Lacks name := by
  rw [← text?_eq_none_iff, h]
  exact nofun

theorem not_unwritable {text : Option String} (h : d.text? name = .ok text) :
    ¬ d.Unwritable name := fun hw => by
  rw [text?_eq_error_iff.2 ⟨hw, rfl⟩] at h
  cases h

end Document

end ConnectorHub
