import ConnectorHub.Files.Tree
import Mathlib.Data.List.Infix

/-! Trees of files: where steps lead in a tree, and what the making of directories, writing and
moving change in it. Every entry lies in a directory, and that stays so. Steps are here without double
dots. -/
namespace ConnectorHub.Files.Tree

variable {t t' t'' : Tree} {p q place : Place}

@[simp] theorem at?_nil (t : Tree) : t.at? [] = some .directory := rfl

/-- Every entry lies in a directory. -/
def Rooted (t : Tree) : Prop := ∀ p e, t.at? p = some e → t.at? p.dropLast = some .directory

theorem rooted_empty : Rooted {} := by
  intro p e h
  by_cases hp : p = []
  · rw [hp]
    rfl
  · simp [at?, hp] at h

theorem Rooted.put (h : t.Rooted) (hp : p ≠ []) (hin : t.at? p.dropLast = some .directory) {e : Entry}
    (he : e = .directory ∨ t.at? p ≠ some .directory) : (t.put p e).Rooted := by
  have hne : p.dropLast ≠ p := fun heq => by
    have := congrArg List.length heq
    have := List.length_pos_iff.2 hp
    simp at *
    omega
  intro q f hq
  by_cases hqp : q = p
  · rw [hqp, at?_put_of_ne _ _ hne]
    exact hin
  · rw [at?_put_of_ne _ _ hqp] at hq
    have hparent := h q f hq
    by_cases hlast : q.dropLast = p
    · rw [hlast] at hparent ⊢
      rw [at?_put_self _ _ _ hp, he.resolve_right (not_not_intro hparent)]
    · rw [at?_put_of_ne _ _ hlast]
      exact hparent

theorem Rooted.remove (h : t.Rooted) (hp : t.at? p ≠ some .directory) : (t.remove p).Rooted := by
  have hne : p ≠ [] := by
    rintro rfl
    exact hp rfl
  intro q f hq
  by_cases hqp : q = p
  · rw [hqp, at?_remove_self _ hne] at hq
    cases hq
  · rw [at?_remove_of_ne _ hqp] at hq
    have hparent := h q f hq
    by_cases hlast : q.dropLast = p
    · rw [hlast] at hparent
      exact absurd hparent hp
    · rw [at?_remove_of_ne _ hlast]
      exact hparent

/-- From one tree to the other nothing changed, but that directories were made on the way to a
place. -/
structure Paved (place : Place) (t t' : Tree) : Prop where
  change : ∀ p, t'.at? p = t.at? p ∨ p <+: place ∧ t.at? p = none ∧ t'.at? p = some .directory
  rooted : t.Rooted → t'.Rooted

theorem Paved.refl (place : Place) (t : Tree) : Paved place t t := ⟨fun _ => .inl rfl, id⟩

/-- What was in the tree stays. -/
theorem Paved.entry (h : Paved place t t') {e : Entry} (he : t.at? p = some e) :
    t'.at? p = some e := by
  rcases h.change p with hp | ⟨-, hp, -⟩
  · rw [hp, he]
  · rw [he] at hp
    cases hp

theorem Paved.trans (h : Paved place t t') (k : Paved place t' t'') : Paved place t t'' where
  change := by
    intro p
    rcases k.change p with hp | ⟨hway, hnone, hmade⟩
    · rw [hp]
      exact h.change p
    · rcases h.change p with hp | ⟨-, -, hdirectory⟩
      · exact .inr ⟨hway, hp ▸ hnone, hmade⟩
      · rw [hdirectory] at hnone
        cases hnone
  rooted := k.rooted ∘ h.rooted

/-- Nothing changed off the way. -/
theorem Paved.at?_eq (h : Paved place t t') (hp : ¬ p <+: place) : t'.at? p = t.at? p :=
  (h.change p).resolve_right fun hchange => hp hchange.1

/-- No file was made. -/
theorem Paved.file_iff (h : Paved place t t') {bytes : List UInt8} :
    t'.at? p = some (.file bytes) ↔ t.at? p = some (.file bytes) := by
  rcases h.change p with hp | ⟨-, hnone, hmade⟩
  · rw [hp]
  · rw [hnone, hmade]
    simp

theorem paved_put {s : String} (hin : t.at? place = some .directory)
    (h : t.at? (place ++ [s]) = none) (r : List String) :
    Paved (place ++ [s] ++ r) t (t.put (place ++ [s]) .directory) where
  change := by
    intro p
    by_cases hp : p = place ++ [s]
    · rw [hp]
      exact .inr ⟨List.prefix_append _ _, h, at?_put_self _ _ _ (by simp)⟩
    · exact .inl (at?_put_of_ne _ _ hp)
  rooted := fun ht => ht.put (by simp) (by rwa [List.dropLast_concat]) (.inl rfl)

/-- Directories are made on the way, and nowhere else. -/
theorem paved_makeDirectories {steps : List String} (hdots : ".." ∉ steps) {t : Tree} {here : Place}
    (hhere : t.at? here = some .directory) :
    Paved (here ++ steps) t (t.makeDirectories here steps).1 := by
  induction steps generalizing t here with
  | nil => exact .refl _ t
  | cons s r ih =>
    obtain ⟨hs, hr⟩ := not_or.1 (mt List.mem_cons.2 hdots)
    rw [makeDirectories, if_neg (Ne.symm hs), List.append_cons here s r]
    split
    case h_1 hdirectory => exact ih hr hdirectory
    case h_2 => exact .refl _ t
    case h_3 hnone =>
      exact (paved_put hhere hnone r).trans (ih hr (at?_put_self _ _ _ (by simp)))

/-- From a directory on, the steps lead through directories only. -/
def Leads (t : Tree) (here : Place) : List String → Prop
  | [] => True
  | s :: r => t.at? (here ++ [s]) = some .directory ∧ t.Leads (here ++ [s]) r

theorem Leads.at? {here : Place} {steps : List String} (hhere : t.at? here = some .directory)
    (h : t.Leads here steps) {s : List String} (hs : s <+: steps) :
    t.at? (here ++ s) = some .directory := by
  induction steps generalizing here s with
  | nil => rwa [List.prefix_nil.1 hs, List.append_nil]
  | cons x r ih =>
    rcases List.prefix_cons_iff.1 hs with rfl | ⟨q, rfl, hq⟩
    · rwa [List.append_nil]
    · rw [List.append_cons]
      exact ih h.1 h.2 hq

theorem Leads.mono (h : ∀ p, t.at? p = some .directory → t'.at? p = some .directory) {here : Place}
    {steps : List String} (ht : t.Leads here steps) : t'.Leads here steps := by
  induction steps generalizing here with
  | nil => trivial
  | cons s r ih => exact ⟨h _ ht.1, ih ht.2⟩

/-- Either the steps lead through directories afterwards, or a file is in the way. -/
theorem makeDirectories_cases {steps : List String} (hdots : ".." ∉ steps) {t : Tree}
    {here : Place} (hhere : t.at? here = some .directory) :
    (t.makeDirectories here steps).2 = some (here ++ steps) ∧
        (t.makeDirectories here steps).1.Leads here steps ∨
      (t.makeDirectories here steps).2 = none ∧
        ∃ p bytes, p <+: here ++ steps ∧ t.at? p = some (.file bytes) := by
  induction steps generalizing t here with
  | nil => exact .inl ⟨by rw [makeDirectories, List.append_nil], trivial⟩
  | cons s r ih =>
    obtain ⟨hs, hr⟩ := not_or.1 (mt List.mem_cons.2 hdots)
    rw [makeDirectories, if_neg (Ne.symm hs), List.append_cons here s r]
    have hleads {u : Tree} (hu : u.at? (here ++ [s]) = some .directory)
        (h : (u.makeDirectories (here ++ [s]) r).1.Leads (here ++ [s]) r) :
        (u.makeDirectories (here ++ [s]) r).1.Leads here (s :: r) :=
      ⟨(paved_makeDirectories hr hu).entry hu, h⟩
    split
    case h_1 hdirectory => exact (ih hr hdirectory).imp_left (And.imp_right (hleads hdirectory))
    case h_2 bytes hfile =>
      exact .inr ⟨rfl, _, bytes, List.prefix_append _ _, hfile⟩
    case h_3 hnone =>
      have hput : (t.put (here ++ [s]) .directory).at? (here ++ [s]) = some .directory :=
        at?_put_self _ _ _ (by simp)
      rcases ih hr hput with ⟨hp, h⟩ | ⟨hp, p, bytes, hway, hfile⟩
      · exact .inl ⟨hp, hleads hput h⟩
      · exact .inr ⟨hp, p, bytes, hway, (paved_put hhere hnone r).file_iff.1 hfile⟩

/-- Where steps lead, as long as all but the last lead through directories. -/
theorem resolve_eq_some_iff {steps : List String} (hdots : ".." ∉ steps) {name : String}
    (hname : name ≠ "..") (t : Tree) (here : Place) :
    t.resolve here (steps ++ [name]) = some p ↔
      t.at? here = some .directory ∧ t.Leads here steps ∧ p = here ++ steps ++ [name] := by
  induction steps generalizing here with
  | nil =>
    rw [List.nil_append, resolve, if_neg hname, List.append_nil]
    by_cases h : t.at? here = some .directory
    · rw [if_neg (not_not_intro h), resolve]
      simp [h, Leads, eq_comm]
    · rw [if_pos h]
      simp [h]
  | cons s r ih =>
    obtain ⟨hs, hr⟩ := not_or.1 (mt List.mem_cons.2 hdots)
    rw [List.cons_append, resolve, if_neg (Ne.symm hs), List.append_cons here s r]
    by_cases h : t.at? here = some .directory
    · rw [if_neg (not_not_intro h), ih hr, Leads]
      simp only [h, true_and, and_assoc]
    · rw [if_pos h]
      simp [h]

/-- What has an entry below it is a directory. -/
theorem Rooted.inside (h : t.Rooted) {r : List String} (hr : r ≠ []) {e : Entry}
    (he : t.at? (p ++ r) = some e) : t.at? p = some .directory := by
  induction r using List.reverseRecOn generalizing e with
  | nil => exact absurd rfl hr
  | append_singleton r s ih =>
    have hparent := h _ _ he
    rw [← List.append_assoc, List.dropLast_concat] at hparent
    by_cases hnil : r = []
    · rwa [hnil, List.append_nil] at hparent
    · exact ih hnil hparent

theorem Rooted.leads (h : t.Rooted) {here : Place} {steps : List String} {name : String} {e : Entry}
    (he : t.at? (here ++ steps ++ [name]) = some e) : t.Leads here steps := by
  induction steps generalizing here with
  | nil => trivial
  | cons s r ih =>
    rw [List.append_cons here s r] at he
    refine ⟨?_, ih he⟩
    rw [List.append_assoc] at he
    exact h.inside (List.append_ne_nil_of_right_ne_nil _ (List.cons_ne_nil _ _)) he

/-- Steps lead to everything that is in the tree. -/
theorem Rooted.bind_resolve (h : t.Rooted) {steps : List String} (hdots : ".." ∉ steps) :
    (t.resolve [] steps).bind t.at? = t.at? steps := by
  cases steps using List.reverseRecOn with
  | nil => rfl
  | append_singleton steps name =>
    have hsteps : ".." ∉ steps := fun hs => hdots (List.mem_append_left _ hs)
    have hname : name ≠ ".." := fun hs => hdots (by simp [hs])
    cases hr : t.resolve [] (steps ++ [name]) with
    | some p =>
      obtain ⟨-, -, rfl⟩ := (resolve_eq_some_iff hsteps hname t []).1 hr
      rfl
    | none =>
      cases he : t.at? (steps ++ [name]) with
      | none => rfl
      | some e =>
        have hleads : t.Leads [] steps := h.leads he
        rw [(resolve_eq_some_iff hsteps hname t []).2 ⟨rfl, hleads, rfl⟩] at hr
        cases hr

end ConnectorHub.Files.Tree
