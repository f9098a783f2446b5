import ConnectorHub.Proofs.Interleaving

/-! The generations of connectors in the course of events. A restart begins the next generation, a
removal forgets how many there were, and nothing else that is asked of a hub, nor any traversal,
changes the generation of a connector. -/
namespace ConnectorHub

open Store Act Scenario

namespace Event

/-- A connector was started over. -/
def restarts (name : String) : Event → Bool
  | asked (.restart other) (.ok _) => other = name
  | _ => false

/-- A connector was removed. -/
def removes (name : String) : Event → Bool
  | asked (.remove other) (.ok _) => other = name
  | _ => false

/-- A connector that did not exist was configured. -/
def creates (name : String) : Event → Bool
  | asked (.configure other _ _ _ false) (.ok .null) => other = name
  | _ => false

/-- Nothing was asked past manager and scheduler. -/
def isManaged : Event → Bool
  | asked op _ => op.isManaged
  | _ => true

theorem restarts_asked {name : String} {op : Operation} {answer : Except Failure Json} :
    (asked op answer).restarts name = true ↔ op = .restart name ∧ ∃ v, answer = .ok v := by
  constructor
  · intro h
    unfold restarts at h
    split at h
    · rename_i other v he
      cases he
      exact ⟨by rw [of_decide_eq_true h], v, rfl⟩
    · cases h
  · rintro ⟨rfl, v, rfl⟩
    exact decide_eq_true rfl

theorem creates_asked {name : String} {op : Operation} {answer : Except Failure Json} :
    (asked op answer).creates name = true ↔
      ∃ typeName settings language, op = .configure name typeName settings language false ∧
        answer = .ok .null := by
  constructor
  · intro h
    unfold creates at h
    split at h
    · rename_i other typeName settings language he
      cases he
      exact ⟨typeName, settings, language, by rw [of_decide_eq_true h], rfl⟩
    · cases h
  · rintro ⟨typeName, settings, language, rfl, rfl⟩
    exact decide_eq_true rfl

end Event

namespace Scenario.Operation

/-- What an operation does to the state of a connector, and to what is stored of its
configuration. -/
theorem about_effect (op : Operation) (answer : Except Failure Json) (rows : Rows)
    (name : String) :
    ((op.effect answer rows).about name).state =
        (if (Event.asked op answer).restarts name then
          some ⟨none, generationOf (rows.about name).state + 1⟩
        else if (Event.asked op answer).removes name then none
        else (rows.about name).state) ∧
      ((op.effect answer rows).about name).connector =
        if (Event.asked op answer).removes name then none
        else match op, answer with
          | .configure other typeName settings _ _, .ok .null =>
            if other = name then some ⟨typeName, settings⟩ else (rows.about name).connector
          | _, _ => (rows.about name).connector := by
  cases op with
  | configure other typeName settings language update =>
    rcases answer with f | v
    · exact ⟨rfl, rfl⟩
    · cases v with
      | null =>
        by_cases ho : name = other
        · subst ho
          simp [effect, Event.restarts, Event.removes]
        · simp [effect, Event.restarts, Event.removes, Rows.about_configured_of_ne _ ho,
            Ne.symm ho]
      | _ => exact ⟨rfl, rfl⟩
  | setSchedule other load retryDelay intervals =>
    rcases answer with f | v
    · exact ⟨rfl, rfl⟩
    · cases v with
      | text s =>
        by_cases ho : name = other
        · subst ho
          simp [effect, Event.restarts, Event.removes]
        · simp [effect, Event.restarts, Event.removes, Rows.about_scheduled_of_ne _ ho]
      | _ => exact ⟨rfl, rfl⟩
  | remove other =>
    rcases answer with f | v
    · exact ⟨rfl, rfl⟩
    · by_cases ho : name = other
      · subst ho
        simp [effect, Event.restarts, Event.removes]
      · simp [effect, Event.restarts, Event.removes, Rows.about_without_of_ne _ ho, Ne.symm ho]
  | restart other =>
    rcases answer with f | v
    · exact ⟨rfl, rfl⟩
    · by_cases ho : name = other
      · subst ho
        simp [effect, Event.restarts, Event.removes]
      · simp [effect, Event.restarts, Event.removes, Rows.about_marked_of_ne _ ho,
          Rows.about_reset_of_ne _ ho, Ne.symm ho]
  | _ => exact ⟨rfl, rfl⟩

end Scenario.Operation

namespace Desk

/-- The generation that the traversals of a connector are in. -/
def generation (d : Desk) (name : String) : Nat := generationOf (d.rows.about name).state

theorem Unharmed.generation {d d' : Desk} (h : d.Unharmed d') (name : String) :
    d'.generation name = d.generation name := by
  simp only [Desk.generation, Rows.about, h.states]

end Desk

theorem Traversal.Judged.generation {t : Running} {answer : Except Failure Batch} {r : Result}
    {d d' : Desk} (h : Judged t d answer r d') (name : String) :
    d'.generation name = d.generation name := by
  unfold Desk.generation
  by_cases ho : name = t.connector
  · subst ho
    rcases h.about with ⟨-, b, -, hg, ha⟩ | ⟨-, ha⟩
    · rw [ha, hg]
      rfl
    · rw [ha]
  · rw [h.about_of_ne ho]

/-- An operation that does not remove a connector does not set back its generation, and on a
database that works only a restart that succeeds moves it on. -/
theorem Scenario.Operation.Account.generation {op : Operation} {answer : Except Failure Json}
    {d d' : Desk} (h : Account op answer d d') {name : String}
    (hr : (Event.asked op answer).removes name = false) :
    d.generation name ≤ d'.generation name ∧
      (d.Works → d'.generation name =
        d.generation name + if (Event.asked op answer).restarts name then 1 else 0) := by
  unfold Desk.generation
  rcases h.rows with hrows | ⟨hw, other, f, -, -, hrows⟩
  · rw [hrows, (about_effect ..).1, hr]
    by_cases he : (Event.asked op answer).restarts name = true
    · simp [he, generationOf, States.snapshotOf]
    · simp [he]
  · refine ⟨?_, fun h => absurd h hw⟩
    rw [hrows]
    by_cases ho : name = other
    · subst ho
      rw [Rows.about_reset_self]
      exact Nat.le_succ _
    · have hsame : (d.rows.reset other).about name = d.rows.about name :=
        Rows.about_reset_of_ne _ ho
      exact Nat.le_of_eq (by rw [hsame])

namespace Hub

def generation (h : Hub) (name : String) : Nat := generationOf (h.rows.about name).state

theorem generation_begin (h : Hub) (place : Nat) (other name : String) :
    (h.begin place other).1.generation name = h.generation name ∧
      (h.Works → (h.begin place other).1.Works) ∧
      (h.begin place other).2.countP (·.restarts name) = 0 := by
  rcases h.begin_cases place other with ⟨t, d, ht, hp⟩ | ⟨d, hd, hp⟩
  · rw [hp]
    exact ⟨ht.passing.generation name, ht.passing.works, rfl⟩
  · rw [hp]
    exact ⟨hd.generation name, hd.works, rfl⟩

theorem generation_finish (h : Hub) (index : Nat) (answer : Except Failure Batch) (name : String) :
    (h.move (.finish index answer)).1.generation name = h.generation name ∧
      (h.Works → (h.move (.finish index answer)).1.Works) ∧
      (h.move (.finish index answer)).2.countP (·.restarts name) = 0 := by
  cases hi : h.going[index]? with
  | none =>
    simp only [move, hi]
    exact ⟨trivial, id, rfl⟩
  | some g =>
    obtain ⟨place, t⟩ := g
    obtain ⟨d₁, x, d₂, -, hj, hc, -, hp⟩ := finish_cases hi answer
    rw [hp]
    refine ⟨?_, fun hw => hc.passing.works (hj.sparing.works hw), rfl⟩
    exact (hc.passing.generation name).trans (hj.generation name)

/-- What `Account.generation` says of an operation, for every move. -/
theorem generation_move (h : Hub) (m : Move) {name : String}
    (hm : ∀ e ∈ (h.move m).2, e.isManaged = true ∧ e.removes name = false) :
    h.generation name ≤ (h.move m).1.generation name ∧ (h.Works → (h.move m).1.Works) ∧
      (h.Works → (h.move m).1.generation name =
        h.generation name + (h.move m).2.countP (·.restarts name)) := by
  cases m with
  | ask place op =>
    obtain ⟨hop, hr⟩ := hm _ List.mem_cons_self
    have ha := Operation.account_of_isManaged hop (h.desk place)
    obtain ⟨hle, heq⟩ := ha.generation hr
    refine ⟨hle, ha.works, fun hw => ?_⟩
    rw [show (h.move (.ask place op)).2 = [_] from rfl, List.countP_singleton]
    exact heq hw
  | begin place other =>
    obtain ⟨hg, hw, hc⟩ := h.generation_begin place other name
    exact ⟨Nat.le_of_eq hg.symm, hw, fun _ => by simp only [move]; rw [hg, hc]; rfl⟩
  | work place index =>
    cases hj : h.site.queue[index]? with
    | none =>
      simp only [move, hj]
      exact ⟨Nat.le_refl _, id, fun _ => rfl⟩
    | some job =>
      obtain ⟨hg, hw, hc⟩ := (h.without index).generation_begin place job.connector name
      simp only [move, hj]
      exact ⟨Nat.le_of_eq hg.symm, hw, fun _ => by rw [hg, hc]; rfl⟩
  | finish index answer =>
    obtain ⟨hg, hw, hc⟩ := h.generation_finish index answer name
    exact ⟨Nat.le_of_eq hg.symm, hw, fun _ => by rw [hg, hc]; rfl⟩
  | pause clock => exact ⟨Nat.le_refl _, id, fun _ => rfl⟩

/-- In the course of events a connector that is not removed never goes back to an earlier
generation, and on a database that works it counts its restarts. -/
theorem Run.generation {allowed : Hub → Move → Prop} {start h : Hub} {past : List Event}
    {name : String} (run : Run allowed start past h)
    (hp : ∀ e ∈ past, e.isManaged = true ∧ e.removes name = false) :
    start.generation name ≤ h.generation name ∧ (start.Works → h.Works) ∧
      (start.Works → h.generation name =
        start.generation name + past.countP (·.restarts name)) := by
  induction run with
  | none => exact ⟨Nat.le_refl _, id, fun _ => rfl⟩
  | @next past h m run here ih =>
    obtain ⟨hle, hw, heq⟩ := ih fun e he => hp e (List.mem_append_right _ he)
    obtain ⟨hle', hw', heq'⟩ := h.generation_move m fun e he => hp e (List.mem_append_left _ he)
    refine ⟨Nat.le_trans hle hle', hw' ∘ hw, fun hs => ?_⟩
    rw [heq' (hw hs), heq hs, List.countP_append, Nat.add_assoc,
      Nat.add_comm (List.countP _ past)]

/-- A traversal that is handed over knows the state of its connector as it then is. -/
theorem handedOver_of_move {h : Hub} {m : Move} {t : Traversal.Running}
    (ht : (h.move m).2 = [.handedOver t]) :
    ∃ (h' : Hub) (place : Nat) (d : Desk), h'.rows = h.rows ∧ h'.going = h.going ∧ h'.node = h.node ∧
      Traversal.HandedOver t.connector (h'.desk place) t d ∧
      (h.move m).1 = (h'.leave place d).withGoing (h'.going ++ [(place, t)]) := by
  have hbegin (h' : Hub) (place : Nat) (name : String)
      (hb : (h'.begin place name).2 = [.handedOver t]) :
      ∃ d, Traversal.HandedOver t.connector (h'.desk place) t d ∧
        (h'.begin place name).1 = (h'.leave place d).withGoing (h'.going ++ [(place, t)]) := by
    rcases h'.begin_cases place name with ⟨t', d, ht', hp⟩ | ⟨d, -, hp⟩
    · rw [hp] at hb
      obtain ⟨⟩ := hb
      obtain rfl := ht'.connector
      exact ⟨d, ht', by rw [hp]⟩
    · rw [hp] at hb
      cases hb
  cases m with
  | ask place op => cases ht
  | begin place name =>
    obtain ⟨d, hd, hp⟩ := hbegin h place name ht
    exact ⟨h, place, d, rfl, rfl, rfl, hd, hp⟩
  | work place index =>
    cases hj : h.site.queue[index]? with
    | none =>
      simp only [move, hj] at ht
      cases ht
    | some job =>
      simp only [move, hj] at ht ⊢
      obtain ⟨d, hd, hp⟩ := hbegin (h.without index) place job.connector ht
      exact ⟨h.without index, place, d, rfl, rfl, rfl, hd, hp⟩
  | finish index answer =>
    cases hi : h.going[index]? with
    | none =>
      simp only [move, hi] at ht
      cases ht
    | some g =>
      obtain ⟨place, t'⟩ := g
      simp only [move, hi] at ht
      cases ht
  | pause clock => cases ht

/-- A traversal that is handed over knows the generation of its connector. -/
theorem generation_of_handedOver {h : Hub} {m : Move} {t : Traversal.Running}
    (ht : (h.move m).2 = [.handedOver t]) :
    (h.move m).1.generation t.connector = t.snapshot.generation := by
  obtain ⟨h', place, d, -, -, -, hd, hp⟩ := handedOver_of_move ht
  have hg : (h.move m).1.generation t.connector = (h'.desk place).generation t.connector := by
    rw [hp]
    exact hd.passing.generation t.connector
  rw [hg, hd.snapshot]
  rfl

end Hub

end ConnectorHub
