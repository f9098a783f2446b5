import ConnectorHub.Proofs.Traversals
import Mathlib.Logic.Function.Basic

/-! Hubs of any number of nodes, and what can happen at them in any order. A traversal is two moves,
its beginning and its end, between which everything else may happen. -/
namespace ConnectorHub

open Store Act Scenario

/-- What the nodes of a hub share, the nodes by their places, and the traversals that were handed
over to their connectors and have not ended, each with the place of its node. -/
structure Hub where
  site : Site
  node : Nat → Node
  going : List (Nat × Traversal.Running) := []

/-- What can happen at a hub. -/
inductive Move
  | ask (place : Nat) (op : Operation)
  | begin (place : Nat) (name : String)
  /-- A worker takes a job off the queue and begins its traversal. -/
  | work (place index : Nat)
  /-- The connector of a traversal hands back, and the traversal ends. -/
  | finish (index : Nat) (answer : Except Failure Batch)
  /-- The clock changes. -/
  | pause (clock : Clock)

/-- What is told of a move. -/
inductive Event
  | asked (op : Operation) (answer : Except Failure Json)
  | handedOver (t : Traversal.Running)
  /-- A traversal ended after its connector handed this back; its run is logged with the status. -/
  | ended (t : Traversal.Running) (answer : Except Failure Batch) (status : Option RunStatus)

deriving instance DecidableEq for Traversal.Opened, Traversal.Running

/-- A type that accepts every configuration. Its connectors traverse. -/
def ConnectorType.plain : ConnectorType where
  serial := 0
  name := "plain"
  form _ := .ok {}
  filledForm _ _ := .ok {}
  check _ _ := .ok none
  make _ := .ok { serial := 0, traverses := true }

namespace Hub

def rows (h : Hub) : Rows := h.site.database.rows

def Works (h : Hub) : Prop := h.site.database.Works

/-- A node at work. -/
def desk (h : Hub) (place : Nat) : Desk := ⟨h.node place, h.site⟩

/-- The hub after a node has left its desk so. -/
def leave (h : Hub) (place : Nat) (d : Desk) : Hub :=
  { h with site := d.site, node := Function.update h.node place d.node }

def withGoing (h : Hub) (going : List (Nat × Traversal.Running)) : Hub := { h with going }

/-- A node begins to traverse a connector. -/
def begin (h : Hub) (place : Nat) (name : String) : Hub × List Event :=
  match (Traversal.begin name).perform (h.desk place) with
  | (.ok (.running t), d) =>
    ((h.leave place d).withGoing (h.going ++ [(place, t)]), [.handedOver t])
  | (_, d) => (h.leave place d, [])

/-- The hub without a job of its queue. -/
def without (h : Hub) (index : Nat) : Hub :=
  { h with site := { h.site with queue := h.site.queue.eraseIdx index } }

/-- The hub after a move, and what is told of it. -/
def move (h : Hub) : Move → Hub × List Event
  | .ask place op =>
    let (answer, d) := op.perform.perform (h.desk place)
    (h.leave place d, [.asked op answer])
  | .begin place name => h.begin place name
  | .work place index =>
    match h.site.queue[index]? with
    | none => (h, [])
    | some job => (h.without index).begin place job.connector
  | .finish index answer =>
    match h.going[index]? with
    | none => (h, [])
    | some (place, t) =>
      let d := ((Traversal.finish t answer).perform (h.desk place)).2
      ((h.leave place d).withGoing (h.going.eraseIdx index),
        [.ended t answer (d.rows.statusOf t.run)])
  | .pause clock => ({ h with site := { h.site with clock } }, [])

/-- Moves that are allowed lead from one hub to another. What is told of them is listed with the
latest first. -/
inductive Run (allowed : Hub → Move → Prop) (h : Hub) : List Event → Hub → Prop
  | none : Run allowed h [] h
  | next {past : List Event} {h' : Hub} {m : Move} (run : Run allowed h past h')
      (here : allowed h' m) : Run allowed h ((h'.move m).2 ++ past) (h'.move m).1

variable (h : Hub) (place : Nat)

@[simp] theorem site_leave (d : Desk) : (h.leave place d).site = d.site := rfl

@[simp] theorem rows_leave (d : Desk) : (h.leave place d).rows = d.rows := rfl

@[simp] theorem going_leave (d : Desk) : (h.leave place d).going = h.going := rfl

@[simp] theorem site_withGoing (going : List (Nat × Traversal.Running)) :
    (h.withGoing going).site = h.site := rfl

@[simp] theorem rows_withGoing (going : List (Nat × Traversal.Running)) :
    (h.withGoing going).rows = h.rows := rfl

@[simp] theorem going_withGoing (going : List (Nat × Traversal.Running)) :
    (h.withGoing going).going = going := rfl

@[simp] theorem desk_leave_self (d : Desk) : (h.leave place d).desk place = d := by
  simp [desk, leave]

/-- A traversal that is begun is handed over, or over at once. -/
theorem begin_cases (name : String) :
    (∃ t d, Traversal.HandedOver name (h.desk place) t d ∧
      h.begin place name =
        ((h.leave place d).withGoing (h.going ++ [(place, t)]), [.handedOver t])) ∨
    (∃ d, (h.desk place).Passing d ∧ h.begin place name =
      (h.leave place { d with site := d.site.unlock (lockKey name) }, [])) := by
  unfold begin
  rcases Traversal.perform_begin name (h.desk place) with ⟨t, d, ht, hp⟩ | ⟨x, d, hx, hd, hp⟩
  · rw [hp]
    exact .inl ⟨t, d, ht, rfl⟩
  · rw [hp]
    rcases x with f | ⟨items⟩ | ⟨t⟩
    · exact .inr ⟨d, hd, rfl⟩
    · exact .inr ⟨d, hd, rfl⟩
    · exact absurd rfl (hx t)

/-- Of a traversal that begins no more is told than that it was handed over. -/
theorem told_begin (name : String) : ∀ e ∈ (h.begin place name).2, ∃ t, e = .handedOver t := by
  intro e he
  rcases h.begin_cases place name with ⟨t, d, -, hp⟩ | ⟨d, -, hp⟩ <;> rw [hp] at he
  · exact ⟨t, List.mem_singleton.1 he⟩
  · cases he

variable {h place}

/-- A traversal that ends is judged, then closed, and then frees its lock. -/
theorem finish_cases {index : Nat} {t : Traversal.Running}
    (hi : h.going[index]? = some (place, t)) (answer : Except Failure Batch) :
    ∃ d₁ x d₂, (Traversal.judge t answer).perform (h.desk place) =
        (.ok (Traversal.verdict t answer (h.desk place)), d₁) ∧
      Traversal.Judged t (h.desk place) answer
        (Traversal.verdict t answer (h.desk place)) d₁ ∧
      Traversal.Closed t.toOpened (Traversal.verdict t answer (h.desk place)) d₁ x d₂ ∧
      ((Traversal.finish t answer).perform (h.desk place)).1 = x ∧
      h.move (.finish index answer) =
        ((h.leave place { d₂ with site := d₂.site.unlock (lockKey t.connector) }).withGoing
            (h.going.eraseIdx index),
          [.ended t answer (d₂.rows.statusOf t.run)]) := by
  obtain ⟨d₁, x, d₂, hj, hr, hc, hp⟩ := Traversal.perform_finish t answer (h.desk place)
  refine ⟨d₁, x, d₂, hj, hr, hc, by rw [hp], ?_⟩
  simp only [move, hi, hp]
  rfl

/-- Any moves lead from one hub to another. -/
abbrev Course : Hub → List Event → Hub → Prop := Run fun _ _ => True

/-- The hub after these moves, the first of the list first, and what is told of them. -/
def play (h : Hub) : List Move → Hub × List Event
  | [] => (h, [])
  | m :: ms => (((h.move m).1.play ms).1, ((h.move m).1.play ms).2 ++ (h.move m).2)

/-- Each of these moves is allowed when it is made. -/
def Allows (allowed : Hub → Move → Prop) (h : Hub) : List Move → Prop
  | [] => True
  | m :: ms => allowed h m ∧ (h.move m).1.Allows allowed ms

instance decidableAllows (allowed : Hub → Move → Prop) [∀ h m, Decidable (allowed h m)] (h : Hub)
    (ms : List Move) : Decidable (h.Allows allowed ms) :=
  match ms with
  | [] => instDecidableTrue
  | m :: ms => @instDecidableAnd _ _ _ (decidableAllows allowed (h.move m).1 ms)

theorem Run.play {allowed : Hub → Move → Prop} {start h : Hub} {past : List Event}
    (run : Run allowed start past h) (ms : List Move) (hms : h.Allows allowed ms) :
    Run allowed start ((h.play ms).2 ++ past) (h.play ms).1 := by
  induction ms generalizing h past with
  | nil => exact run
  | cons m ms ih =>
    simp only [Hub.play, List.append_assoc]
    exact ih (run.next hms.1) hms.2

theorem run_play {allowed : Hub → Move → Prop} (h : Hub) (ms : List Move)
    (hms : h.Allows allowed ms) : Run allowed h (h.play ms).2 (h.play ms).1 := by
  simpa using Run.none.play ms hms

theorem course_play (h : Hub) (ms : List Move) : Course h (h.play ms).2 (h.play ms).1 := by
  refine h.run_play ms ?_
  induction ms generalizing h with
  | nil => trivial
  | cons m ms ih => exact ⟨trivial, ih _⟩

/-- The traversal that a move hands over. -/
def handed? (h : Hub) (m : Move) : Option Traversal.Running :=
  match (h.move m).2 with
  | [.handedOver t] => some t
  | _ => none

theorem move_of_handed? {m : Move} {t : Traversal.Running} (ht : h.handed? m = some t) :
    (h.move m).2 = [.handedOver t] := by
  unfold handed? at ht
  split at ht
  · rename_i t' he
    rw [he, Option.some.inj ht]
  · cases ht

/-- What a node answers to an operation. -/
def answer (h : Hub) (place : Nat) (op : Operation) : Except Failure Json :=
  (op.perform.perform (h.desk place)).1

theorem exists_answer {op : Operation} (ha : (h.answer place op).isOk = true) :
    ∃ v, (h.move (.ask place op)).2 = [.asked op (.ok v)] := by
  have hasked : (h.move (.ask place op)).2 = [.asked op (h.answer place op)] := rfl
  rw [hasked]
  cases hv : h.answer place op with
  | error f =>
    rw [hv] at ha
    cases ha
  | ok v => exact ⟨v, rfl⟩

/-- A hub with one type of connectors, where nothing has happened yet. -/
def untouched : Hub where
  site := { catalogs := [[.plain]] }
  node _ := {}

/-- A connector is created, and scheduled at all hours. -/
def setUp (place : Nat) (name : String) : List Move :=
  [.ask place (.configure name "plain" .empty none false), .ask place (.setSchedule name 1 0 "0-24")]

end Hub

end ConnectorHub
