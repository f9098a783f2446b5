import ConnectorHub.Proofs.Answers
import ConnectorHub.Proofs.Mirror

/-! Nodes over one store. What is stored about a connector is what the last call left that configured
or removed it, at whichever node. A node that has no such connector at hand answers by that. One that
has it at hand answers as of the moment when it came to have it, whatever other nodes did since. -/
namespace ConnectorHub

open Store Act Scenario

/-- What this left of a connector, if it configured or removed it. -/
def Event.settled? (name : String) : Event → Option (Option ConnectorRow)
  | asked (.configure other typeName settings _ _) (.ok .null) =>
    if other = name then some (some ⟨typeName, settings⟩) else none
  | asked (.remove other) (.ok _) => if other = name then some none else none
  | asked (.removeInstance other) (.ok _) => if other = name then some none else none
  | _ => none

namespace Desk

/-- What becomes of a connector from one desk to the other where a call settled it so, or none did. The
call may be the node's own. A connector that is at hand afterwards was so before, and the node itself
did not settle it, or it is made from what is stored. -/
structure Settles (name : String) (s : Option (Option ConnectorRow)) (own : Prop) (d d' : Desk) :
    Prop where
  catalogs : d'.site.catalogs = d.site.catalogs
  catalog : d'.node.catalog = d.node.catalog
  stored : d'.rows.connectors.get? name = s.getD (d.rows.connectors.get? name)
  live : ∀ i, d'.node.live.get? name = some i →
    ¬ own ∧ d.node.live.get? name = some i ∨
      d'.rows.connectors.get? name = some i.row ∧ d.made? i.row = some i.connector

variable {name other : String} {s : Option (Option ConnectorRow)} {own : Prop} {d d₁ d' : Desk}

theorem Settles.sparing (h : d.Settles name s own d₁) (k : d₁.Sparing d') :
    d.Settles name s own d' where
  catalogs := k.catalogs.trans h.catalogs
  catalog := k.catalog.trans h.catalog
  stored := by rw [k.connectors, h.stored]
  live := by
    intro i hi
    rw [k.connectors]
    rcases k.made name i hi with hi | ⟨hi, hm⟩
    · exact h.live i hi
    · exact .inr ⟨hi, made?_congr h.catalogs h.catalog ▸ hm⟩

/-- Nobody settled a connector that is stored and at hand as before. -/
theorem Settles.of_same (hown : ¬ own) (hs : d'.site.catalogs = d.site.catalogs)
    (hn : d'.node.catalog = d.node.catalog)
    (hr : d'.rows.connectors.get? name = d.rows.connectors.get? name)
    (hl : d'.node.live.get? name = d.node.live.get? name) : d.Settles name none own d' :=
  ⟨hs, hn, hr, fun _ hi => .inl ⟨hown, hl ▸ hi⟩⟩

theorem Sparing.settles (h : d.Sparing d') (hown : ¬ own) : d.Settles name none own d' :=
  (Settles.of_same hown rfl rfl rfl rfl).sparing h

/-- A connector that is configured is stored and at hand, and made from what is stored. -/
theorem Settles.configured (hd : d.Calm d₁) {i : Instance} {row : ConnectorRow} (hi : i.row = row)
    (hm : d.made? i.row = some i.connector) (hown : own → other = name) :
    d.Settles name (if other = name then some (some row) else none) own
      ((d₁.withRows (d₁.rows.configured other row)).keeping other i) := by
  by_cases ho : other = name
  · subst ho
    rw [if_pos rfl]
    refine ⟨hd.catalogs, hd.catalog, Table.get?_insert_self _ _ _, fun j hj => .inr ?_⟩
    have hij : some i = some j := (Table.get?_insert_self _ _ _).symm.trans hj
    cases hij
    exact ⟨(Table.get?_insert_self _ _ _).trans (congrArg some hi.symm), hm⟩
  · rw [if_neg ho]
    have hne : name ≠ other := fun h => ho h.symm
    have hcalm : d.Settles name none own d₁ := hd.toSparing.settles (mt hown ho)
    refine ⟨hd.catalogs, hd.catalog, (Table.get?_insert_of_ne _ _ hne).trans hcalm.stored, ?_⟩
    intro j hj
    have hstored : (d₁.rows.configured other row).connectors.get? name =
      d₁.rows.connectors.get? name := Table.get?_insert_of_ne _ _ hne
    rw [rows_keeping, rows_withRows, hstored]
    exact hcalm.live j ((Table.get?_insert_of_ne _ _ hne).symm.trans hj)

/-- A connector that a node lets go is not at hand, whatever is stored about it. -/
theorem Settles.forgetting (rows : Rows) (n : Nat)
    (hr : rows.connectors.get? name = s.getD (d.rows.connectors.get? name))
    (hown : own → other = name) :
    d.Settles name s own (((d.forgetting other).withRows rows).counting n) := by
  refine ⟨rfl, rfl, hr, fun i hi => ?_⟩
  obtain ⟨hne, hl⟩ := live_forgetting (d := d) hi
  exact .inl ⟨fun h => hne (hown h).symm, hl⟩

theorem Settles.without (n : Nat) (hown : own → other = name) :
    d.Settles name (if other = name then some none else none) own
      (((d.forgetting other).withRows (d.rows.without other)).counting n) := by
  refine .forgetting _ n ?_ hown
  by_cases ho : other = name
  · rw [if_pos ho, ho]
    exact Table.get?_erase_self _ _
  · rw [if_neg ho]
    exact Table.get?_erase_of_ne _ fun h => ho h.symm

end Desk

namespace Scenario.Operation

/-- The operation changes at most one connector, which it configures or removes. -/
def isSingle : Operation → Bool
  | statuses vanishing => vanishing.isEmpty
  | op => op.isProper

variable (name : String) (d : Desk)

/-- What the node's own operation makes of a connector is told by its answer. -/
def Settling (op : Operation) : Prop :=
  let p := op.perform.perform d
  let s := (Event.asked op p.1).settled? name
  d.Settles name s (s.isSome = true) p.2

theorem settling_of_isSparing {op : Operation} (h : op.isSparing = true) :
    op.Settling name d := by
  have hs (answer : Except Failure Json) : (Event.asked op answer).settled? name = none := by
    cases op with
    | configure | remove | removeInstance => cases h
    | _ => rfl
  simp only [Settling, hs]
  exact (sparing_of_isSparing h d).settles Bool.false_ne_true

theorem settling_configure (other typeName : String) (settings : Config)
    (language : Option String) (update : Bool) :
    (configure other typeName settings language update).Settling name d := by
  simp only [Settling, perform, Administration.configure, perform_bind]
  obtain ⟨d₁, hd, -, ⟨i, -, hrow, hmade, hp⟩ | ⟨x, hx, hp⟩⟩ :=
    Instances.perform_configure other typeName settings (.ofTag? language) update d
  · rw [hp]
    exact .configured hd hrow hmade fun h => (Option.isSome_ite.1 h)
  · rw [hp]
    -- A form that comes back is a refusal.
    cases x with
    | error f => exact hd.toSparing.settles Bool.false_ne_true
    | ok form =>
      cases form with
      | none => exact absurd rfl hx
      | some form => exact hd.toSparing.settles Bool.false_ne_true

theorem settling_remove (other : String) : (remove other).Settling name d := by
  simp only [Settling, perform, noAnswer, Administration.remove, perform_bind]
  obtain ⟨n, hp | ⟨-, hp⟩⟩ := Instances.perform_remove other d
  · simp only [hp, Scheduler.perform_untrack]
    exact (Desk.Settles.without n fun h => Option.isSome_ite.1 h).sparing
      (Desk.steady_untracking _ other).toSparing
  · simp only [hp]
    exact .forgetting d.rows n rfl fun h => absurd h Bool.false_ne_true

theorem settling_removeInstance (other : String) : (removeInstance other).Settling name d := by
  simp only [Settling, perform, noAnswer, perform_bind]
  obtain ⟨n, hp | ⟨-, hp⟩⟩ := Instances.perform_remove other d
  · simp only [hp]
    exact .without n fun h => Option.isSome_ite.1 h
  · simp only [hp]
    exact .forgetting d.rows n rfl fun h => absurd h Bool.false_ne_true

theorem settling_of_isSingle {op : Operation} (h : op.isSingle = true) : op.Settling name d := by
  by_cases hs : op.isSparing = true
  · exact settling_of_isSparing name d hs
  · cases op with
    | configure => exact settling_configure ..
    | remove => exact settling_remove ..
    | removeInstance => exact settling_removeInstance ..
    | statuses vanishing => exact absurd h hs
    | _ => first | exact absurd rfl hs | cases h

end Scenario.Operation

/-- The move changes at most one connector. -/
def Move.isSingle : Move → Bool
  | ask _ op => op.isSingle
  | _ => true

namespace Hub

/-- The node at the place configures or removes the connector with this move. -/
def Settles (h : Hub) (place : Nat) (name : String) : Move → Prop
  | .ask p op => p = place ∧ ((Event.asked op (h.answer p op)).settled? name).isSome = true
  | _ => False

/-- What the last call left of a connector that configured or removed it. The latest event is the
first. -/
def settled (start : Hub) (name : String) (past : List Event) : Option ConnectorRow :=
  (past.findSome? (·.settled? name)).getD (start.rows.connectors.get? name)

variable {start h : Hub} {place : Nat} {past : List Event} {name : String}

/-- Traversals settle nothing. -/
theorem settled?_begin (h : Hub) (p : Nat) (connector name : String) :
    (h.begin p connector).2.findSome? (·.settled? name) = none := by
  rw [List.findSome?_eq_none_iff]
  intro e he
  obtain ⟨t, rfl⟩ := h.told_begin p connector e he
  rfl

theorem settled?_work (h : Hub) (p index : Nat) (name : String) :
    (h.move (.work p index)).2.findSome? (·.settled? name) = none := by
  cases hj : h.site.queue[index]? with
  | none =>
    simp only [move, hj]
    rfl
  | some job =>
    simp only [move, hj]
    exact settled?_begin ..

theorem settled?_finish (h : Hub) (index : Nat) (answer : Except Failure Batch) (name : String) :
    (h.move (.finish index answer)).2.findSome? (·.settled? name) = none := by
  cases hi : h.going[index]? with
  | none =>
    simp only [move, hi]
    rfl
  | some g =>
    simp only [move, hi]
    rfl

/-- What a move makes of a connector, as seen from any node. -/
theorem settles_move (h : Hub) {m : Move} (hm : m.isSingle = true) (place : Nat) (name : String) :
    (h.desk place).Settles name ((h.move m).2.findSome? (·.settled? name))
      (h.Settles place name m) ((h.move m).1.desk place) := by
  have hother (hm : m.isSparing = true) (hs : ¬ h.Settles place name m)
      (htold : (h.move m).2.findSome? (·.settled? name) = none) : (h.desk place).Settles name
        ((h.move m).2.findSome? (·.settled? name)) (h.Settles place name m)
        ((h.move m).1.desk place) := by
    rw [htold]
    exact (h.sparing_move hm place).settles hs
  cases m with
  | ask p op =>
    have hp := Operation.settling_of_isSingle name (h.desk p) hm
    have htold : (h.move (.ask p op)).2.findSome? (·.settled? name) =
        (Event.asked op (h.answer p op)).settled? name := List.findSome?_singleton
    rw [htold]
    change (h.desk place).Settles name _ _ ((h.leave p (op.perform.perform (h.desk p)).2).desk place)
    by_cases hq : p = place
    · subst hq
      rw [desk_leave_self]
      exact ⟨hp.catalogs, hp.catalog, hp.stored,
        fun i hi => (hp.live i hi).imp_left fun ⟨hn, hl⟩ => ⟨fun hs => hn hs.2, hl⟩⟩
    · -- Another node sees what is stored change, and nothing else.
      have hnode : (h.leave p (op.perform.perform (h.desk p)).2).node place = h.node place :=
        Function.update_of_ne (Ne.symm hq) _ _
      refine ⟨hp.catalogs, congrArg Node.catalog hnode, hp.stored, fun i hi => .inl ?_⟩
      exact ⟨fun hs => hq hs.1, by rw [← hi]; exact congrArg (·.live.get? name) hnode.symm⟩
  | begin p connector => exact hother rfl id (h.settled?_begin p connector name)
  | work p index => exact hother rfl id (h.settled?_work p index name)
  | finish index answer => exact hother rfl id (h.settled?_finish index answer name)
  | pause clock => exact hother rfl id rfl

theorem settled_append (start : Hub) (name : String) (later earlier : List Event) :
    start.settled name (later ++ earlier) =
      (later.findSome? (·.settled? name)).getD (start.settled name earlier) := by
  unfold settled
  rw [List.findSome?_append, Option.getD_or]

/-- What is stored about a connector is what the last call left, at whichever node. -/
theorem Run.stored (run : Run (fun _ m => m.isSingle = true) start past h) (name : String) :
    h.rows.connectors.get? name = start.settled name past := by
  induction run with
  | none => rfl
  | @next past h m run here ih =>
    rw [settled_append, ← ih]
    exact (h.settles_move here 0 name).stored

/-- A moment of a run, since which a node has had the same connector at hand, and neither configured
nor removed it. If it has none at hand, nothing is told since. -/
structure AsOf (start h : Hub) (place : Nat) (name : String) (past earlier later : List Event)
    (h₀ : Hub) : Prop where
  split : past = later ++ earlier
  before : Run (fun _ m => m.isSingle = true) start earlier h₀
  since : Run (fun h m => m.isSingle = true ∧ ¬ h.Settles place name m) h₀ later h
  live : (h₀.node place).live.get? name = (h.node place).live.get? name
  missing : (h.node place).live.get? name = none → later = []

theorem AsOf.now (run : Run (fun _ m => m.isSingle = true) start past h) :
    AsOf start h place name past past [] h where
  split := rfl
  before := run
  since := .none
  live := rfl
  missing _ := rfl

theorem AsOf.next {earlier later : List Event} {h₀ : Hub} {m : Move}
    (ha : AsOf start h place name past earlier later h₀) (hm : m.isSingle = true)
    (hs : ¬ h.Settles place name m) {i : Instance} (hi : (h.node place).live.get? name = some i)
    (hi' : ((h.move m).1.node place).live.get? name = some i) :
    AsOf start (h.move m).1 place name ((h.move m).2 ++ past) earlier ((h.move m).2 ++ later) h₀ where
  split := by rw [ha.split, List.append_assoc]
  before := ha.before
  since := ha.since.next ⟨hm, hs⟩
  live := by rw [ha.live, hi, hi']
  missing := by
    rw [hi']
    exact nofun

/-- A connector at hand is made from what the last call left at some moment. -/
theorem Run.asOf (hs : (start.node place).live = .empty)
    (run : Run (fun _ m => m.isSingle = true) start past h) (name : String) :
    ∃ earlier later h₀, AsOf start h place name past earlier later h₀ ∧
      ∀ i, (h.node place).live.get? name = some i →
        start.settled name earlier = some i.row ∧ (h.desk place).made? i.row = some i.connector := by
  induction run with
  | none =>
    refine ⟨[], [], start, .now .none, fun i hi => ?_⟩
    rw [hs] at hi
    cases hi
  | @next past h m run here ih =>
    -- A connector that the node kept is of the moment before; one that it came to have is of this.
    have hmove := h.settles_move here place name
    have hmade : ((h.move m).1.desk place).made? = (h.desk place).made? :=
      Desk.made?_congr hmove.catalogs hmove.catalog
    cases hl : ((h.move m).1.node place).live.get? name with
    | none => exact ⟨_, _, _, .now (run.next here), nofun⟩
    | some i =>
      rcases hmove.live i hl with ⟨hown, hi⟩ | ⟨hstored, hi⟩
      · obtain ⟨earlier, later, h₀, ha, hrow⟩ := ih
        refine ⟨_, _, _, ha.next here hown hi hl, ?_⟩
        rintro j ⟨⟩
        rw [hmade]
        exact hrow i hi
      · refine ⟨_, _, _, .now (run.next here), ?_⟩
        rintro j ⟨⟩
        rw [hmade]
        exact ⟨((run.next here).stored name).symm.trans hstored, hi⟩

/-- Whatever the nodes of a hub are asked, and whatever fails, a node answers about a connector by what
the last call left that configured or removed it, at whichever node: the last one of all if the node
has no such connector at hand, else the last one up to the moment when it came to have it, since when
none of these calls was its own. What is stored is what the last call of all left. -/
theorem nodes_answer_as_of (hs : (start.node place).live = .empty)
    (run : Run (fun _ m => m.isSingle = true) start past h) (name : String) :
    h.rows.connectors.get? name = start.settled name past ∧
    ∃ earlier later h₀, AsOf start h place name past earlier later h₀ ∧
      (h.desk place).AnswersBy name (start.settled name earlier) := by
  obtain ⟨earlier, later, h₀, ha, hrow⟩ := run.asOf hs name
  refine ⟨run.stored name, earlier, later, h₀, ha, ?_⟩
  have hgenuine : (h.desk place).Genuine name := fun i hi => (hrow i hi).2
  have hknown : (h.desk place).known name = start.settled name earlier := by
    unfold Desk.known
    cases hl : (h.desk place).node.live.get? name with
    | none =>
      have hsplit := ha.split
      rw [ha.missing hl, List.nil_append] at hsplit
      rw [← hsplit]
      exact run.stored name
    | some i => exact (hrow i hl).1.symm
  rw [← hknown]
  exact hgenuine.answersBy

/-- A hub with one type of connectors, which accept everybody. -/
def welcoming : Hub where
  site := { catalogs := [[{ ConnectorType.plain with
    name := "welcoming"
    make := fun _ => .ok { serial := 0, authenticate? := some fun _ => .ok true } }]] }
  node _ := {}

/-- A connector is created at one node, used at another, and removed at the first. -/
def removedElsewhere : List Move :=
  [.ask 0 (.configure "a" "welcoming" .empty none false), .ask 1 (.authenticate "a" ⟨"u", none, none⟩),
    .ask 0 (.remove "a")]

/-- A node that never used a connector that is removed elsewhere accepts nobody for it. -/
theorem removal_noticed_without_instance :
    ((Administration.authenticate "a" ⟨"u", none, none⟩).perform
      ((welcoming.play removedElsewhere).1.desk 2)).1 = .ok false := by
  have hallows : welcoming.Allows (fun _ m => m.isSingle = true) removedElsewhere := by
    decide +kernel
  have hempty : (welcoming.node 2).live = .empty := rfl
  have hmissing : ((welcoming.play removedElsewhere).1.node 2).live.get? "a" = none := rfl
  have hsettled : welcoming.settled "a" (welcoming.play removedElsewhere).2 = none := rfl
  obtain ⟨-, earlier, later, h₀, has, hanswers⟩ :=
    nodes_answer_as_of hempty (welcoming.run_play removedElsewhere hallows) "a"
  have hsplit := has.split
  rw [has.missing hmissing, List.nil_append] at hsplit
  rw [← hsplit, hsettled] at hanswers
  exact (hanswers.authenticate _).elim id (·.2)

/-- The node that used it does not notice, and goes on to accept everybody. -/
theorem removal_unnoticed_with_instance :
    welcoming.settled "a" (welcoming.play removedElsewhere).2 = none ∧
      (welcoming.play removedElsewhere).1.rows.connectors.get? "a" = none ∧
      ((Instances.has "a").perform ((welcoming.play removedElsewhere).1.desk 1)).1 = .ok true ∧
      ((Administration.authenticate "a" ⟨"u", none, none⟩).perform
        ((welcoming.play removedElsewhere).1.desk 1)).1 = .ok true :=
  ⟨rfl, rfl, rfl, rfl⟩

end Hub

end ConnectorHub
