import ConnectorHub.Proofs.Generations

/-! What is stored about connectors fits together, at any nodes that share the store. Nothing is stored
about a connector that is not stored itself, a connector comes back only by being created, and it has
one type until it is removed. Only a node can break this that still has a connector at hand which
was removed at another node: it takes the connector for an existing one, and acts on it. -/
namespace ConnectorHub

open Store Act Scenario

namespace Store.Record

/-- The type with which a connector is stored. -/
def type? (r : Record) : Option String := r.connector.map (·.typeName)

/-- What becomes of what is stored about a connector where this is told, if all is in order. -/
structure Orderly (name : String) (told : List Event) (r r' : Record) : Prop where
  /-- What is stored about a connector is stored with it. -/
  rooted : (r.type? = none → r = {}) → r'.type? = none → r' = {}
  /-- A connector comes to be stored by being created. -/
  absent : r.type? = none → (∀ e ∈ told, e.creates name = false) → r'.type? = none
  /-- A connector keeps its type until it is removed. -/
  typed : ∀ typeName, r.type? = some typeName → (∀ e ∈ told, e.removes name = false) →
    r'.type? = some typeName

variable {name : String} {told later : List Event} {r r' r'' : Record}

theorem Orderly.trans (h : r.Orderly name told r') (k : r'.Orderly name later r'') :
    r.Orderly name (later ++ told) r'' where
  rooted hr := k.rooted (h.rooted hr)
  absent hr hnew := k.absent (h.absent hr fun e he => hnew e (List.mem_append_right _ he))
    fun e he => hnew e (List.mem_append_left _ he)
  typed typeName hr hold := k.typed typeName
    (h.typed typeName hr fun e he => hold e (List.mem_append_right _ he))
    fun e he => hold e (List.mem_append_left _ he)

/-- Where the type stays, there may be more about a connector that is stored, and only there. -/
theorem Orderly.of_type (htype : r'.type? = r.type?) (hmore : r.type? = none → r = {} → r' = {}) :
    r.Orderly name told r' where
  rooted hr hn := by
    rw [htype] at hn
    exact hmore hn (hr hn)
  absent hr _ := htype.trans hr
  typed _ hr _ := htype.trans hr

theorem Orderly.refl (r : Record) : r.Orderly name told r := .of_type rfl fun _ hr => hr

theorem Orderly.of_stored (htype : r'.type? = r.type?) (hstored : r.type? ≠ none) :
    r.Orderly name told r' :=
  .of_type htype fun hn => absurd hn hstored

theorem Orderly.removed (hremoves : ∃ e ∈ told, e.removes name = true) :
    r.Orderly name told {} where
  rooted _ _ := rfl
  absent _ _ := rfl
  typed _ _ hold := by
    obtain ⟨e, he, hr⟩ := hremoves
    rw [hold e he] at hr
    cases hr

theorem Orderly.created (hcreates : ∃ e ∈ told, e.creates name = true) (hfree : r.type? = none)
    (hstored : r'.type? ≠ none) : r.Orderly name told r' where
  rooted _ hn := absurd hn hstored
  absent _ hnew := by
    obtain ⟨e, he, hc⟩ := hcreates
    rw [hnew e he] at hc
    cases hc
  typed _ hr _ := by
    rw [hfree] at hr
    cases hr

end Store.Record

open Store.Record

namespace Desk

/-- The node has a connector at hand that is not stored any more. -/
def outlives (d : Desk) (name : String) : Bool :=
  (d.node.live.get? name).isSome && (d.rows.about name).type?.isNone

/-- The node has a connector at hand that is not stored with the same type. -/
def mistakes (d : Desk) (name : String) : Bool :=
  (d.node.live.get? name).any fun i => (d.rows.about name).type? ≠ some i.typeName

variable {d d' : Desk} {name : String}

theorem type?_of_known (h : d.outlives name = false) (hk : (d.known name).isSome) :
    (d.rows.about name).type? ≠ none := by
  intro hn
  unfold outlives at h
  unfold known at hk
  cases hl : d.node.live.get? name with
  | some i => simp [hl, hn] at h
  | none =>
    rw [hl] at hk
    simp only [Record.type?, Rows.about, Option.map_eq_none_iff] at hn
    rw [hn] at hk
    cases hk

theorem type?_eq_of_known (h : d.mistakes name = false) {row : ConnectorRow}
    (hk : d.known name = some row) : (d.rows.about name).type? = some row.typeName := by
  unfold mistakes at h
  unfold known at hk
  cases hl : d.node.live.get? name with
  | some i =>
    rw [hl] at h hk
    cases hk
    simpa [Instance.row] using h
  | none =>
    rw [hl] at hk
    exact congrArg (Option.map _) hk

theorem type?_eq_none_of_known (hk : d.known name = none) : (d.rows.about name).type? = none := by
  unfold known at hk
  cases hl : d.node.live.get? name with
  | some i =>
    rw [hl] at hk
    cases hk
  | none =>
    rw [hl] at hk
    exact congrArg (Option.map _) hk

/-- What a node writes about a connector that it knows is in order, unless it outlives it. -/
theorem orderly_of_known {other : String} (ho : name = other → d.outlives name = false)
    (hk : (d.known other).isSome) {rows : Rows} (hc : rows.connectors = d.rows.connectors)
    (hsame : ∀ name, name ≠ other → rows.about name = d.rows.about name) (told : List Event) :
    (d.rows.about name).Orderly name told (rows.about name) := by
  by_cases hn : name = other
  · subst hn
    refine .of_stored ?_ (type?_of_known (ho rfl) hk)
    simp only [Record.type?, Rows.about, hc]
  · rw [hsame name hn]
    exact .refl _

theorem Unharmed.orderly (h : d.Unharmed d') (told : List Event) :
    (d.rows.about name).Orderly name told (d'.rows.about name) := by
  have htype : (d'.rows.about name).type? = (d.rows.about name).type? := by
    simp only [Record.type?, Rows.about, h.connectors]
  refine .of_type htype fun _ hr => ?_
  have hconnector : d'.rows.connectors.get? name = none := by
    rw [h.connectors]
    exact congrArg Record.connector hr
  have hschedule : d'.rows.schedules.get? name = none := by
    have hsome := h.schedules name
    rw [show d.rows.schedules.get? name = none from congrArg Record.schedule hr] at hsome
    exact Option.isSome_eq_false_iff.1 hsome |> Option.isNone_iff_eq_none.1
  have hstate : d'.rows.states.get? name = none := by
    rw [h.states]
    exact congrArg Record.state hr
  rw [Rows.about, hconnector, hschedule, hstate]

end Desk

namespace Scenario.Operation

/-- The node takes a connector for an existing one, or for one of a type, that it is not, and the
operation acts on it. -/
def isMisled (d : Desk) (name : String) : Operation → Bool
  | configure other _ _ _ true => other = name && d.mistakes name
  | setSchedule other .. | restart other => other = name && d.outlives name
  | _ => false

variable (d : Desk) (name : String)

/-- What an operation that is not misled does to what is stored about a connector is in order. -/
def Orders (op : Operation) : Prop :=
  op.isMisled d name = false →
    (d.rows.about name).Orderly name [.asked op (op.perform.perform d).1]
      ((op.perform.perform d).2.rows.about name)

theorem Administered.orders {op : Operation} {answer : Except Failure Json} {d' : Desk}
    (h : Administered d op answer d') (hm : op.isMisled d name = false) :
    (d.rows.about name).Orderly name [.asked op answer] (d'.rows.about name) := by
  cases h with
  | @configured other typeName settings language update d₁ i calm checked =>
    have hrows : ((d₁.withRows (d₁.rows.configured other ⟨typeName, settings⟩)).keeping
        other i).rows = d.rows.configured other ⟨typeName, settings⟩ := by
      rw [← calm.rows]
      rfl
    rw [hrows]
    by_cases ho : name = other
    · subst ho
      rw [Rows.about_configured_self]
      cases update with
      | false =>
        have hfree : d.known name = none := by
          cases hk : d.known name with
          | none => rfl
          | some row => simp [hk, Instances.checkConfigurable] at checked
        exact .created ⟨_, List.mem_cons_self, Event.creates_asked.2 ⟨_, _, _, rfl, rfl⟩⟩
          (Desk.type?_eq_none_of_known hfree) (Option.some_ne_none _)
      | true =>
        obtain ⟨row, hk, ht⟩ : ∃ row, d.known name = some row ∧ row.typeName = typeName := by
          cases hk : d.known name with
          | none => simp [hk, Instances.checkConfigurable] at checked
          | some row => exact ⟨row, rfl, by simpa [hk, Instances.checkConfigurable] using checked⟩
        have hstored : (d.rows.about name).type? = some typeName := by
          rw [← ht]
          exact Desk.type?_eq_of_known (by simpa [isMisled] using hm) hk
        exact .of_stored hstored.symm (hstored ▸ Option.some_ne_none _)
    · rw [Rows.about_configured_of_ne _ ho]
      exact .refl _
  | notConfigured calm => exact calm.rows ▸ .refl _
  | @scheduled other _ _ _ _ text _ _ _ known =>
    have ho : name = other → d.outlives name = false := by
      rintro rfl
      simpa [isMisled] using hm
    have hc : (d.rows.scheduled other text).connectors = d.rows.connectors := rfl
    exact Desk.orderly_of_known ho known hc (fun _ hn => Rows.about_scheduled_of_ne _ hn _) _
  | notScheduled => exact .refl _
  | @removed other n =>
    rw [(Desk.steady_untracking _ other).rows, Desk.rows_counting, Desk.rows_withRows]
    by_cases ho : name = other
    · subst ho
      rw [Rows.about_without_self]
      exact .removed ⟨_, List.mem_cons_self, decide_eq_true rfl⟩
    · rw [Rows.about_without_of_ne _ ho]
      exact .refl _
  | notRemoved => exact .refl _
  | @restarted other _ known =>
    have ho : name = other → d.outlives name = false := by
      rintro rfl
      simpa [isMisled] using hm
    refine Desk.orderly_of_known ho known (by simp) (fun _ hn => ?_) _
    simp [Rows.about_marked_of_ne _ hn, Rows.about_reset_of_ne _ hn]
  | @notRestarted other =>
    rw [Desk.rows_counting, (d.steady_untracking other).rows]
    exact .refl _
  | @halfRestarted other _ _ _ known =>
    have ho : name = other → d.outlives name = false := by
      rintro rfl
      simpa [isMisled] using hm
    refine Desk.orderly_of_known ho known ?_ (fun _ hn => Rows.about_reset_of_ne _ hn) _
    rfl

theorem orders_of_isManaged {op : Operation} (hop : op.isManaged = true) : op.Orders d name := by
  intro hm
  cases ha : op.isAdministrative with
  | false =>
    rw [(steady_of_not_isAdministrative hop ha d).rows]
    exact .refl _
  | true => exact (administered_of_isAdministrative ha d).orders d name hm

end Scenario.Operation

/-- The move is made by way of manager, scheduler and traversals. -/
def Move.isManaged : Move → Bool
  | ask _ op => op.isManaged
  | _ => true

namespace Hub

/-- With the move a node acts on a connector for which it takes another one that it still has at
hand. -/
def misled (h : Hub) (name : String) : Move → Bool
  | .ask place op => op.isMisled (h.desk place) name
  | .finish index _ =>
    h.going[index]?.any fun g => g.2.connector = name && (h.desk g.1).outlives name
  | _ => false

variable {start h₀ h : Hub} {past later : List Event} {name : String}

theorem orderly_begin (h : Hub) (place : Nat) (other name : String) (told : List Event) :
    (h.rows.about name).Orderly name told ((h.begin place other).1.rows.about name) := by
  rcases h.begin_cases place other with ⟨t, d, ht, hp⟩ | ⟨d, hd, hp⟩
  · rw [hp]
    exact ht.passing.toUnharmed.orderly told
  · rw [hp]
    exact (hd.toUnharmed.unlock (lockKey other)).orderly told

theorem orderly_finish (h : Hub) (index : Nat) (answer : Except Failure Batch)
    (hm : h.misled name (.finish index answer) = false) (told : List Event) :
    (h.rows.about name).Orderly name told
      ((h.move (.finish index answer)).1.rows.about name) := by
  cases hi : h.going[index]? with
  | none =>
    simp only [move, hi]
    exact .refl _
  | some g =>
    obtain ⟨place, t⟩ := g
    obtain ⟨d₁, x, d₂, -, hj, hclosed, -, hp⟩ := finish_cases hi answer
    rw [hp]
    have hjudged : (h.rows.about name).Orderly name [] (d₁.rows.about name) := by
      cases hj with
      | stored _ known =>
        have ho : name = t.connector → (h.desk place).outlives name = false := by
          rintro rfl
          simpa [misled, hi] using hm
        refine Desk.orderly_of_known ho known ?_ (fun _ hn => Rows.about_advanced_of_ne _ hn _) []
        rfl
      | overtaken _ _ _ _ calm => exact calm.passing.toUnharmed.orderly []
      | failed _ _ _ calm => exact calm.passing.toUnharmed.orderly []
    have hclosing := hclosed.passing.toUnharmed.unlock (lockKey t.connector)
    rw [← List.append_nil told]
    exact hjudged.trans (hclosing.orderly told)

/-- With every move that misleads no node, all stays in order. -/
theorem orderly_move (h : Hub) {m : Move} (hm : m.isManaged = true) (hl : h.misled name m = false) :
    (h.rows.about name).Orderly name (h.move m).2 ((h.move m).1.rows.about name) := by
  cases m with
  | ask place op => exact Operation.orders_of_isManaged (h.desk place) name hm hl
  | begin place other => exact h.orderly_begin place other name _
  | work place index =>
    cases hj : h.site.queue[index]? with
    | none =>
      simp only [move, hj]
      exact .refl _
    | some job =>
      simp only [move, hj]
      exact (h.without index).orderly_begin place job.connector name _
  | finish index answer => exact h.orderly_finish index answer hl _
  | pause clock => exact .refl _

theorem Run.orderly
    (run : Run (fun h m => m.isManaged = true ∧ h.misled name m = false) start past h) :
    (start.rows.about name).Orderly name past (h.rows.about name) := by
  induction run with
  | none => exact .refl _
  | next run here ih => exact ih.trans (orderly_move _ here.1 here.2)

/-- The stores stay consistent about a connector, at any nodes and whatever fails, as long as no node
acts on it that still has at hand what was removed at another one. A schedule and a state are stored
only with their connector. A connector that is not stored comes back only by being created, and one
that is stored keeps its type until it is removed. -/
theorem stores_consistent_unless_misled
    (hs : start.rows.connectors.get? name = none → start.rows.about name = {})
    (run : Run (fun h m => m.isManaged = true ∧ h.misled name m = false) start past h₀)
    (after : Run (fun h m => m.isManaged = true ∧ h.misled name m = false) h₀ later h) :
    (h.rows.connectors.get? name = none →
      h.rows.schedules.get? name = none ∧ h.rows.states.get? name = none) ∧
    (h₀.rows.connectors.get? name = none → (∀ e ∈ later, e.creates name = false) →
      h.rows.connectors.get? name = none) ∧
    (∀ row, h₀.rows.connectors.get? name = some row → (∀ e ∈ later, e.removes name = false) →
      ∃ row', h.rows.connectors.get? name = some row' ∧ row'.typeName = row.typeName) := by
  have hnone (g : Hub) : (g.rows.about name).type? = none ↔ g.rows.connectors.get? name = none :=
    Option.map_eq_none_iff
  refine ⟨fun hn => ?_, fun hn hnew => ?_, fun row hrow hold => ?_⟩
  · have hgone := (run.orderly.trans after.orderly).rooted (fun hn => hs ((hnone _).1 hn))
      ((hnone h).2 hn)
    exact ⟨congrArg Record.schedule hgone, congrArg Record.state hgone⟩
  · exact (hnone h).1 (after.orderly.absent ((hnone h₀).2 hn) hnew)
  · have htype := after.orderly.typed row.typeName (by simp [Record.type?, Rows.about, hrow]) hold
    obtain ⟨row', hrow', ht⟩ := Option.map_eq_some_iff.1 htype
    exact ⟨row', hrow', ht⟩

/-- A connector is created at one node, used at another, and removed at the first. -/
def outlived : List Move :=
  [.ask 0 (.configure "a" "plain" .empty none false), .ask 1 (.capabilities "a"),
    .ask 0 (.remove "a")]

/-- The other node is asked about it, and a third one is to schedule it. -/
def consulted : List Move := [.ask 1 (.has "a"), .ask 2 (.setSchedule "a" 1 0 "0-24")]

/-- A connector that one node still has at hand does not come back by being asked for. -/
theorem consistent_while_consulted :
    ((untouched.play outlived).1.desk 1).outlives "a" = true ∧
      ((untouched.play outlived).1.play consulted).1.rows.schedules.get? "a" = none ∧
      ((untouched.play outlived).1.play consulted).1.rows.connectors.get? "a" = none := by
  have hstart : untouched.rows.connectors.get? "a" = none → untouched.rows.about "a" = {} :=
    fun _ => rfl
  have hbefore : untouched.Allows (fun h m => m.isManaged = true ∧ h.misled "a" m = false)
      outlived := by decide +kernel
  have hafter : (untouched.play outlived).1.Allows
      (fun h m => m.isManaged = true ∧ h.misled "a" m = false) consulted := by decide +kernel
  have hnew : ∀ e ∈ ((untouched.play outlived).1.play consulted).2, e.creates "a" = false := by
    decide +kernel
  have hremoved : (untouched.play outlived).1.rows.connectors.get? "a" = none := rfl
  obtain ⟨hrooted, habsent, -⟩ := stores_consistent_unless_misled hstart
    (untouched.run_play outlived hbefore) ((untouched.play outlived).1.run_play consulted hafter)
  have hgone := habsent hremoved hnew
  exact ⟨by decide +kernel, (hrooted hgone).1, hgone⟩

/-- A hub with two types of connectors. -/
def withTwoTypes : Hub :=
  { untouched with site := { catalogs := [[.plain, { ConnectorType.plain with name := "other" }]] } }

/-- The connector is created anew, of another type. -/
def outlivedAndReplaced : List Move :=
  outlived ++ [.ask 0 (.configure "a" "other" .empty none false)]

/-- The node that still has the connector at hand updates it. -/
def updated : Move := .ask 1 (.configure "a" "plain" .empty none true)

/-- A node that still has a connector at hand which was removed elsewhere schedules it, stores a
checkpoint for it, brings it back without creating it, and gives its successor another type. -/
theorem misled_node_breaks_consistency :
    (((untouched.play outlived).1.move (.ask 1 (.setSchedule "a" 1 0 "0-24"))).1.rows.about "a" =
      { schedule := some { text := "a:1:0:0-24" } }) ∧
    ((untouched.play (setUp 0 "a" ++ [.begin 1 "a", .ask 0 (.remove "a"),
      .finish 0 (.ok ⟨[], some "x"⟩)])).1.rows.about "a" = { state := some ⟨some "x", 0⟩ }) ∧
    ((untouched.play outlived).1.rows.connectors.get? "a" = none ∧
      (∀ e ∈ ((untouched.play outlived).1.move updated).2, e.creates "a" = false) ∧
      ((untouched.play outlived).1.move updated).1.rows.connectors.get? "a" =
        some ⟨"plain", .empty⟩) ∧
    ((withTwoTypes.play outlivedAndReplaced).1.rows.connectors.get? "a" = some ⟨"other", .empty⟩ ∧
      (∀ e ∈ ((withTwoTypes.play outlivedAndReplaced).1.move updated).2,
        e.removes "a" = false) ∧
      ((withTwoTypes.play outlivedAndReplaced).1.move updated).1.rows.connectors.get? "a" =
        some ⟨"plain", .empty⟩) := by
  refine ⟨?_, ?_, ⟨?_, ?_, ?_⟩, ?_, ?_, ?_⟩ <;> decide +kernel

end Hub

end ConnectorHub
