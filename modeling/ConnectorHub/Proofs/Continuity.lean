import ConnectorHub.Proofs.Generations

/-! Where traversals go on. At a node that works alone each traversal of a connector is handed the
checkpoint of the latest one before it that came to its end, so that no batch is left out, and one
that failed or was overtaken is asked for again. -/
namespace ConnectorHub

open Store Act Scenario

namespace Event

/-- A connector is created or handed over. -/
def begins (name : String) : Event → Bool
  | handedOver t => t.connector = name
  | e => e.creates name

/-- Since a connector was handed over last it was started over or removed. -/
def overtakenSince (name : String) : List Event → Bool
  | [] => false
  | handedOver t :: past => if t.connector = name then false else overtakenSince name past
  | e :: past => e.restarts name || e.removes name || overtakenSince name past

/-- Where the traversal of a connector is to go on after these events, the latest first: at the
checkpoint of the latest traversal that ended with success and was not overtaken, and at the start
if there was none since the connector was created or started over last. -/
def resumesAt (name : String) : List Event → Option String
  | [] => none
  | ended t (.ok b) (some .success) :: past =>
    if t.connector = name ∧ overtakenSince name past = false then b.checkpoint
    else resumesAt name past
  | e :: past => if e.creates name || e.restarts name then none else resumesAt name past

end Event

open Event

theorem Event.resumesAt_asked (op : Operation) (answer : Except Failure Json) (name : String)
    (past : List Event) :
    resumesAt name (asked op answer :: past) =
      if (asked op answer).creates name || (asked op answer).restarts name then none
      else resumesAt name past := rfl

theorem Event.overtakenSince_asked (op : Operation) (answer : Except Failure Json) (name : String)
    (past : List Event) :
    overtakenSince name (asked op answer :: past) =
      ((asked op answer).restarts name || (asked op answer).removes name ||
        overtakenSince name past) := rfl

theorem Event.overtakenSince_handedOver (t : Traversal.Running) (name : String)
    (past : List Event) :
    overtakenSince name (handedOver t :: past) =
      if t.connector = name then false else overtakenSince name past := rfl

theorem Event.resumesAt_success (t : Traversal.Running) (b : Batch) (name : String)
    (past : List Event) :
    resumesAt name (ended t (.ok b) (some .success) :: past) =
      if t.connector = name ∧ overtakenSince name past = false then b.checkpoint
      else resumesAt name past := rfl

/-- A traversal without success, of another connector or that was overtaken does not change where a
connector goes on. -/
theorem Event.resumesAt_ended {t : Traversal.Running} {answer : Except Failure Batch}
    {status : Option RunStatus} {name : String} {past : List Event}
    (h : status ≠ some .success ∨ t.connector ≠ name ∨ overtakenSince name past = true) :
    resumesAt name (ended t answer status :: past) = resumesAt name past := by
  rcases answer with f | b
  · rfl
  · rcases status with _ | _ | _ | _ | _
    · rfl
    · rfl
    · rfl
    · rw [resumesAt_success, if_neg]
      rintro ⟨hname, hsince⟩
      rcases h with h | h | h
      · exact h rfl
      · exact h hname
      · rw [hsince] at h
        cases h
    · rfl

namespace Scenario.Operation

@[simp] theorem runs_effect (op : Operation) (answer : Except Failure Json) (rows : Rows) :
    (op.effect answer rows).runs = rows.runs := by
  unfold effect
  split <;> first | rfl | exact Rows.runs_marked ..

/-- What becomes of a connector with an event: what was stored about it before and after. -/
inductive Became (name : String) (e : Event) (r r' : Record) : Prop
  | created (creates : e.creates name = true) (restarts : e.restarts name = false)
      (removes : e.removes name = false) (new : r.connector = none) (state : r'.state = r.state)
  | restarted (creates : e.creates name = false) (restarts : e.restarts name = true)
      (removes : e.removes name = false) (known : r.connector ≠ none)
      (connector : r'.connector = r.connector)
      (state : r'.state = some ⟨none, generationOf r.state + 1⟩)
  | removed (creates : e.creates name = false) (restarts : e.restarts name = false)
      (removes : e.removes name = true) (gone : r'.connector = none) (state : r'.state = none)
  | kept (creates : e.creates name = false) (restarts : e.restarts name = false)
      (removes : e.removes name = false)
      (connector : r'.connector = none ↔ r.connector = none) (state : r'.state = r.state)

/-- On a database that works, the answer of an operation tells what becomes of a connector. -/
theorem Account.became {op : Operation} {answer : Except Failure Json} {d d' : Desk}
    (h : Account op answer d d') (hw : d.Works) (hs : d.Sound) (name : String) :
    Became name (asked op answer) (d.rows.about name) (d'.rows.about name) := by
  have hknown : (d.known name).isSome = (d.rows.about name).connector.isSome :=
    hs.isSome_known name
  have hrows := h.rows.resolve_right fun hn => hn.1 hw
  obtain ⟨hstate, hconnector⟩ := op.about_effect answer d.rows name
  rw [← hrows] at hstate hconnector
  cases hcreates : (asked op answer).creates name with
  | true =>
    obtain ⟨typeName, settings, language, rfl, rfl⟩ := creates_asked.1 hcreates
    have hfree := h.configured name typeName settings language false rfl rfl
    rw [hknown] at hfree
    exact .created hcreates rfl rfl (by simpa using hfree) hstate
  | false =>
    cases hrestarts : (asked op answer).restarts name with
    | true =>
      obtain ⟨rfl, v, rfl⟩ := restarts_asked.1 hrestarts
      have hthere := h.restarted name v rfl rfl
      rw [hknown] at hthere
      rw [if_pos hrestarts] at hstate
      exact .restarted hcreates hrestarts rfl (Option.isSome_iff_ne_none.1 hthere) hconnector hstate
    | false =>
      rw [hrestarts, if_neg Bool.false_ne_true] at hstate
      cases hremoves : (asked op answer).removes name with
      | true =>
        rw [hremoves, if_pos rfl] at hstate hconnector
        exact .removed hcreates hrestarts hremoves hconnector hstate
      | false =>
        rw [hremoves, if_neg Bool.false_ne_true] at hstate hconnector
        refine .kept hcreates hrestarts hremoves ?_ hstate
        rw [hconnector]
        split
        · rename_i other typeName settings language update
          by_cases ho : other = name
          · subst ho
            have hupdate : update = true := by
              cases update with
              | true => rfl
              | false =>
                exact (Bool.false_ne_true (hcreates.symm.trans
                  (creates_asked.2 ⟨typeName, settings, language, rfl, rfl⟩))).elim
            have hthere := h.configured other typeName settings language update rfl rfl
            rw [hknown, hupdate] at hthere
            rw [if_pos rfl]
            exact iff_of_false nofun (Option.isSome_iff_ne_none.1 hthere)
          · rw [if_neg ho]
        · exact Iff.rfl

end Scenario.Operation

namespace Store

/-- A run that is logged has the status with which it ended. -/
theorem Rows.statusOf_ended {rows : Rows} {id : Int} (h : ∃ r ∈ rows.runs, r.id = id)
    (outcome : Runs.Outcome) (t : Time.DateTime) :
    (rows.ended id outcome t).statusOf id = some outcome.status := by
  have hsame (r : Run) : (if r.id = id then r.ending outcome t else r).id = r.id := by
    split <;> rfl
  obtain ⟨r, hr, hid⟩ := h
  rw [statusOf, runs_ended, List.find?_map]
  simp only [Function.comp_def, hsame]
  cases hf : rows.runs.find? (·.id = id) with
  | none =>
    have hne := List.find?_eq_none.1 hf r hr
    exact absurd (decide_eq_true hid) hne
  | some r₀ =>
    have hid₀ : r₀.id = id := by simpa using List.find?_some hf
    simp [hid₀, Run.ending]

end Store

/-- The move is made at a node, by way of manager, scheduler and traversals. -/
def Move.isAt (place : Nat) : Move → Bool
  | ask p op => p = place && op.isManaged
  | begin p _ | work p _ => p = place
  | finish .. | pause .. => true

namespace Hub

/-- The move is made at the node, and neither creates a connector that is being traversed nor hands
it over once more. -/
def InOrder (place : Nat) (h : Hub) (m : Move) : Prop :=
  m.isAt place = true ∧ ∀ e ∈ (h.move m).2, ∀ g ∈ h.going, e.begins g.2.connector = false

instance (place : Nat) (h : Hub) (m : Move) : Decidable (h.InOrder place m) :=
  inferInstanceAs (Decidable (_ ∧ _))

/-- What stands between the events at a hub and the checkpoints that it has stored. -/
structure Continuous (place : Nat) (past : List Event) (h : Hub) : Prop where
  works : h.Works
  sound : (h.desk place).Sound
  orphan : ∀ name, (h.rows.about name).connector = none → (h.rows.about name).state = none
  checkpoint : ∀ name, (h.rows.about name).connector ≠ none →
    (States.snapshotOf (h.rows.about name).state).checkpoint = resumesAt name past
  here : ∀ g ∈ h.going, g.1 = place
  logged : ∀ g ∈ h.going, ∃ r ∈ h.rows.runs, r.id = g.2.run
  current : ∀ g ∈ h.going, overtakenSince g.2.connector past = false →
    (h.rows.about g.2.connector).connector ≠ none ∧
      h.generation g.2.connector = g.2.snapshot.generation
  overtaken : ∀ g ∈ h.going, overtakenSince g.2.connector past = true →
    (h.rows.about g.2.connector).connector = none ∨
      g.2.snapshot.generation < h.generation g.2.connector

variable {place : Nat} {past : List Event} {h : Hub}

/-- What happens without an event leaves connectors and states alone. -/
theorem Continuous.of_unharmed (hc : Continuous place past h) {h' : Hub}
    (hp : (h.desk place).Unharmed (h'.desk place)) (hg : h'.going = h.going) :
    Continuous place past h' := by
  have hconnector : ∀ name, (h'.rows.about name).connector = (h.rows.about name).connector :=
    fun name => congrArg (·.get? name) hp.connectors
  have hstate : ∀ name, (h'.rows.about name).state = (h.rows.about name).state :=
    fun name => congrArg (·.get? name) hp.states
  have hgeneration : ∀ name, h'.generation name = h.generation name := hp.generation
  refine ⟨hp.works hc.works, hp.sound hc.sound, ?_, ?_, ?_, ?_, ?_, ?_⟩
  · intro name hn
    rw [hconnector] at hn
    rw [hstate]
    exact hc.orphan name hn
  · intro name hn
    rw [hconnector] at hn
    rw [hstate]
    exact hc.checkpoint name hn
  · rw [hg]
    exact hc.here
  · rw [hg]
    intro g hmem
    obtain ⟨r, hr, hid⟩ := hc.logged g hmem
    obtain ⟨r', hr', hid'⟩ := hp.runs r hr
    exact ⟨r', hr', hid'.trans hid⟩
  · rw [hg]
    intro g hmem ho
    rw [hconnector, hgeneration]
    exact hc.current g hmem ho
  · rw [hg]
    intro g hmem ho
    rw [hconnector, hgeneration]
    exact hc.overtaken g hmem ho

/-- A traversal that goes on keeps what is told of it when something is asked that does not create
its connector. -/
theorem Continuous.follows_asked (hc : Continuous place past h) {g : Nat × Traversal.Running}
    (hg : g ∈ h.going) {op : Operation} {answer : Except Failure Json} {r : Record}
    (hcreates : (asked op answer).creates g.2.connector = false)
    (hbecame : Operation.Became g.2.connector (asked op answer) (h.rows.about g.2.connector) r) :
    (overtakenSince g.2.connector (asked op answer :: past) = false →
      r.connector ≠ none ∧ generationOf r.state = g.2.snapshot.generation) ∧
    (overtakenSince g.2.connector (asked op answer :: past) = true →
      r.connector = none ∨ g.2.snapshot.generation < generationOf r.state) := by
  rw [overtakenSince_asked]
  -- Whatever parts a traversal from its connector is a restart or removal, and is told.
  cases hbecame with
  | created creates =>
    rw [creates] at hcreates
    cases hcreates
  | restarted _ restarts _ known _ state =>
    rw [restarts]
    refine ⟨fun ho => ?_, fun _ => .inr ?_⟩
    · cases ho
    · rw [state]
      change g.2.snapshot.generation < h.generation g.2.connector + 1
      cases hpast : overtakenSince g.2.connector past with
      | false => exact Nat.lt_succ_of_le (Nat.le_of_eq (hc.current g hg hpast).2.symm)
      | true => exact Nat.lt_succ_of_lt ((hc.overtaken g hg hpast).resolve_left known)
  | removed _ _ removes gone =>
    rw [removes, Bool.or_true]
    refine ⟨fun ho => ?_, fun _ => .inl gone⟩
    cases ho
  | kept _ restarts removes connector state =>
    rw [restarts, removes, state]
    refine ⟨fun ho => ?_, fun ho => (hc.overtaken g hg ho).imp_left connector.2⟩
    obtain ⟨hthere, hgen⟩ := hc.current g hg ho
    exact ⟨fun h => hthere (connector.1 h), hgen⟩

theorem Continuous.ask (hc : Continuous place past h) {op : Operation}
    (hop : op.isManaged = true)
    (hb : ∀ e ∈ (h.move (.ask place op)).2, ∀ g ∈ h.going, e.begins g.2.connector = false) :
    Continuous place ((h.move (.ask place op)).2 ++ past) (h.move (.ask place op)).1 := by
  have ha := Operation.account_of_isManaged hop (h.desk place)
  generalize hanswer : (op.perform.perform (h.desk place)).1 = answer at ha
  generalize hdesk : (op.perform.perform (h.desk place)).2 = d at ha
  have hmove : h.move (.ask place op) = (h.leave place d, [asked op answer]) := by
    rw [← hanswer, ← hdesk]
    rfl
  rw [hmove] at hb ⊢
  have hbecame : ∀ name, Operation.Became name (asked op answer) (h.rows.about name)
      (d.rows.about name) := ha.became hc.works hc.sound
  have hfollows := fun g hg =>
    hc.follows_asked hg (hb _ List.mem_cons_self g hg) (hbecame g.2.connector)
  refine ⟨ha.works hc.works, ?_, ?_, ?_, hc.here, ?_, fun g hg => (hfollows g hg).1,
    fun g hg => (hfollows g hg).2⟩
  · rw [desk_leave_self]
    exact ha.sound hc.works hc.sound
  · intro name hn
    rw [rows_leave] at hn ⊢
    cases hbecame name with
    | created _ _ _ new state => exact state.trans (hc.orphan name new)
    | restarted _ _ _ known connector => exact absurd (connector.symm.trans hn) known
    | removed _ _ _ _ state => exact state
    | kept _ _ _ connector state => exact state.trans (hc.orphan name (connector.1 hn))
  · intro name hn
    rw [rows_leave] at hn ⊢
    rw [List.singleton_append, resumesAt_asked]
    cases hbecame name with
    | created creates _ _ new state =>
      rw [state, hc.orphan name new, creates]
      rfl
    | restarted _ restarts _ _ _ state =>
      rw [state, restarts, Bool.or_true]
      rfl
    | removed _ _ _ gone => exact absurd gone hn
    | kept creates restarts _ connector state =>
      rw [state, creates, restarts]
      exact hc.checkpoint name fun h => hn (connector.2 h)
  · intro g hg
    have hrows := ha.rows.resolve_right fun hn => hn.1 hc.works
    rw [rows_leave, hrows, Operation.runs_effect]
    exact hc.logged g hg

/-- A connector that is handed over is stored, and its traversal knows its state. -/
theorem Continuous.handedOver (hc : Continuous place past h) {name : String}
    {t : Traversal.Running} {d : Desk} (ht : Traversal.HandedOver name (h.desk place) t d) :
    (h.rows.about name).connector ≠ none ∧
      t.snapshot = States.snapshotOf (h.rows.about name).state := by
  have hk := ht.known
  rw [hc.sound.isSome_known] at hk
  exact ⟨Option.isSome_iff_ne_none.1 hk, ht.snapshot⟩

theorem Continuous.begin (hc : Continuous place past h) {name : String}
    (hb : ∀ e ∈ (h.begin place name).2, ∀ g ∈ h.going, e.begins g.2.connector = false) :
    Continuous place ((h.begin place name).2 ++ past) (h.begin place name).1 := by
  rcases h.begin_cases place name with ⟨t, d, ht, hp⟩ | ⟨d, hd, hp⟩
  · rw [hp] at hb ⊢
    obtain rfl := ht.connector
    have hkept : Continuous place past (h.leave place d) :=
      hc.of_unharmed (by rw [desk_leave_self]; exact ht.passing.toUnharmed) rfl
    obtain ⟨hconnector, hsnapshot⟩ := hc.handedOver ht
    have hother : ∀ g ∈ h.going, t.connector ≠ g.2.connector := fun g hg =>
      of_decide_eq_false (hb _ List.mem_cons_self g hg)
    refine ⟨hkept.works, hkept.sound, hkept.orphan, hkept.checkpoint, ?_, ?_, ?_, ?_⟩
    · intro g hg
      rcases List.mem_append.1 hg with hg | hg
      · exact hc.here g hg
      · rw [List.mem_singleton.1 hg]
    · intro g hg
      rcases List.mem_append.1 hg with hg | hg
      · exact hkept.logged g hg
      · obtain ⟨r, hr, hid⟩ := ((h.desk place).rows.mem_started t.connector
          (h.desk place).site.clock.now).1
        rw [List.mem_singleton.1 hg]
        refine ⟨r, ?_, hid.trans ht.run.symm⟩
        rw [rows_withGoing, rows_leave, ht.rows]
        exact hr
    · intro g hg ho
      rcases List.mem_append.1 hg with hg | hg
      · rw [List.singleton_append, overtakenSince_handedOver, if_neg (hother g hg)] at ho
        exact hkept.current g hg ho
      · rw [List.mem_singleton.1 hg]
        refine ⟨?_, ?_⟩
        · rw [rows_withGoing, rows_leave, Rows.about, ht.passing.connectors]
          exact hconnector
        · rw [hsnapshot]
          exact ht.passing.generation t.connector
    · intro g hg ho
      rcases List.mem_append.1 hg with hg | hg
      · rw [List.singleton_append, overtakenSince_handedOver, if_neg (hother g hg)] at ho
        exact hkept.overtaken g hg ho
      · rw [List.mem_singleton.1 hg, List.singleton_append, overtakenSince_handedOver,
          if_pos rfl] at ho
        cases ho
  · rw [hp]
    refine hc.of_unharmed ?_ rfl
    rw [desk_leave_self]
    exact hd.toUnharmed.unlock _

/-- What is told of a traversal that ends agrees with how it is judged: it stores its checkpoint only
if it was not overtaken, and is found to be overtaken only if it was. -/
theorem Continuous.judged (hc : Continuous place past h) {t : Traversal.Running}
    (hg : (place, t) ∈ h.going) {answer : Except Failure Batch} {r : Traversal.Result} {d : Desk}
    (hj : Traversal.Judged t (h.desk place) answer r d) :
    (r.Stores → (h.rows.about t.connector).connector ≠ none ∧
      overtakenSince t.connector past = false) ∧
    (r.overtaken = true → overtakenSince t.connector past = true) := by
  have hknown := hc.sound.isSome_known t.connector
  have hgen : generationOf ((h.desk place).rows.states.get? t.connector) =
    h.generation t.connector := rfl
  cases hj with
  | stored _ known current _ overtaken =>
    rw [hknown] at known
    have hthere : (h.rows.about t.connector).connector ≠ none := Option.isSome_iff_ne_none.1 known
    refine ⟨fun _ => ⟨hthere, Bool.eq_false_iff.2 fun ho => ?_⟩, fun ho => ?_⟩
    · have hlt : t.snapshot.generation < h.generation t.connector :=
        (hc.overtaken _ hg ho).resolve_left hthere
      rw [hgen] at current
      omega
    · rw [ho] at overtaken
      cases overtaken
  | overtaken _ stale _ overtaken =>
    have hlate : overtakenSince t.connector past = true := by
      cases ho : overtakenSince t.connector past with
      | true => rfl
      | false =>
        obtain ⟨hthere, hcurrent⟩ := hc.current _ hg ho
        rcases stale with stale | stale
        · have hgone := hknown.trans (Option.isSome_iff_ne_none.2 hthere)
          rw [stale] at hgone
          cases hgone
        · exact absurd (hgen.trans hcurrent) stale
    exact ⟨fun hs => absurd hs (Traversal.Result.not_stores_of_overtaken overtaken), fun _ => hlate⟩
  | failed _ status overtaken =>
    refine ⟨fun hs => absurd hs (Traversal.Result.not_stores_of_error status), fun ho => ?_⟩
    rw [ho] at overtaken
    cases overtaken

/-- When a traversal is judged, each connector that is there goes on where it is to go on after the
traversal has ended so. -/
theorem Continuous.checkpoint_judged (hc : Continuous place past h) {t : Traversal.Running}
    (hg : (place, t) ∈ h.going) {answer : Except Failure Batch} {r : Traversal.Result} {d : Desk}
    (hj : Traversal.Judged t (h.desk place) answer r d) {name : String}
    (hn : (h.rows.about name).connector ≠ none) :
    (States.snapshotOf (d.rows.about name).state).checkpoint =
      resumesAt name (ended t answer (some r.status) :: past) := by
  obtain ⟨hstores, hlate⟩ := hc.judged hg hj
  by_cases ho : name = t.connector
  · subst ho
    rcases hj.about with ⟨hs, b, rfl, -, ha⟩ | ⟨hs, ha⟩
    · rw [ha, hs.1, resumesAt_success, if_pos ⟨rfl, (hstores hs).2⟩]
      rfl
    · rw [ha, resumesAt_ended]
      · exact hc.checkpoint _ hn
      · by_cases hstatus : r.status = .success
        · exact .inr (.inr (hlate (Bool.of_not_eq_false fun h => hs ⟨hstatus, h⟩)))
        · exact .inl fun h => hstatus (Option.some.inj h)
  · rw [hj.about_of_ne ho, resumesAt_ended (.inr (.inl (Ne.symm ho)))]
    exact hc.checkpoint name hn

/-- On a database that works a closed traversal has the status that is logged for its run. -/
theorem status_of_closed {t : Traversal.Opened} {r : Traversal.Result} {d d' : Desk}
    {x : Except Failure Nat} (hclosed : Traversal.Closed t r d x d') (hw : d.Works)
    (hlogged : ∃ run ∈ d.rows.runs, run.id = t.run) :
    d'.rows.statusOf t.run = some r.status := by
  rw [Rows.statusOf, hclosed.runs hw]
  exact Rows.statusOf_ended hlogged r.toOutcome d.site.clock.now

theorem Continuous.finish (hc : Continuous place past h) (index : Nat)
    (answer : Except Failure Batch) :
    Continuous place ((h.move (.finish index answer)).2 ++ past)
      (h.move (.finish index answer)).1 := by
  cases hi : h.going[index]? with
  | none =>
    simp only [move, hi]
    exact hc
  | some g =>
    obtain ⟨q, t⟩ := g
    have hmem : (q, t) ∈ h.going := List.mem_of_getElem? hi
    obtain rfl : q = place := hc.here _ hmem
    obtain ⟨d₁, x, d₂, -, hj, hclosed, -, hp⟩ := finish_cases hi answer
    have hpass : d₁.Passing d₂ := hclosed.passing
    have hconnector (name : String) :
        (d₂.rows.about name).connector = (h.rows.about name).connector :=
      congrArg (·.get? name) (hpass.connectors.trans hj.sparing.connectors)
    have hstate (name : String) : (d₂.rows.about name).state = (d₁.rows.about name).state :=
      congrArg (·.get? name) hpass.states
    have hgeneration (name : String) : d₂.generation name = h.generation name :=
      (hpass.generation name).trans (hj.generation name)
    have hstatus : d₂.rows.statusOf t.run =
        some (Traversal.verdict t answer (h.desk q)).status := by
      refine status_of_closed hclosed (hj.sparing.works hc.works) ?_
      rw [hj.runs]
      exact hc.logged _ hmem
    have hgoing : ∀ g ∈ h.going.eraseIdx index, g ∈ h.going := fun g hg =>
      List.mem_of_mem_eraseIdx hg
    rw [hp, hstatus]
    refine ⟨hpass.works (hj.sparing.works hc.works), ?_, ?_, ?_, ?_, ?_, ?_, ?_⟩
    · change ((h.leave q { d₂ with site := d₂.site.unlock (lockKey t.connector) }).desk q).Sound
      rw [desk_leave_self]
      exact hpass.sound (hj.sparing.sound hc.sound)
    · intro name hn
      change (d₂.rows.about name).connector = none at hn
      change (d₂.rows.about name).state = none
      rw [hconnector] at hn
      rw [hstate]
      by_cases ho : name = t.connector
      · subst ho
        rcases hj.about with ⟨hs, -⟩ | ⟨-, ha⟩
        · exact absurd hn ((hc.judged hmem hj).1 hs).1
        · rw [ha]
          exact hc.orphan _ hn
      · rw [hj.about_of_ne ho]
        exact hc.orphan name hn
    · intro name hn
      change (d₂.rows.about name).connector ≠ none at hn
      change (States.snapshotOf (d₂.rows.about name).state).checkpoint = _
      rw [hconnector] at hn
      rw [hstate]
      exact hc.checkpoint_judged hmem hj hn
    · exact fun g hg => hc.here g (hgoing g hg)
    · intro g hg
      obtain ⟨r, hr, hid⟩ := hc.logged g (hgoing g hg)
      obtain ⟨r', hr', hid'⟩ := hpass.runs r (hj.runs ▸ hr)
      exact ⟨r', hr', hid'.trans hid⟩
    · intro g hg ho
      obtain ⟨hthere, hcurrent⟩ := hc.current g (hgoing g hg) ho
      exact ⟨fun hn => hthere ((hconnector _).symm.trans hn), (hgeneration _).trans hcurrent⟩
    · intro g hg ho
      rcases hc.overtaken g (hgoing g hg) ho with hn | hlt
      · exact .inl ((hconnector _).trans hn)
      · exact .inr (Nat.lt_of_lt_of_eq hlt (hgeneration _).symm)

theorem Continuous.move (hc : Continuous place past h) {m : Move} (hm : h.InOrder place m) :
    Continuous place ((h.move m).2 ++ past) (h.move m).1 := by
  obtain ⟨hat, hb⟩ := hm
  cases m with
  | ask p op =>
    obtain ⟨rfl, hop⟩ : p = place ∧ op.isManaged = true := by simpa [Move.isAt] using hat
    exact hc.ask hop hb
  | begin p name =>
    obtain rfl : p = place := of_decide_eq_true hat
    exact hc.begin hb
  | work p index =>
    obtain rfl : p = place := of_decide_eq_true hat
    cases hj : h.site.queue[index]? with
    | none =>
      simp only [Hub.move, hj]
      exact hc
    | some job =>
      have hkept : Continuous p past (h.without index) :=
        ⟨hc.works, hc.sound, hc.orphan, hc.checkpoint, hc.here, hc.logged, hc.current,
          hc.overtaken⟩
      simp only [Hub.move, hj] at hb ⊢
      exact hkept.begin hb
  | finish index answer => exact hc.finish index answer
  | pause clock =>
    exact ⟨hc.works, hc.sound, hc.orphan, hc.checkpoint, hc.here, hc.logged, hc.current,
      hc.overtaken⟩

/-- A hub that works, where nothing has been stored and a node has just begun to work. -/
structure IsNew (place : Nat) (h : Hub) : Prop where
  works : h.Works
  rows : h.rows = {}
  going : h.going = []
  live : (h.node place).live = .empty

theorem IsNew.continuous (hn : h.IsNew place) : Continuous place [] h := by
  have hnone (name : String) : h.rows.about name = ⟨none, none, none⟩ := by
    rw [hn.rows]
    rfl
  have hgone : ∀ g, g ∉ h.going := by
    intro g
    rw [hn.going]
    exact List.not_mem_nil
  refine ⟨hn.works, ?_, ?_, ?_, ?_, ?_, ?_, ?_⟩
  · intro name i hi
    change (h.node place).live.get? name = some i at hi
    rw [hn.live] at hi
    cases hi
  · exact fun name _ => by rw [hnone]
  · exact fun name hname => absurd (by rw [hnone]) hname
  · exact fun g hg => absurd hg (hgone g)
  · exact fun g hg => absurd hg (hgone g)
  · exact fun g hg => absurd hg (hgone g)
  · exact fun g hg => absurd hg (hgone g)

theorem Run.continuous {start : Hub} (hs : start.IsNew place)
    (run : Run (InOrder place) start past h) : Continuous place past h := by
  induction run with
  | none => exact hs.continuous
  | next run here ih => exact ih.move here

/-- Every traversal is handed the checkpoint of the latest traversal of its connector that ended with
success and was not overtaken, counted from where the connector was created or started over, and
none if there is no such traversal. -/
theorem continues_where_it_left {start : Hub} {m : Move} {t : Traversal.Running}
    (hs : start.IsNew place) (run : Run (InOrder place) start past h) (here : h.InOrder place m)
    (handed : (h.move m).2 = [.handedOver t]) :
    t.snapshot.checkpoint = resumesAt t.connector past ∧
      (h.move m).1.site.calls.getLast? =
        some (.resumed t.serial (resumesAt t.connector past) t.schedule.load) := by
  obtain ⟨h', p, d, hrows, -, -, ht, hp⟩ := handedOver_of_move handed
  -- The invariant after the move speaks of the traversal that was just handed over.
  have hc := (run.continuous hs).move here
  rw [handed, hp] at hc
  have hmem : (p, t) ∈ ((h'.leave p d).withGoing (h'.going ++ [(p, t)])).going :=
    List.mem_append_right _ List.mem_cons_self
  have hthere := (hc.current _ hmem (if_pos rfl)).1
  have hcheckpoint : t.snapshot.checkpoint = resumesAt t.connector past := by
    rw [ht.snapshot, ← ht.passing.states]
    exact hc.checkpoint t.connector hthere
  refine ⟨hcheckpoint, ?_⟩
  rw [hp, ← hcheckpoint]
  exact ht.call

/-- A traversal ends with success and the next one fails. -/
def failedOnce : List Move :=
  setUp 0 "a" ++ [.begin 0 "a", .finish 0 (.ok ⟨[], some "x"⟩), .begin 0 "a",
    .finish 0 (.error (.raised .runtime "down"))]

/-- The traversal after one that failed goes on where that one was to go on. -/
theorem continues_after_failure :
    untouched.IsNew 0 ∧ untouched.Allows (InOrder 0) failedOnce ∧
      (untouched.play failedOnce).1.InOrder 0 (.begin 0 "a") ∧
      ∃ t, ((untouched.play failedOnce).1.move (.begin 0 "a")).2 = [.handedOver t] ∧
        t.snapshot.checkpoint = some "x" := by
  have hnew : untouched.IsNew 0 := ⟨fun _ _ _ => rfl, rfl, rfl, rfl⟩
  have hallows : untouched.Allows (InOrder 0) failedOnce := by decide +kernel
  have hnext : (untouched.play failedOnce).1.InOrder 0 (.begin 0 "a") := by decide +kernel
  have hname : ((untouched.play failedOnce).1.handed? (.begin 0 "a")).map (·.connector) =
    some "a" := by decide +kernel
  obtain ⟨t, ht, hname⟩ := Option.map_eq_some_iff.1 hname
  refine ⟨hnew, hallows, hnext, t, move_of_handed? ht, ?_⟩
  rw [(continues_where_it_left hnew (untouched.run_play failedOnce hallows) hnext
    (move_of_handed? ht)).1, hname]
  decide +kernel

end Hub

end ConnectorHub
