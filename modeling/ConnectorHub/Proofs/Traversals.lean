import ConnectorHub.Hub.Traversal
import ConnectorHub.Proofs.Operations

/-! What a traversal does at its beginning and at its end, each of which is one action. A traversal
that ends is first judged, which may store its checkpoint, and then closed, which may give its
connector new times. -/
namespace ConnectorHub

open Store Act

namespace Desk

/-- From one desk to the other locks and jobs, and what is watched, stayed the same. -/
structure Idle (d d' : Desk) : Prop where
  locks : d'.site.locks = d.site.locks
  queue : d'.site.queue = d.site.queue
  refuses : d'.site.refuses = d.site.refuses
  tracked : d'.node.tracked = d.node.tracked

/-- From one desk to the other no connector and no state changed, no schedule came or went, and no
run was lost. -/
structure Unharmed (d d' : Desk) : Prop extends Sparing d d' where
  states : d'.rows.states = d.rows.states
  schedules : ∀ name, (d'.rows.schedules.get? name).isSome = (d.rows.schedules.get? name).isSome
  runs : ∀ r ∈ d.rows.runs, ∃ r' ∈ d'.rows.runs, r'.id = r.id

structure Passing (d d' : Desk) : Prop extends Idle d d', Unharmed d d'

theorem Idle.trans {d e f : Desk} (h : d.Idle e) (k : e.Idle f) : d.Idle f :=
  ⟨k.locks.trans h.locks, k.queue.trans h.queue, k.refuses.trans h.refuses,
    k.tracked.trans h.tracked⟩

theorem Unharmed.trans {d e f : Desk} (h : d.Unharmed e) (k : e.Unharmed f) : d.Unharmed f where
  toSparing := h.toSparing.trans k.toSparing
  states := k.states.trans h.states
  schedules := fun name => (k.schedules name).trans (h.schedules name)
  runs := by
    intro r hr
    obtain ⟨s, hs, hsr⟩ := h.runs r hr
    obtain ⟨t, ht, hts⟩ := k.runs s hs
    exact ⟨t, ht, hts.trans hsr⟩

theorem Passing.trans {d e f : Desk} (h : d.Passing e) (k : e.Passing f) : d.Passing f :=
  ⟨h.toIdle.trans k.toIdle, h.toUnharmed.trans k.toUnharmed⟩

/-- Locks do not matter to connectors. -/
theorem Unharmed.unlock {d d' : Desk} (h : d.Unharmed d') (key : String) :
    d.Unharmed { d' with site := d'.site.unlock key } :=
  ⟨⟨h.connectors, h.faults, h.issued, h.catalogs, h.catalog, h.kept, h.made⟩, h.states, h.schedules,
    h.runs⟩

theorem Calm.idle {d d' : Desk} (h : d.Calm d') : d.Idle d' :=
  ⟨h.locks, h.queue, h.refuses, h.tracked⟩

theorem Calm.passing {d d' : Desk} (h : d.Calm d') : d.Passing d' where
  toIdle := h.idle
  toSparing := h.toSparing
  states := congrArg Rows.states h.rows
  schedules := fun name => by rw [h.rows]
  runs := fun r hr => ⟨r, h.rows ▸ hr, rfl⟩

/-- A change of rows that leaves the connectors alone. -/
theorem Calm.sparing_withRows {d d₁ : Desk} (h : d.Calm d₁) {rows : Rows} (n : Nat)
    (hc : rows.connectors = d.rows.connectors) : d.Sparing ((d₁.withRows rows).counting n) :=
  ⟨hc, h.faults, Nat.le_add_right_of_le h.issued, h.catalogs, h.catalog, h.kept, h.made⟩

theorem Calm.passing_withRows {d d₁ : Desk} (h : d.Calm d₁) {rows : Rows} (n : Nat)
    (hc : rows.connectors = d.rows.connectors) (hs : rows.states = d.rows.states)
    (ht : ∀ name, (rows.schedules.get? name).isSome = (d.rows.schedules.get? name).isSome)
    (hr : ∀ r ∈ d.rows.runs, ∃ r' ∈ rows.runs, r'.id = r.id) :
    d.Passing ((d₁.withRows rows).counting n) where
  toIdle := ⟨h.locks, h.queue, h.refuses, h.tracked⟩
  toSparing := h.sparing_withRows n hc
  states := hs
  schedules := ht
  runs := hr

end Desk

namespace Store

theorem Rows.mem_started (rows : Rows) (connector : String) (t : Time.DateTime) :
    (∃ r ∈ (rows.started connector t).runs, r.id = Runs.nextId rows.runs) ∧
      ∀ r ∈ rows.runs, ∃ r' ∈ (rows.started connector t).runs, r'.id = r.id := by
  rw [rows.runs_started]
  exact ⟨⟨_, List.mem_append_right _ (List.mem_singleton_self _), rfl⟩,
    fun r hr => ⟨r, List.mem_append_left _ hr, rfl⟩⟩

theorem Rows.mem_ended (rows : Rows) (id : Int) (outcome : Runs.Outcome) (t : Time.DateTime) :
    ∀ r ∈ rows.runs, ∃ r' ∈ (rows.ended id outcome t).runs, r'.id = r.id := by
  intro r hr
  rw [rows.runs_ended]
  refine ⟨_, List.mem_map_of_mem hr, ?_⟩
  split <;> rfl

end Store

namespace Traversal

/-- The first part of `finish`: how a traversal went whose connector hands this back. -/
def judge (t : Running) : Except Failure Batch → Act Result
  | .error e => pure (failed 0 e)
  | .ok b => settle t b

theorem finish_eq (t : Running) (answer : Except Failure Batch) :
    finish t answer = releasing t.connector (judge t answer >>= close t.toOpened) := by
  cases answer <;> rfl

theorem perform_warnings {R : Desk → Desk → Prop} [IsPreorder Desk R]
    (hwarn : ∀ message, Moves R (warn message)) (message : AddressError → String)
    (es : List AddressError) (d : Desk) :
    ∃ d₁, R d d₁ ∧
      (forIn es PUnit.unit fun e _ => do
        warn (message e)
        pure (ForInStep.yield PUnit.unit) : Act PUnit).perform d = (.ok PUnit.unit, d₁) := by
  induction es generalizing d with
  | nil => exact ⟨d, refl_of R d, rfl⟩
  | cons e es ih =>
    obtain ⟨d₁, hd, hp⟩ := ih ((warn (message e)).perform d).2
    refine ⟨d₁, trans_of R (hwarn (message e) d) hd, ?_⟩
    rw [List.forIn_cons, perform_bind, perform_bind]
    exact hp

/-- A checkpoint is stored for a connector that is known and still in the generation in which the
traversal began. -/
theorem perform_storeCheckpoint (t : Running) (checkpoint : Option String) (d : Desk) :
    ∃ n,
      ((d.known t.connector).isSome ∧
        generationOf (d.rows.states.get? t.connector) = t.snapshot.generation ∧
        (storeCheckpoint t checkpoint).perform d =
          (.ok true, (d.withRows (d.rows.advanced t.connector checkpoint)).counting n)) ∨
      ((d.known t.connector = none ∨
          generationOf (d.rows.states.get? t.connector) ≠ t.snapshot.generation) ∧
        (storeCheckpoint t checkpoint).perform d = (.ok false, d.counting n)) ∨
      ((¬ d.Works ∨ 9223372036854775808 ≤ t.snapshot.generation) ∧
        ∃ f, (storeCheckpoint t checkpoint).perform d = (.error f, d.counting n)) := by
  unfold storeCheckpoint
  rw [perform_bind]
  obtain ⟨m, hp | ⟨hw, hp⟩⟩ := Instances.perform_has t.connector d
  · rw [hp]
    cases hk : d.known t.connector with
    | none => exact ⟨m, .inr (.inl ⟨.inl rfl, rfl⟩)⟩
    | some r =>
      rcases perform_transact_cases
        (States.means_putIfCurrent t.connector checkpoint t.snapshot.generation)
        (storeFailure ("store traversal state for " ++ t.connector)) (d.counting m) with
        ⟨x, rows, n, hf, ht⟩ | ⟨e, n, he, ht⟩ <;>
        simp only [Desk.withRows_counting, Desk.counting_counting] at ht
      · split at hf
        · by_cases hg : generationOf (d.rows.states.get? t.connector) = t.snapshot.generation
          · simp only [States.taking, Desk.rows_counting, hg, if_true] at hf
            cases hf
            exact ⟨m + n, .inl ⟨rfl, hg, ht⟩⟩
          · have hg' : ¬ (generationOf (d.rows.states.get? t.connector) : Int) =
              t.snapshot.generation := fun h => hg (Int.ofNat.inj h)
            simp only [States.taking, Desk.rows_counting, hg', if_false] at hf
            cases hf
            exact ⟨m + n, .inr (.inl ⟨.inr hg, ht⟩)⟩
        · cases hf
      · refine ⟨m + n, .inr (.inr ⟨?_, _, ht⟩)⟩
        rcases he with he | ⟨-, hw⟩
        · split at he
          · cases he
          · exact .inr (by omega)
        · exact .inl fun h => hw (h.counting d.rows m)
  · rw [hp]
    exact ⟨m, .inr (.inr ⟨.inl hw, _, rfl⟩)⟩

/-- How a traversal is judged at a desk, and the desk afterwards. Only a checkpoint of the present
generation is stored; a traversal that could have stored one of an earlier generation is overtaken;
any other has failed. -/
inductive Judged (t : Running) (d : Desk) : Except Failure Batch → Result → Desk → Prop
  | stored {b : Batch} {r : Result} {d₁ : Desk} {n : Nat}
      (usable : (addressAll (d.site.settings.addressing t.connector) b.documents).rest = none)
      (known : (d.known t.connector).isSome)
      (current : generationOf (d.rows.states.get? t.connector) = t.snapshot.generation)
      (status : r.status = .success) (overtaken : r.overtaken = false) (calm : d.Calm d₁) :
      Judged t d (.ok b) r ((d₁.withRows (d.rows.advanced t.connector b.checkpoint)).counting n)
  | overtaken {b : Batch} {r : Result} {d₁ : Desk}
      (usable : (addressAll (d.site.settings.addressing t.connector) b.documents).rest = none)
      (stale : d.known t.connector = none ∨
        generationOf (d.rows.states.get? t.connector) ≠ t.snapshot.generation)
      (status : r.status = .success) (overtaken : r.overtaken = true) (calm : d.Calm d₁) :
      Judged t d (.ok b) r d₁
  | failed {answer : Except Failure Batch} {r : Result} {d₁ : Desk}
      (why : ∀ b, answer = .ok b →
        (addressAll (d.site.settings.addressing t.connector) b.documents).rest ≠ none ∨
        ¬ d.Works ∨ 9223372036854775808 ≤ t.snapshot.generation)
      (status : r.status = .error) (overtaken : r.overtaken = false) (calm : d.Calm d₁) :
      Judged t d answer r d₁

/-- How a traversal is judged whose connector hands this back at a desk. -/
def verdict (t : Running) (answer : Except Failure Batch) (d : Desk) : Result :=
  match ((judge t answer).perform d).1 with
  | .ok r => r
  | .error f => failed 0 f

/-- The checkpoint of the traversal was stored. -/
def Result.Stores (r : Result) : Prop := r.status = .success ∧ r.overtaken = false

theorem Result.not_stores_of_overtaken {r : Result} (h : r.overtaken = true) : ¬ r.Stores := by
  intro hs
  rw [hs.2] at h
  cases h

theorem Result.not_stores_of_error {r : Result} (h : r.status = .error) : ¬ r.Stores := by
  intro hs
  rw [hs.1] at h
  cases h

/-- A connector hands back a batch, and nothing hinders that its documents are addressed. -/
def Running.Usable (t : Running) (answer : Except Failure Batch) (d : Desk) : Prop :=
  ∃ b, answer = .ok b ∧
    (addressAll (d.site.settings.addressing t.connector) b.documents).rest = none

section

variable {t : Running} {answer : Except Failure Batch} {r : Result} {d d' : Desk}

/-- What judging a traversal does to what is stored about its connector. -/
theorem Judged.about (h : Judged t d answer r d') :
    (r.Stores ∧ ∃ b, answer = .ok b ∧
      generationOf (d.rows.about t.connector).state = t.snapshot.generation ∧
      d'.rows.about t.connector = { d.rows.about t.connector with
        state := some ⟨b.checkpoint, t.snapshot.generation⟩ }) ∨
    (¬ r.Stores ∧ d'.rows.about t.connector = d.rows.about t.connector) := by
  cases h with
  | @stored b r d₁ n _ _ current status overtaken calm =>
    refine .inl ⟨⟨status, overtaken⟩, b, rfl, current, ?_⟩
    have hgen : generationOf (d.rows.about t.connector).state = t.snapshot.generation := current
    rw [Desk.rows_counting, Desk.rows_withRows, Rows.about_advanced_self, hgen]
  | overtaken _ _ _ overtaken calm =>
    exact .inr ⟨Result.not_stores_of_overtaken overtaken, by rw [calm.rows]⟩
  | failed _ status _ calm => exact .inr ⟨Result.not_stores_of_error status, by rw [calm.rows]⟩

/-- The times of a connector are not given to it before its traversal is closed. -/
theorem Judged.schedule (h : Judged t d answer r d') :
    (d'.rows.about t.connector).schedule = (d.rows.about t.connector).schedule := by
  rcases h.about with ⟨-, b, -, -, habout⟩ | ⟨-, habout⟩ <;> rw [habout]

/-- Where no statement fails, a traversal whose connector is still there in the generation in which it
began stores its checkpoint, and one that comes too late is overtaken, provided that its batch can
be used and its generation be written. -/
theorem Judged.iff_of_works (h : Judged t d answer r d') (hw : d.Works)
    (hg : t.snapshot.generation < 9223372036854775808) :
    (r.Stores ↔ t.Usable answer d ∧ (d.known t.connector).isSome ∧
      generationOf (d.rows.about t.connector).state = t.snapshot.generation) ∧
    (r.overtaken = true ↔ t.Usable answer d ∧ ¬ ((d.known t.connector).isSome ∧
      generationOf (d.rows.about t.connector).state = t.snapshot.generation)) := by
  cases h with
  | stored usable known current status overtaken _ =>
    have hu : t.Usable (.ok _) d := ⟨_, rfl, usable⟩
    refine ⟨iff_of_true ⟨status, overtaken⟩ ⟨hu, known, current⟩, ?_⟩
    rw [overtaken]
    exact iff_of_false nofun fun h => h.2 ⟨known, current⟩
  | overtaken usable stale status overtaken _ =>
    have hstale : ¬ ((d.known t.connector).isSome ∧
        generationOf (d.rows.about t.connector).state = t.snapshot.generation) := by
      rintro ⟨hk, hc⟩
      rcases stale with hn | hn
      · rw [hn] at hk
        cases hk
      · exact hn hc
    exact ⟨iff_of_false (Result.not_stores_of_overtaken overtaken) fun h => hstale h.2,
      iff_of_true overtaken ⟨⟨_, rfl, usable⟩, hstale⟩⟩
  | failed why status overtaken _ =>
    have hu : ¬ t.Usable answer d := by
      rintro ⟨b, hb, hrest⟩
      rcases why b hb with h | h | h
      · exact h hrest
      · exact h hw
      · omega
    refine ⟨iff_of_false (Result.not_stores_of_error status) fun h => hu h.1, ?_⟩
    rw [overtaken]
    exact iff_of_false nofun fun h => hu h.1

/-- Judging a traversal leaves connectors and runs alone, and the states of other connectors. -/
theorem Judged.sparing (h : Judged t d answer r d') : d.Sparing d' := by
  cases h with
  | stored _ _ _ _ _ calm => exact calm.sparing_withRows _ rfl
  | overtaken _ _ _ _ calm => exact calm.toSparing
  | failed _ _ _ calm => exact calm.toSparing

theorem Judged.runs (h : Judged t d answer r d') : d'.rows.runs = d.rows.runs := by
  cases h with
  | stored => rfl
  | overtaken _ _ _ _ calm => rw [calm.rows]
  | failed _ _ _ calm => rw [calm.rows]

theorem Judged.about_of_ne (h : Judged t d answer r d') {name : String} (hn : name ≠ t.connector) :
    d'.rows.about name = d.rows.about name := by
  cases h with
  | stored => exact Rows.about_advanced_of_ne _ hn _
  | overtaken _ _ _ _ calm => rw [calm.rows]
  | failed _ _ _ calm => rw [calm.rows]

end

theorem Judged.idle {t : Running} {answer : Except Failure Batch} {r : Result} {d d' : Desk}
    (h : Judged t d answer r d') : d.Idle d' := by
  cases h with
  | stored _ _ _ _ _ calm => exact ⟨calm.locks, calm.queue, calm.refuses, calm.tracked⟩
  | overtaken _ _ _ _ calm => exact calm.idle
  | failed _ _ _ calm => exact calm.idle

theorem judged_of_perform (t : Running) (answer : Except Failure Batch) (d : Desk) :
    ∃ r d', (judge t answer).perform d = (.ok r, d') ∧ Judged t d answer r d' := by
  cases answer with
  | error e => exact ⟨_, d, rfl, .failed nofun rfl rfl (.refl d)⟩
  | ok b =>
    simp only [judge, settle, perform_bind, perform_site]
    obtain ⟨d₁, hd, hp⟩ := perform_warnings calm_warn
      (fun e => "Skipping document from " ++
        (d.site.settings.addressing t.connector).dataSource ++ ": " ++ e.message)
      (addressAll (d.site.settings.addressing t.connector) b.documents).refusals d
    rw [hp]
    cases hr : (addressAll (d.site.settings.addressing t.connector) b.documents).rest with
    | some e =>
      exact ⟨_, d₁, rfl, .failed (fun b' hb => .inl (by cases hb; simp [hr])) rfl rfl hd⟩
    | none =>
      dsimp only
      simp only [perform_bind, perform_attempt]
      obtain ⟨n, ⟨hk, hg, hs⟩ | ⟨hg, hs⟩ | ⟨hw, f, hs⟩⟩ := perform_storeCheckpoint t b.checkpoint d₁
      · rw [hs]
        rw [hd.rows] at hg ⊢
        exact ⟨_, _, rfl, .stored hr (hd.known _ ▸ hk) hg rfl rfl hd⟩
      · rw [hs]
        rw [hd.rows, hd.known] at hg
        exact ⟨_, _, rfl, .overtaken hr hg rfl rfl (hd.trans (d₁.calm_counting n))⟩
      · rw [hs]
        refine ⟨_, _, rfl, .failed (fun b' hb => .inr ?_) rfl rfl (hd.trans (d₁.calm_counting n))⟩
        exact hw.imp_left fun hw h => hw (hd.works h)

/-- How many documents count for the time at which a connector is due next. -/
def Result.counted (r : Result) : Nat := if r.status = .success then r.items else 0

/-- How a judged traversal is closed at a desk, and the desk afterwards. Its connector gets new
times unless it was overtaken or something fails. -/
inductive Closed (t : Opened) (r : Result) (d : Desk) : Except Failure Nat → Desk → Prop
  | unlogged {f : Failure} {d₁ : Desk} (works : ¬ d.Works) (calm : d.Calm d₁) :
      Closed t r d (.error f) d₁
  | overtaken {d₁ : Desk} {n : Nat} (overtaken : r.overtaken = true) (calm : d.Calm d₁) :
      Closed t r d (.ok r.items)
        ((d₁.withRows (d.rows.ended t.run r.toOutcome d.site.clock.now)).counting n)
  | unmarked {f : Failure} {d₁ : Desk} {n : Nat} (overtaken : r.overtaken = false)
      (why : ¬ d.Works ∨ ∃ e, t.schedule.nextDue r.counted d.site.clock.now = .error e)
      (calm : d.Calm d₁) :
      Closed t r d (.error f)
        ((d₁.withRows (d.rows.ended t.run r.toOutcome d.site.clock.now)).counting n)
  | marked {due : Option Time.DateTime} {d₁ : Desk} {n : Nat} (overtaken : r.overtaken = false)
      (next : t.schedule.nextDue r.counted d.site.clock.now = .ok due) (calm : d.Calm d₁) :
      Closed t r d (.ok r.items)
        ((d₁.withRows ((d.rows.ended t.run r.toOutcome d.site.clock.now).marked t.connector
          (some d.site.clock.now) due)).counting n)

theorem closed_of_perform (t : Opened) (r : Result) (d : Desk) :
    Closed t r d ((close t r).perform d).1 ((close t r).perform d).2 := by
  have hlog : ∃ d₁, d.Calm d₁ ∧ d₁.site.clock = d.site.clock ∧
      (close t r).perform d = (do
        let finished ← readClock
        transact .database (Runs.finish t.run r.toOutcome finished)
        if !r.overtaken then
          let due ← give ((t.schedule.nextDue r.counted finished).mapError .calendar)
          store ("update run times for " ++ t.connector)
            (Schedules.markRun t.connector (some finished) due)
        return r.items : Act Nat).perform d₁ := by
    unfold close
    by_cases hs : r.status = .error
    · rw [if_pos hs]
      exact ⟨_, calm_logs _ d, rfl, rfl⟩
    · rw [if_neg hs]
      exact ⟨d, .refl d, rfl, rfl⟩
  obtain ⟨d₁, hd, hclock, hp⟩ := hlog
  have hread : readClock.perform d₁ = (.ok d.site.clock.now, (readClock.perform d₁).2) := by
    rw [← hclock]
    rfl
  have hd₂ := hd.trans (calm_readClock d₁)
  rw [hp, perform_bind, hread]
  generalize (readClock.perform d₁).2 = d₂ at hd₂
  simp only [perform_bind]
  rcases perform_transact_cases (Runs.means_finish t.run r.toOutcome d.site.clock.now) .database d₂
    with ⟨_, rows, n, hf, hr⟩ | ⟨e, n, he, hr⟩
  · cases hf
    rw [hr, hd₂.rows]
    cases ho : r.overtaken with
    | true => exact .overtaken ho hd₂
    | false =>
      simp only [perform_bind, perform_give, Bool.not_false, if_true]
      cases hn : t.schedule.nextDue r.counted d.site.clock.now with
      | error e => exact .unmarked ho (.inr ⟨e, hn⟩) hd₂
      | ok due =>
        rw [mapError_ok]
        dsimp only
        rcases perform_store_cases
          (Schedules.means_markRun t.connector (some d.site.clock.now) due)
          ("update run times for " ++ t.connector)
          ((d₂.withRows (d.rows.ended t.run r.toOutcome d.site.clock.now)).counting n) with
          ⟨m, hm⟩ | ⟨hw, m, hm⟩
        · rw [hm, Desk.withRows_counting, Desk.withRows_withRows, Desk.counting_counting]
          exact .marked ho hn hd₂
        · rw [hm, Desk.counting_counting]
          exact .unmarked ho (.inl fun h => hw ((hd₂.works h).counting _ n)) hd₂
  · rw [hr]
    rcases he with he | ⟨-, hw⟩
    · cases he
    · exact .unlogged (fun h => hw (hd₂.works h)) (hd₂.trans (d₂.calm_counting n))

/-- What closing a traversal does to what is stored about its connector. -/
theorem Closed.about {t : Opened} {r : Result} {d d' : Desk} {x : Except Failure Nat}
    (h : Closed t r d x d') :
    (r.overtaken = false ∧ (∃ items, x = .ok items) ∧
      ∃ due, t.schedule.nextDue r.counted d.site.clock.now = .ok due ∧
        d'.rows.about t.connector = { d.rows.about t.connector with
          schedule := (d.rows.about t.connector).schedule.map
            (·.marked (some d.site.clock.now) due) }) ∨
    ((r.overtaken = true ∨ ∃ f, x = .error f) ∧
      d'.rows.about t.connector = d.rows.about t.connector) := by
  cases h with
  | unlogged _ calm => exact .inr ⟨.inr ⟨_, rfl⟩, by rw [calm.rows]⟩
  | overtaken overtaken => exact .inr ⟨.inl overtaken, rfl⟩
  | unmarked => exact .inr ⟨.inr ⟨_, rfl⟩, rfl⟩
  | @marked due _ _ overtaken next =>
    refine .inl ⟨overtaken, ⟨_, rfl⟩, due, next, ?_⟩
    rw [Desk.rows_counting, Desk.rows_withRows, Rows.about_marked_self, Rows.about_ended]

theorem Closed.about_of_ne {t : Opened} {r : Result} {d d' : Desk} {x : Except Failure Nat}
    (h : Closed t r d x d') {name : String} (hn : name ≠ t.connector) :
    d'.rows.about name = d.rows.about name := by
  cases h with
  | unlogged _ calm => rw [calm.rows]
  | overtaken => rfl
  | unmarked => rfl
  | marked => exact Rows.about_marked_of_ne _ hn _ _

theorem Closed.runs {t : Opened} {r : Result} {d d' : Desk} {x : Except Failure Nat}
    (h : Closed t r d x d') (hw : d.Works) :
    d'.rows.runs = (d.rows.ended t.run r.toOutcome d.site.clock.now).runs := by
  cases h with
  | unlogged broken => exact absurd hw broken
  | overtaken => rfl
  | unmarked => rfl
  | marked => exact Rows.runs_marked ..

theorem Closed.passing {t : Opened} {r : Result} {d d' : Desk} {x : Except Failure Nat}
    (h : Closed t r d x d') : d.Passing d' := by
  have hruns := d.rows.mem_ended t.run r.toOutcome d.site.clock.now
  cases h with
  | unlogged _ calm => exact calm.passing
  | overtaken _ calm => exact calm.passing_withRows _ rfl rfl (fun _ => rfl) hruns
  | unmarked _ _ calm => exact calm.passing_withRows _ rfl rfl (fun _ => rfl) hruns
  | marked _ _ calm =>
    exact calm.passing_withRows _ (by simp; rfl) (by simp; rfl) (Rows.isSome_schedules_marked _ _ _ _)
      (by simpa)

/-- A traversal that ends is judged, then closed, and then frees its lock. -/
theorem perform_finish (t : Running) (answer : Except Failure Batch) (d : Desk) :
    ∃ d₁ x d₂, (judge t answer).perform d = (.ok (verdict t answer d), d₁) ∧
      Judged t d answer (verdict t answer d) d₁ ∧
      Closed t.toOpened (verdict t answer d) d₁ x d₂ ∧
      (finish t answer).perform d =
        (x, { d₂ with site := d₂.site.unlock (lockKey t.connector) }) := by
  obtain ⟨r, d₁, hj, hr⟩ := judged_of_perform t answer d
  have hv : verdict t answer d = r := by
    unfold verdict
    rw [hj]
  rw [hv]
  refine ⟨d₁, _, _, hj, hr, closed_of_perform t.toOpened r d₁, ?_⟩
  rw [finish_eq, perform_releasing, perform_bind, hj]

/-- A run is logged for a connector that is known and has a schedule that can be read. It is told if
the schedule cannot. -/
theorem perform_open? (name : String) (d : Desk) :
    (∃ t d₁ n row, t.connector = name ∧ t.run = Runs.nextId d.rows.runs ∧
      (d.known name).isSome ∧ d.rows.schedules.get? name = some row ∧
      Schedule.parse row.text = .ok t.schedule ∧ d.Calm d₁ ∧
      (open? name).perform d =
        (.ok (some t), (d₁.withRows (d.rows.started name d.site.clock.now)).counting n)) ∨
    (∃ x d₁, (∀ t, x ≠ .ok (some t)) ∧
      (∀ e, x = .error (.schedule e) →
        ∃ row, d.rows.schedules.get? name = some row ∧ Schedule.parse row.text = .error e) ∧
      d.Calm d₁ ∧ (open? name).perform d = (x, d₁)) := by
  unfold open?
  simp only [perform_bind]
  rcases perform_store_cases (Schedules.means_find? name) ("read schedule for " ++ name) d with
    ⟨n, hp⟩ | ⟨-, n, hp⟩
  · have hgone (m : Nat) := (d.calm_counting m).trans
      (calm_warn ("Connector " ++ name ++ " is no longer scheduled") (d.counting m))
    rw [hp]
    cases hr : d.rows.schedules.get? name with
    | none => exact .inr ⟨.ok none, _, nofun, nofun, hgone n, rfl⟩
    | some row =>
      simp only [perform_bind]
      obtain ⟨m, hh | ⟨-, hh⟩⟩ := Instances.perform_has_counting name d n
      · rw [hh]
        cases hk : d.known name with
        | none => exact .inr ⟨.ok none, _, nofun, nofun, hgone m, rfl⟩
        | some i =>
          simp only [Option.isSome_some, if_true, perform_bind, perform_give]
          cases hs : Schedule.parse row.text with
          | error e =>
            refine .inr ⟨.error (.schedule e), _, nofun, fun e' he => ?_, d.calm_counting m, rfl⟩
            cases he
            exact ⟨row, rfl, hs⟩
          | ok schedule =>
            have hd₁ := (d.calm_counting m).trans (calm_readClock (d.counting m))
            have hread : readClock.perform (d.counting m) =
              (.ok d.site.clock.now, (readClock.perform (d.counting m)).2) := rfl
            rw [mapError_ok]
            dsimp only
            rw [hread]
            generalize (readClock.perform (d.counting m)).2 = d₁ at hd₁
            dsimp only
            rcases perform_transact_cases (Runs.means_start name d.site.clock.now) .database d₁
              with ⟨id, rows, k, hf, ht⟩ | ⟨e, k, -, ht⟩
            · cases hf
              rw [ht, hd₁.rows]
              exact .inl ⟨⟨name, schedule, _⟩, d₁, k, row, rfl, rfl, trivial, rfl, hs, hd₁, rfl⟩
            · rw [ht]
              exact .inr ⟨.error (.database e), _, nofun, nofun, hd₁.trans (d₁.calm_counting k), rfl⟩
      · rw [hh]
        exact .inr ⟨.error (.notRead name), _, nofun, nofun, d.calm_counting m, rfl⟩
  · rw [hp]
    exact .inr ⟨.error (.store _), _, nofun, nofun, d.calm_counting n, rfl⟩

/-- A connector is handed the checkpoint that is stored for it. -/
theorem perform_handOver (t : Opened) (d : Desk) :
    (∃ r d₁, r.toOpened = t ∧
      r.snapshot = States.snapshotOf (d.rows.states.get? t.connector) ∧ d.Calm d₁ ∧
      d₁.site.calls.getLast? = some (.resumed r.serial r.snapshot.checkpoint t.schedule.load) ∧
      (handOver t).perform d = (.ok r, d₁)) ∨
    (∃ f d₁, d.Calm d₁ ∧ (handOver t).perform d = (.error f, d₁)) := by
  unfold handOver
  simp only [perform_bind]
  have hf := Instances.calm_find t.connector d
  cases hi : (Instances.find t.connector).perform d with
  | mk x d₁ =>
    rw [hi] at hf
    cases x with
    | error f => exact .inr ⟨f, d₁, hf, rfl⟩
    | ok i =>
      dsimp only
      by_cases ht : i.connector.traverses = true
      · rw [if_neg (by simp [ht])]
        simp only [perform_bind]
        rcases perform_store_cases (States.means_snapshot t.connector)
          ("read traversal state for " ++ t.connector) d₁ with ⟨n, hs⟩ | ⟨-, n, hs⟩
        · have hs : (Instances.snapshot t.connector).perform d₁ =
            (.ok (States.snapshotOf (d₁.rows.states.get? t.connector)), d₁.counting n) := hs
          rw [hs, hf.rows]
          refine .inl ⟨⟨t, i.connector.serial, _⟩, _, rfl, rfl, ?_, ?_, rfl⟩
          · exact (hf.trans (d₁.calm_counting n)).trans (calm_record _ _)
          · exact List.getLast?_concat
        · have hs : (Instances.snapshot t.connector).perform d₁ =
            (.error (.store _), d₁.counting n) := hs
          rw [hs]
          exact .inr ⟨_, _, hf.trans (d₁.calm_counting n), rfl⟩
      · rw [if_pos (by simp [ht])]
        exact .inr ⟨.noTraversal t.connector, d₁, hf, rfl⟩

/-- A traversal that was handed over from one desk to the other: its run is logged, and it knows the
state of its connector, which was told where to go on. -/
structure HandedOver (name : String) (d : Desk) (t : Running) (d' : Desk) : Prop where
  connector : t.connector = name
  run : t.run = Runs.nextId d.rows.runs
  known : (d.known name).isSome
  snapshot : t.snapshot = States.snapshotOf (d.rows.states.get? name)
  call : d'.site.calls.getLast? = some (.resumed t.serial t.snapshot.checkpoint t.schedule.load)
  rows : d'.rows = d.rows.started name d.site.clock.now
  passing : d.Passing d'

/-- A traversal is handed over in the beginning, or it is over at once. -/
theorem perform_start (name : String) (d : Desk) :
    (∃ t d', HandedOver name d t d' ∧ (start name).perform d = (.ok (.running t), d')) ∨
    (∃ x d', (∀ t, x ≠ .ok (.running t)) ∧ d.Passing d' ∧ (start name).perform d = (x, d')) := by
  simp only [start, perform_bind]
  rcases perform_open? name d with
    ⟨t, d₁, n, row, hname, hrun, hk, -, -, hd₁, hp⟩ | ⟨x, d₁, hx, -, hd₁, hp⟩
  · rw [hp]
    obtain ⟨-, hruns⟩ := d.rows.mem_started name d.site.clock.now
    have hpass : d.Passing ((d₁.withRows (d.rows.started name d.site.clock.now)).counting n) :=
      hd₁.passing_withRows n rfl rfl (fun _ => rfl) hruns
    generalize hd₂ : (d₁.withRows (d.rows.started name d.site.clock.now)).counting n = d₂ at hpass
    have hrows : d₂.rows = d.rows.started name d.site.clock.now := hd₂ ▸ rfl
    simp only [perform_bind, perform_attempt]
    rcases perform_handOver t d₂ with ⟨r, d₃, hr, hsnap, hd₃, hcall, hh⟩ | ⟨f, d₃, hd₃, hh⟩
    · rw [hh]
      subst hr
      refine .inl ⟨r, d₃, ⟨hname, hrun, hk, ?_, hcall, hd₃.rows.trans hrows,
        hpass.trans hd₃.passing⟩, rfl⟩
      rw [hsnap, hpass.states, hname]
    · rw [hh]
      have hc := closed_of_perform t (failed 0 f) d₃
      simp only [perform_bind]
      cases hclose : (close t (failed 0 f)).perform d₃ with
      | mk x d₄ =>
        rw [hclose] at hc
        have hpass := (hpass.trans hd₃.passing).trans hc.passing
        cases x with
        | ok items => exact .inr ⟨.ok (.over items), d₄, nofun, hpass, rfl⟩
        | error f => exact .inr ⟨.error f, d₄, nofun, hpass, rfl⟩
  · rw [hp]
    rcases x with f | _ | t
    · exact .inr ⟨.error f, d₁, nofun, hd₁.passing, rfl⟩
    · exact .inr ⟨.ok (.over 0), d₁, nofun, hd₁.passing, rfl⟩
    · exact absurd rfl (hx t)

/-- A traversal that is over at once frees its lock. -/
theorem perform_begin (name : String) (d : Desk) :
    (∃ t d', HandedOver name d t d' ∧ (begin name).perform d = (.ok (.running t), d')) ∨
    (∃ x d', (∀ t, x ≠ .ok (.running t)) ∧ d.Passing d' ∧
      (begin name).perform d = (x, { d' with site := d'.site.unlock (lockKey name) })) := by
  simp only [begin, perform_bind, perform_attempt]
  rcases perform_start name d with ⟨t, d', ht, hp⟩ | ⟨x, d', hx, hd, hp⟩
  · rw [hp]
    exact .inl ⟨t, d', ht, rfl⟩
  · rw [hp]
    rcases x with f | ⟨items⟩ | ⟨t⟩
    · exact .inr ⟨.error f, d', hx, hd, rfl⟩
    · exact .inr ⟨.ok (.over items), d', hx, hd, rfl⟩
    · exact absurd rfl (hx t)

end Traversal

end ConnectorHub
