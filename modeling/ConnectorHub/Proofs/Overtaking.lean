import ConnectorHub.Proofs.Generations

/-! Restarts and removals in the middle of a traversal. A traversal that ends writes to two tables:
its checkpoint is guarded by the generation of the connector, its times by what came of that. -/
namespace ConnectorHub

open Store Act Scenario

namespace Store

/-- What a restart leaves of a connector: no checkpoint, in this generation, and no times. -/
def Record.StartedOver (r : Record) (generation : Nat) : Prop :=
  r.state = some ⟨none, generation⟩ ∧
    ∀ row ∈ r.schedule, row.lastRun = none ∧ row.nextDue = none

instance (r : Record) (generation : Nat) : Decidable (r.StartedOver generation) :=
  inferInstanceAs (Decidable (_ ∧ _))

theorem ScheduleRow.marked_none (row : ScheduleRow) :
    (row.marked none none).lastRun = none ∧ (row.marked none none).nextDue = none := by
  unfold marked
  split
  · assumption
  · exact ⟨rfl, rfl⟩

theorem ScheduleRow.marked_some (row : ScheduleRow) (lastRun : Time.DateTime)
    (nextDue : Option Time.DateTime) : (row.marked (some lastRun) nextDue).lastRun ≠ none := by
  unfold marked
  split
  · rename_i h
    simp [h.1]
  · simp

end Store

/-- A restart that succeeds. -/
theorem Scenario.Operation.Account.startedOver {name : String} {v : Json} {d d' : Desk}
    (h : Account (.restart name) (.ok v) d d') :
    (d'.rows.about name).StartedOver (d.generation name + 1) := by
  rcases h.rows with hrows | ⟨-, _, _, -, he, -⟩
  · rw [hrows]
    simp only [effect, Record.StartedOver, Rows.about_marked_self, Rows.about_reset_self]
    refine ⟨rfl, fun row hrow => ?_⟩
    obtain ⟨old, -, rfl⟩ := Option.map_eq_some_iff.1 hrow
    exact old.marked_none
  · cases he

namespace Traversal

variable {t : Running} {answer : Except Failure Batch} {r : Result} {d d₁ d₂ : Desk}
  {x : Except Failure Nat}

/-- The state of a connector after a traversal. -/
theorem state_of_finish (hj : Judged t d answer r d₁) (hc : Closed t.toOpened r d₁ x d₂) :
    (r.Stores ∧ ∃ b, answer = .ok b ∧ d.generation t.connector = t.snapshot.generation ∧
      (d₂.rows.about t.connector).state = some ⟨b.checkpoint, t.snapshot.generation⟩) ∨
    (¬ r.Stores ∧ (d₂.rows.about t.connector).state = (d.rows.about t.connector).state) := by
  have hstate : (d₂.rows.about t.connector).state = (d₁.rows.about t.connector).state := by
    simp only [Rows.about, hc.passing.states]
  rw [hstate]
  rcases hj.about with ⟨hs, b, hb, hg, h⟩ | ⟨hs, h⟩
  · exact .inl ⟨hs, b, hb, hg, by rw [h]⟩
  · exact .inr ⟨hs, by rw [h]⟩

/-- The schedule of a connector after a traversal. -/
theorem schedule_of_finish (hj : Judged t d answer r d₁) (hc : Closed t.toOpened r d₁ x d₂) :
    (r.overtaken = false ∧ (∃ items, x = .ok items) ∧
      ∃ due, t.schedule.nextDue r.counted d₁.site.clock.now = .ok due ∧
        (d₂.rows.about t.connector).schedule = (d.rows.about t.connector).schedule.map
          (·.marked (some d₁.site.clock.now) due)) ∨
    ((r.overtaken = true ∨ ∃ f, x = .error f) ∧
      (d₂.rows.about t.connector).schedule = (d.rows.about t.connector).schedule) := by
  rw [← hj.schedule]
  rcases hc.about with ⟨ho, hx, due, hn, h⟩ | ⟨ho, h⟩
  · exact .inl ⟨ho, hx, due, hn, by rw [h]⟩
  · exact .inr ⟨ho, by rw [h]⟩

/-- The traversal leaves the times of a connector that has a schedule alone if it was overtaken, or
if it fails before it stores them. -/
def Spares (r : Result) (x : Except Failure Nat) : Prop := r.overtaken = true ∨ ∃ f, x = .error f

theorem not_spares {items : Nat} (ho : r.overtaken = false) : ¬ Spares r (.ok items) := by
  rintro (h | ⟨f, hf⟩)
  · rw [ho] at h
    cases h
  · cases hf

/-- The state of a connector outlasts a traversal exactly if the traversal stores no checkpoint, or
one that is stored already. -/
theorem state_of_finish_iff (hj : Judged t d answer r d₁) (hc : Closed t.toOpened r d₁ x d₂) :
    (d₂.rows.about t.connector).state = (d.rows.about t.connector).state ↔
      (r.Stores → ∀ b, answer = .ok b →
        (d.rows.about t.connector).state = some ⟨b.checkpoint, t.snapshot.generation⟩) := by
  rcases state_of_finish hj hc with ⟨hs, b, hb, -, h⟩ | ⟨hs, h⟩
  · rw [h]
    constructor
    · rintro heq - b' hb'
      obtain rfl : b = b' := Except.ok.inj (hb.symm.trans hb')
      exact heq.symm
    · exact fun heq => (heq hs b hb).symm
  · exact iff_of_true h fun h => absurd h hs

/-- The schedule of a connector outlasts a traversal exactly if the traversal spares its times, or
stores those that it has. -/
theorem schedule_of_finish_iff (hj : Judged t d answer r d₁)
    (hc : Closed t.toOpened r d₁ x d₂) :
    (d₂.rows.about t.connector).schedule = (d.rows.about t.connector).schedule ↔
      Spares r x ∨ ∀ due, t.schedule.nextDue r.counted d₁.site.clock.now = .ok due →
        (d.rows.about t.connector).schedule.map (·.marked (some d₁.site.clock.now) due) =
          (d.rows.about t.connector).schedule := by
  rcases schedule_of_finish hj hc with ⟨ho, ⟨items, rfl⟩, due, hn, h⟩ | ⟨hs, h⟩
  · rw [h, or_iff_right (not_spares ho)]
    constructor
    · intro heq due' hn'
      obtain rfl : due = due' := Except.ok.inj (hn.symm.trans hn')
      exact heq
    · exact fun heq => heq due hn
  · exact iff_of_true h (.inl hs)

/-- What a restart left outlasts a traversal exactly if the traversal stores no checkpoint, and
stores no times. -/
theorem startedOver_of_finish_iff (hj : Judged t d answer r d₁)
    (hc : Closed t.toOpened r d₁ x d₂) {g : Nat}
    (hd : (d.rows.about t.connector).StartedOver g) :
    (d₂.rows.about t.connector).StartedOver g ↔
      (r.Stores → ∀ b, answer = .ok b → b.checkpoint = none) ∧
      (Spares r x ∨ (d.rows.about t.connector).schedule = none) := by
  refine and_congr ?_ ?_
  · rcases state_of_finish hj hc with ⟨hs, b, hb, hg, h⟩ | ⟨hs, h⟩
    · have hgen : t.snapshot.generation = g := by
        rw [← hg, Desk.generation, hd.1]
        rfl
      rw [h, hgen]
      constructor
      · rintro heq - b' hb'
        obtain rfl : b = b' := Except.ok.inj (hb.symm.trans hb')
        exact congrArg StateRow.checkpoint (Option.some.inj heq)
      · intro hnone
        rw [hnone hs b hb]
    · exact iff_of_true (h.trans hd.1) fun h => absurd h hs
  · rcases schedule_of_finish hj hc with ⟨ho, ⟨items, rfl⟩, due, -, h⟩ | ⟨hs, h⟩
    · rw [h, or_iff_right (not_spares ho)]
      cases (d.rows.about t.connector).schedule with
      | none =>
        refine iff_of_true (fun row hrow => ?_) rfl
        cases hrow
      | some row =>
        refine iff_of_false (fun hrow => ?_) (Option.some_ne_none row)
        exact row.marked_some _ _ (hrow _ rfl).1
    · rw [h]
      exact iff_of_true hd.2 (.inl hs)

end Traversal

namespace Hub

/-- What an operation comes to that is answered so. -/
theorem account_of_asked {h : Hub} {place : Nat} {op : Operation} {answer : Except Failure Json}
    (hop : op.isManaged = true) (ha : (h.move (.ask place op)).2 = [.asked op answer]) :
    ∃ d, Operation.Account op answer (h.desk place) d ∧
      (h.move (.ask place op)).1 = h.leave place d := by
  have haccount := Operation.account_of_isManaged hop (h.desk place)
  have hanswer : (op.perform.perform (h.desk place)).1 = answer := by
    injection ha with he
    injection he
  rw [hanswer] at haccount
  exact ⟨_, haccount, rfl⟩

/-- A restart that succeeds leaves the next generation. -/
theorem startedOver_of_restart {h : Hub} {place : Nat} {name : String} {v : Json}
    (hr : (h.move (.ask place (.restart name))).2 = [.asked (.restart name) (.ok v)]) :
    ((h.move (.ask place (.restart name))).1.rows.about name).StartedOver
      (h.generation name + 1) := by
  obtain ⟨d, hd, hp⟩ := account_of_asked rfl hr
  rw [hp]
  exact hd.startedOver

/-- The course of a traversal from where it was handed over to where its connector hands back. In
between the connector was started over, at the hub `restart` and after the events `before`, and what
that left is still there. -/
structure RestartDuring (t : Traversal.Running) (before : List Event) (restart back : Hub) : Prop where
  handed : ∃ (h : Hub) (m : Move), (h.move m).2 = [.handedOver t] ∧
    Course (h.move m).1 before restart
  restarted : ∃ (place : Nat) (v : Json) (after : List Event),
    (restart.move (.ask place (.restart t.connector))).2 =
      [.asked (.restart t.connector) (.ok v)] ∧
    Course (restart.move (.ask place (.restart t.connector))).1 after back
  kept : (back.rows.about t.connector).StartedOver (restart.generation t.connector + 1)

/-- A restart wins over a traversal that is in progress exactly if the traversal stores neither a
checkpoint nor times. It stores no checkpoint unless the connector was removed before, so that the
count of its generations began anew; but a traversal that fails does not notice that it was
overtaken, and stores times. -/
theorem restart_wins_iff {t : Traversal.Running} {before : List Event} {restart back : Hub}
    (during : RestartDuring t before restart back) {place index : Nat}
    (going : back.going[index]? = some (place, t)) (answer : Except Failure Batch) :
    let g := restart.generation t.connector + 1
    let r := Traversal.verdict t answer (back.desk place)
    let final := (back.move (.finish index answer)).1.rows.about t.connector
    (final.StartedOver g ↔
      (r.Stores → ∀ b, answer = .ok b → b.checkpoint = none) ∧
      (Traversal.Spares r ((Traversal.finish t answer).perform (back.desk place)).1 ∨
        (back.rows.about t.connector).schedule = none)) ∧
    ((∀ e ∈ before, e.isManaged = true ∧ e.removes t.connector = false) →
      final.state = some ⟨none, g⟩ ∧
      (back.Works → t.snapshot.generation < 9223372036854775808 →
        (r.overtaken = true ↔ t.Usable answer (back.desk place)))) := by
  obtain ⟨d₁, x, d₂, -, hj, hc, hx, hp⟩ := finish_cases going answer
  intro g r final
  have hfinal : final = d₂.rows.about t.connector := by
    simp only [final, hp]
    rfl
  have hback : ((back.desk place).rows.about t.connector).StartedOver g := during.kept
  rw [hfinal, hx]
  refine ⟨Traversal.startedOver_of_finish_iff hj hc hback, fun hbefore => ?_⟩
  obtain ⟨h, m, hhanded, hrun⟩ := during.handed
  -- Generations only grow while the connector is not removed.
  have hlt : t.snapshot.generation < g := by
    have hle := (hrun.generation hbefore).1
    rw [generation_of_handedOver hhanded] at hle
    exact Nat.lt_succ_of_le hle
  have hgen : (back.desk place).generation t.connector = g := by
    rw [Desk.generation, hback.1]
    rfl
  refine ⟨?_, fun hw hg => ?_⟩
  · rcases Traversal.state_of_finish hj hc with ⟨-, b, -, hcurrent, -⟩ | ⟨-, hstate⟩
    · omega
    · exact hstate.trans hback.1
  · rw [(hj.iff_of_works hw hg).2]
    refine and_iff_left fun hcurrent => ?_
    have := hgen.symm.trans hcurrent.2
    omega

/-- The first traversal of a connector goes on. -/
def begun : Hub := (untouched.play (setUp 0 "a" ++ [.begin 0 "a"])).1

def firstTraversal : Traversal.Running :=
  ((untouched.play (setUp 0 "a")).1.handed? (.begin 0 "a")).get (by decide +kernel)

theorem handed_firstTraversal :
    ∃ (h : Hub) (m : Move), (h.move m).2 = [.handedOver firstTraversal] ∧ (h.move m).1 = begun :=
  ⟨(untouched.play (setUp 0 "a")).1, .begin 0 "a", move_of_handed? (Option.some_get _).symm, rfl⟩

theorem connector_firstTraversal : firstTraversal.connector = "a" := by decide +kernel

/-- Its connector is started over meanwhile. -/
def startedOver : Hub := (begun.move (.ask 0 (.restart "a"))).1

theorem restartDuring_startedOver :
    RestartDuring firstTraversal [] begun startedOver := by
  obtain ⟨h, m, hm, hb⟩ := handed_firstTraversal
  obtain ⟨v, hv⟩ := @exists_answer begun 0 (.restart "a") (by decide +kernel)
  have hkept := startedOver_of_restart hv
  rw [← connector_firstTraversal] at hv hkept
  have hover : (begun.move (.ask 0 (.restart firstTraversal.connector))).1 = startedOver := by
    rw [connector_firstTraversal]
    rfl
  rw [hover] at hkept
  exact ⟨⟨h, m, hm, hb ▸ .none⟩, ⟨0, v, [], hv, hover ▸ .none⟩, hkept⟩

/-- A restart wins over a traversal whose connector hands back a batch. -/
theorem restart_wins_over_batch :
    RestartDuring firstTraversal [] begun startedOver ∧
      startedOver.going[0]? = some (0, firstTraversal) ∧
      ((startedOver.move (.finish 0 (.ok ⟨[], some "x"⟩))).1.rows.about "a").StartedOver 1 := by
  have hgoing : startedOver.going[0]? = some (0, firstTraversal) := by decide +kernel
  refine ⟨restartDuring_startedOver, hgoing, ?_⟩
  have hwins := (restart_wins_iff restartDuring_startedOver hgoing (.ok ⟨[], some "x"⟩)).1
  have hovertaken : (Traversal.verdict firstTraversal (.ok ⟨[], some "x"⟩)
      (startedOver.desk 0)).overtaken = true := by decide +kernel
  exact hwins.2 ⟨fun hs => absurd hs (Traversal.Result.not_stores_of_overtaken hovertaken),
    .inl (.inl hovertaken)⟩

/-- It does not win over one whose connector fails: the connector gets times. -/
theorem restart_loses_to_failure :
    RestartDuring firstTraversal [] begun startedOver ∧
      startedOver.going[0]? = some (0, firstTraversal) ∧
      ¬ ((startedOver.move (.finish 0 (.error (.raised .runtime "down")))).1.rows.about
        "a").StartedOver 1 :=
  ⟨restartDuring_startedOver, by decide +kernel, by decide +kernel⟩

/-- A removal that succeeds leaves nothing. -/
theorem about_of_removal {h : Hub} {place : Nat} {name : String} {v : Json}
    (hr : (h.move (.ask place (.remove name))).2 = [.asked (.remove name) (.ok v)]) :
    (h.move (.ask place (.remove name))).1.rows.about name = {} ∧
      (h.Works → (h.move (.ask place (.remove name))).1.Works) := by
  obtain ⟨d, hd, hp⟩ := account_of_asked rfl hr
  rw [hp]
  refine ⟨?_, hd.works⟩
  rcases hd.rows with hrows | ⟨-, _, _, ho, -⟩
  · exact (congrArg (·.about name) hrows).trans (Rows.about_without_self ..)
  · cases ho

/-- The course of a traversal from where it was handed over to where its connector hands back. In
between the connector was removed, at the hub `removal`, and created anew, among the events
`after`. -/
structure ReplacedDuring (t : Traversal.Running) (removal : Hub) (after : List Event) (back : Hub) :
    Prop where
  handed : ∃ (h : Hub) (m : Move) (before : List Event), (h.move m).2 = [.handedOver t] ∧
    Course (h.move m).1 before removal
  removed : ∃ (place : Nat) (v : Json),
    (removal.move (.ask place (.remove t.connector))).2 =
      [.asked (.remove t.connector) (.ok v)] ∧
    Course (removal.move (.ask place (.remove t.connector))).1 after back
  created : ∃ e ∈ after, e.creates t.connector

/-- A traversal leaves the successor of its connector alone exactly if it stores neither a checkpoint
nor times that the successor does not have. It stores its checkpoint if the successor was started
over just as often as the connector had been when the traversal began, and finds that it was
overtaken if not; unless it finds that, it stores its times. -/
theorem successor_untouched_iff {t : Traversal.Running} {removal back : Hub} {after : List Event}
    (during : ReplacedDuring t removal after back) {place index : Nat}
    (going : back.going[index]? = some (place, t)) (answer : Except Failure Batch) :
    let r := Traversal.verdict t answer (back.desk place)
    let now := ((Traversal.judge t answer).perform (back.desk place)).2.site.clock.now
    let record := back.rows.about t.connector
    let final := (back.move (.finish index answer)).1.rows.about t.connector
    (final.state = record.state ∧ final.schedule = record.schedule ↔
      (r.Stores → ∀ b, answer = .ok b →
        record.state = some ⟨b.checkpoint, t.snapshot.generation⟩) ∧
      (Traversal.Spares r ((Traversal.finish t answer).perform (back.desk place)).1 ∨
        ∀ due, t.schedule.nextDue r.counted now = .ok due →
          record.schedule.map (·.marked (some now) due) = record.schedule)) ∧
    ((∀ e ∈ after, e.isManaged = true ∧ e.removes t.connector = false) → removal.Works →
      t.snapshot.generation < 9223372036854775808 →
      let current := ((back.desk place).known t.connector).isSome ∧
        after.countP (·.restarts t.connector) = t.snapshot.generation
      (r.Stores ↔ t.Usable answer (back.desk place) ∧ current) ∧
      (r.overtaken = true ↔ t.Usable answer (back.desk place) ∧ ¬ current)) := by
  obtain ⟨d₁, x, d₂, hjudge, hj, hc, hx, hp⟩ := finish_cases going answer
  intro r now record final
  have hfinal : final = d₂.rows.about t.connector := by
    simp only [final, hp]
    rfl
  have hnow : now = d₁.site.clock.now := by
    simp only [now, hjudge]
  rw [hfinal, hx, hnow]
  refine ⟨and_congr (Traversal.state_of_finish_iff hj hc) (Traversal.schedule_of_finish_iff hj hc),
    fun hafter hw hg => ?_⟩
  obtain ⟨q, v, hasked, hrun⟩ := during.removed
  obtain ⟨habout, hworks⟩ := about_of_removal hasked
  obtain ⟨-, hback, hcount⟩ := hrun.generation hafter
  -- The removal took the count of generations with it, so that the successor's begins at 0.
  have hgen : (back.desk place).generation t.connector =
      after.countP (·.restarts t.connector) := by
    refine (hcount (hworks hw)).trans ?_
    rw [Hub.generation, habout]
    exact Nat.zero_add _
  rw [← hgen]
  exact hj.iff_of_works (hback (hworks hw)) hg

/-- The connector of a traversal is removed meanwhile and created anew. -/
def replacing (h : Hub) : Hub × List Event := (h.move (.ask 0 (.remove "a"))).1.play (setUp 0 "a")

theorem replacedDuring_replacing {h : Hub} {m : Move} {t : Traversal.Running}
    (ht : (h.move m).2 = [.handedOver t]) (hname : t.connector = "a")
    (hremoved : ((h.move m).1.answer 0 (.remove "a")).isOk = true)
    (hcreated : (h.move m).1.replacing.2.any (·.creates "a") = true) :
    ReplacedDuring t (h.move m).1 (h.move m).1.replacing.2 (h.move m).1.replacing.1 where
  handed := ⟨h, m, [], ht, .none⟩
  removed := by
    obtain ⟨v, hv⟩ := exists_answer hremoved
    rw [hname]
    exact ⟨0, v, hv, course_play ..⟩
  created := by
    rw [hname]
    simpa using hcreated

/-- A traversal of a connector that was started over once before goes on. -/
def begunAgain : Hub :=
  (untouched.play (setUp 0 "a" ++ [.ask 0 (.restart "a"), .begin 0 "a"])).1

def secondTraversal : Traversal.Running :=
  ((untouched.play (setUp 0 "a" ++ [.ask 0 (.restart "a")])).1.handed? (.begin 0 "a")).get
    (by decide +kernel)

/-- A successor that was never started over is left alone by a traversal of a connector that was. -/
theorem successor_untouched_after_restart :
    ReplacedDuring secondTraversal begunAgain begunAgain.replacing.2 begunAgain.replacing.1 ∧
      begunAgain.replacing.1.going[0]? = some (0, secondTraversal) ∧
      ((begunAgain.replacing.1.move (.finish 0 (.ok ⟨[], some "x"⟩))).1.rows.about "a").state =
        (begunAgain.replacing.1.rows.about "a").state ∧
      ((begunAgain.replacing.1.move (.finish 0 (.ok ⟨[], some "x"⟩))).1.rows.about "a").schedule =
        (begunAgain.replacing.1.rows.about "a").schedule := by
  have hduring : ReplacedDuring secondTraversal begunAgain begunAgain.replacing.2
      begunAgain.replacing.1 :=
    replacedDuring_replacing (move_of_handed? (Option.some_get _).symm) (by decide +kernel)
      (by decide +kernel) (by decide +kernel)
  have hgoing : begunAgain.replacing.1.going[0]? = some (0, secondTraversal) := by decide +kernel
  have hovertaken : (Traversal.verdict secondTraversal (.ok ⟨[], some "x"⟩)
      (begunAgain.replacing.1.desk 0)).overtaken = true := by decide +kernel
  refine ⟨hduring, hgoing, ?_⟩
  exact (successor_untouched_iff hduring hgoing (.ok ⟨[], some "x"⟩)).1.2
    ⟨fun hs => absurd hs (Traversal.Result.not_stores_of_overtaken hovertaken),
      .inl (.inl hovertaken)⟩

/-- Where neither was ever started over, the successor is given the checkpoint of the traversal. -/
theorem successor_inherits_checkpoint :
    ReplacedDuring firstTraversal begun begun.replacing.2 begun.replacing.1 ∧
      begun.replacing.1.going[0]? = some (0, firstTraversal) ∧
      (begun.replacing.1.rows.about "a").state = none ∧
      ((begun.replacing.1.move (.finish 0 (.ok ⟨[], some "x"⟩))).1.rows.about "a").state =
        some ⟨some "x", 0⟩ := by
  obtain ⟨h, m, hm, hb⟩ := handed_firstTraversal
  refine ⟨?_, by decide +kernel, by decide +kernel, by decide +kernel⟩
  rw [← hb]
  refine replacedDuring_replacing hm connector_firstTraversal ?_ ?_
  · rw [hb]
    decide +kernel
  · rw [hb]
    decide +kernel

end Hub

end ConnectorHub
