import ConnectorHub.Proofs.Transactions

/-! The guard of checkpoints. A traversal hands in its checkpoint with the generation that it learned
when it began; the checkpoint is stored exactly if there was no reset in between. -/
namespace ConnectorHub.Store

open Transaction

/-- The generation that the traversals of a connector are in. -/
def Database.generation (d : Database) (name : String) : Nat :=
  generationOf (d.rows.states.get? name)

/-- The database with this state of a connector, when so many statements were issued. -/
def Database.withState (d : Database) (name : String) (row : StateRow) (n : Nat) : Database :=
  { d with issued := n, rows := { d.rows with states := d.rows.states.insert name row } }

@[simp] theorem Database.state_withState (d : Database) (name : String) (row : StateRow) (n : Nat) :
    (d.withState name row n).rows.states.get? name = some row := Table.get?_insert_self ..

@[simp] theorem Database.generation_withState (d : Database) (name : String) (row : StateRow)
    (n : Nat) : (d.withState name row n).generation name = row.generation := by
  simp [generation, generationOf, States.snapshotOf]

namespace States

/-- What traversals and restarts do about the state of a connector, each in one transaction. -/
inductive Deed
  /-- A traversal learns where to go on. -/
  | took (s : Snapshot)
  /-- A traversal hands in a checkpoint with the generation that it learned. -/
  | handedIn (checkpoint : Option String) (generation : Nat) (stored : Bool)
  | reset
  deriving DecidableEq

/-- What is done after all that was done before. -/
inductive Done (name : String) (past : List Deed) (d : Database) : Deed → Database → Prop
  | took {s : Snapshot} {d' : Database} (h : (snapshot name).perform d = (.ok s, d')) :
      Done name past d (.took s) d'
  | handedIn {s : Snapshot} {checkpoint : Option String} {stored : Bool} {d' : Database}
      (learned : .took s ∈ past)
      (h : (putIfCurrent name checkpoint s.generation).perform d = (.ok stored, d')) :
      Done name past d (.handedIn checkpoint s.generation stored) d'
  | reset {d' : Database} (h : (States.reset name).perform d = (.ok (), d')) :
      Done name past d .reset d'

/-- What was done leads from one database to the other; the latest is listed first. In between
anything may happen that leaves the state of the connector alone, as calls do that fail. -/
inductive History (name : String) (start : Database) : List Deed → Database → Prop
  | none : History name start [] start
  | next {past : List Deed} {deed : Deed} {d d' : Database} (history : History name start past d)
      (done : Done name past d deed d') : History name start (deed :: past) d'
  | aside {past : List Deed} {d d' : Database} (history : History name start past d)
      (same : d'.rows.states.get? name = d.rows.states.get? name) : History name start past d'

theorem of_perform_snapshot {name : String} {s : Snapshot} {d d' : Database}
    (h : (snapshot name).perform d = (.ok s, d')) :
    s = snapshotOf (d.rows.states.get? name) ∧ d'.rows = d.rows := by
  rcases (means_snapshot name).perform d with ⟨x, rows, n, hf, hp⟩ | ⟨e, n, -, hp⟩
  · rw [hp] at h
    cases hf
    cases h
    exact ⟨rfl, rfl⟩
  · rw [hp] at h
    cases h

theorem of_perform_reset {name : String} {d d' : Database}
    (h : (States.reset name).perform d = (.ok (), d')) :
    d.generation name + 1 < 9223372036854775808 ∧ d'.rows = d.rows.reset name := by
  rcases (means_reset name).perform d with ⟨x, rows, n, hf, hp⟩ | ⟨e, n, -, hp⟩
  · rw [hp] at h
    split at hf
    · rename_i hfits
      cases hf
      cases h
      exact ⟨hfits, rfl⟩
    · cases hf
  · rw [hp] at h
    cases h

/-- A checkpoint that is handed in is stored if its generation is the present one. -/
theorem perform_putIfCurrent (name : String) (checkpoint : Option String) {generation : Nat}
    (hfits : generation < 9223372036854775808) (d : Database) :
    ∃ n, (putIfCurrent name checkpoint generation).perform d =
        (if d.generation name = generation then
          (.ok true, d.withState name ⟨checkpoint, generation⟩ n)
        else (.ok false, { d with issued := n })) ∨
      ¬ d.Works ∧ (putIfCurrent name checkpoint generation).perform d =
        (.error .operational, { d with issued := n }) := by
  rcases (means_putIfCurrent name checkpoint generation).perform d with
    ⟨x, rows, n, hf, hp⟩ | ⟨e, n, he, hp⟩
  · refine ⟨d.issued + n, .inl ?_⟩
    rw [if_pos (by omega)] at hf
    rw [hp]
    unfold taking at hf
    by_cases hg : d.generation name = generation
    · have hg' : (generationOf (d.rows.states.get? name) : Int) = generation := congrArg _ hg
      rw [if_pos hg'] at hf
      cases hf
      subst hg
      rw [if_pos rfl]
      rfl
    · have hg' : (generationOf (d.rows.states.get? name) : Int) ≠ generation :=
        fun h => hg (Int.ofNat.inj h)
      rw [if_neg hg'] at hf
      cases hf
      rw [if_neg hg]
  · refine ⟨d.issued + n, .inr ?_⟩
    rw [if_pos (by omega)] at he
    rcases he with he | ⟨rfl, hw⟩
    · cases he
    · exact ⟨hw, hp⟩

/-- Where a deed that is no reset is the latest, the latest reset is among the others. -/
theorem cons_eq_append_reset {deed : Deed} (hd : deed ≠ .reset) {past after before : List Deed}
    (h : deed :: past = after ++ .reset :: before) :
    ∃ rest, after = deed :: rest ∧ past = rest ++ .reset :: before := by
  cases after with
  | nil =>
    injection h with h
    exact absurd h hd
  | cons x rest =>
    injection h with hx hrest
    exact ⟨rest, by rw [hx], hrest⟩

/-- The checkpoint that is stored was handed in since the latest reset, by a traversal that began
since then. -/
def Sourced (past : List Deed) (checkpoint : Option String) : Prop :=
  ∀ after before, past = after ++ .reset :: before → .reset ∉ after → ∀ c, checkpoint = some c →
    ∃ later s earlier, after = later ++ .handedIn (some c) s.generation true :: earlier ∧
      .took s ∈ earlier ∧ ∀ s', .took s' ∈ before → s'.generation ≠ s.generation

theorem Sourced.cons {past : List Deed} {checkpoint : Option String} (h : Sourced past checkpoint)
    {deed : Deed} (hd : deed ≠ .reset) : Sourced (deed :: past) checkpoint := by
  intro after before hpast hafter c hc
  obtain ⟨rest, rfl, hrest⟩ := cons_eq_append_reset hd hpast
  obtain ⟨later, s, earlier, hlater, hs⟩ :=
    h rest before hrest (fun hr => hafter (List.mem_cons_of_mem _ hr)) c hc
  exact ⟨deed :: later, s, earlier, by rw [hlater, List.cons_append], hs⟩

/-- What stands between what was done and the state of the connector: generations count resets, at
present and in each snapshot that was taken. -/
structure Counted (name : String) (start : Database) (past : List Deed) (d : Database) : Prop where
  fits : d.generation name < 9223372036854775808
  generation : d.generation name = start.generation name + past.count .reset
  learned : ∀ later s earlier, past = later ++ .took s :: earlier →
    s.generation = start.generation name + earlier.count .reset
  sourced : Sourced past (snapshotOf (d.rows.states.get? name)).checkpoint

variable {name : String} {start d d' : Database} {past : List Deed} {deed : Deed}

/-- A snapshot is of the present generation exactly if there was no reset since. -/
theorem Counted.current_iff (h : Counted name start past d) {later earlier : List Deed}
    {s : Snapshot} (hs : past = later ++ .took s :: earlier) :
    d.generation name = s.generation ↔ .reset ∉ later := by
  have hlearned := h.learned later s earlier hs
  have hcount : past.count .reset = later.count .reset + earlier.count .reset := by
    rw [hs, List.count_append, List.count_cons_of_ne (by simp)]
  rw [h.generation, hlearned, hcount, ← List.count_eq_zero]
  omega

theorem Counted.le_generation (h : Counted name start past d) {s : Snapshot}
    (hs : .took s ∈ past) : s.generation ≤ d.generation name := by
  obtain ⟨later, earlier, hpast⟩ := List.append_of_mem hs
  rw [h.learned later s earlier hpast, h.generation, hpast, List.count_append, List.count_cons]
  omega

/-- A deed that takes no snapshot adds none to those that were learned. -/
theorem Counted.learned_cons (h : Counted name start past d) (hd : ∀ s, deed ≠ .took s)
    (later : List Deed) (s : Snapshot) (earlier : List Deed)
    (hpast : deed :: past = later ++ .took s :: earlier) :
    s.generation = start.generation name + earlier.count .reset := by
  cases later with
  | nil =>
    injection hpast with hs
    exact absurd hs (hd s)
  | cons x rest =>
    injection hpast with _ hrest
    exact h.learned rest s earlier hrest

theorem Counted.took (h : Counted name start past d) {s : Snapshot}
    (hp : (snapshot name).perform d = (.ok s, d')) : Counted name start (.took s :: past) d' := by
  obtain ⟨rfl, hrows⟩ := of_perform_snapshot hp
  have hsame : d'.generation name = d.generation name := by simp only [Database.generation, hrows]
  refine ⟨hsame ▸ h.fits, ?_, ?_, ?_⟩
  · rw [hsame, h.generation, List.count_cons_of_ne (by simp)]
  · intro later s earlier hpast
    cases later with
    | nil =>
      injection hpast with hs hearlier
      injection hs with hs
      rw [← hs, ← hearlier]
      exact h.generation
    | cons x rest =>
      injection hpast with _ hrest
      exact h.learned rest s earlier hrest
  · rw [hrows]
    exact h.sourced.cons (by simp)

theorem Counted.handedIn (h : Counted name start past d) {s : Snapshot}
    {checkpoint : Option String} {stored : Bool} (hs : .took s ∈ past)
    (hp : (putIfCurrent name checkpoint s.generation).perform d = (.ok stored, d')) :
    Counted name start (.handedIn checkpoint s.generation stored :: past) d' := by
  have hfits : s.generation < 9223372036854775808 := Nat.lt_of_le_of_lt (h.le_generation hs) h.fits
  have hcount : (Deed.handedIn checkpoint s.generation stored :: past).count .reset =
      past.count .reset := List.count_cons_of_ne (by simp)
  obtain ⟨n, hput | ⟨-, hput⟩⟩ := perform_putIfCurrent name checkpoint hfits d
  · rw [hp] at hput
    by_cases hg : d.generation name = s.generation
    · rw [if_pos hg] at hput
      cases hput
      refine ⟨?_, ?_, h.learned_cons (by simp), ?_⟩
      · rwa [Database.generation_withState]
      · rw [Database.generation_withState, hcount, ← h.generation, hg]
      · intro after before hpast hafter c hc
        obtain ⟨rest, rfl, hrest⟩ := cons_eq_append_reset (by simp) hpast
        simp only [Database.state_withState, snapshotOf] at hc
        subst hc
        -- The generation that a traversal learned before the reset is not the present one.
        have hold : ∀ s', .took s' ∈ before → s'.generation ≠ s.generation := by
          intro s' hs' heq
          obtain ⟨later, earlier, hbefore⟩ := List.append_of_mem hs'
          have hsplit : past = (rest ++ .reset :: later) ++ .took s' :: earlier := by
            rw [hrest, hbefore, List.append_assoc, List.cons_append]
          exact (h.current_iff hsplit).1 (hg.trans heq.symm) (by simp)
        refine ⟨[], s, rest, rfl, ?_, hold⟩
        rw [hrest] at hs
        rcases List.mem_append.1 hs with hs | hs
        · exact hs
        · exact absurd rfl (hold s (List.mem_of_ne_of_mem (by simp) hs))
    · rw [if_neg hg] at hput
      cases hput
      exact ⟨h.fits, hcount ▸ h.generation, h.learned_cons (by simp), h.sourced.cons (by simp)⟩
  · rw [hp] at hput
    cases hput

theorem Counted.reset (h : Counted name start past d)
    (hp : (States.reset name).perform d = (.ok (), d')) :
    Counted name start (.reset :: past) d' := by
  obtain ⟨hfits, hrows⟩ := of_perform_reset hp
  have hrow : d'.rows.states.get? name = some ⟨none, d.generation name + 1⟩ := by
    rw [hrows]
    exact Table.get?_insert_self ..
  have hnext : d'.generation name = d.generation name + 1 := by
    simp only [Database.generation, hrow]
    rfl
  refine ⟨hnext ▸ hfits, ?_, h.learned_cons (by simp), ?_⟩
  · rw [hnext, h.generation, List.count_cons_self, Nat.add_assoc]
  · intro after before _ _ c hc
    rw [hrow] at hc
    cases hc

theorem Counted.done (h : Counted name start past d) (done : Done name past d deed d') :
    Counted name start (deed :: past) d' := by
  cases done with
  | took hp => exact h.took hp
  | handedIn hs hp => exact h.handedIn hs hp
  | reset hp => exact h.reset hp

theorem History.counted (fits : ∀ row ∈ start.rows.states.get? name,
      row.generation < 9223372036854775808)
    (history : History name start past d) : Counted name start past d := by
  induction history with
  | none =>
    refine ⟨?_, rfl, ?_, ?_⟩
    · unfold Database.generation
      cases hrow : start.rows.states.get? name with
      | none => simp [generationOf, snapshotOf]
      | some row => exact fits row hrow
    · intro later s earlier hpast
      simp at hpast
    · intro after before hpast
      simp at hpast
  | next _ done ih => exact ih.done done
  | aside _ same ih =>
    refine ⟨?_, ?_, ih.learned, same ▸ ih.sourced⟩
    · simpa only [Database.generation, same] using ih.fits
    · simpa only [Database.generation, same] using ih.generation

/-- A checkpoint that a traversal hands in is stored exactly if there was no reset since the traversal
began; else nothing changes. Generations only grow, and the checkpoint that is stored after a reset
is none or comes from a traversal that began after it. At the start there is no row, or any whose
generation its column can hold. -/
theorem checkpoint_guard_exact (fits : ∀ row ∈ start.rows.states.get? name,
      row.generation < 9223372036854775808)
    (history : History name start past d) :
    (∀ later s earlier checkpoint, past = later ++ .took s :: earlier →
      ∃ n, (putIfCurrent name checkpoint s.generation).perform d =
          (if .reset ∈ later then (.ok false, { d with issued := n })
          else (.ok true, d.withState name ⟨checkpoint, s.generation⟩ n)) ∨
        ¬ d.Works ∧ (putIfCurrent name checkpoint s.generation).perform d =
          (.error .operational, { d with issued := n })) ∧
    (d.generation name = start.generation name + past.count .reset ∧
      ∀ deed d', Done name past d deed d' → d.generation name ≤ d'.generation name) ∧
    Sourced past (snapshotOf (d.rows.states.get? name)).checkpoint := by
  have hc := history.counted fits
  refine ⟨?_, ⟨hc.generation, ?_⟩, hc.sourced⟩
  · intro later s earlier checkpoint hpast
    have hs : .took s ∈ past := by simp [hpast]
    obtain ⟨n, hput⟩ := perform_putIfCurrent name checkpoint
      (Nat.lt_of_le_of_lt (hc.le_generation hs) hc.fits) d
    refine ⟨n, hput.imp_left fun hput => ?_⟩
    rw [hput]
    by_cases hr : Deed.reset ∈ later
    · rw [if_pos hr, if_neg (mt (hc.current_iff hpast).1 (not_not_intro hr))]
    · rw [if_neg hr, if_pos ((hc.current_iff hpast).2 hr)]
  · intro deed d' done
    rw [hc.generation, (hc.done done).generation, List.count_cons]
    omega

/-- A connector that was started over once between two traversals. -/
def restartedOnce : Database :=
  ((snapshot "a").perform ((States.reset "a").perform ((snapshot "a").perform {}).2).2).2

/-- The first of two traversals is refused, the second is not. -/
theorem checkpoint_guard_restartedOnce :
    History "a" {} [.took ⟨none, 1⟩, .reset, .took ⟨none, 0⟩] restartedOnce ∧
      (∀ checkpoint, ((putIfCurrent "a" checkpoint 0).perform restartedOnce).1 = .ok false) ∧
      ∀ checkpoint, ((putIfCurrent "a" checkpoint 1).perform restartedOnce).1 = .ok true := by
  have history : History "a" {} [.took ⟨none, 1⟩, .reset, .took ⟨none, 0⟩] restartedOnce :=
    .next (.next (.next .none (.took (by rfl))) (.reset (by rfl))) (.took (by rfl))
  have hworks : restartedOnce.Works := fun _ _ _ => by rfl
  have hfits : ∀ row ∈ ({} : Database).rows.states.get? "a",
      row.generation < 9223372036854775808 := nofun
  have hguard := (checkpoint_guard_exact hfits history).1
  refine ⟨history, fun checkpoint => ?_, fun checkpoint => ?_⟩
  · obtain ⟨n, hput | ⟨hw, -⟩⟩ := hguard [.took ⟨none, 1⟩, .reset] ⟨none, 0⟩ [] checkpoint rfl
    · rw [if_pos (by decide)] at hput
      exact congrArg Prod.fst hput
    · exact absurd hworks hw
  · obtain ⟨n, hput | ⟨hw, -⟩⟩ := hguard [] ⟨none, 1⟩ [.reset, .took ⟨none, 0⟩] checkpoint rfl
    · rw [if_neg (by decide)] at hput
      exact congrArg Prod.fst hput
    · exact absurd hworks hw

end States

end ConnectorHub.Store
