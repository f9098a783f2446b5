import ConnectorHub.Hub.Administration
import ConnectorHub.Proofs.Actions

/-! Actions that leave a hub as it is. They may read, ask connectors, write to the log, and make
connectors from what is stored; rows, locks, jobs and what is watched stay the same. -/
namespace ConnectorHub

open Store Time

namespace Desk

/-- From one desk to the other no connector changed: those stored are the same, and those at hand are
too, but for some that are stored and were made. -/
structure Sparing (d d' : Desk) : Prop where
  connectors : d'.rows.connectors = d.rows.connectors
  faults : d'.site.database.faults = d.site.database.faults
  issued : d.site.database.issued ≤ d'.site.database.issued
  catalogs : d'.site.catalogs = d.site.catalogs
  catalog : d'.node.catalog = d.node.catalog
  kept : ∀ name i, d.node.live.get? name = some i → d'.node.live.get? name = some i
  made : ∀ name i, d'.node.live.get? name = some i →
    d.node.live.get? name = some i ∨
      d.rows.connectors.get? name = some i.row ∧ d.made? i.row = some i.connector

/-- Nor did anything else that is stored. -/
structure Steady (d d' : Desk) : Prop extends Sparing d d' where
  rows : d'.rows = d.rows
  refuses : d'.site.refuses = d.site.refuses
  settings : d'.site.settings = d.site.settings

/-- Nor did the locks, the jobs, and what is watched. -/
structure Calm (d d' : Desk) : Prop extends Steady d d' where
  locks : d'.site.locks = d.site.locks
  queue : d'.site.queue = d.site.queue
  tracked : d'.node.tracked = d.node.tracked

theorem made?_congr {d e : Desk} (hs : e.site.catalogs = d.site.catalogs)
    (hn : e.node.catalog = d.node.catalog) : e.made? = d.made? := by
  unfold made? Site.catalog
  rw [hs, hn]

/-- A desk whose connectors are all the same. -/
theorem Sparing.of_eq {d d' : Desk} (hr : d'.rows.connectors = d.rows.connectors)
    (hf : d'.site.database.faults = d.site.database.faults)
    (hi : d.site.database.issued ≤ d'.site.database.issued)
    (hs : d'.site.catalogs = d.site.catalogs) (hn : d'.node.catalog = d.node.catalog)
    (hl : d'.node.live = d.node.live) : d.Sparing d' :=
  ⟨hr, hf, hi, hs, hn, fun _ _ hi => hl ▸ hi, fun _ _ hi => .inl (hl ▸ hi)⟩

theorem Sparing.refl (d : Desk) : d.Sparing d := .of_eq rfl rfl (Nat.le_refl _) rfl rfl rfl

theorem Sparing.made?_eq {d d' : Desk} (h : d.Sparing d') : d'.made? = d.made? :=
  made?_congr h.catalogs h.catalog

theorem Sparing.trans {d e f : Desk} (h : d.Sparing e) (k : e.Sparing f) : d.Sparing f where
  connectors := k.connectors.trans h.connectors
  faults := k.faults.trans h.faults
  issued := Nat.le_trans h.issued k.issued
  catalogs := k.catalogs.trans h.catalogs
  catalog := k.catalog.trans h.catalog
  kept := fun name i hi => k.kept name i (h.kept name i hi)
  made := by
    intro name i hi
    rcases k.made name i hi with hi | ⟨hi, hm⟩
    · exact h.made name i hi
    · exact .inr ⟨h.connectors ▸ hi, h.made?_eq ▸ hm⟩

instance : IsPreorder Desk Sparing where
  refl := .refl
  trans _ _ _ h k := h.trans k

theorem Steady.refl (d : Desk) : d.Steady d := ⟨.refl d, rfl, rfl, rfl⟩

theorem Steady.trans {d e f : Desk} (h : d.Steady e) (k : e.Steady f) : d.Steady f where
  toSparing := h.toSparing.trans k.toSparing
  rows := k.rows.trans h.rows
  refuses := k.refuses.trans h.refuses
  settings := k.settings.trans h.settings

instance : IsPreorder Desk Steady where
  refl := .refl
  trans _ _ _ h k := h.trans k

theorem Calm.refl (d : Desk) : d.Calm d := ⟨.refl d, rfl, rfl, rfl⟩

theorem Calm.trans {d e f : Desk} (h : d.Calm e) (k : e.Calm f) : d.Calm f where
  toSteady := h.toSteady.trans k.toSteady
  locks := k.locks.trans h.locks
  queue := k.queue.trans h.queue
  tracked := k.tracked.trans h.tracked

instance : IsPreorder Desk Calm where
  refl := .refl
  trans _ _ _ h k := h.trans k

theorem Sparing.works {d d' : Desk} (h : d.Sparing d') (hw : d.Works) : d'.Works :=
  Database.Works.of_le hw h.faults h.issued

/-- Nobody becomes known or unknown. -/
theorem Sparing.known {d d' : Desk} (h : d.Sparing d') (name : String) :
    d'.known name = d.known name := by
  unfold Desk.known
  cases hd : d.node.live.get? name with
  | some i => rw [h.kept name i hd]
  | none =>
    cases hd' : d'.node.live.get? name with
    | none => simp only [h.connectors]
    | some i =>
      rcases h.made name i hd' with hi | ⟨hi, -⟩
      · rw [hd] at hi
        cases hi
      · exact hi.symm

theorem calm_counting (d : Desk) (n : Nat) : d.Calm (d.counting n) :=
  ⟨⟨.of_eq rfl rfl (Nat.le_add_right _ n) rfl rfl rfl, rfl, rfl, rfl⟩, rfl, rfl, rfl⟩

end Desk

namespace Act

/-- Performing the action leaves the hub as it is, wherever it is performed. -/
abbrev Calm (a : Act α) : Prop := Moves Desk.Calm a

/-- What is recorded, logged and kept in files does not matter to the connectors. -/
theorem calm_changeSite {f : Site → Site}
    (h : ∀ s, (f s).database = s.database ∧ (f s).locks = s.locks ∧ (f s).queue = s.queue ∧
      (f s).refuses = s.refuses ∧ (f s).settings = s.settings ∧ (f s).catalogs = s.catalogs) :
    Calm (changeSite f) := by
  intro d
  obtain ⟨hd, hl, hq, hr, hs, hc⟩ := h d.site
  have hrows : (f d.site).database.rows = d.rows := congrArg Database.rows hd
  exact ⟨⟨.of_eq (congrArg Rows.connectors hrows) (congrArg Database.faults hd)
    (Nat.le_of_eq (congrArg Database.issued hd).symm) hc rfl rfl, hrows, hr, hs⟩, hl, hq, rfl⟩

theorem calm_record (c : Call) : Calm (changeSite (·.record c)) :=
  calm_changeSite fun _ => ⟨rfl, rfl, rfl, rfl, rfl, rfl⟩

theorem calm_logs (e : LogEntry) : Calm (changeSite (·.logs e)) :=
  calm_changeSite fun _ => ⟨rfl, rfl, rfl, rfl, rfl, rfl⟩

theorem calm_files (files : Files.Tree) : Calm (changeSite fun s => { s with files }) :=
  calm_changeSite fun _ => ⟨rfl, rfl, rfl, rfl, rfl, rfl⟩

theorem calm_gateFile (gateFile : Option GateFile) :
    Calm (changeSite fun s => { s with gateFile }) :=
  calm_changeSite fun _ => ⟨rfl, rfl, rfl, rfl, rfl, rfl⟩

theorem calm_warn (message : String) : Calm (warn message) := calm_logs _

theorem calm_readClock : Calm readClock := fun _ =>
  ⟨⟨.of_eq rfl rfl (Nat.le_refl _) rfl rfl rfl, rfl, rfl, rfl⟩, rfl, rfl, rfl⟩

theorem calm_findType? (name : String) : Calm (findType? name) := fun d => .refl d

/-- A transaction that only reads. -/
theorem calm_transact {t : Transaction α} {x : Rows → α}
    (h : Transaction.Means t fun rows => .ok (x rows, rows)) (wrap : DatabaseError → Failure) :
    Calm (transact wrap t) := by
  intro d
  rcases perform_transact_cases h wrap d with ⟨y, rows, n, hf, hp⟩ | ⟨e, n, -, hp⟩
  · cases hf
    rw [hp]
    exact d.calm_counting n
  · rw [hp]
    exact d.calm_counting n

theorem calm_store {t : Transaction α} {x : Rows → α}
    (h : Transaction.Means t fun rows => .ok (x rows, rows)) (action : String) :
    Calm (store action t) :=
  calm_transact h (storeFailure action)

end Act

end ConnectorHub
