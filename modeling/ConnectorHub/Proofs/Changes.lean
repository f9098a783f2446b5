import ConnectorHub.Proofs.Reading

/-! What the operations that administer connectors change. Each theorem names the desk that an
operation leaves, up to reading. -/
namespace ConnectorHub

open Store Act

namespace Desk

/-- A connector is at hand. -/
def keeping (d : Desk) (name : String) (i : Instance) : Desk :=
  { d with node := { d.node with live := d.node.live.insert name i } }

/-- A connector is no longer at hand. -/
def forgetting (d : Desk) (name : String) : Desk :=
  { d with node := { d.node with live := d.node.live.erase name } }

@[simp] theorem rows_keeping (d : Desk) (name : String) (i : Instance) :
    (d.keeping name i).rows = d.rows := rfl

@[simp] theorem rows_forgetting (d : Desk) (name : String) : (d.forgetting name).rows = d.rows := rfl

theorem Works.forgetting {d : Desk} (h : d.Works) (name : String) : (d.forgetting name).Works := h

end Desk

namespace Instances

/-- A connector that is installed is stored and at hand; else nothing happens. -/
theorem perform_install (name : String) (t : ConnectorType) (typeName : String) (config : Config)
    (d : Desk) :
    ∃ d₁, d.Calm d₁ ∧ d₁.node = d.node ∧
      ((∃ i, i.row = ⟨t.name, config⟩ ∧ t.make config = .ok i.connector ∧
        (install name t typeName config).perform d =
          (.ok (), (d₁.withRows (d₁.rows.configured name ⟨typeName, config⟩)).keeping name i)) ∨
      (∃ f, (install name t typeName config).perform d = (.error f, d₁))) := by
  simp only [install, perform_bind]
  have hb := calm_build name t config d
  cases hi : (build name t config).perform d with
  | mk x e =>
    rw [hi] at hb
    have hnode : e.node = d.node := node_of_build hi
    cases x with
    | error f => exact ⟨e, hb, hnode, .inr ⟨f, rfl⟩⟩
    | ok i =>
      obtain ⟨hrow, hmake⟩ := of_build hi
      obtain rfl : i.config = config := congrArg ConnectorRow.config hrow
      rcases perform_store_cases (Connectors.means_put name ⟨typeName, i.config⟩)
        ("store connector " ++ name) e with ⟨n, hp⟩ | ⟨-, n, hp⟩
      · refine ⟨e.counting n, hb.trans (e.calm_counting n), hnode, .inl ⟨i, hrow, hmake, ?_⟩⟩
        simp only [hp]
        rfl
      · exact ⟨e.counting n, hb.trans (e.calm_counting n), hnode,
          .inr ⟨.store _, by simp only [hp]; rfl⟩⟩

/-- Unless something stands against it, a connector that is configured is installed. -/
theorem perform_configure_cases (name typeName : String) (config : Config) (locale : Locale)
    (update : Bool) (d : Desk) :
    (∃ t n, checkConfigurable name typeName (d.known name) update = .ok () ∧
      (d.site.catalog d.node.catalog).find? typeName = some t ∧
      (configure name typeName config locale update).perform d =
        (install name t typeName config >>= fun _ => pure none).perform (d.counting n)) ∨
    (∃ x n, x ≠ .ok none ∧
      (configure name typeName config locale update).perform d = (x, d.counting n)) := by
  unfold configure
  rw [perform_bind]
  obtain ⟨n, hp | ⟨-, hp⟩⟩ := perform_row? name d
  · rw [hp]
    dsimp only
    rw [perform_bind, perform_give]
    cases checkConfigurable name typeName (d.known name) update with
    | error f => exact .inr ⟨.error f, n, nofun, rfl⟩
    | ok _ =>
      dsimp only
      rw [perform_bind, perform_findType?]
      have hcatalog : ((d.counting n).site.catalog (d.counting n).node.catalog) =
        d.site.catalog d.node.catalog := rfl
      rw [hcatalog]
      cases ht : (d.site.catalog d.node.catalog).find? typeName with
      | none => exact .inr ⟨.error _, n, nofun, rfl⟩
      | some t =>
        dsimp only
        rw [perform_bind, perform_give]
        cases t.check config locale with
        | error f => exact .inr ⟨.error f, n, nofun, rfl⟩
        | ok form =>
          cases form with
          | none => exact .inl ⟨t, n, rfl, rfl, rfl⟩
          | some form =>
            dsimp only
            by_cases hf : form.isRefusal = true
            · rw [if_pos hf]
              exact .inr ⟨.ok (some form), n, nofun, rfl⟩
            · rw [if_neg hf]
              exact .inl ⟨t, n, rfl, rfl, rfl⟩
  · rw [hp]
    exact .inr ⟨.error _, n, nofun, rfl⟩

/-- A connector that is configured is stored and at hand, and nothing stood against it; else nothing
happens. -/
theorem perform_configure (name typeName : String) (config : Config) (locale : Locale)
    (update : Bool) (d : Desk) :
    ∃ d₁, d.Calm d₁ ∧ d₁.node = d.node ∧
      ((∃ i, checkConfigurable name typeName (d.known name) update = .ok () ∧
        i.row = ⟨typeName, config⟩ ∧ d.made? i.row = some i.connector ∧
        (configure name typeName config locale update).perform d =
          (.ok none, (d₁.withRows (d₁.rows.configured name ⟨typeName, config⟩)).keeping name i)) ∨
      (∃ x, x ≠ .ok none ∧
        (configure name typeName config locale update).perform d = (x, d₁))) := by
  rcases perform_configure_cases name typeName config locale update d with
    ⟨t, n, hc, ht, hp⟩ | ⟨x, n, hx, hp⟩
  · rw [hp, perform_bind]
    obtain ⟨d₁, hd, hn, ⟨i, hrow, hmake, hi⟩ | ⟨f, hi⟩⟩ :=
      perform_install name t typeName config (d.counting n)
    · rw [name_of_find? ht] at hrow
      have hmade : d.made? i.row = some i.connector := by
        rw [hrow]
        exact made?_of_make ht hmake
      exact ⟨d₁, (d.calm_counting n).trans hd, hn, .inl ⟨i, hc, hrow, hmade, by rw [hi]; rfl⟩⟩
    · exact ⟨d₁, (d.calm_counting n).trans hd, hn, .inr ⟨.error f, nofun, by rw [hi]⟩⟩
  · exact ⟨_, d.calm_counting n, rfl, .inr ⟨x, hx, hp⟩⟩

/-- A connector that is removed is not at hand and nothing is stored about it. If the store fails,
it is only not at hand. -/
theorem perform_remove (name : String) (d : Desk) :
    ∃ n, (remove name).perform d =
        (.ok (), ((d.forgetting name).withRows (d.rows.without name)).counting n) ∨
      ¬ d.Works ∧ (remove name).perform d =
        (.error (.notRemoved name), (d.forgetting name).counting n) := by
  simp only [remove, replacing, perform_bind, perform_changeNode, perform_tryCatch]
  rcases perform_store_cases (Connectors.means_remove name) ("remove connector " ++ name)
    (d.forgetting name) with ⟨n, hp⟩ | ⟨hw, n, hp⟩
  · refine ⟨n, .inl ?_⟩
    rw [Desk.forgetting] at hp
    simp only [hp]
    rfl
  · refine ⟨n, .inr ⟨hw, ?_⟩⟩
    rw [Desk.forgetting] at hp
    simp only [hp]
    rfl

/-- A schedule is stored for a connector that is known; else nothing happens. -/
theorem perform_setSchedule (name text : String) (d : Desk) :
    ∃ n, ((d.known name).isSome ∧ (setSchedule name text).perform d =
        (.ok (), (d.withRows (d.rows.scheduled name text)).counting n)) ∨
      ∃ f, (setSchedule name text).perform d = (.error f, d.counting n) := by
  simp only [setSchedule, perform_bind]
  obtain ⟨n, hp | ⟨-, hp⟩⟩ := perform_row name d
  · cases hk : d.known name with
    | none =>
      rw [hk] at hp
      exact ⟨n, .inr ⟨.connectorNotFound name, by rw [hp]; rfl⟩⟩
    | some r =>
      rw [hk] at hp
      rcases perform_store_cases (Schedules.means_put name text) ("store schedule for " ++ name)
        (d.counting n) with ⟨m, hs⟩ | ⟨-, m, hs⟩
      · rw [Desk.withRows_counting, Desk.counting_counting] at hs
        exact ⟨n + m, .inl ⟨rfl, by simp only [hp, existing, hs]; rfl⟩⟩
      · rw [Desk.counting_counting] at hs
        exact ⟨n + m, .inr ⟨_, by simp only [hp, existing, hs]; rfl⟩⟩
  · exact ⟨n, .inr ⟨.notRead name, by rw [hp]⟩⟩

/-- The traversal of a connector that is known begins its next generation, and its times are
forgotten. If the store fails, maybe only the former; else nothing happens. -/
theorem perform_restart (name : String) (d : Desk) :
    ∃ n, ((d.known name).isSome ∧ (restart name).perform d =
        (.ok (), (d.withRows ((d.rows.reset name).marked name none none)).counting n)) ∨
      (∃ f, (restart name).perform d = (.error f, d.counting n)) ∨
      ¬ d.Works ∧ (d.known name).isSome ∧ ∃ f, (restart name).perform d =
        (.error f, (d.withRows (d.rows.reset name)).counting n) := by
  simp only [restart, replacing, perform_bind, perform_tryCatch]
  obtain ⟨n, hp | ⟨-, hp⟩⟩ := perform_row name d
  · cases hk : d.known name with
    | none =>
      rw [hk] at hp
      exact ⟨n, .inr (.inl ⟨.connectorNotFound name, by rw [hp]; rfl⟩)⟩
    | some r =>
      rw [hk] at hp
      rcases perform_transact_cases (States.means_reset name)
        (storeFailure ("reset traversal state for " ++ name)) (d.counting n) with
        ⟨_, rows, m, hf, hs⟩ | ⟨e, m, -, hs⟩
      · obtain rfl : (d.counting n).rows.reset name = rows := by
          split at hf
          · exact congrArg Prod.snd (Except.ok.inj hf)
          · cases hf
        rw [Desk.withRows_counting, Desk.counting_counting] at hs
        have hs : (store ("reset traversal state for " ++ name) (States.reset name)).perform
          (d.counting n) = _ := hs
        rcases perform_store_cases (Schedules.means_markRun name none none)
          ("update run times for " ++ name)
          ((d.withRows ((d.counting n).rows.reset name)).counting (n + m)) with
          ⟨k, hm⟩ | ⟨hw, k, hm⟩
        · rw [Desk.withRows_counting, Desk.counting_counting] at hm
          exact ⟨n + m + k, .inl ⟨rfl, by simp only [hp, existing, hs, hm]; rfl⟩⟩
        · rw [Desk.counting_counting] at hm
          exact ⟨n + m + k, .inr (.inr ⟨mt (·.counting _ _) hw, rfl, _,
            by simp only [hp, existing, hs, hm]; rfl⟩)⟩
      · rw [Desk.counting_counting] at hs
        have hs : (store ("reset traversal state for " ++ name) (States.reset name)).perform
          (d.counting n) = _ := hs
        exact ⟨n + m, .inr (.inl ⟨_, by simp only [hp, existing, hs]; rfl⟩)⟩
  · exact ⟨n, .inr (.inl ⟨.notRead name, by rw [hp]⟩)⟩

end Instances

end ConnectorHub
