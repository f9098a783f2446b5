import ConnectorHub.Proofs.Reading

/-! How a node comes by a connector that it is to ask: it is at hand, or it is made of what is
stored. Where that is not so, there is a reason for it, and every reason means no. -/
namespace ConnectorHub

open Store Act

namespace Desk

/-- The connector that the node comes by. -/
inductive Obtains (d : Desk) (name : String) : Connector → Prop
  | atHand {i} (live : d.node.live.get? name = some i) : Obtains d name i.connector
  | made {r t c} (live : d.node.live.get? name = none) (readable : ¬ d.CannotRead)
      (stored : d.rows.connectors.get? name = some r)
      (typed : (d.site.catalog d.node.catalog).find? r.typeName = some t)
      (built : t.make r.config = .ok c) : Obtains d name c

/-- Why the node comes by no connector. -/
inductive Unobtainable (d : Desk) (name : String) : Prop
  | unreadable (live : d.node.live.get? name = none) (unreadable : d.CannotRead)
  | absent (live : d.node.live.get? name = none) (readable : ¬ d.CannotRead)
      (absent : d.rows.connectors.get? name = none)
  | untyped {r} (live : d.node.live.get? name = none) (readable : ¬ d.CannotRead)
      (stored : d.rows.connectors.get? name = some r)
      (untyped : (d.site.catalog d.node.catalog).find? r.typeName = none)
  | unbuilt {r t f} (live : d.node.live.get? name = none) (readable : ¬ d.CannotRead)
      (stored : d.rows.connectors.get? name = some r)
      (typed : (d.site.catalog d.node.catalog).find? r.typeName = some t)
      (unbuilt : t.make r.config = .error f)

variable {d : Desk} {name : String}

/-- The node comes by a connector, or there is a reason why it does not. -/
theorem obtains_or_unobtainable (d : Desk) (name : String) :
    (∃ c, d.Obtains name c) ∨ d.Unobtainable name := by
  cases hl : d.node.live.get? name with
  | some i => exact .inl ⟨_, .atHand hl⟩
  | none =>
    by_cases hread : d.CannotRead
    · exact .inr (.unreadable hl hread)
    cases hr : d.rows.connectors.get? name with
    | none => exact .inr (.absent hl hread hr)
    | some r =>
      cases ht : (d.site.catalog d.node.catalog).find? r.typeName with
      | none => exact .inr (.untyped hl hread hr ht)
      | some t =>
        cases hm : t.make r.config with
        | error f => exact .inr (.unbuilt hl hread hr ht hm)
        | ok c => exact .inl ⟨c, .made hl hread hr ht hm⟩

end Desk

namespace Instances

variable {d : Desk} {name : String}

theorem catalog_counting (d : Desk) (n : Nat) :
    (d.counting n).site.catalog (d.counting n).node.catalog = d.site.catalog d.node.catalog := rfl

/-- A connector that the node comes by is found. -/
theorem perform_find_of_obtains {c : Connector} (h : d.Obtains name c) :
    ∃ i, i.connector = c ∧ ((find name).perform d).1 = .ok i := by
  simp only [find, perform_bind, perform_node]
  cases h with
  | @atHand i live =>
    rw [live]
    exact ⟨i, rfl, rfl⟩
  | @made r t c live readable stored typed built =>
    refine ⟨⟨t.name, r.config, c⟩, rfl, ?_⟩
    simp only [live, perform_bind, perform_readRow_of_readable readable, stored,
      perform_findType?, catalog_counting, typed, build, built]
    rfl

/-- Where the node comes by no connector, that is a failure which means no. -/
theorem perform_find_of_unobtainable (h : d.Unobtainable name) :
    ∃ f, (Administration.refusal? name f).isSome ∧ ((find name).perform d).1 = .error f := by
  simp only [find, perform_bind, perform_node]
  cases h with
  | unreadable live unreadable =>
    refine ⟨.notRead name, rfl, ?_⟩
    simp only [live, perform_bind, perform_readRow_of_cannotRead unreadable]
  | absent live readable absent =>
    refine ⟨.connectorNotFound name, rfl, ?_⟩
    simp only [live, perform_bind, perform_readRow_of_readable readable, absent, perform_throw]
  | @untyped r live readable stored untyped =>
    refine ⟨.typeOfConnectorUnknown name r.typeName, rfl, ?_⟩
    simp only [live, perform_bind, perform_readRow_of_readable readable, stored,
      perform_findType?, catalog_counting, untyped, perform_throw]
  | @unbuilt r t f live readable stored typed unbuilt =>
    refine ⟨.notBuilt name, rfl, ?_⟩
    simp only [live, perform_bind, perform_readRow_of_readable readable, stored,
      perform_findType?, catalog_counting, typed, build, unbuilt, perform_throw]

end Instances

namespace Desk

variable {d : Desk} {name : String}

theorem Obtains.unique {c c' : Connector} (h : d.Obtains name c) (h' : d.Obtains name c') :
    c = c' := by
  obtain ⟨i, rfl, hi⟩ := Instances.perform_find_of_obtains h
  obtain ⟨j, rfl, hj⟩ := Instances.perform_find_of_obtains h'
  rw [Except.ok.inj (hi.symm.trans hj)]

theorem Obtains.not_unobtainable {c : Connector} (h : d.Obtains name c) :
    ¬ d.Unobtainable name := by
  intro hn
  obtain ⟨i, -, hi⟩ := Instances.perform_find_of_obtains h
  obtain ⟨f, -, hf⟩ := Instances.perform_find_of_unobtainable hn
  cases hi.symm.trans hf

end Desk

end ConnectorHub
