import ConnectorHub.Proofs.Transparency
import ConnectorHub.Proofs.Upkeep

/-! What becomes of a configuration that a connector is to be given. Whether it is applied depends on
what is stored about the connector and on its type alone, and all that it changes is the row of the
connector and its instance. -/
namespace ConnectorHub

open Store Act

/-- The check of a configuration neither fails nor refuses it. -/
def ConnectorType.Accepts (t : ConnectorType) (config : Config) (locale : Locale) : Prop :=
  ∃ answer, t.check config locale = .ok answer ∧ ∀ form, answer = some form → form.isRefusal = false

theorem ConnectorType.Accepts.not_refused {t : ConnectorType} {config : Config} {locale : Locale}
    (h : t.Accepts config locale) {form : Form} (ha : t.check config locale = .ok (some form)) :
    form.isRefusal = false := by
  obtain ⟨answer, hanswer, haccepts⟩ := h
  rw [hanswer] at ha
  cases ha
  exact haccepts form rfl

namespace Desk

/-- The type of a name in the catalog that the node uses. -/
def type? (d : Desk) (typeName : String) : Option ConnectorType :=
  (d.site.catalog d.node.catalog).find? typeName

/-- The connector is stored if and only if it is to be updated, and is of the type that is named. -/
structure Suits (d : Desk) (name typeName : String) (update : Bool) : Prop where
  stored : (d.rows.connectors.get? name).isSome = update
  sameType : ∀ r, d.rows.connectors.get? name = some r → r.typeName = typeName

end Desk

namespace Instances

/-- What is answered to a configuration. -/
inductive Verdict (name typeName : String) (config : Config) (locale : Locale) (update : Bool)
    (d : Desk) : Except Failure (Option Form) → Prop
  | notFound (absent : d.rows.connectors.get? name = none) (toUpdate : update = true) :
      Verdict name typeName config locale update d (.error (.connectorNotFound name))
  | taken {r : ConnectorRow} (there : d.rows.connectors.get? name = some r)
      (toCreate : update = false) :
      Verdict name typeName config locale update d (.error (.connectorExists name))
  | otherType {r : ConnectorRow} (there : d.rows.connectors.get? name = some r)
      (toUpdate : update = true) (other : r.typeName ≠ typeName) :
      Verdict name typeName config locale update d (.error (.otherType name r.typeName typeName))
  | typeUnknown (suits : d.Suits name typeName update) (unknown : d.type? typeName = none) :
      Verdict name typeName config locale update d (.error (.typeUnknown typeName))
  | unchecked {t : ConnectorType} {f : Failure} (suits : d.Suits name typeName update)
      (type : d.type? typeName = some t) (fails : t.check config locale = .error f) :
      Verdict name typeName config locale update d (.error f)
  | refused {t : ConnectorType} {form : Form} (suits : d.Suits name typeName update)
      (type : d.type? typeName = some t) (answer : t.check config locale = .ok (some form))
      (refusal : form.isRefusal = true) :
      Verdict name typeName config locale update d (.ok (some form))
  | notBuilt {t : ConnectorType} {f : Failure} (suits : d.Suits name typeName update)
      (type : d.type? typeName = some t) (accepts : t.Accepts config locale)
      (fails : t.make config = .error f) :
      Verdict name typeName config locale update d (.error (.notBuilt name))
  | applied {t : ConnectorType} {c : Connector} (suits : d.Suits name typeName update)
      (type : d.type? typeName = some t) (accepts : t.Accepts config locale)
      (made : t.make config = .ok c) : Verdict name typeName config locale update d (.ok none)

variable {name typeName : String} {config : Config} {locale : Locale} {update : Bool} {d : Desk}

/-- On a database that works, a connector is installed if its type makes it. -/
theorem answer_install (hw : d.Works) (name : String) (t : ConnectorType) (typeName : String)
    (config : Config) :
    ((install name t typeName config).perform d).1 =
      match t.make config with
      | .ok _ => .ok ()
      | .error _ => .error (.notBuilt name) := by
  simp only [install, build, perform_bind]
  cases t.make config with
  | error f => rfl
  | ok c =>
    simp only [perform_bind, perform_changeSite, perform_pure]
    rcases perform_store_cases (Connectors.means_put name ⟨typeName, config⟩)
      ("store connector " ++ name) { d with site := d.site.record (.made t.serial) } with
      ⟨n, hp⟩ | ⟨hbroken, -⟩
    · rw [hp]
      rfl
    · exact absurd hw hbroken

/-- What is stored is checked first, then whether the type is registered. -/
theorem verdict_of_checkConfigurable {f : Failure}
    (h : checkConfigurable name typeName (d.rows.connectors.get? name) update = .error f) :
    Verdict name typeName config locale update d (.error f) := by
  cases hs : d.rows.connectors.get? name with
  | none =>
    cases update with
    | true =>
      rw [hs] at h
      cases h
      exact .notFound hs rfl
    | false =>
      rw [hs] at h
      cases h
  | some r =>
    cases update with
    | false =>
      rw [hs] at h
      cases h
      exact .taken hs rfl
    | true =>
      rw [hs] at h
      by_cases ht : r.typeName = typeName
      · simp [checkConfigurable, ht] at h
      · simp only [checkConfigurable, Bool.not_true, Bool.false_eq_true, if_false, ht, ne_eq,
          not_false_eq_true, if_true] at h
        cases h
        exact .otherType hs rfl ht

theorem suits_of_checkConfigurable
    (h : checkConfigurable name typeName (d.rows.connectors.get? name) update = .ok ()) :
    d.Suits name typeName update := by
  cases hs : d.rows.connectors.get? name with
  | none =>
    rw [hs] at h
    cases update with
    | true => cases h
    | false => exact ⟨by rw [hs]; rfl, by simp [hs]⟩
  | some r =>
    rw [hs] at h
    cases update with
    | false => cases h
    | true =>
      by_cases ht : r.typeName = typeName
      · exact ⟨by rw [hs]; rfl, by simp [hs, ht]⟩
      · simp [checkConfigurable, ht] at h

/-- Where the connectors at hand mirror those that are stored, what is stored decides. -/
theorem verdict_configure (hf : d.Faithful) (hw : d.Works) (name typeName : String)
    (config : Config) (locale : Locale) (update : Bool) :
    Verdict name typeName config locale update d
      ((configure name typeName config locale update).perform d).1 := by
  have hinstall {t : ConnectorType} {n : Nat} (hs : d.Suits name typeName update)
      (ht : d.type? typeName = some t) (ha : t.Accepts config locale) :
      Verdict name typeName config locale update d
        ((install name t typeName config >>= fun _ => pure none).perform (d.counting n)).1 := by
    have hi := answer_install (d := d.counting n) (hw.counting _ n) name t typeName config
    rw [perform_bind]
    cases hp : (install name t typeName config).perform (d.counting n) with
    | mk x d' =>
      rw [hp] at hi
      obtain rfl : x = _ := hi
      cases hm : t.make config with
      | error f => exact .notBuilt hs ht ha hm
      | ok c => exact .applied hs ht ha hm
  unfold configure
  rw [perform_bind]
  obtain ⟨n, hp | ⟨hbroken, -⟩⟩ := perform_row? name d
  case inr => exact absurd hw hbroken
  rw [hp, hf.known]
  dsimp only
  rw [perform_bind, perform_give]
  cases hc : checkConfigurable name typeName (d.rows.connectors.get? name) update with
  | error f => exact verdict_of_checkConfigurable hc
  | ok _ =>
    have hs := suits_of_checkConfigurable hc
    dsimp only
    rw [perform_bind, perform_findType?]
    have hfind : ((d.counting n).site.catalog (d.counting n).node.catalog).find? typeName =
      d.type? typeName := rfl
    rw [hfind]
    cases ht : d.type? typeName with
    | none => exact .typeUnknown hs ht
    | some t =>
      dsimp only
      rw [perform_bind, perform_give]
      cases ha : t.check config locale with
      | error f => exact .unchecked hs ht ha
      | ok form =>
        cases form with
        | none => exact hinstall hs ht ⟨none, ha, nofun⟩
        | some form =>
          dsimp only
          by_cases hr : form.isRefusal = true
          · rw [if_pos hr]
            exact .refused hs ht ha hr
          · rw [if_neg hr]
            refine hinstall hs ht ⟨some form, ha, ?_⟩
            rintro _ ⟨⟩
            simpa using hr

end Instances

/-- The answer is a failure of the kind. -/
def FailsAs (x : Except Failure α) (k : FailureKind) : Prop := ∃ f, x = .error f ∧ f.kind = k

@[simp] theorem failsAs_error {f : Failure} {k : FailureKind} :
    FailsAs (.error f : Except Failure α) k ↔ f.kind = k := by
  simp [FailsAs]

namespace Instances

/-- When which answer is given to a configuration. -/
structure Decided (name typeName : String) (config : Config) (locale : Locale) (update : Bool)
    (d : Desk) (x : Except Failure (Option Form)) : Prop where
  notFound : FailsAs x .connectorNotFound ↔
    update = true ∧ d.rows.connectors.get? name = none
  taken : FailsAs x .connectorExists ↔
    update = false ∧ (d.rows.connectors.get? name).isSome
  instantiator : FailsAs x .instantiator ↔
    (d.rows.connectors.get? name).isSome = update ∧
      ((∃ r, d.rows.connectors.get? name = some r ∧ r.typeName ≠ typeName) ∨
        d.type? typeName = none ∨
        ∃ t, d.type? typeName = some t ∧ t.Accepts config locale ∧ ∃ f, t.make config = .error f)
  otherwise : ∀ f, x = .error f →
    FailsAs x .connectorNotFound ∨ FailsAs x .connectorExists ∨ FailsAs x .instantiator
  refused : ∀ form, x = .ok (some form) ↔
    d.Suits name typeName update ∧ ∃ t, d.type? typeName = some t ∧
      t.check config locale = .ok (some form) ∧ form.isRefusal = true
  applied : x = .ok none ↔
    d.Suits name typeName update ∧ ∃ t, d.type? typeName = some t ∧
      t.Accepts config locale ∧ ∃ c, t.make config = .ok c

/-- Where the connector suits, all depends on its type. -/
theorem Decided.of_suits {x : Except Failure (Option Form)} (suits : d.Suits name typeName update)
    (hkind : ∀ f, x = .error f → f.kind = .instantiator)
    (hfails : (∃ f, x = .error f) ↔ d.type? typeName = none ∨
      ∃ t, d.type? typeName = some t ∧ t.Accepts config locale ∧ ∃ f, t.make config = .error f)
    (hrefused : ∀ form, x = .ok (some form) ↔ ∃ t, d.type? typeName = some t ∧
      t.check config locale = .ok (some form) ∧ form.isRefusal = true)
    (happlied : x = .ok none ↔ ∃ t, d.type? typeName = some t ∧ t.Accepts config locale ∧
      ∃ c, t.make config = .ok c) : Decided name typeName config locale update d x := by
  have hinstantiator : FailsAs x .instantiator ↔ ∃ f, x = .error f :=
    ⟨fun ⟨f, hf, _⟩ => ⟨f, hf⟩, fun ⟨f, hf⟩ => ⟨f, hf, hkind f hf⟩⟩
  have hno {k : FailureKind} (hk : k ≠ .instantiator) : ¬ FailsAs x k :=
    fun ⟨f, hf, hfk⟩ => hk (hfk ▸ hkind f hf)
  have hstored := suits.stored
  refine {
    notFound := iff_of_false (hno (by decide)) ?_
    taken := iff_of_false (hno (by decide)) ?_
    instantiator := ?_
    otherwise := fun f hf => .inr (.inr ⟨f, hf, hkind f hf⟩)
    refused := fun form => (hrefused form).trans (iff_and_self.2 fun _ => suits)
    applied := happlied.trans (iff_and_self.2 fun _ => suits) }
  · rintro ⟨rfl, hnone⟩
    simp [hnone] at hstored
  · rintro ⟨rfl, hsome⟩
    rw [hsome] at hstored
    cases hstored
  · have hsame : ¬ ∃ r, d.rows.connectors.get? name = some r ∧ r.typeName ≠ typeName :=
      fun ⟨r, hr, hne⟩ => hne (suits.sameType r hr)
    rw [hinstantiator, hfails, and_iff_right hstored, or_iff_right hsame]

theorem Verdict.decided {x : Except Failure (Option Form)}
    (h : Verdict name typeName config locale update d x)
    (hchecks : ∀ t f, d.Suits name typeName update → d.type? typeName = some t →
      t.check config locale ≠ .error f) : Decided name typeName config locale update d x := by
  cases h with
  | notFound absent toUpdate =>
    subst toUpdate
    have hnot : ¬ d.Suits name typeName true := fun h => by simpa [absent] using h.stored
    constructor <;> simp [Failure.kind, absent, hnot]
  | taken there toCreate =>
    subst toCreate
    have hnot : ¬ d.Suits name typeName false := fun h => by simpa [there] using h.stored
    constructor <;> simp [Failure.kind, there, hnot]
  | otherType there toUpdate other =>
    subst toUpdate
    have hnot : ¬ d.Suits name typeName true := fun h => other (h.sameType _ there)
    constructor <;> simp [Failure.kind, there, hnot, other]
  | unchecked suits type fails => exact absurd fails (hchecks _ _ suits type)
  | typeUnknown suits unknown =>
    refine .of_suits suits ?_ ?_ ?_ ?_ <;> simp [unknown, Failure.kind]
  | refused suits type answer refusal =>
    have hnot (t : ConnectorType) (ht : d.type? typeName = some t) : ¬ t.Accepts config locale := by
      rw [type] at ht
      cases ht
      exact fun h => Bool.false_ne_true ((h.not_refused answer).symm.trans refusal)
    refine .of_suits suits nofun ?_ ?_ ?_
    · simp [type, hnot _ type]
    · intro form
      simp only [type, Option.some.injEq, exists_eq_left', answer, Except.ok.injEq]
      exact ⟨fun h => ⟨h, h ▸ refusal⟩, And.left⟩
    · simp [type, hnot _ type]
  | notBuilt suits type accepts fails =>
    refine .of_suits suits (by simp [Failure.kind]) ?_ ?_ ?_
    · simp [type, accepts, fails]
    · intro form
      simp only [type, Option.some.injEq, exists_eq_left', reduceCtorEq, false_iff]
      exact fun h => Bool.false_ne_true ((accepts.not_refused h.1).symm.trans h.2)
    · simp [type, fails]
  | applied suits type accepts made =>
    refine .of_suits suits nofun ?_ ?_ ?_
    · simp [type, made]
    · intro form
      simp only [type, Option.some.injEq, exists_eq_left', Except.ok.injEq, reduceCtorEq, false_iff]
      exact fun h => Bool.false_ne_true ((accepts.not_refused h.1).symm.trans h.2)
    · simp [type, accepts, made]

/-- A check that fails is answered with its failure. -/
theorem Verdict.eq_of_unchecked {x : Except Failure (Option Form)}
    (h : Verdict name typeName config locale update d x) {t : ConnectorType} {f : Failure}
    (suits : d.Suits name typeName update) (type : d.type? typeName = some t)
    (hf : t.check config locale = .error f) : x = .error f := by
  have hstored := suits.stored
  cases h with
  | notFound absent toUpdate => simp [absent, toUpdate] at hstored
  | taken there toCreate => simp [there, toCreate] at hstored
  | otherType there _ other => exact absurd (suits.sameType _ there) other
  | typeUnknown _ unknown => simp [unknown] at type
  | unchecked _ type' fails =>
    rw [type'] at type
    cases type
    rw [fails] at hf
    cases hf
    rfl
  | refused _ type' answer =>
    rw [type'] at type
    cases type
    rw [answer] at hf
    cases hf
  | notBuilt _ type' accepts | applied _ type' accepts =>
    rw [type'] at type
    cases type
    obtain ⟨answer, ha, -⟩ := accepts
    rw [ha] at hf
    cases hf

end Instances

namespace Hub

/-- What a configuration comes to at a node whose database works and which started with nothing at
hand: the answer depends on what is stored about the connector and on its type, and nothing changes
unless it is none. Then the connector has the new configuration as a whole, is made from it, and all
else that is stored is as before. -/
theorem configure_outcome {start h : Hub} {past : List Event} {place : Nat}
    (hnew : (start.node place).live = .empty)
    (run : Run (fun _ m => m.isOwn place = true) start past h) (hw : h.Works)
    (name typeName : String) (config : Config) (locale : Locale) (update : Bool) :
    let d := h.desk place
    let p := (Instances.configure name typeName config locale update).perform d
    (∀ t f, d.Suits name typeName update → d.type? typeName = some t →
      t.check config locale = .error f → p.1 = .error f) ∧
    ((∀ t f, d.Suits name typeName update → d.type? typeName = some t →
      t.check config locale ≠ .error f) →
        Instances.Decided name typeName config locale update d p.1) ∧
    (p.1 ≠ .ok none → p.2.rows = d.rows ∧ p.2.node = d.node) ∧
    (p.1 = .ok none → ∃ i : Instance, i.row = ⟨typeName, config⟩ ∧
      d.made? i.row = some i.connector ∧
      p.2.node = { d.node with live := d.node.live.insert name i } ∧
      p.2.rows.about name = { d.rows.about name with connector := some ⟨typeName, config⟩ } ∧
      (∀ other, other ≠ name → p.2.rows.about other = d.rows.about other) ∧
      p.2.rows.runs = d.rows.runs) := by
  intro d p
  have hverdict : Instances.Verdict name typeName config locale update d p.1 :=
    Instances.verdict_configure (run.faithful_own hnew) hw name typeName config locale update
  refine ⟨fun t f => hverdict.eq_of_unchecked, hverdict.decided, ?_⟩
  obtain ⟨d₁, hd, hnode, ⟨i, -, hrow, hmade, hp⟩ | ⟨x, hx, hp⟩⟩ :=
    Instances.perform_configure name typeName config locale update d
  · have hp : p = _ := hp
    rw [hp]
    refine ⟨fun hne => absurd rfl hne, fun _ => ⟨i, hrow, hmade, ?_, ?_, fun other ho => ?_, ?_⟩⟩
    · rw [← hnode]
      rfl
    · rw [Desk.rows_keeping, Desk.rows_withRows, hd.rows]
      exact Rows.about_configured_self ..
    · rw [Desk.rows_keeping, Desk.rows_withRows, hd.rows]
      exact Rows.about_configured_of_ne _ ho _
    · rw [Desk.rows_keeping, Desk.rows_withRows, hd.rows]
      rfl
  · have hp : p = _ := hp
    rw [hp]
    exact ⟨fun _ => ⟨hd.rows, hnode⟩, fun h => absurd h hx⟩

/-- A connector is configured with two settings, scheduled, and traversed. -/
def traversedOnce : List Move :=
  [.ask 0 (.configure "a" "plain" (.ofList [("depth", "3"), ("url", "x")]) none false),
    .ask 0 (.setSchedule "a" 1 0 "0-24"), .begin 0 "a", .finish 0 (.ok ⟨[], some "x"⟩)]

/-- Of the old settings none is left, but the checkpoint is. -/
theorem configure_replaces_settings :
    let d := (untouched.play traversedOnce).1.desk 0
    let p := (Instances.configure "a" "plain" (.ofList [("url", "y")]) (.ofTag? none) true).perform d
    p.1 = .ok none ∧
      (p.2.rows.about "a").connector = some ⟨"plain", .ofList [("url", "y")]⟩ ∧
      (p.2.rows.about "a").state = some ⟨some "x", 0⟩ ∧
      ∃ i, p.2.node.live.get? "a" = some i ∧ i.row = ⟨"plain", .ofList [("url", "y")]⟩ := by
  intro d p
  have hallows : untouched.Allows (fun _ m => m.isOwn 0 = true) traversedOnce := by decide +kernel
  have hnew : (untouched.node 0).live = .empty := rfl
  obtain ⟨-, hdecided, -, happlied⟩ := configure_outcome hnew
    (untouched.run_play traversedOnce hallows) (fun _ _ _ => rfl) "a" "plain" (.ofList [("url", "y")])
    (.ofTag? none) true
  have htype : d.type? "plain" = some .plain := rfl
  have hchecks : ∀ t f, d.Suits "a" "plain" true → d.type? "plain" = some t →
      t.check (.ofList [("url", "y")]) (.ofTag? none) ≠ .error f := by
    intro t f _ ht
    rw [htype] at ht
    cases ht
    nofun
  have hstored : d.rows.connectors.get? "a" =
      some ⟨"plain", .ofList [("depth", "3"), ("url", "x")]⟩ := by decide +kernel
  have hsuits : d.Suits "a" "plain" true := by
    refine ⟨by rw [hstored]; rfl, fun r hr => ?_⟩
    rw [hstored] at hr
    cases hr
    rfl
  have hp : p.1 = .ok none :=
    (hdecided hchecks).applied.2 ⟨hsuits, _, htype, ⟨none, rfl, nofun⟩, _, rfl⟩
  obtain ⟨i, hrow, -, hnode, habout, -⟩ := happlied hp
  refine ⟨hp, by rw [habout], ?_, i, ?_, hrow⟩
  · rw [habout]
    decide +kernel
  · rw [hnode]
    exact Table.get?_insert_self ..

/-- A hub whose only type fails to check configurations. -/
def unchecking : Hub where
  site := { catalogs := [[{ ConnectorType.plain with
    check := fun _ _ => .error (.raised .runtime "down") }]] }
  node _ := {}

/-- Nothing that is stored speaks against the configuration, and the type makes connectors, but the
failure of the check is passed on. -/
theorem configure_fails_with_check :
    let d := unchecking.desk 0
    let x := ((Instances.configure "a" "plain" .empty (.ofTag? none) false).perform d).1
    d.node.live = .empty ∧ d.Works ∧ d.Suits "a" "plain" false ∧
      (∃ t, d.type? "plain" = some t ∧ (t.make .empty).isOk = true) ∧
      x ≠ .ok none ∧ (∀ form, x ≠ .ok (some form)) ∧ ¬ FailsAs x .connectorNotFound ∧
      ¬ FailsAs x .connectorExists ∧ ¬ FailsAs x .instantiator := by
  intro d x
  have hx : x = .error (.raised .runtime "down") := rfl
  refine ⟨rfl, fun _ _ _ => rfl, ⟨rfl, nofun⟩, ⟨_, rfl, rfl⟩, ?_⟩
  rw [hx]
  simp [Failure.kind]

end Hub

end ConnectorHub
