import ConnectorHub.Hub.Desk
import ConnectorHub.Proofs.Transactions
import Mathlib.Order.Defs.Unbundled

/-! What performing an action does to a desk. A relation between desks that is kept by the parts of
an action is kept by the whole of it. -/
namespace ConnectorHub

open Store

namespace Desk

def rows (d : Desk) : Rows := d.site.database.rows

/-- The desk with other rows. -/
def withRows (d : Desk) (rows : Rows) : Desk :=
  { d with site := { d.site with database := { d.site.database with rows } } }

/-- The desk when so many further statements were issued. -/
def counting (d : Desk) (n : Nat) : Desk :=
  { d with site := { d.site with
      database := { d.site.database with issued := d.site.database.issued + n } } }

/-- No statement fails at the desk from now on. -/
def Works (d : Desk) : Prop := d.site.database.Works

/-- What is known about a connector: from the instance at hand, else from the store. -/
def known (d : Desk) (name : String) : Option ConnectorRow :=
  match d.node.live.get? name with
  | some i => some i.row
  | none => d.rows.connectors.get? name

/-- The connector that the node's types make of what is stored. -/
def made? (d : Desk) (row : ConnectorRow) : Option Connector :=
  ((d.site.catalog d.node.catalog).find? row.typeName).bind fun t => (t.make row.config).toOption

@[simp] theorem rows_withRows (d : Desk) (rows : Rows) : (d.withRows rows).rows = rows := rfl

@[simp] theorem node_withRows (d : Desk) (rows : Rows) : (d.withRows rows).node = d.node := rfl

@[simp] theorem rows_counting (d : Desk) (n : Nat) : (d.counting n).rows = d.rows := rfl

@[simp] theorem node_counting (d : Desk) (n : Nat) : (d.counting n).node = d.node := rfl

@[simp] theorem withRows_withRows (d : Desk) (rows rows' : Rows) :
    (d.withRows rows).withRows rows' = d.withRows rows' := rfl

theorem withRows_counting (d : Desk) (n : Nat) (rows : Rows) :
    (d.counting n).withRows rows = (d.withRows rows).counting n := rfl

@[simp] theorem counting_counting (d : Desk) (n m : Nat) :
    (d.counting n).counting m = d.counting (n + m) := by
  simp only [counting, Nat.add_assoc]

theorem Works.counting {d : Desk} (h : d.Works) (rows : Rows) (n : Nat) :
    ((d.withRows rows).counting n).Works :=
  h.later rows n

/-- Once a property holds, it holds. -/
def Keeps (P : Desk → Prop) (d d' : Desk) : Prop := P d → P d'

instance (P : Desk → Prop) : IsPreorder Desk (Keeps P) where
  refl _ h := h
  trans _ _ _ h k p := k (h p)

end Desk

namespace Act

theorem perform_map (a : Act α) (f : α → β) (d : Desk) :
    (do return f (← a) : Act β).perform d = ((a.perform d).1.map f, (a.perform d).2) := by
  rw [perform_bind]
  cases hp : a.perform d with
  | mk x d' => cases x <;> rfl

theorem filterM_cons {m : Type → Type} [Monad m] [LawfulMonad m] {α : Type} (f : α → m Bool) (x : α)
    (xs : List α) :
    (x :: xs).filterM f = (do
      let b ← f x
      let ys ← xs.filterM f
      return if b then x :: ys else ys) := by
  have haux : ∀ (xs acc : List α),
      xs.filterAuxM f acc = (do return (← xs.filterAuxM f []).reverse.reverse ++ acc) := by
    intro xs
    induction xs with
    | nil => intro acc; simp [List.filterAuxM]
    | cons x xs ih =>
      intro acc
      simp only [List.filterAuxM, bind_assoc]
      refine bind_congr fun b => ?_
      rw [ih, ih (bif b then [x] else [])]
      cases b <;> simp
  simp only [List.filterM, List.filterAuxM, bind_assoc]
  refine bind_congr fun b => ?_
  rw [haux]
  cases b <;> simp

/-- Performing the action moves every desk along the relation. -/
def Moves (R : Desk → Desk → Prop) (a : Act α) : Prop := ∀ d, R d (a.perform d).2

section

variable {R : Desk → Desk → Prop} [IsPreorder Desk R]

theorem Moves.pure (x : α) : Moves R (pure x : Act α) := fun d => refl d

theorem Moves.throw (f : Failure) : Moves R (throw f : Act α) := fun d => refl d

theorem mapError_ok {ε ε' : Type} (f : ε → ε') (x : α) :
    (Except.ok x : Except ε α).mapError f = .ok x := rfl

theorem Moves.give (x : Except Failure α) : Moves R (give x) := fun d => by
  rw [perform_give]
  exact refl d

theorem Moves.bind {a : Act α} {f : α → Act β} (ha : Moves R a) (hf : ∀ x, Moves R (f x)) :
    Moves R (a >>= f) := by
  intro d
  rw [perform_bind]
  have h := ha d
  cases hp : a.perform d with
  | mk x d' =>
    rw [hp] at h
    cases x with
    | ok x => exact trans_of R h (hf x d')
    | error e => exact h

theorem Moves.tryCatch {a : Act α} {f : Failure → Act α} (ha : Moves R a)
    (hf : ∀ e, Moves R (f e)) : Moves R (tryCatch a f) := by
  intro d
  rw [perform_tryCatch]
  have h := ha d
  cases hp : a.perform d with
  | mk x d' =>
    rw [hp] at h
    cases x with
    | ok x => exact h
    | error e => exact trans_of R h (hf e d')

theorem Moves.map {a : Act α} (f : α → β) (ha : Moves R a) : Moves R (do return f (← a)) :=
  ha.bind fun _ => .pure _

theorem Moves.mapM {f : α → Act β} (hf : ∀ x, Moves R (f x)) (xs : List α) :
    Moves R (xs.mapM f) := by
  induction xs with
  | nil => exact .pure _
  | cons x xs ih =>
    rw [List.mapM_cons]
    exact (hf x).bind fun _ => ih.bind fun _ => .pure _

theorem Moves.filterM {f : α → Act Bool} {xs : List α} (hf : ∀ x ∈ xs, Moves R (f x)) :
    Moves R (xs.filterM f) := by
  induction xs with
  | nil => exact .pure _
  | cons x xs ih =>
    rw [filterM_cons]
    exact (hf x List.mem_cons_self).bind fun _ =>
      (ih fun y hy => hf y (List.mem_cons_of_mem x hy)).bind fun _ => .pure _

theorem moves_node : Moves R node := fun d => refl d

theorem moves_site : Moves R site := fun d => refl d

end

theorem Moves.attempt {R : Desk → Desk → Prop} {a : Act α} (ha : Moves R a) :
    Moves R (attempt a) := fun d => by
  rw [perform_attempt]
  exact ha d

/-- At two desks that are so related the action answers the same, and leaves two that are. -/
def Respects (S : Desk → Desk → Prop) (a : Act α) : Prop :=
  ∀ d e, S d e → (a.perform e).1 = (a.perform d).1 ∧ S (a.perform d).2 (a.perform e).2

section

variable {S : Desk → Desk → Prop}

theorem Respects.pure (x : α) : Respects S (pure x : Act α) := fun _ _ h => ⟨rfl, h⟩

theorem Respects.throw (f : Failure) : Respects S (throw f : Act α) := fun _ _ h => ⟨rfl, h⟩

theorem Respects.give (x : Except Failure α) : Respects S (give x) := by
  cases x with
  | ok x => exact .pure x
  | error f => exact .throw f

theorem Respects.bind {a : Act α} {f : α → Act β} (ha : Respects S a)
    (hf : ∀ x, Respects S (f x)) : Respects S (a >>= f) := by
  intro d e h
  obtain ⟨hx, h'⟩ := ha d e h
  simp only [perform_bind]
  cases hd : a.perform d with
  | mk x d' =>
    cases he : a.perform e with
    | mk y e' =>
      rw [hd, he] at hx h'
      obtain rfl : y = x := hx
      cases y with
      | ok y => exact hf y d' e' h'
      | error f => exact ⟨rfl, h'⟩

theorem Respects.tryCatch {a : Act α} {f : Failure → Act α} (ha : Respects S a)
    (hf : ∀ e, Respects S (f e)) : Respects S (tryCatch a f) := by
  intro d e h
  obtain ⟨hx, h'⟩ := ha d e h
  simp only [perform_tryCatch]
  cases hd : a.perform d with
  | mk x d' =>
    cases he : a.perform e with
    | mk y e' =>
      rw [hd, he] at hx h'
      obtain rfl : y = x := hx
      cases y with
      | ok y => exact ⟨rfl, h'⟩
      | error g => exact hf g d' e' h'

end

/-- A list is filtered from its front. -/
theorem perform_filterM_cons (f : α → Act Bool) (x : α) (xs : List α) (d : Desk) :
    ((x :: xs).filterM f).perform d =
      match (f x).perform d with
      | (.error e, d) => (.error e, d)
      | (.ok b, d) =>
        match (xs.filterM f).perform d with
        | (.error e, d) => (.error e, d)
        | (.ok ys, d) => (.ok (if b then x :: ys else ys), d) := by
  rw [filterM_cons, perform_bind]
  rcases (f x).perform d with ⟨_ | b, d'⟩
  · rfl
  · dsimp only
    rw [perform_bind]
    rcases (xs.filterM f).perform d' with ⟨_ | ys, d''⟩ <;> rfl

/-- What is filtered out of a list is in the list, and was answered with yes. -/
theorem mem_of_filterM {f : α → Act Bool} {xs ys : List α} {d d' : Desk}
    (h : (xs.filterM f).perform d = (.ok ys, d')) :
    ∀ y ∈ ys, y ∈ xs ∧ ∃ e, ((f y).perform e).1 = .ok true := by
  induction xs generalizing ys d with
  | nil =>
    cases h
    exact nofun
  | cons x xs ih =>
    rw [perform_filterM_cons] at h
    cases hx : (f x).perform d with
    | mk b e =>
      rw [hx] at h
      cases b with
      | error _ => cases h
      | ok b =>
        dsimp only at h
        cases hr : (xs.filterM f).perform e with
        | mk zs e' =>
          rw [hr] at h
          cases zs with
          | error _ => cases h
          | ok zs =>
            cases h
            intro y hy
            have hrest (hy : y ∈ zs) : y ∈ x :: xs ∧ ∃ e, ((f y).perform e).1 = .ok true :=
              (ih hr y hy).imp_left (List.mem_cons_of_mem x)
            cases b with
            | false => exact hrest hy
            | true =>
              rcases List.mem_cons.1 hy with rfl | hy
              · exact ⟨List.mem_cons_self, d, by rw [hx]⟩
              · exact hrest hy

/-- What a store call comes to: what its transaction means, or a failure that changes no row. -/
theorem perform_transact_cases {t : Transaction α} {f : Rows → Except DatabaseError (α × Rows)}
    (h : Transaction.Means t f) (wrap : DatabaseError → Failure) (d : Desk) :
    (∃ x rows n, f d.rows = .ok (x, rows) ∧
      (transact wrap t).perform d = (.ok x, (d.withRows rows).counting n)) ∨
    (∃ e n, (f d.rows = .error e ∨ e = .operational ∧ ¬ d.Works) ∧
      (transact wrap t).perform d = (.error (wrap e), d.counting n)) := by
  rw [perform_transact]
  rcases h.perform d.site.database with ⟨x, rows, n, hf, ht⟩ | ⟨e, n, he, ht⟩
  · exact .inl ⟨x, rows, n, hf, by rw [ht]; rfl⟩
  · exact .inr ⟨e, n, he, by rw [ht]; rfl⟩

/-- As `perform_transact_cases`, for a call that only a failing statement can make fail. -/
theorem perform_store_cases {t : Transaction α} {x : Rows → α} {f : Rows → Rows}
    (h : Transaction.Means t fun rows => .ok (x rows, f rows)) (action : String) (d : Desk) :
    (∃ n, (store action t).perform d = (.ok (x d.rows), (d.withRows (f d.rows)).counting n)) ∨
    (¬ d.Works ∧ ∃ n, (store action t).perform d = (.error (.store action), d.counting n)) := by
  rcases perform_transact_cases h (storeFailure action) d with
    ⟨y, rows, n, hf, hp⟩ | ⟨e, n, he, hp⟩
  · cases hf
    exact .inl ⟨n, hp⟩
  · rcases he with he | ⟨rfl, hw⟩
    · cases he
    · exact .inr ⟨hw, n, hp⟩

end Act

end ConnectorHub
