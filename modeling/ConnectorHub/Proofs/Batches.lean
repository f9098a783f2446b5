import ConnectorHub.Hub.Traversal
import ConnectorHub.Proofs.Addresses

/-! What becomes of the documents of a batch. Each is addressed by itself, and one that cannot be
addressed is left out, unless it stops that any further one is addressed. -/
namespace ConnectorHub

/-- Why a document is left out of a batch, if it is. -/
def Addressing.refusal? (a : Addressing) (d : Document) : Option AddressError :=
  match a.address d with
  | .ok _ => none
  | .error e => some e

namespace Traversal

/-- What comes of two parts of a batch one after the other, where nothing stops the first. -/
instance : Append Addressed where
  append x y := ⟨x.addresses ++ y.addresses, x.refusals ++ y.refusals, y.rest⟩

theorem Addressed.append_def (x y : Addressed) :
    x ++ y = ⟨x.addresses ++ y.addresses, x.refusals ++ y.refusals, y.rest⟩ := rfl

theorem Addressed.append_assoc (x y z : Addressed) : x ++ y ++ z = x ++ (y ++ z) := by
  simp only [append_def, List.append_assoc]

variable {a : Addressing} {d : Document} {documents : List Document}

theorem addressAll_of_ok {u : String × Option String} (h : a.address d = .ok u) :
    addressAll a [d] = { addresses := [u] } := by
  rw [addressAll, h]
  rfl

theorem addressAll_of_error {e : AddressError} (h : a.address d = .error e)
    (he : e.isOfDocument = true) : addressAll a [d] = { refusals := [e] } := by
  rw [addressAll, h]
  exact if_pos he

theorem addressAll_of_stops {e : AddressError} (h : a.address d = .error e)
    (he : e.isOfDocument = false) (r : List Document) : addressAll a (d :: r) = { rest := some e } := by
  rw [addressAll, h]
  exact if_neg (by simp [he])

/-- A document that does not stop the others is judged by itself. -/
theorem addressAll_cons (h : ¬ a.Stops d) (r : List Document) :
    addressAll a (d :: r) = addressAll a [d] ++ addressAll a r := by
  cases hd : a.address d with
  | ok u =>
    rw [addressAll_of_ok hd, addressAll, hd]
    rfl
  | error e =>
    have he : e.isOfDocument = true := Bool.not_eq_false _ ▸ fun he => h ⟨e, hd, he⟩
    rw [addressAll_of_error hd he, addressAll, hd]
    exact if_pos he

/-- A batch is addressed to its end exactly if no document stops it. -/
theorem rest_addressAll_eq_none_iff :
    (addressAll a documents).rest = none ↔ ∀ d ∈ documents, ¬ a.Stops d := by
  induction documents with
  | nil => exact iff_of_true rfl nofun
  | cons d r ih =>
    rw [List.forall_mem_cons, ← ih]
    by_cases h : a.Stops d
    · obtain ⟨e, hd, he⟩ := h
      rw [addressAll_of_stops hd he]
      exact iff_of_false nofun fun hr => hr.1 ⟨e, hd, he⟩
    · rw [addressAll_cons h, Addressed.append_def, and_iff_right h]

/-- Where nothing stops the documents of a batch, the addresses are those of the documents that have
one, and the refusals are those of the others. -/
theorem addressAll_eq (h : (addressAll a documents).rest = none) :
    addressAll a documents =
      { addresses := documents.filterMap fun d => (a.address d).toOption
        refusals := documents.filterMap a.refusal? } := by
  rw [rest_addressAll_eq_none_iff] at h
  induction documents with
  | nil => rfl
  | cons d r ih =>
    obtain ⟨hd, hr⟩ := List.forall_mem_cons.1 h
    rw [addressAll_cons hd, ih hr]
    cases ha : a.address d with
    | ok u =>
      rw [addressAll_of_ok ha, Addressed.append_def]
      simp [Addressing.refusal?, ha, Except.toOption]
    | error e =>
      rw [addressAll_of_error ha (Bool.not_eq_false _ ▸ fun he => hd ⟨e, ha, he⟩),
        Addressed.append_def]
      simp [Addressing.refusal?, ha, Except.toOption]

/-- What comes of the first part of a batch has no part in what comes of the second. -/
theorem addressAll_append (h : (addressAll a documents).rest = none) (others : List Document) :
    addressAll a (documents ++ others) = addressAll a documents ++ addressAll a others := by
  rw [rest_addressAll_eq_none_iff] at h
  induction documents with
  | nil => rfl
  | cons d r ih =>
    obtain ⟨hd, hr⟩ := List.forall_mem_cons.1 h
    rw [List.cons_append, addressAll_cons hd (r ++ others), ih hr, ← Addressed.append_assoc,
      ← addressAll_cons hd]

/-- How many of these documents have an address. -/
def addressable (a : Addressing) (documents : List Document) : Nat :=
  documents.countP fun document => (a.address document).isOk

/-- If nothing stops that all documents are addressed, one that has no address is left out. -/
theorem length_addresses (h : (addressAll a documents).rest = none) :
    (addressAll a documents).addresses.length = addressable a documents := by
  rw [addressAll_eq h, List.length_filterMap_eq_countP, addressable]
  congr
  funext d
  cases a.address d <;> rfl

/-- There is one refusal for each document that is left out. -/
theorem length_addressAll (h : (addressAll a documents).rest = none) :
    (addressAll a documents).addresses.length + (addressAll a documents).refusals.length =
      documents.length := by
  rw [addressAll_eq h, List.length_filterMap_eq_countP, List.length_filterMap_eq_countP,
    List.length_eq_countP_add_countP fun d => (a.address d).toOption.isSome]
  congr 2
  funext d
  unfold Addressing.refusal?
  cases a.address d <;> rfl

end Traversal

end ConnectorHub
