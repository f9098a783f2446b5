/-! The kinds of failures and the families they form: whoever handles a family handles all of its
members. -/
namespace ConnectorHub

inductive FailureKind
  | hub
  | connectorNotFound
  | typeNotFound
  | instantiator
  | connectorExists
  | persistentStore
  | repository
  | repositoryLogin
  | repositoryDocument
  | malformedUrl
  | missingAddress
  | unknownFeedType
  | value
  | runtime
  | key
  | wrongType
  | overflow
  | database
  | integrity
  | transport
  | queue
  deriving DecidableEq, Repr

namespace FailureKind

/-- The next larger family that a kind belongs to. -/
def parent? : FailureKind → Option FailureKind
  | connectorNotFound | typeNotFound | instantiator | persistentStore | repository => some hub
  | connectorExists => some instantiator
  | repositoryLogin | repositoryDocument => some repository
  | malformedUrl | missingAddress | unknownFeedType => some repositoryDocument
  | _ => none

/-- A kind and at most `n` families around it, the smallest first. -/
def lineageUpTo : Nat → FailureKind → List FailureKind
  | 0, k => [k]
  | n + 1, k =>
    k :: match k.parent? with
      | none => []
      | some p => lineageUpTo n p

/-- A kind and all families around it, of which there are never more than three. -/
def lineage (k : FailureKind) : List FailureKind := lineageUpTo 3 k

theorem parent?_getLast_lineage (k : FailureKind) :
    (k.lineage.getLast?.bind parent?) = none := by
  cases k <;> rfl

/-- The kind belongs to a family. -/
def isA (k family : FailureKind) : Bool := k.lineage.contains family

example : malformedUrl.isA repository = true ∧ repository.isA malformedUrl = false := by
  decide

end FailureKind

end ConnectorHub
