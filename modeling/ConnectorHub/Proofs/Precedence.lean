import ConnectorHub.Proofs.MadeAddresses

/-! The rules by which a document finds its address, and that of the document it inherits from. An
address that is given goes before an identifier from which one is made, and there is none only where
both are lacking; a property that is null or empty is as good as lacking. The two addresses differ in
the properties that are asked, in the feed type, and in that only that of a record is checked. -/
namespace ConnectorHub

namespace Addressing

open Text Document

variable {a : Addressing} {d d' : Document} {url docid : String} {t : FeedType} {role : Role}

variable {missing answer : Except AddressError (Option String)}

/-- There is one way only in which a document finds its address. -/
theorem Found.unique {answer' : Except AddressError (Option String)}
    (h : a.Found d url docid t role missing answer)
    (h' : a.Found d url docid t role missing answer') : answer = answer' :=
  h.eq_orMissing.trans h'.eq_orMissing.symm

/-- The feed type of the document that this one inherits from: the one that it names, else the
default. -/
def Asks (a : Addressing) (d : Document) (t : FeedType) : Prop :=
  (d.feedTypeNamed? = .ok none ∧ t = a.feedType) ∨
    ∃ name, d.feedTypeNamed? = .ok (some name) ∧ lower (strip name) = t.name

end Addressing

end ConnectorHub
