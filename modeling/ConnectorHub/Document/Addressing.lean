import ConnectorHub.Document.FeedType
import ConnectorHub.Document.Property
import ConnectorHub.Url.Form
import ConnectorHub.Url.Reference

/-! The addresses under which documents are fed: the address that a document gives itself, or one
made from its identifier. -/
namespace ConnectorHub

namespace Document

/-- Names of the properties that address a document. -/
def searchUrlName : String := "google:searchurl"
def docidName : String := "google:docid"
def feedTypeName : String := "google:feedtype"

/-- Names of the properties that address the document from which another inherits its access
rights. -/
def inheritUrlName : String := "google:aclinheritfrom"
def inheritDocidName : String := "google:aclinheritfrom:docid"
def inheritFeedTypeName : String := "google:aclinheritfrom:feedtype"

/-- A document proper, or one that only carries access rights. -/
inductive Role
  | record
  | acl
  deriving DecidableEq, Repr

/-- The name of the feed type of the document that a document inherits from: the one that it gives for
it, else the one that it gives for itself. -/
def feedTypeNamed? (d : Document) : Except Number.IntegerError (Option String) :=
  match d.text? inheritFeedTypeName with
  | .ok none => d.text? feedTypeName
  | named => named

end Document

/-- Why a document has no address. -/
inductive AddressError
  | malformed (property url : String)
  | missing
  | unknownFeedType (cause : UnknownFeedType)
  | noContentPrefix
  /-- A property is a number, or has one in it, that is not written. -/
  | number (cause : Number.IntegerError)
  deriving DecidableEq, Repr

namespace AddressError

open Document

def message : AddressError → String
  | malformed property url => "Supplied " ++ property ++ " URL " ++ url ++ " is malformed."
  | missing => "Document has neither property " ++ docidName ++ " nor property " ++ searchUrlName
  | unknownFeedType cause => cause.message
  | noContentPrefix => "content_url_prefix must not be None or empty"
  | number cause => cause.message

/-- The document is unusable, but other documents may be fine. -/
def isOfDocument : AddressError → Bool
  | malformed .. | missing | unknownFeedType _ => true
  | noContentPrefix | number _ => false

end AddressError

/-- Refuses an address that is not well formed; `property` names where it was found. -/
def checkUrl (property url : String) : Except AddressError Unit :=
  if Url.isWellFormed url then .ok () else .error (.malformed property url)

/-- What the addresses of a connector's documents are made from. -/
structure Addressing where
  dataSource : String
  feedType : FeedType
  contentPrefix : Option String
  deriving DecidableEq, Repr

namespace Addressing

open Document

/-- The address of the document with this identifier. -/
def construct (a : Addressing) (docid : String) : FeedType → Except AddressError String
  | .web => .ok docid
  | .content => .ok ("googleconnector://" ++ a.dataSource ++ ".localhost/doc?docid=" ++ docid)
  | .contentUrl =>
    match a.contentPrefix with
    | none | some "" => .error .noContentPrefix
    | some p =>
      .ok (Url.appendParameter (Url.appendParameter p "ConnectorName" a.dataSource) "docid" docid)

/-- The address in the property `url`, or the one made from the identifier in the property `docid`,
none if neither is set. Only the addresses of records are checked. -/
def resolve (a : Addressing) (d : Document) (url docid : String) (feedType : FeedType)
    (role : Role) : Except AddressError (Option String) :=
  match d.text? url with
  | .error e => .error (.number e)
  | .ok (some u) =>
    match role with
    | .acl => .ok (some u)
    | .record => (checkUrl url u).map fun _ => some u
  | .ok none =>
    match d.text? docid with
    | .error e => .error (.number e)
    | .ok none => .ok none
    | .ok (some id) => (a.construct id feedType).map some

/-- The address of a document. -/
def recordUrl (a : Addressing) (d : Document) (role : Role) : Except AddressError String :=
  match a.resolve d searchUrlName docidName a.feedType role with
  | .error e => .error e
  | .ok none => .error .missing
  | .ok (some u) => .ok u

/-- The feed type of the document that a document inherits from, where none is named the default. -/
def inheritFeedType (a : Addressing) (d : Document) : Except AddressError FeedType :=
  match d.feedTypeNamed? with
  | .error e => .error (.number e)
  | .ok none => .ok a.feedType
  | .ok (some name) => (FeedType.find name).mapError .unknownFeedType

/-- The address of the document that a document inherits its access rights from. Its feed type is
looked up first, whether the address needs it or not. -/
def inheritUrl (a : Addressing) (d : Document) : Except AddressError (Option String) :=
  (a.inheritFeedType d).bind fun t => a.resolve d inheritUrlName inheritDocidName t .acl

/-- A document with its address and that of the document it inherits from. -/
def address (a : Addressing) (d : Document) : Except AddressError (String × Option String) :=
  (a.recordUrl d .record).bind fun u => (a.inheritUrl d).map fun i => (u, i)

end Addressing

end ConnectorHub
