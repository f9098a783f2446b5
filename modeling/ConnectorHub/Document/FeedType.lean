import ConnectorHub.Text.Blank
import ConnectorHub.Text.LetterCase
import ConnectorHub.Text.Quoted

/-! The ways in which documents are fed to the search appliance. -/
namespace ConnectorHub

open Text

/-- By an address of the web, by content, or by an address at which the hub serves the content. -/
inductive FeedType
  | web
  | content
  | contentUrl
  deriving DecidableEq, Repr

/-- No feed type has this name. -/
structure UnknownFeedType where
  name : String
  deriving DecidableEq, Repr

def UnknownFeedType.message (e : UnknownFeedType) : String := "Unknown feed type " ++ quoted e.name

namespace FeedType

def all : List FeedType := [web, content, contentUrl]

def name : FeedType → String
  | web => "web"
  | content => "content"
  | contentUrl => "contenturl"

/-- The feed type of a name, in any case and with any white space around it. -/
def find (s : String) : Except UnknownFeedType FeedType :=
  match all.find? (·.name = lower (strip s)) with
  | some t => .ok t
  | none => .error ⟨s⟩

end FeedType

end ConnectorHub
