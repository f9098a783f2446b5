import ConnectorHub.Url.Form

/-! What the management interface offers, and the paths under which it is found. -/
namespace ConnectorHub.Api

open Text

/-- What a request is about. -/
inductive Resource
  | health
  | types
  | typeForm (typeName : String)
  | connectors
  | connector (name : String)
  | config (name : String)
  | form (name : String)
  | schedule (name : String)
  | restart (name : String)
  | authenticate (name : String)
  | authorize (name : String)
  | gate
  | runs
  | documentation
  deriving DecidableEq, Repr

namespace Resource

/-- The methods that a resource answers. -/
def methods : Resource → List String
  | health | types | typeForm _ | config _ | form _ | runs => ["GET"]
  | connectors => ["GET", "POST"]
  | connector _ => ["GET", "PUT", "DELETE"]
  | schedule _ | gate => ["PUT"]
  | restart _ | authenticate _ | authorize _ => ["POST"]
  | documentation => ["GET", "HEAD"]

/-- A text without the line feed at its end. -/
def chomp (cs : List Char) : List Char := if cs.getLast? = some '\n' then cs.dropLast else cs

/-- The pieces of a path between its slashes. -/
def pieces (path : List Char) : List String := (splitOn (· == '/') path).map String.ofList

/-- A resource that is named by its last piece. -/
def ofNamed? : List String → Option Resource
  | ["", "api", "connectors", name] => if name = "" then none else some (.connector name)
  | _ => none

/-- A resource under the path of a connector. -/
def ofPart? (name : String) : String → Option Resource
  | "config" => some (.config name)
  | "form" => some (.form name)
  | "schedule" => some (.schedule name)
  | "restart" => some (.restart name)
  | "authenticate" => some (.authenticate name)
  | "authorize" => some (.authorize name)
  | _ => none

/-- A resource whose last piece is fixed. -/
def ofFixed? : List String → Option Resource
  | ["", "api", "health"] => some .health
  | ["", "api", "connector-types"] => some .types
  | ["", "api", "connector-types", name, "form"] =>
    if name = "" then none else some (.typeForm name)
  | ["", "api", "connectors"] => some .connectors
  | ["", "api", "connectors", name, part] => if name = "" then none else ofPart? name part
  | ["", "api", "manager-config", ""] => some .gate
  | ["", "api", "runs", ""] => some .runs
  | ["", "docs"] | ["", "docs", "oauth2-redirect"] | ["", "redoc"] => some .documentation
  | _ => none

/-- The resource of a path. A path whose last piece is fixed may end in a line feed. -/
def ofPath? (path : List Char) : Option Resource :=
  (ofNamed? (pieces path)).or (ofFixed? (pieces (chomp path)))

/-- The path with a slash at its end if it has none, else without those. -/
def toggleSlash (path : List Char) : List Char :=
  if path.getLast? = some '/' then (path.reverse.dropWhile (· == '/')).reverse else path ++ ['/']

/-- There is a resource under the same path but for the slash at the end. -/
def isElsewhere (path : List Char) : Bool := path ≠ ['/'] && (ofPath? (toggleSlash path)).isSome

example : ofPath? "/api/connectors/a b/form".toList = some (.form "a b") ∧
    ofPath? "/api/runs".toList = none ∧ isElsewhere "/api/runs".toList := by decide +kernel

end Resource

/-- Where a request is sent: a path and the parameters behind the question mark. -/
structure Target where
  path : List Char
  parameters : List (String × String)
  deriving DecidableEq, Repr

namespace Target

/-- Leaves out single dots, and double dots with the piece before them. -/
def withoutDots (soFar : List (List Char)) : List (List Char) → List (List Char)
  | [] => soFar.reverse
  | p :: r =>
    if p = ['.'] then withoutDots soFar r
    else if p = ['.', '.'] then
      withoutDots (if soFar = [] ∨ soFar = [[]] then soFar else soFar.tail) r
    else withoutDots (p :: soFar) r

/-- The path of a written target, without the name of a host in front of it. -/
def afterHost : List Char → List Char
  | '/' :: '/' :: r => r.dropWhile (· ≠ '/')
  | cs => cs

/-- The text of a path: one slash in front, no dots between slashes, and no percent signs that stand
for characters. -/
def readPath (cs : List Char) : List Char :=
  let ps := splitOn (· == '/') ('/' :: (afterHost cs).dropWhile (· == '/'))
  let path := ['/'].intercalate (withoutDots [] ps)
  (Url.percentDecode (Url.percentDecode path).toList).toList

/-- Reads a target. What stands behind a number sign does not count. -/
def ofText (s : String) : Target :=
  let cs := s.toList.takeWhile (· ≠ '#')
  let (path, query) := cut '?' cs
  ⟨readPath path, Url.decodeForm (query.getD [])⟩

/-- The value of a parameter; of several the last one counts. -/
def parameter? (t : Target) (name : String) : Option String :=
  (t.parameters.reverse.find? (·.1 = name)).map (·.2)

example : (ofText "api//x/../a%2Fb?q=1&q=2#z").path = "/api//a/b".toList ∧
    (ofText "/x?q=1&q=2").parameter? "q" = some "2" := by decide +kernel

end Target

end ConnectorHub.Api
