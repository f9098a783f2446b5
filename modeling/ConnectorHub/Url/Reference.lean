import ConnectorHub.Text.CodeRange
import ConnectorHub.Text.LetterCase
import ConnectorHub.Url.Host

/-! Addresses of documents: their scheme, their authority, and whether they are well formed. -/
namespace ConnectorHub.Url

open ConnectorHub.Text

/-- The scheme in small letters, and what stands between `//` and the path; both may be empty. -/
structure Reference where
  scheme : String
  authority : List Char
  deriving DecidableEq, Repr

namespace Reference

/-- Control characters and spaces in front do not count, nor tabs and line breaks anywhere. -/
def clean (url : String) : List Char :=
  (url.toList.dropWhile (· ≤ ' ')).filter fun c => !(c == '\t' || c == '\n' || c == '\r')

def isAsciiLetter (c : Char) : Bool := ('a' ≤ c && c ≤ 'z') || ('A' ≤ c && c ≤ 'Z')

def isSchemeChar (c : Char) : Bool :=
  isAsciiLetter c || isAsciiDigit c || c == '+' || c == '-' || c == '.'

/-- What stands before the first colon, if it has the form of a scheme, and the rest. -/
def splitScheme (cs : List Char) : String × List Char :=
  match cut ':' cs with
  | (scheme, some rest) =>
    if (scheme.head?.map isAsciiLetter).getD false && scheme.all isSchemeChar then
      (String.ofList (scheme.map Char.toLower), rest)
    else ("", cs)
  | (_, none) => ("", cs)

def endsAuthority (c : Char) : Bool := c == '/' || c == '?' || c == '#'

/-- What stands after `//`, up to the path, the query or the fragment. -/
def takeAuthority : List Char → List Char
  | '/' :: '/' :: r => r.takeWhile (!endsAuthority ·)
  | _ => []

/-- Brackets come in pairs and hold a numeric host, with nothing before them but user information
and nothing after them but a port. Where brackets stand only in the user information, it is the host
outside them that has to be numeric. -/
def hasGoodBrackets (authority : List Char) : Bool :=
  if '[' ∈ authority ∧ ']' ∈ authority then
    match cut '[' (afterLast '@' authority) with
    | (before, some rest) =>
      let (host, after) := cut ']' rest
      before.isEmpty && (after.getD []).head?.all (· == ':') && isBracketedHost host
    | (outside, none) => isBracketedHost (cut ':' outside).1
  else '[' ∉ authority && ']' ∉ authority

/-- Characters whose compatibility form holds one of `/`, `?`, `#`, `@` and `:`. -/
def hiddenSeparators : List CodeRange :=
  [⟨0x2047, 0x2049⟩, ⟨0x2100, 0x2101⟩, ⟨0x2105, 0x2106⟩, ⟨0x2a74, 0x2a74⟩, ⟨0xfe13, 0xfe13⟩,
   ⟨0xfe16, 0xfe16⟩, ⟨0xfe55, 0xfe56⟩, ⟨0xfe5f, 0xfe5f⟩, ⟨0xfe6b, 0xfe6b⟩, ⟨0xff03, 0xff03⟩,
   ⟨0xff0f, 0xff0f⟩, ⟨0xff1a, 0xff1a⟩, ⟨0xff1f, 0xff20⟩]

/-- No character of the authority turns into a separator under normalisation. -/
def hidesNoSeparator (authority : List Char) : Bool :=
  authority.all fun c => !CodeRange.covers hiddenSeparators c.toNat

/-- The parts of an address, none if its authority is malformed. -/
def ofText? (url : String) : Option Reference :=
  let (scheme, rest) := splitScheme (clean url)
  let authority := takeAuthority rest
  if hasGoodBrackets authority && hidesNoSeparator authority then some ⟨scheme, authority⟩ else none

end Reference

/-- The schemes that a document may be addressed by. -/
def knownSchemes : List String := ["http", "https", "ftp", "file", "jar", "mailto", "smb"]

/-- The schemes whose addresses need an authority. -/
def hierarchicalSchemes : List String := ["http", "https", "ftp", "smb"]

/-- The address can be the address of a document. -/
def isWellFormed (url : String) : Bool :=
  match Reference.ofText? url with
  | none => false
  | some r =>
    knownSchemes.contains r.scheme
      && !(hierarchicalSchemes.contains r.scheme && r.authority.isEmpty)

end ConnectorHub.Url
