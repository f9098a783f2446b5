import ConnectorHub.Text.Blank
import ConnectorHub.Text.LetterCase
import ConnectorHub.Text.Split

/-! Locales: a language with an optional country and variant. -/
namespace ConnectorHub

open Text

/-- Parts that are not given are empty. -/
structure Locale where
  language : String
  country : String
  variant : String
  deriving DecidableEq, Repr

namespace Locale

/-- The locale of a form for which no language was asked. -/
def default : Locale := ⟨"en", "", ""⟩

/-- The parts that are given, joined by underscores. -/
def text (l : Locale) : String :=
  join "_" ([l.language, l.country, l.variant].filter (· ≠ ""))

/-- The locale of a language tag: at most three parts between hyphens or underscores. A tag without
language is no tag. -/
def ofTag (tag : String) : Locale :=
  let parts := splitAtMost (fun c => c == '-' || c == '_') 2 (strip tag).toList
  let part (i : Nat) : String := String.ofList (parts.getD i [])
  let language := lower (part 0)
  if language = "" then default else ⟨language, upper (part 1), part 2⟩

/-- The locale of an optional tag. -/
def ofTag? (tag : Option String) : Locale := (tag.map ofTag).getD default

example : (ofTag " pt_br ").text = "pt_BR" ∧ (ofTag "ja-JP-u-ca").text = "ja_JP_u-ca" := by
  decide +kernel

end Locale

end ConnectorHub
