import ConnectorHub.Text.Split

/-! Paths of files as texts. -/
namespace ConnectorHub.Files

open Text

/-- The steps of a path. Repeated slashes and single dots do not count; a double dot is a step. -/
def steps (path : String) : List String :=
  ((splitOn (· == '/') path.toList).filter fun s => s ≠ [] && s ≠ ['.']).map String.ofList

/-- The step holds a null character, so that no file or directory has it as its name. -/
def hasNull (step : String) : Bool := step.toList.any (· == '\x00')

/-- The slash that an absolute path starts with. Exactly two slashes are kept apart from one. -/
def rootOf (path : String) : String :=
  match path.toList.takeWhile (· == '/') with
  | [] => ""
  | [_, _] => "//"
  | _ => "/"

/-- A path without the parts that do not count; a path without steps is the dot. -/
def normalize (path : String) : String :=
  match rootOf path ++ join "/" (steps path) with
  | "" => "."
  | s => s

example : normalize "a//b/./c/" = "a/b/c" ∧ normalize "//x" = "//x" ∧ normalize "" = "." := by
  decide +kernel

end ConnectorHub.Files
