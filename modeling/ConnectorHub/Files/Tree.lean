/-! A tree of files and directories, as a list of what is at each path below its root. -/
namespace ConnectorHub.Files

inductive Entry
  | file (bytes : List UInt8)
  | directory
  deriving DecidableEq, Repr

/-- The names on the way from the root. -/
abbrev Place := List String

/-- Every place that has an entry, but not the root, which is always a directory. -/
structure Tree where
  entries : List (Place × Entry) := []
  deriving DecidableEq, Repr

namespace Tree

/-- What is at a place. -/
def at? (t : Tree) (p : Place) : Option Entry :=
  if p = [] then some .directory else (t.entries.find? (·.1 = p)).map (·.2)

/-- Takes away what is at a place. -/
def remove (t : Tree) (p : Place) : Tree := ⟨t.entries.filter (·.1 ≠ p)⟩

/-- Puts an entry at a place, instead of what was there. -/
def put (t : Tree) (p : Place) (e : Entry) : Tree := ⟨(p, e) :: (t.remove p).entries⟩

/-- The place that steps lead to from a directory. All but the last have to lead to directories; a
double dot leads back. -/
def resolve (t : Tree) (here : Place) : List String → Option Place
  | [] => some here
  | s :: r =>
    if t.at? here ≠ some .directory then none
    else if s = ".." then t.resolve here.dropLast r
    else t.resolve (here ++ [s]) r

/-- Makes the directories that steps lead through, as far as no file is in the way, and gives the
last one if none is. -/
def makeDirectories (t : Tree) (here : Place) : List String → Tree × Option Place
  | [] => (t, some here)
  | s :: r =>
    if s = ".." then t.makeDirectories here.dropLast r
    else
      match t.at? (here ++ [s]) with
      | some .directory => t.makeDirectories (here ++ [s]) r
      | some (.file _) => (t, none)
      | none => (t.put (here ++ [s]) .directory).makeDirectories (here ++ [s]) r

/-- Writes a file in a directory that exists, unless a directory is in the way. -/
def write? (t : Tree) (p : Place) (bytes : List UInt8) : Option Tree :=
  if t.at? p = some .directory then none else some (t.put p (.file bytes))

/-- Moves a file to a place, over what is there unless that is a directory. -/
def move? (t : Tree) (source target : Place) : Option Tree :=
  match t.at? source with
  | some (.file bytes) =>
    if t.at? target = some .directory then none
    else some ((t.remove source).put target (.file bytes))
  | _ => none

theorem at?_remove_self (t : Tree) {p : Place} (h : p ≠ []) : (t.remove p).at? p = none := by
  simp [at?, remove, h]

theorem at?_remove_of_ne (t : Tree) {p q : Place} (h : q ≠ p) : (t.remove p).at? q = t.at? q := by
  by_cases hq : q = []
  · simp [at?, hq]
  · simp only [at?, hq, if_false, remove]
    rw [List.find?_filter]
    congr 2
    funext a
    by_cases ha : a.1 = q <;> simp [ha, h]

theorem at?_put_self (t : Tree) (p : Place) (e : Entry) (h : p ≠ []) : (t.put p e).at? p = some e := by
  simp [at?, put, h]

theorem at?_put_of_ne (t : Tree) {p q : Place} (e : Entry) (h : q ≠ p) :
    (t.put p e).at? q = t.at? q := by
  rw [← at?_remove_of_ne t h]
  by_cases hq : q = []
  · simp [at?, hq]
  · simp only [at?, hq, if_false, put]
    rw [List.find?_cons_of_neg (by simpa using fun hpq => h hpq.symm)]

end Tree

end ConnectorHub.Files
