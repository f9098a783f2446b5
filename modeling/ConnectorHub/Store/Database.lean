import ConnectorHub.Store.Row

/-! The database: its rows, and statements that are issued one after the other and can fail. A
transaction that fails leaves the rows as they were. -/
namespace ConnectorHub.Store

inductive StatementKind
  | select
  | insert
  | update
  | delete
  deriving DecidableEq, Repr

structure Statement where
  kind : StatementKind
  table : TableName
  deriving DecidableEq, Repr

/-- Why a transaction fails: a statement failed, a row breaks a rule of its table, or a number is
too large for a column. -/
inductive DatabaseError
  | operational
  | integrity
  | integerTooLarge
  deriving DecidableEq, Repr

/-- `faults n s` says that the statement `s` fails if it is issued after `n` others. -/
structure Database where
  rows : Rows := {}
  issued : Nat := 0
  faults : Nat → Statement → Bool := fun _ _ => false

/-- Work on the database that can fail part of the way. -/
abbrev Transaction := EStateM DatabaseError Database

namespace Transaction

/-- Issues a statement. -/
def issue (kind : StatementKind) (table : TableName) : Transaction Unit := do
  let d ← get
  set { d with issued := d.issued + 1 }
  if d.faults d.issued ⟨kind, table⟩ then throw .operational

/-- The rows as the statements so far have left them. -/
def rows : Transaction Rows := do return (← get).rows

/-- Changes the rows. -/
def change (f : Rows → Rows) : Transaction Unit := modify fun d => { d with rows := f d.rows }

/-- Issues a statement that reads, and gives the rows. -/
def read (table : TableName) : Transaction Rows := do
  issue .select table
  rows

/-- Issues a statement that changes the rows. -/
def write (kind : StatementKind) (table : TableName) (f : Rows → Rows) : Transaction Unit := do
  issue kind table
  change f

/-- Performs a transaction wholly or not at all. -/
def perform (t : Transaction α) (d : Database) : Except DatabaseError α × Database :=
  match t d with
  | .ok a d' => (.ok a, d')
  | .error e d' => (.error e, { d' with rows := d.rows })

/-- The columns of whole numbers have 64 bits. -/
def checkInteger (n : Int) : Transaction Unit :=
  if -9223372036854775808 ≤ n ∧ n < 9223372036854775808 then pure () else throw .integerTooLarge

/-- A statement counts as issued, whether it fails or not. -/
theorem issue_apply (kind : StatementKind) (table : TableName) (d : Database) :
    issue kind table d =
      if d.faults d.issued ⟨kind, table⟩ then .error .operational { d with issued := d.issued + 1 }
      else .ok () { d with issued := d.issued + 1 } := by
  change (if d.faults d.issued ⟨kind, table⟩ then throw .operational else pure () :
    Transaction Unit) { d with issued := d.issued + 1 } = _
  split <;> rfl

end Transaction

namespace Database

/-- From now on no statement fails but those of the given kinds. -/
def withFaults (d : Database) (statements : List Statement) : Database :=
  { d with faults := fun _ s => statements.contains s }

/-- A database that fails at no statement from now on, whatever failed before. -/
def Works (d : Database) : Prop := ∀ n s, d.issued ≤ n → d.faults n s = false

theorem Works.of_le {d d' : Database} (h : d.Works) (hf : d'.faults = d.faults)
    (hi : d.issued ≤ d'.issued) : d'.Works := fun n s hn => by
  rw [hf]
  exact h n s (Nat.le_trans hi hn)

theorem Works.later {d : Database} (h : d.Works) (rows : Rows) (n : Nat) :
    Works { d with rows, issued := d.issued + n } :=
  h.of_le rfl (Nat.le_add_right ..)

end Database

end ConnectorHub.Store
