import ConnectorHub.Hub.Site

/-! A node at work: what the node holds itself, what it shares with the others, and actions on both
that can fail. What an action has done before it fails stays done. -/
namespace ConnectorHub

open Store Time

/-- A connector that a node has at hand, with the type and the configuration that it was made from. -/
structure Instance where
  typeName : String
  config : Config
  connector : Connector

/-- An instance as it is stored. -/
def Instance.row (i : Instance) : ConnectorRow := ⟨i.typeName, i.config⟩

structure Node where
  /-- The number of the catalog that the node uses. -/
  catalog : Nat := 0
  live : Table Instance := .empty
  /-- The schedules that the node watches by their connectors, the one watched longest first. -/
  tracked : List (String × ScheduleRow) := []

/-- The names of the connectors that the node watches, in ascending order. -/
def Node.trackedNames (n : Node) : List String :=
  (n.tracked.map (·.1)).mergeSort fun a b => decide (a ≤ b)

structure Desk where
  node : Node
  site : Site

abbrev Act := EStateM Failure Desk

namespace Act

/-- Performs an action: its answer, and the desk afterwards. -/
def perform (a : Act α) (d : Desk) : Except Failure α × Desk :=
  match a d with
  | .ok x d' => (.ok x, d')
  | .error e d' => (.error e, d')

/-- Performs an action and tells its failure instead of failing. -/
def attempt (a : Act α) : Act (Except Failure α) := fun d =>
  match a d with
  | .ok x d' => .ok (.ok x) d'
  | .error e d' => .ok (.error e) d'

def node : Act Node := do return (← get).node

def site : Act Site := do return (← get).site

def changeNode (f : Node → Node) : Act Unit := modify fun d => { d with node := f d.node }

def changeSite (f : Site → Site) : Act Unit := modify fun d => { d with site := f d.site }

/-- Gives an answer that is there already. -/
def give : Except Failure α → Act α
  | .ok a => pure a
  | .error e => throw e

/-- Performs a transaction; why it fails is told by `wrap`. -/
def transact (wrap : DatabaseError → Failure) (t : Transaction α) : Act α := do
  let d ← get
  let (answer, database) := t.perform d.site.database
  set { d with site := { d.site with database } }
  give (answer.mapError wrap)

/-- How a store that was to do something fails. -/
def storeFailure (action : String) : DatabaseError → Failure
  | .integerTooLarge => .database .integerTooLarge
  | _ => .store action

/-- Performs a transaction of a store; `action` says what it is to do. -/
def store (action : String) (t : Transaction α) : Act α := transact (storeFailure action) t

/-- Performs an action; a failure of the family becomes another one. -/
def replacing (family : FailureKind) (failure : Failure) (a : Act α) : Act α :=
  tryCatch a fun e => throw (if e.isA family then failure else e)

def warn (message : String) : Act Unit := changeSite (·.logs ⟨.warning, message⟩)

/-- Reads the clock. -/
def readClock : Act DateTime := do
  let d ← get
  set { d with site := { d.site with clock := d.site.clock.advance } }
  return d.site.clock.now

/-- The type of a name in the catalog that the node uses. -/
def findType? (name : String) : Act (Option ConnectorType) := do
  let d ← get
  return (d.site.catalog d.node.catalog).find? name

@[simp] theorem perform_pure (x : α) (d : Desk) : perform (pure x) d = (.ok x, d) := rfl

@[simp] theorem perform_throw (f : Failure) (d : Desk) :
    perform (throw f : Act α) d = (.error f, d) := rfl

@[simp] theorem perform_give (x : Except Failure α) (d : Desk) : (give x).perform d = (x, d) := by
  cases x <;> rfl

theorem perform_bind (a : Act α) (f : α → Act β) (d : Desk) :
    (a >>= f).perform d =
      match a.perform d with
      | (.ok x, d) => (f x).perform d
      | (.error e, d) => (.error e, d) := by
  simp only [perform, bind, EStateM.bind]
  cases a d <;> rfl

theorem perform_tryCatch (a : Act α) (f : Failure → Act α) (d : Desk) :
    (tryCatch a f).perform d =
      match a.perform d with
      | (.ok x, d) => (.ok x, d)
      | (.error e, d) => (f e).perform d := by
  change perform (EStateM.tryCatch a f) d = _
  delta EStateM.tryCatch
  simp only [perform]
  cases a d <;> rfl

@[simp] theorem perform_attempt (a : Act α) (d : Desk) :
    (attempt a).perform d = (.ok (a.perform d).1, (a.perform d).2) := by
  simp only [perform, attempt]
  cases a d <;> rfl

@[simp] theorem perform_changeSite (f : Site → Site) (d : Desk) :
    (changeSite f).perform d = (.ok (), { d with site := f d.site }) := rfl

@[simp] theorem perform_changeNode (f : Node → Node) (d : Desk) :
    (changeNode f).perform d = (.ok (), { d with node := f d.node }) := rfl

@[simp] theorem perform_node (d : Desk) : node.perform d = (.ok d.node, d) := rfl

@[simp] theorem perform_site (d : Desk) : site.perform d = (.ok d.site, d) := rfl

theorem perform_transact (wrap : DatabaseError → Failure) (t : Transaction α) (d : Desk) :
    (transact wrap t).perform d =
      ((t.perform d.site.database).1.mapError wrap,
        { d with site := { d.site with database := (t.perform d.site.database).2 } }) := by
  simp only [transact, perform_bind]
  exact perform_give _ _

end Act

end ConnectorHub
