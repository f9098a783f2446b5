import ConnectorHub.Scenario.Operation

/-! The world in which a scenario is played: one site, the nodes at it, and the cast. -/
namespace ConnectorHub.Scenario

open Store Time

/-- What came of something. -/
inductive Result
  | value (v : Json)
  | failure (f : Failure)
  deriving BEq

def Result.ofExcept : Except Failure Json → Result
  | .ok v => value v
  | .error f => failure f

/-- What came of a step, and what was logged meanwhile. -/
structure Outcome where
  result : Result
  log : List LogEntry
  deriving BEq

structure World where
  cast : List Role
  site : Site
  /-- All nodes that were ever made. -/
  nodes : List Node := []
  /-- The places in `nodes` of those in use. -/
  seats : List (Nat × Nat) := []
  /-- The types that were registered last under their names. -/
  current : Table Nat := .empty
  /-- What came of the steps during the traversals of a type. -/
  during : List (Nat × Outcome) := []

namespace World

/-- A type of the cast. -/
def role? (w : World) (serial : Nat) : Option Role := w.cast[serial]?

/-- The types of the cast with these numbers. -/
def types (w : World) (serials : List Nat) : List ConnectorType :=
  serials.filterMap fun n => (w.role? n).map (·.type n)

/-- Takes note of registered types. -/
def introduce (w : World) (ts : List ConnectorType) : World :=
  { w with current := ts.foldl (fun c t => c.insert t.name t.serial) w.current }

/-- Registers a type in the catalog in use. -/
def register (w : World) (serial : Nat) : World :=
  let ts := w.types [serial]
  { w.introduce ts with site := ts.foldl Site.register w.site }

/-- Puts a new catalog of these types in use. -/
def useCatalog (w : World) (serials : List Nat) : World :=
  let ts := w.types serials
  { w.introduce ts with site := w.site.useCatalog (ts.foldl (fun c t => Catalog.register t c) []) }

/-- Makes a node with the catalog in use. -/
def newNode (w : World) (number : Nat) : World :=
  { w with
    nodes := w.nodes ++ [{ catalog := w.site.latest }]
    seats := (number, w.nodes.length) :: w.seats.filter (·.1 ≠ number) }

/-- The place of a node, which is made if it was not used before. -/
def seat (w : World) (number : Nat) : Nat × World :=
  match w.seats.find? (·.1 = number) with
  | some (_, place) => (place, w)
  | none => (w.nodes.length, w.newNode number)

/-- Performs an action at a node. -/
def act (w : World) (place : Nat) (a : Act α) : Except Failure α × World :=
  let (answer, d) := a.perform ⟨(w.nodes[place]?).getD {}, w.site⟩
  (answer, { w with site := d.site, nodes := w.nodes.set place d.node })

/-- How often a type's connectors were asked to go on with a traversal. -/
def resumptions (w : World) (serial : Nat) : Nat :=
  w.site.calls.countP fun
    | .resumed s _ _ => s = serial
    | _ => false

/-- The batch that the latest call to go on with a traversal of a type gets. -/
def batch? (w : World) (serial : Nat) : Option BatchScript := do
  let batches ← (← w.role? serial).batches
  batches[w.resumptions serial - 1]?

/-- Performs a transaction at the site. -/
def transact (w : World) (t : Transaction α) : Except Failure α × World :=
  let (answer, database) := t.perform w.site.database
  (answer.mapError .database, { w with site := { w.site with database } })

/-- Puts a file where the directory of the feeder gate's file should be. -/
def blockGate (w : World) : World :=
  match w.site.gateFile with
  | none => w
  | some f => { w with site := { w.site with files := w.site.files.put f.path.dropLast (.file []) } }

end World

/-- How a scripted connector goes on with a traversal. -/
abbrev Resumption := (serial : Nat) → World → Except Failure Batch × World

namespace World

/-- Traverses a connector at a node. -/
def traverse (w : World) (resume : Resumption) (name : String) (place : Nat) :
    Except Failure Nat × World :=
  match w.act place (Traversal.begin name) with
  | (.error e, w) => (.error e, w)
  | (.ok (.over items), w) => (.ok items, w)
  | (.ok (.running t), w) =>
    let (answer, w) := resume t.serial w
    w.act place (Traversal.finish t answer)

/-- Takes the oldest job off the queue and performs it. -/
def work (w : World) (resume : Resumption) (place : Nat) : Except Failure Json × World :=
  match w.site.queue with
  | [] => (.ok .null, w)
  | job :: rest =>
    let w := { w with site := { w.site with queue := rest } }
    let (answer, w) := w.traverse resume job.connector place
    (answer.map fun n => .object [("job", .text job.id), ("count", .integer n)], w)

end World

namespace Deed

/-- What happens at the site, not at a node. -/
def change (number : Nat) : Deed → World → World
  | .setClock now tick, w =>
    let c := w.site.clock
    { w with site := { w.site with clock := ⟨now.getD c.now, tick.getD c.tick⟩ } }
  | .register serial, w => w.register serial
  | .reopen none, w => w.newNode number
  | .reopen (some serials), w => (w.useCatalog serials).newNode number
  | .fail statements, w =>
    { w with site := { w.site with database := w.site.database.withFaults statements } }
  | .lock key value, w =>
    { w with site := { w.site with locks := w.site.locks.insert key ⟨value, none⟩ } }
  | .dropJobs, w => { w with site := { w.site with queue := [] } }
  | .blockGate, w => w.blockGate
  | _, w => w

/-- Does a deed at the node with a number. -/
def perform (resume : Resumption) (number : Nat) (deed : Deed) (w : World) :
    Except Failure Json × World :=
  match deed with
  | .ask op =>
    let (place, w) := w.seat number
    w.act place op.perform
  | .traverse name =>
    let (place, w) := w.seat number
    let (answer, w) := w.traverse resume name place
    (answer.map fun n => .integer n, w)
  | .work =>
    let (place, w) := w.seat number
    w.work resume place
  | .addRuns runs =>
    let (answer, w) := w.transact (runs.forM Runs.addDraft)
    (answer.map fun _ => .null, w)
  | deed => (.ok .null, deed.change number w)

end Deed

/-- Performs a step. What is logged is told, and not kept. -/
def Step.perform (resume : Resumption) (s : Step) (w : World) : Outcome × World :=
  let w := { w with site := { w.site with log := [] } }
  let (answer, w) := s.deed.perform resume s.node w
  (⟨.ofExcept answer, w.site.log⟩, { w with site := { w.site with log := [] } })

/-- Performs the steps during a traversal of a type. -/
def playDuring (resume : Resumption) (serial : Nat) (steps : List Step) (w : World) : World :=
  steps.foldl (fun w s =>
    let (outcome, w) := s.perform resume w
    { w with during := w.during ++ [(serial, outcome)] }) w

/-- A scripted connector goes on: the steps of its next batch happen, and then it hands the batch
back or fails. Without a batch in store it hands back an empty one. Traversals inside of traversals
may be `fuel` deep. -/
def resume : (fuel : Nat) → Resumption
  | 0, _, w => (.ok ⟨[], none⟩, w)
  | fuel + 1, serial, w =>
    match w.batch? serial with
    | none => (.ok ⟨[], none⟩, w)
    | some b =>
      (match b.failure with
        | some f => .error f
        | none => .ok b.batch,
        playDuring (resume fuel) serial b.during w)

end ConnectorHub.Scenario
