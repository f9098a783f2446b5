import ConnectorHub.Files.Path
import ConnectorHub.Files.Tree
import ConnectorHub.Json.Reader
import ConnectorHub.Json.Writer
import ConnectorHub.Text.Utf8

/-! The feeder gate that a hub reports to, and the file in which it is kept. The file is always
written whole: first beside its place, then moved there. -/
namespace ConnectorHub

open Files Number

/-- A host and a port. What a file names as host may be any value. -/
structure FeederGate where
  host : Json
  port : Int
  deriving Repr

/-- Why the file is not read or written. -/
inductive GateError
  | unreadable (path : String)
  | unwritable (path : String)
  | wrongShape
  | portTooLarge
  | portUnprintable
  | nullInPath
  deriving DecidableEq, Repr

def GateError.message : GateError → String
  | unreadable path => "Unable to read " ++ path
  | unwritable path => "Unable to write " ++ path
  | wrongShape => "the value has the wrong type"
  | portTooLarge => "the port is infinite"
  | portUnprintable => IntegerError.unprintable.message
  | nullInPath => "embedded null byte"

/-- The file of a hub: the steps to it from the root of the tree, and how messages show it. -/
structure GateFile where
  path : List String
  shown : String
  deriving DecidableEq, Repr

namespace GateFile

/-- The file at `path` below a directory that messages show as `directory`. -/
def below (directory path : String) : GateFile :=
  ⟨steps path, join ([directory] ++ steps path)⟩
where
  join (parts : List String) : String := Text.join "/" parts

def hostName : String := "feeder_gate_host"

def portName : String := "feeder_gate_port"

/-- The text of the file. -/
def contents (host : String) (port : Int) : String :=
  Json.writeMembers [(hostName, .text host), (portName, .integer port)]

/-- A port as a whole number: a number without its fraction, a truth value as 0 or 1, or a text that
writes a number. -/
def readPort (f : GateFile) : Json → Except GateError Int
  | .integer n => .ok n
  | .bool b => .ok (if b then 1 else 0)
  | .real (.finite negative m e) => .ok (Binary64.truncate negative m e)
  | .real (.infinite _) => .error .portTooLarge
  | .real .nan => .error (.unreadable f.shown)
  | .text s => (readInteger s).mapError fun _ => .unreadable f.shown
  | _ => .error .wrongShape

/-- The gate that a value of the file describes. -/
def readValue (f : GateFile) : Json → Except GateError FeederGate
  | .object members =>
    match Json.member? hostName members with
    | none => .error (.unreadable f.shown)
    | some host =>
      match Json.member? portName members with
      | none => .error (.unreadable f.shown)
      | some port => (f.readPort port).map fun n => ⟨host, n⟩
  | _ => .error .wrongShape

/-- The gate that the bytes of the file describe. -/
def readBytes (f : GateFile) (bytes : List UInt8) : Except GateError FeederGate :=
  match Text.Utf8.decode? bytes with
  | none => .error (.unreadable f.shown)
  | some text =>
    match Json.read text with
    | .error _ => .error (.unreadable f.shown)
    | .ok v => f.readValue v

/-- The gate in the file, none if there is no file. -/
def load (f : GateFile) (t : Tree) : Except GateError (Option FeederGate) :=
  match (t.resolve [] f.path).bind t.at? with
  | none => .ok none
  | some .directory => .error (.unreadable f.shown)
  | some (.file bytes) => (f.readBytes bytes).map some

/-- The place beside a file of this name where its new contents are written first. -/
def beside (directory : Place) (name : String) : Place := directory ++ [name ++ ".tmp"]

/-- Puts new contents in the place of a file in an existing directory: the tree afterwards, and
whether that worked. A double dot names a directory, which is not replaced. -/
def replace (t : Tree) (directory : Place) (name : String) (bytes : List UInt8) : Tree × Bool :=
  match t.write? (beside directory name) bytes with
  | none => (t, false)
  | some t =>
    match (t.resolve directory [name]).bind (t.move? (beside directory name)) with
    | none => (t, false)
    | some t => (t, true)

/-- Stores a gate, making the directories that are missing. -/
def store (f : GateFile) (host : String) (port : Int) (t : Tree) :
    Except GateError FeederGate × Tree :=
  match f.path.getLast? with
  | none => (.error (.unwritable f.shown), t)
  | some name =>
    if f.path.dropLast.any hasNull then (.error .nullInPath, t)
    else
      match t.makeDirectories [] f.path.dropLast with
      | (t, none) => (.error (.unwritable f.shown), t)
      | (t, some directory) =>
        match writeInteger port with
        | .error _ => (.error .portUnprintable, t)
        | .ok _ =>
          if hasNull name then (.error .nullInPath, t)
          else
            match replace t directory name (Text.Utf8.encode (contents host port)) with
            | (t, true) => (.ok ⟨.text host, port⟩, t)
            | (t, false) => (.error (.unwritable f.shown), t)

end GateFile

end ConnectorHub
