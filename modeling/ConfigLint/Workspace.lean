import ConfigLint.Log
import ConfigLint.Schema.Load
/-!
A workspace: files, an environment, and handles on schemas. A handle reads its schema when it is
first asked for and keeps it from then on; a reading that fails leaves the handle as it is and
gives an empty schema. Every schema that is read is an instance of its own.
-/
namespace ConfigLint

/-- A schema with the number of the reading that gave it. -/
structure SchemaInstance where
  number : Nat
  schema : Schema

/-- A handle: where its schema comes from, the bundled one if there is no path, and the schema
    once it has been read. -/
structure SchemaHandle where
  source : Option Path
  stored : Option SchemaInstance := none

/-- A workspace. `default` is the handle of the schema in use, once there is one; `readings` is
    the number of instances so far. -/
structure Workspace where
  files : Files := {}
  environment : Table Text Text := .empty
  handles : Table Text SchemaHandle := .empty
  default : Option SchemaHandle := none
  readings : Nat := 0

namespace SchemaHandle

/-- The handle on a path, or on the bundled schema. -/
def onSource (source : Option Path) : SchemaHandle := { source := source }

def isLoaded (h : SchemaHandle) : Bool := h.stored.isSome

end SchemaHandle

/-- What asking a handle gives: an instance or the fault that stopped it, the handle afterwards,
    the number of instances so far, and the records. -/
structure Fetched where
  result : Except LoadFault SchemaInstance
  handle : SchemaHandle
  readings : Nat
  log : List LogEvent

/-- A result in a workspace, with the workspace afterwards and the records. -/
structure Outcome (ε α : Type) where
  result : Except ε α
  workspace : Workspace
  log : List LogEvent := []

namespace Workspace

/-- Why the schema in use cannot be given. -/
inductive DefaultFault where
  | settings (what : Raised)
  | load (fault : LoadFault)
deriving Repr

def resetDefault (w : Workspace) : Workspace := { w with default := none }

variable [Libraries]

def readSource (w : Workspace) : Option Path → Except LoadFault Schema
  | none => Libraries.bundled w.files
  | some p =>
    if p.hasNull then .error (.raised .nullInPath)
    else
      match w.files.readText p with
      | .ok t => Schema.ofArtifact p.text t
      | .error f => .error (.refused ⟨p.text, .file f⟩)

/-- Asks a handle for its schema. -/
def fetch (w : Workspace) (h : SchemaHandle) : Fetched :=
  match h.stored with
  | some i => ⟨.ok i, h, w.readings, []⟩
  | none =>
    match w.readSource h.source with
    | .ok s =>
      let i : SchemaInstance := ⟨w.readings, s⟩
      ⟨.ok i, { h with stored := some i }, w.readings + 1, [.cachedSchema s.version s.options.size]⟩
    | .error (.refused r) =>
      -- the handle stays empty, so the next question reads again
      ⟨.ok ⟨w.readings, Schema.fallback⟩, h, w.readings + 1, [.fellBack r.message]⟩
    | .error (.raised e) => ⟨.error (.raised e), h, w.readings, []⟩

/-- Asks a named handle for its schema; `none` if there is no handle of the name. -/
def fetchNamed (w : Workspace) (name : Text) : Option (Outcome LoadFault SchemaInstance) :=
  (w.handles.get? name).map fun h =>
    let f := w.fetch h
    ⟨f.result, { w with handles := w.handles.insert name f.handle, readings := f.readings },
      f.log⟩

/-- Reads a schema without a handle, or says why there is none. -/
def readSchema (w : Workspace) (p : Path) : Outcome LoadFault SchemaInstance :=
  match w.readSource (some p) with
  | .ok s => ⟨.ok ⟨w.readings, s⟩, { w with readings := w.readings + 1 }, []⟩
  | .error f => ⟨.error f, w, []⟩

/-- Reads a schema without a handle; an empty one takes the place of one that is refused. The
    record shows the path as it was given. -/
def readOrFallBack (w : Workspace) (given : Text) : Outcome LoadFault SchemaInstance :=
  let next := { w with readings := w.readings + 1 }
  match w.readSource (some (.ofText given)) with
  | .ok s =>
    ⟨.ok ⟨w.readings, s⟩, next, [.loadedSchema s.version given s.options.size]⟩
  | .error (.refused r) =>
    ⟨.ok ⟨w.readings, Schema.fallback⟩, next, [.fellBack r.message]⟩
  | .error (.raised e) => ⟨.error (.raised e), w, []⟩

/-- The settings at this moment. -/
def settings (w : Workspace) (arguments : List (Data × Data)) : Except Raised Settings :=
  Libraries.settings arguments w.environment w.files

/-- The default handle. If there is none it is made, on the path or else on the one of the
    settings. -/
def defaultHandle (w : Workspace) (path : Option Path) : Except Raised SchemaHandle :=
  match w.default, path with
  | some h, _ => .ok h
  | none, some p => .ok (.onSource (some p))
  | none, none => (w.settings []).map fun s => .onSource s.schemaPath

/-- The schema in use. The path counts only if the default handle has to be made. -/
def loadDefault (w : Workspace) (path : Option Path) : Outcome DefaultFault SchemaInstance :=
  match w.defaultHandle path with
  | .error e => ⟨.error (.settings e), w, []⟩
  | .ok h =>
    let f := w.fetch h
    ⟨f.result.mapError .load, { w with default := some f.handle, readings := f.readings }, f.log⟩

end Workspace
end ConfigLint
