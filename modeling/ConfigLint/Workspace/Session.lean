import ConfigLint.Diagnostic.Check
import ConfigLint.Workspace
/-!
Sessions: what a host does in a workspace, step after step. A step that fails gives a fault and
does not end the session.
-/
namespace ConfigLint

inductive Step where
  | write (path : Text) (content : Content)
  | remove (path : Text)
  | makeDirectory (path : Text)
  | setVariable (name value : Text)
  | unsetVariable (name : Text)
  | addHandle (name : Text) (path : Option Text)
  | get (name : Text)
  | isLoaded (name : Text)
  | source (name : Text)
  | readSchema (path : Text)
  | readOrFallBack (path : Text)
  | loadDefault (path : Option Text)
  | resetDefault
  | settings
  | options (arguments : List (Data × Data)) (system : Text)
  | check (text : Text) (choices : List (Data × Data)) (handle : Option Text)

inductive Reply where
  | done
  | truth (b : Bool)
  | source (path : Option Path)
  | schema (i : SchemaInstance)
  | settings (s : Settings)
  | options (o : CheckOptions)
  | diagnostics (ds : List Diagnostic)

inductive StepFault where
  | unknownName (name : Text)
  | load (fault : LoadFault)
  | raised (what : Raised)

namespace StepFault

def message : StepFault → CodeText
  | unknownName name => name
  | load f => f.message
  | raised e => e.text

/-- The fault of a step that asks for the schema in use. -/
def ofDefault : Workspace.DefaultFault → StepFault
  | .settings e => raised e
  | .load f => load f

end StepFault

namespace Outcome

variable {ε ε' α β : Type}

/-- An outcome in other words. -/
def convert (onFault : ε → ε') (onResult : α → β) (o : Outcome ε α) : Outcome ε' β :=
  ⟨(o.result.map onResult).mapError onFault, o.workspace, o.log⟩

/-- What follows an outcome, unless that is a fault. -/
def andThen (o : Outcome ε α) (next : α → Workspace → Outcome ε β) : Outcome ε β :=
  match o.result with
  | .error e => ⟨.error e, o.workspace, o.log⟩
  | .ok a =>
    let o' := next a o.workspace
    ⟨o'.result, o'.workspace, o.log ++ o'.log⟩

end Outcome

namespace Workspace

/-- The outcome of a step that only changes the workspace. -/
def become (w : Workspace) : Outcome StepFault Reply := ⟨.ok .done, w, []⟩

/-- The outcome of a step that only looks. -/
def answer (w : Workspace) (r : Except StepFault Reply) : Outcome StepFault Reply := ⟨r, w, []⟩

/-- A fact about a named handle. -/
def aboutHandle (w : Workspace) (name : Text) (fact : SchemaHandle → Reply) :
    Outcome StepFault Reply :=
  w.answer (match w.handles.get? name with
    | some h => .ok (fact h)
    | none => .error (.unknownName name))

variable [Libraries]

/-- The schema of a named handle, or the one in use. -/
def schemaFor (w : Workspace) (handle : Option Text) (path : Option Path) :
    Outcome StepFault SchemaInstance :=
  match handle with
  | none => (w.loadDefault path).convert .ofDefault id
  | some name =>
    match w.fetchNamed name with
    | some o => o.convert .load id
    | none => ⟨.error (.unknownName name), w, []⟩

variable [Interpreter]

def checkWith (w : Workspace) (s : Schema) (choices : List (Data × Data)) (text : Text) :
    Outcome StepFault Reply :=
  match Libraries.options choices with
  | .error e => ⟨.error (.raised e), w, []⟩
  | .ok options =>
    let report := s.checkDocument options text
    ⟨.ok (.diagnostics report.diagnostics), w, report.log⟩

def run (w : Workspace) : Step → Outcome StepFault Reply
  | .write path content => become { w with files := w.files.write (.ofText path) content }
  | .remove path => become { w with files := w.files.remove (.ofText path) }
  | .makeDirectory path => become { w with files := w.files.makeDirectory (.ofText path) }
  | .setVariable name value =>
    become { w with environment := w.environment.insert name value }
  | .unsetVariable name =>
    match w.environment.get? name with
    | some _ => become { w with environment := w.environment.erase name }
    | none => w.answer (.error (.unknownName name))
  | .addHandle name path =>
    become { w with handles := w.handles.insert name (.onSource (path.map Path.ofText)) }
  | .get name => (w.schemaFor (some name) none).convert id .schema
  | .isLoaded name => w.aboutHandle name fun h => .truth h.isLoaded
  | .source name => w.aboutHandle name fun h => .source h.source
  | .readSchema path => (w.readSchema (.ofText path)).convert .load .schema
  | .readOrFallBack path => (w.readOrFallBack path).convert .load .schema
  | .loadDefault path => (w.schemaFor none (path.map Path.ofText)).convert id .schema
  | .resetDefault => w.resetDefault.become
  | .settings => w.answer (((w.settings []).map .settings).mapError .raised)
  | .options arguments system =>
    w.answer (((w.settings arguments).map fun s => .options (s.checkOptions system)).mapError .raised)
  | .check text choices handle =>
    (w.schemaFor handle none).andThen fun i w => w.checkWith i.schema choices text

def runAll (w : Workspace) : List Step → List (Outcome StepFault Reply)
  | [] => []
  | step :: rest =>
    let o := w.run step
    o :: runAll o.workspace rest

end Workspace
end ConfigLint
