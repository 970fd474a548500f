import Mathlib.Tactic.Common
import ConfigLint.Workspace.Session
/-!
What one step of a session does to the handles of a workspace. A workspace keeps handles in slots:
one for each name, and one for the default handle. A step asks at most one slot for a schema, and
renews at most one.

What is proved:
  1. `run_of_asked` and `run_of_unasked`: a step that asks a slot answers with what fetching from
     the handle gives, and puts the handle back; without a handle it fails and changes nothing.
  2. `handleIn_run`: no step changes a slot that it neither asks nor renews.
  3. `number_of_answer` and `stores_run`: the instance that a step answers is one that the asked
     slot keeps, or a new one; and only a new one comes into a slot.
  4. `sound_run`: so no two slots ever keep one instance.
-/
namespace ConfigLint

/-- Where a workspace keeps a handle. -/
inductive Slot where
  | named (name : Text)
  | default
deriving Repr, DecidableEq

namespace Step

/-- The slot that a step asks for a schema. -/
def asks? : Step → Option Slot
  | get name => some (.named name)
  | check _ _ (some name) => some (.named name)
  | check _ _ none => some .default
  | loadDefault _ => some .default
  | _ => none

/-- The slot that a step renews: what was in it is given up. -/
def renews? : Step → Option Slot
  | addHandle name _ => some (.named name)
  | resetDefault => some .default
  | _ => none

/-- The path that a step has for the default handle, in case this has to be made. -/
def path? : Step → Option Text
  | loadDefault path => path
  | _ => none

/-- What a step that asks for a schema answers once it has one, or has none. A document is checked
    against it, whatever else is in the workspace. -/
def answer [Libraries] [Interpreter] (step : Step) (r : Except LoadFault SchemaInstance) :
    Except StepFault Reply :=
  match r, step with
  | .error f, _ => .error (.load f)
  | .ok i, .check text choices _ => (Workspace.checkWith {} i.schema choices text).result
  | .ok i, _ => .ok (.schema i)

end Step

namespace Workspace

def handleIn (w : Workspace) : Slot → Option SchemaHandle
  | .named name => w.handles.get? name
  | .default => w.default

/-- The workspace with a handle in a slot, after `readings` readings. -/
def putHandle (w : Workspace) (slot : Slot) (h : SchemaHandle) (readings : Nat) : Workspace :=
  match slot with
  | .named name => { w with handles := w.handles.insert name h, readings := readings }
  | .default => { w with default := some h, readings := readings }

/-- The handle that a step asks. There is none if the name has none, or if there are no settings to
    make the default one with. -/
def askedHandle? [Libraries] (w : Workspace) (step : Step) : Option SchemaHandle :=
  match step.asks? with
  | none => none
  | some (.named name) => w.handles.get? name
  | some .default => (w.defaultHandle (step.path?.map Path.ofText)).toOption

/-- A slot holds a handle that keeps the instance. -/
def Stores (w : Workspace) (slot : Slot) (i : SchemaInstance) : Prop :=
  ∃ h, w.handleIn slot = some h ∧ h.stored = some i

theorem Stores.unique {w : Workspace} {slot : Slot} {i i' : SchemaInstance}
    (h : w.Stores slot i) (h' : w.Stores slot i') : i = i' := by
  obtain ⟨handle, hhandle, hstored⟩ := h
  obtain ⟨handle', hhandle', hstored'⟩ := h'
  obtain rfl := Option.some.inj (hhandle.symm.trans hhandle')
  exact Option.some.inj (hstored.symm.trans hstored')

/-- What is kept was read before now, and no two slots keep one instance. -/
structure Sound (w : Workspace) : Prop where
  read : ∀ slot i, w.Stores slot i → i.number < w.readings
  apart : ∀ slot slot' i i', w.Stores slot i → w.Stores slot' i' → i.number = i'.number →
    slot = slot'

/-! ## Slots -/

section
variable {w : Workspace}

theorem handleIn_putHandle (w : Workspace) (slot other : Slot) (h : SchemaHandle) (n : Nat) :
    (w.putHandle slot h n).handleIn other = if other = slot then some h else w.handleIn other := by
  cases slot with
  | named name =>
    cases other with
    | named other =>
      by_cases hname : other = name
      · subst hname
        simp [putHandle, handleIn, Table.get?_insert_self]
      · simp [putHandle, handleIn, hname, Table.get?_insert_of_ne]
    | default => simp [putHandle, handleIn]
  | default => cases other <;> simp [putHandle, handleIn]

theorem readings_putHandle (w : Workspace) (slot : Slot) (h : SchemaHandle) (n : Nat) :
    (w.putHandle slot h n).readings = n := by
  cases slot <;> rfl

theorem toOption_eq_some {ε α : Type} {r : Except ε α} {a : α} :
    r.toOption = some a ↔ r = .ok a := by
  cases r <;> simp [Except.toOption]

theorem toOption_eq_none {ε α : Type} {r : Except ε α} :
    r.toOption = none ↔ ∃ e, r = .error e := by
  cases r <;> simp [Except.toOption]

/-! ## Counting -/

/-- A step has read a schema and answers it, or it has read none. -/
def CountsReadings (w : Workspace) (o : Outcome StepFault Reply) : Prop :=
  (o.workspace.readings = w.readings ∧ ∀ i, o.result ≠ .ok (.schema i)) ∨
    (o.workspace.readings = w.readings + 1 ∧
      ∀ i, o.result = .ok (.schema i) → i.number = w.readings)

theorem countsReadings_answer {r : Except StepFault Reply} (hr : ∀ i, r ≠ .ok (.schema i)) :
    w.CountsReadings (w.answer r) := .inl ⟨rfl, hr⟩

theorem countsReadings_become {w' : Workspace} (h : w'.readings = w.readings) :
    w.CountsReadings w'.become := by
  refine .inl ⟨h, ?_⟩
  intro i hi
  cases hi

theorem countsReadings_aboutHandle {name : Text} {fact : SchemaHandle → Reply}
    (hfact : ∀ h i, fact h ≠ .schema i) : w.CountsReadings (w.aboutHandle name fact) := by
  refine countsReadings_answer ?_
  intro i hi
  split at hi
  · next h _ => exact hfact h i (Except.ok.inj hi)
  · cases hi

theorem countsReadings_read {o : Outcome LoadFault SchemaInstance}
    (h : (∃ i : SchemaInstance, o.result = .ok i ∧ i.number = w.readings ∧
        o.workspace.readings = w.readings + 1) ∨
      ∃ f, o.result = .error f ∧ o.workspace.readings = w.readings) :
    w.CountsReadings (o.convert .load .schema) := by
  rcases h with ⟨i, hresult, hnumber, hreadings⟩ | ⟨f, hresult, hreadings⟩
  · refine .inr ⟨hreadings, ?_⟩
    intro j hj
    simp only [Outcome.convert, hresult] at hj
    rw [← Reply.schema.inj (Except.ok.inj hj), hnumber]
  · refine .inl ⟨hreadings, ?_⟩
    intro j hj
    simp only [Outcome.convert, hresult] at hj
    cases hj

end

/-! ## Fetching -/

section
variable [Libraries] {w : Workspace} {step : Step} {slot : Slot} {h : SchemaHandle}

theorem fetch_of_stored {i : SchemaInstance} (hstored : h.stored = some i) :
    w.fetch h = ⟨.ok i, h, w.readings, []⟩ := by
  simp only [fetch, hstored]

theorem fetch_of_read {source : Option Path} {s : Schema} (hread : w.readSource source = .ok s) :
    w.fetch ⟨source, none⟩ = ⟨.ok ⟨w.readings, s⟩, ⟨source, some ⟨w.readings, s⟩⟩, w.readings + 1,
      [.cachedSchema s.version s.options.size]⟩ := by
  simp only [fetch, hread]

theorem fetch_of_refused {source : Option Path} {r : Refusal}
    (hread : w.readSource source = .error (.refused r)) :
    w.fetch ⟨source, none⟩ = ⟨.ok ⟨w.readings, Schema.fallback⟩, ⟨source, none⟩, w.readings + 1,
      [.fellBack r.message]⟩ := by
  simp only [fetch, hread]

theorem fetch_of_raised {source : Option Path} {e : Raised}
    (hread : w.readSource source = .error (.raised e)) :
    w.fetch ⟨source, none⟩ = ⟨.error (.raised e), ⟨source, none⟩, w.readings, []⟩ := by
  simp only [fetch, hread]

/-- Fetching gives an instance that was stored, a new one that is stored from now on, or a new one
    that is not; or it gives none and changes nothing. -/
theorem fetch_cases (w : Workspace) (h : SchemaHandle) :
    (∃ i, h.stored = some i ∧ (w.fetch h).result = .ok i ∧ (w.fetch h).handle = h ∧
      (w.fetch h).readings = w.readings) ∨
    (h.stored = none ∧ ∃ i : SchemaInstance, i.number = w.readings ∧ (w.fetch h).result = .ok i ∧
      ((w.fetch h).handle = { h with stored := some i } ∨ (w.fetch h).handle = h) ∧
      (w.fetch h).readings = w.readings + 1) ∨
    (h.stored = none ∧ ∃ f, (w.fetch h).result = .error f ∧ (w.fetch h).handle = h ∧
      (w.fetch h).readings = w.readings) := by
  obtain ⟨source, stored⟩ := h
  cases stored with
  | some i =>
    rw [fetch_of_stored rfl]
    exact .inl ⟨i, rfl, rfl, rfl, rfl⟩
  | none =>
    refine .inr ?_
    cases hread : w.readSource source with
    | ok s =>
      rw [fetch_of_read hread]
      exact .inl ⟨rfl, _, rfl, rfl, .inl rfl, rfl⟩
    | error fault =>
      cases fault with
      | refused r =>
        rw [fetch_of_refused hread]
        exact .inl ⟨rfl, _, rfl, rfl, .inr rfl, rfl⟩
      | raised e =>
        rw [fetch_of_raised hread]
        exact .inr ⟨rfl, _, rfl, rfl, rfl⟩

theorem schemaFor_of_named {name : Text} (hh : w.handles.get? name = some h) (path : Option Path) :
    w.schemaFor (some name) path = ⟨(w.fetch h).result.mapError .load,
      w.putHandle (.named name) (w.fetch h).handle (w.fetch h).readings, (w.fetch h).log⟩ := by
  simp only [schemaFor, fetchNamed, hh, Option.map_some, Outcome.convert, putHandle]
  cases (w.fetch h).result <;> rfl

theorem schemaFor_of_unnamed {name : Text} (hh : w.handles.get? name = none) (path : Option Path) :
    w.schemaFor (some name) path = ⟨.error (.unknownName name), w, []⟩ := by
  simp only [schemaFor, fetchNamed, hh, Option.map_none]

theorem schemaFor_of_default {path : Option Path} (hh : w.defaultHandle path = .ok h) :
    w.schemaFor none path = ⟨(w.fetch h).result.mapError .load,
      w.putHandle .default (w.fetch h).handle (w.fetch h).readings, (w.fetch h).log⟩ := by
  simp only [schemaFor, loadDefault, hh, Outcome.convert, putHandle]
  cases (w.fetch h).result <;> rfl

theorem schemaFor_of_unset {path : Option Path} {e : Raised}
    (he : w.defaultHandle path = .error e) :
    w.schemaFor none path = ⟨.error (.raised e), w, []⟩ := by
  simp only [schemaFor, loadDefault, he]
  rfl

/-- Why a slot has no handle to ask. -/
def Missing (w : Workspace) (step : Step) : Slot → StepFault → Prop
  | .named name, fault => w.handles.get? name = none ∧ fault = .unknownName name
  | .default, fault => ∃ e, w.defaultHandle (step.path?.map Path.ofText) = .error e ∧
      fault = .raised e

/-- What an asked handle keeps is kept by the slot. A default handle that has to be made keeps
    nothing. -/
theorem stores_of_asked {i : SchemaInstance} (hasks : step.asks? = some slot)
    (hh : w.askedHandle? step = some h) (hstored : h.stored = some i) : w.Stores slot i := by
  unfold askedHandle? at hh
  rw [hasks] at hh
  cases slot with
  | named name => exact ⟨h, hh, hstored⟩
  | default =>
    have hh := toOption_eq_some.1 hh
    unfold defaultHandle at hh
    split at hh
    · next old hdefault => exact ⟨old, hdefault, by rw [Except.ok.inj hh, hstored]⟩
    · rw [← Except.ok.inj hh] at hstored
      cases hstored
    · cases hsettings : w.settings [] with
      | error f => simp [hsettings, Except.map] at hh
      | ok s =>
        rw [hsettings] at hh
        rw [← Except.ok.inj hh] at hstored
        cases hstored

theorem handleIn_readSchema (w : Workspace) (p : Path) (slot : Slot) :
    (w.readSchema p).workspace.handleIn slot = w.handleIn slot := by
  unfold readSchema
  split <;> cases slot <;> rfl

theorem handleIn_readOrFallBack (w : Workspace) (given : Text) (slot : Slot) :
    (w.readOrFallBack given).workspace.handleIn slot = w.handleIn slot := by
  unfold readOrFallBack
  split <;> cases slot <;> rfl

/-! ## Steps that ask -/

variable [Interpreter]

theorem workspace_checkWith (w : Workspace) (s : Schema) (choices : List (Data × Data))
    (text : Text) : (w.checkWith s choices text).workspace = w := by
  unfold checkWith
  split <;> rfl

/-- What is found in a document has nothing to do with the workspace. -/
theorem result_checkWith (w : Workspace) (s : Schema) (choices : List (Data × Data))
    (text : Text) : (w.checkWith s choices text).result = (checkWith {} s choices text).result := by
  unfold checkWith
  split <;> rfl

theorem workspace_andThen_checkWith (o : Outcome StepFault SchemaInstance)
    (choices : List (Data × Data)) (text : Text) :
    (o.andThen fun i w => w.checkWith i.schema choices text).workspace = o.workspace := by
  unfold Outcome.andThen
  cases o.result with
  | error fault => rfl
  | ok i => exact workspace_checkWith o.workspace i.schema choices text

/-- A step that asks a handle answers with what fetching gives, puts back what fetching makes of
    the handle, and changes nothing else. -/
theorem run_of_asked (hasks : step.asks? = some slot) (hh : w.askedHandle? step = some h) :
    (w.run step).result = step.answer (w.fetch h).result ∧
      (w.run step).workspace = w.putHandle slot (w.fetch h).handle (w.fetch h).readings := by
  cases step with
  | get name =>
    obtain rfl := Option.some.inj hasks
    have hh : w.handles.get? name = some h := hh
    simp only [run, Outcome.convert, schemaFor_of_named hh, and_true]
    cases (w.fetch h).result <;> rfl
  | loadDefault path =>
    obtain rfl := Option.some.inj hasks
    have hh : w.defaultHandle (path.map Path.ofText) = .ok h := toOption_eq_some.1 hh
    simp only [run, Outcome.convert, schemaFor_of_default hh, and_true]
    cases (w.fetch h).result <;> rfl
  | check text choices handle =>
    have hschema : w.schemaFor handle none = ⟨(w.fetch h).result.mapError .load,
        w.putHandle slot (w.fetch h).handle (w.fetch h).readings, (w.fetch h).log⟩ := by
      cases handle with
      | some name =>
        obtain rfl := Option.some.inj hasks
        exact schemaFor_of_named hh none
      | none =>
        obtain rfl := Option.some.inj hasks
        exact schemaFor_of_default (toOption_eq_some.1 hh)
    simp only [run, workspace_andThen_checkWith, hschema, and_true]
    cases (w.fetch h).result with
    | error f => rfl
    | ok i => exact result_checkWith _ i.schema choices text
  | _ => cases hasks

/-- Without a handle a step that asks for one says why, and changes nothing. -/
theorem run_of_unasked (hasks : step.asks? = some slot) (hh : w.askedHandle? step = none) :
    ∃ fault, w.Missing step slot fault ∧ (w.run step).result = .error fault ∧
      (w.run step).workspace = w := by
  cases step with
  | get name =>
    obtain rfl := Option.some.inj hasks
    have hh : w.handles.get? name = none := hh
    refine ⟨_, ⟨hh, rfl⟩, ?_⟩
    simp only [run, Outcome.convert, schemaFor_of_unnamed hh]
    exact ⟨rfl, trivial⟩
  | loadDefault path =>
    obtain rfl := Option.some.inj hasks
    obtain ⟨f, hf⟩ := toOption_eq_none.1 hh
    refine ⟨_, ⟨f, hf, rfl⟩, ?_⟩
    have hf : w.defaultHandle (path.map Path.ofText) = .error f := hf
    simp only [run, Outcome.convert, schemaFor_of_unset hf]
    exact ⟨rfl, trivial⟩
  | check text choices handle =>
    cases handle with
    | some name =>
      obtain rfl := Option.some.inj hasks
      have hh : w.handles.get? name = none := hh
      refine ⟨_, ⟨hh, rfl⟩, ?_⟩
      simp only [run, Outcome.andThen, schemaFor_of_unnamed hh, and_true]
    | none =>
      obtain rfl := Option.some.inj hasks
      obtain ⟨f, hf⟩ := toOption_eq_none.1 hh
      refine ⟨_, ⟨f, hf, rfl⟩, ?_⟩
      have hf : w.defaultHandle none = .error f := hf
      simp only [run, Outcome.andThen, schemaFor_of_unset hf, and_true]
  | _ => cases hasks

/-! ## Any step -/

/-- A step changes no slot that it neither asks nor renews. -/
theorem handleIn_run (hasks : step.asks? ≠ some slot) (hrenews : step.renews? ≠ some slot) :
    (w.run step).workspace.handleIn slot = w.handleIn slot := by
  cases hother : step.asks? with
  | some other =>
    have hne : slot ≠ other := by
      rintro rfl
      exact hasks hother
    cases hh : w.askedHandle? step with
    | some h => rw [(run_of_asked hother hh).2, handleIn_putHandle, if_neg hne]
    | none =>
      obtain ⟨_, -, -, hsame⟩ := run_of_unasked hother hh
      rw [hsame]
  | none =>
    -- of the steps that ask no slot two have to do with handles, and what they touch they renew
    cases step with
    | addHandle name path =>
      cases slot with
      | named other =>
        have hne : other ≠ name := fun h => hrenews (by rw [h]; rfl)
        exact Table.get?_insert_of_ne _ _ _ _ hne
      | default => rfl
    | resetDefault =>
      cases slot with
      | named name => rfl
      | default => exact absurd rfl hrenews
    | readSchema path => exact handleIn_readSchema w (.ofText path) slot
    | readOrFallBack path => exact handleIn_readOrFallBack w path slot
    | unsetVariable name =>
      simp only [run]
      split <;> cases slot <;> rfl
    | get name => cases hother
    | loadDefault path => cases hother
    | check text choices handle => cases handle <;> cases hother
    | _ => cases slot <;> rfl

theorem not_stores_of_renewed (hrenews : step.renews? = some slot) (i : SchemaInstance) :
    ¬ (w.run step).workspace.Stores slot i := by
  rintro ⟨h, hh, hstored⟩
  cases step with
  | addHandle name path =>
    obtain rfl := Option.some.inj hrenews
    have hnew : (w.handles.insert name (.onSource (path.map Path.ofText))).get? name = some h := hh
    rw [Table.get?_insert_self] at hnew
    rw [← Option.some.inj hnew] at hstored
    cases hstored
  | resetDefault =>
    obtain rfl := Option.some.inj hrenews
    cases hh
  | _ => cases hrenews

theorem eq_of_answer {r : Except LoadFault SchemaInstance} {i : SchemaInstance}
    (h : step.answer r = .ok (.schema i)) : r = .ok i := by
  unfold Step.answer at h
  split at h
  · cases h
  · next j text choices handle =>
    unfold checkWith at h
    split at h <;> cases h
  · next j hcheck => rw [Reply.schema.inj (Except.ok.inj h)]

theorem countsReadings_run (w : Workspace) (hasks : step.asks? = none) :
    w.CountsReadings (w.run step) := by
  cases step with
  | get name => cases hasks
  | loadDefault path => cases hasks
  | check text choices handle => cases handle <;> cases hasks
  | unsetVariable name =>
    simp only [run]
    split
    · exact countsReadings_become rfl
    · exact countsReadings_answer (by rintro i ⟨⟩)
  | isLoaded name => exact countsReadings_aboutHandle (by rintro h i ⟨⟩)
  | source name => exact countsReadings_aboutHandle (by rintro h i ⟨⟩)
  | readSchema path =>
    refine countsReadings_read ?_
    unfold readSchema
    cases w.readSource (some (.ofText path)) with
    | ok s => exact .inl ⟨_, rfl, rfl, rfl⟩
    | error f => exact .inr ⟨f, rfl, rfl⟩
  | readOrFallBack path =>
    refine countsReadings_read ?_
    unfold readOrFallBack
    split
    · exact .inl ⟨_, rfl, rfl, rfl⟩
    · exact .inl ⟨_, rfl, rfl, rfl⟩
    · next f _ => exact .inr ⟨_, rfl, rfl⟩
  | settings =>
    refine countsReadings_answer ?_
    intro i hi
    cases hsettings : w.settings [] <;> rw [hsettings] at hi <;> cases hi
  | options arguments system =>
    refine countsReadings_answer ?_
    intro i hi
    cases hsettings : w.settings arguments <;> rw [hsettings] at hi <;> cases hi
  | _ => exact countsReadings_become rfl

theorem readings_run (w : Workspace) (step : Step) :
    w.readings ≤ (w.run step).workspace.readings := by
  cases hasks : step.asks? with
  | none =>
    rcases countsReadings_run w hasks with ⟨hreadings, -⟩ | ⟨hreadings, -⟩ <;> omega
  | some slot =>
    cases hh : w.askedHandle? step with
    | none =>
      obtain ⟨_, -, -, hsame⟩ := run_of_unasked hasks hh
      exact Nat.le_of_eq (congrArg Workspace.readings hsame.symm)
    | some h =>
      rw [(run_of_asked hasks hh).2, readings_putHandle]
      rcases fetch_cases w h with ⟨_, -, -, -, hn⟩ | ⟨-, _, -, -, -, hn⟩ | ⟨-, _, -, -, hn⟩ <;>
        omega

/-- The instance that a step answers is kept by the slot it asks, or has just been read. -/
theorem number_of_answer {i : SchemaInstance} (h : (w.run step).result = .ok (.schema i)) :
    (∃ slot, step.asks? = some slot ∧ w.Stores slot i) ∨
      (i.number = w.readings ∧ (w.run step).workspace.readings = w.readings + 1) := by
  cases hasks : step.asks? with
  | none =>
    rcases countsReadings_run w hasks with ⟨-, hnone⟩ | ⟨hreadings, hnumber⟩
    · exact absurd h (hnone i)
    · exact .inr ⟨hnumber i h, hreadings⟩
  | some slot =>
    cases hh : w.askedHandle? step with
    | none =>
      obtain ⟨_, -, hfault, -⟩ := run_of_unasked hasks hh
      rw [hfault] at h
      cases h
    | some handle =>
      obtain ⟨hresult, hworkspace⟩ := run_of_asked hasks hh
      rw [hresult] at h
      have hfetched := eq_of_answer h
      rw [hworkspace, readings_putHandle]
      rcases fetch_cases w handle with ⟨j, hstored, hj, -, -⟩ | ⟨-, j, hnumber, hj, -, hn⟩ |
        ⟨-, f, hf, -, -⟩
      · obtain rfl := Except.ok.inj (hj.symm.trans hfetched)
        exact .inl ⟨slot, rfl, stores_of_asked hasks hh hstored⟩
      · obtain rfl := Except.ok.inj (hj.symm.trans hfetched)
        exact .inr ⟨hnumber, hn⟩
      · rw [hf] at hfetched
        cases hfetched

/-- What a slot keeps after a step it kept before, and it was not renewed; or it has been asked, and
    keeps what has just been read and is answered. -/
theorem stores_run {i : SchemaInstance} (hi : (w.run step).workspace.Stores slot i) :
    (w.Stores slot i ∧ step.renews? ≠ some slot) ∨
      (step.asks? = some slot ∧ i.number = w.readings ∧
        (w.run step).workspace.readings = w.readings + 1 ∧
        (w.run step).result = step.answer (.ok i)) := by
  have hrenews : step.renews? ≠ some slot := fun h => not_stores_of_renewed h i hi
  by_cases hasks : step.asks? = some slot
  swap
  · refine .inl ⟨?_, hrenews⟩
    obtain ⟨h, hh, hstored⟩ := hi
    exact ⟨h, by rw [← hh, handleIn_run hasks hrenews], hstored⟩
  cases hh : w.askedHandle? step with
  | none =>
    obtain ⟨_, -, -, hsame⟩ := run_of_unasked hasks hh
    rw [hsame] at hi
    exact .inl ⟨hi, hrenews⟩
  | some handle =>
    obtain ⟨hresult, hworkspace⟩ := run_of_asked hasks hh
    obtain ⟨h, hput, hstored⟩ := hi
    rw [hworkspace, handleIn_putHandle, if_pos rfl] at hput
    obtain rfl := Option.some.inj hput
    rw [hresult, hworkspace, readings_putHandle]
    -- only a reading that succeeds puts something into the handle
    rcases fetch_cases w handle with ⟨j, hj, -, hsame, -⟩ | ⟨hnone, j, hnumber, hj, hnew, hn⟩ |
      ⟨hnone, f, -, hsame, -⟩
    · rw [hsame] at hstored
      exact .inl ⟨stores_of_asked hasks hh hstored, hrenews⟩
    · rcases hnew with hnew | hsame
      · rw [hnew] at hstored
        obtain rfl := Option.some.inj hstored
        exact .inr ⟨hasks, hnumber, hn, by rw [hj]⟩
      · rw [hsame, hnone] at hstored
        cases hstored
    · rw [hsame, hnone] at hstored
      cases hstored

theorem sound_run (hw : w.Sound) : (w.run step).workspace.Sound := by
  have hcount := readings_run w step
  constructor
  · intro slot i hi
    rcases stores_run hi with ⟨hold, -⟩ | ⟨-, hnumber, hreadings, -⟩
    · have := hw.read slot i hold
      omega
    · omega
  · intro slot slot' i i' hi hi' heq
    rcases stores_run hi with ⟨hold, -⟩ | ⟨hasks, hnumber, -, -⟩ <;>
      rcases stores_run hi' with ⟨hold', -⟩ | ⟨hasks', hnumber', -, -⟩
    · exact hw.apart slot slot' i i' hold hold' heq
    · -- a new instance has a number that none had before
      have := hw.read slot i hold
      omega
    · have := hw.read slot' i' hold'
      omega
    · exact Option.some.inj (hasks.symm.trans hasks')

end

end Workspace
end ConfigLint
