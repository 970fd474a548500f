import ConfigLint.Libraries.Own
import ConfigLint.Proofs.Sessions
/-!
Named handles are write-once, whatever a session does: to the files, to other handles, to the
default handle, or by reading schemas without a handle. This holds with any libraries: all that counts
is that an artifact is parsed the same way every time.

What is proved:
  1. `since_of_lives`: a named handle keeps the first schema that a question to it reads.
  2. `eq_of_answer_kept`: no step but a later question to the handle answers what it keeps.
  3. `writeOnce`: what this means for every handle of every session.
-/
namespace ConfigLint
namespace Workspace

/-- Before step `j` the handle that step `m` made on a path is still there under its name. -/
structure Lives (steps : List Step) (name : Text) (path : Option Text) (m j : Nat) : Prop where
  made : steps[m]? = some (.addHandle name path)
  later : m < j
  kept : Unrenewed steps (.named name) (m + 1) j

/-- Step `j` asks the handle that step `m` made. -/
structure Asked (steps : List Step) (name : Text) (path : Option Text) (m j : Nat) (step : Step) :
    Prop where
  lives : Lives steps name path m j
  taken : steps[j]? = some step
  asks : step.asks? = some (.named name)

section
variable [Libraries] [Interpreter] (w : Workspace) (steps : List Step) (name : Text)
  (path : Option Text) (m : Nat)

/-- Step `k` is the first question to the handle that step `m` made which reads a schema. -/
structure Loads (k : Nat) (s : Schema) : Prop where
  lives : Lives steps name path m k
  first : w.FirstRead steps (.named name) (path.map Path.ofText) (m + 1) k s

/-- A question before step `j` has read a schema. -/
def LoadedBefore (j : Nat) : Prop := ∃ k s, k < j ∧ w.Loads steps name path m k s

def StaysEmpty (j : Nat) : Prop :=
  (w.atStep steps (j + 1)).handles.get? name = some ⟨path.map Path.ofText, none⟩

/-- The handle that step `m` made is write-once. -/
structure WriteOnce : Prop where
  /-- The handle stays on its source, and is loaded from the first question on that reads a
      schema. -/
  loaded : ∀ j, Lives steps name path m j → ∃ h, (w.atStep steps j).handles.get? name = some h ∧
    h.source = path.map Path.ofText ∧ (h.isLoaded = true ↔ w.LoadedBefore steps name path m j)
  /-- This is what it says when it is asked. -/
  told : ∀ j, Lives steps name path m j → steps[j]? = some (.isLoaded name) →
    ∃ b, w.resultAt? steps j = some (.ok (.truth b)) ∧
      (b = true ↔ w.LoadedBefore steps name path m j)
  /-- That question and all later ones are answered out of one instance, which no other step ever
      answers. -/
  kept : ∀ k s, w.Loads steps name path m k s → ∃ i, i.schema = s ∧
    (∀ j step, Asked steps name path m j step → k ≤ j →
      w.resultAt? steps j = some (step.answer (.ok i))) ∧
    ∀ j i', w.resultAt? steps j = some (.ok (.schema i')) → i'.number = i.number →
      i' = i ∧ k ≤ j ∧ Asked steps name path m j (.get name)
  /-- A question before that reads the source at that moment. If this fails, the handle stays
      empty; what is refused gives an empty schema that no other step ever answers. -/
  reads : ∀ j step, Asked steps name path m j step → ¬ w.LoadedBefore steps name path m j →
    match w.readAt steps (path.map Path.ofText) j with
    | .ok s => w.Loads steps name path m j s
    | .error (.refused _) => w.StaysEmpty steps name path j ∧
      ∃ i, i.schema = Schema.fallback ∧ w.resultAt? steps j = some (step.answer (.ok i)) ∧
        ∀ j' i', w.resultAt? steps j' = some (.ok (.schema i')) → i'.number = i.number → j' = j
    | .error (.raised e) => w.StaysEmpty steps name path j ∧
      w.resultAt? steps j = some (.error (.load (.raised e)))
  /-- A step that does not ask the handle does not change it. -/
  apart : ∀ j step, Lives steps name path m j → Lives steps name path m (j + 1) →
    steps[j]? = some step → step.asks? ≠ some (.named name) →
    (w.atStep steps (j + 1)).handles.get? name = (w.atStep steps j).handles.get? name

end

section
variable {w : Workspace} {steps : List Step} {name : Text} {path : Option Text} {m j k : Nat}
  {step : Step} {s : Schema}

theorem Lives.of_le (h : Lives steps name path m j) (hmk : m < k) (hkj : k ≤ j) :
    Lives steps name path m k :=
  ⟨h.made, hmk, fun l step hml hlk => h.kept l step hml (Nat.lt_of_lt_of_le hlk hkj)⟩

theorem Lives.trans (h : Lives steps name path m k) (hkj : k ≤ j)
    (hkept : Unrenewed steps (.named name) k j) : Lives steps name path m j := by
  refine ⟨h.made, Nat.lt_of_lt_of_le h.later hkj, ?_⟩
  intro l step hml hlj
  rcases Nat.lt_or_ge l k with hlk | hkl
  · exact h.kept l step hml hlk
  · exact hkept l step hkl hlj

theorem Asked.asksAt (h : Asked steps name path m j step) : AsksAt steps (.named name) j :=
  ⟨step, h.taken, h.asks⟩

theorem Asked.lives_succ (h : Asked steps name path m j step) :
    Lives steps name path m (j + 1) := by
  refine h.lives.trans (Nat.le_succ j) ?_
  intro l other hjl hlj hother hrenews
  obtain rfl : l = j := by omega
  obtain rfl := Option.some.inj (h.taken.symm.trans hother)
  have hasks := h.asks
  cases step <;> cases hrenews
  cases hasks

variable [Libraries] [Interpreter]

/-- A named handle keeps the first schema that a question to it reads. -/
theorem since_of_lives (h : Lives steps name path m j) :
    ∃ handle, (w.atStep steps j).handleIn (.named name) = some handle ∧
      w.Since steps (.named name) (path.map Path.ofText) (m + 1) j handle := by
  have hnew : (w.atStep steps (m + 1)).handleIn (.named name) =
      some ⟨path.map Path.ofText, none⟩ := by
    rw [atStep_succ h.made]
    exact Table.get?_insert_self _ name _
  have hempty : w.NoRead steps (.named name) (path.map Path.ofText) (m + 1) (m + 1) := by
    intro k hmk hkm
    omega
  exact since_of_holds (Nat.le_refl _) h.later h.kept hnew (.inl ⟨hempty, rfl⟩)

theorem isLoaded_iff {handle : SchemaHandle} (h : Lives steps name path m j)
    (hsince : w.Since steps (.named name) (path.map Path.ofText) (m + 1) j handle) :
    handle.isLoaded = true ↔ w.LoadedBefore steps name path m j := by
  -- either of the two states that a handle can be in settles both sides
  rcases hsince with ⟨hno, rfl⟩ | ⟨k, s, hkj, hfirst, rfl⟩
  · constructor
    · intro hloaded
      cases hloaded
    · rintro ⟨k, s, hkj, -, hfirst⟩
      exact absurd hfirst.reads (hno k hfirst.le hkj hfirst.asks s)
  · exact ⟨fun _ => ⟨k, s, hkj, h.of_le hfirst.le (Nat.le_of_lt hkj), hfirst⟩, fun _ => rfl⟩

theorem Asked.empty (h : Asked steps name path m j step)
    (hno : ¬ w.LoadedBefore steps name path m j) :
    w.NoRead steps (.named name) (path.map Path.ofText) (m + 1) j ∧
      w.AsksHandle steps (.named name) j step ⟨path.map Path.ofText, none⟩ := by
  obtain ⟨handle, hhandle, hsince⟩ := since_of_lives (w := w) h.lives
  have hnone : w.NoRead steps (.named name) (path.map Path.ofText) (m + 1) j := by
    rcases hsince with ⟨hnone, -⟩ | ⟨k, s, hkj, hfirst, -⟩
    · exact hnone
    · exact absurd ⟨k, s, hkj, h.lives.of_le hfirst.le (Nat.le_of_lt hkj), hfirst⟩ hno
  obtain rfl := hsince.eq_of_noRead hnone
  exact ⟨hnone, asksHandle_of_handleIn h.taken h.asks hhandle⟩

theorem eq_get_of_answer {i : SchemaInstance} (hasks : step.asks? = some (.named name))
    (h : (w.run step).result = .ok (.schema i)) : step = .get name := by
  cases step with
  | get other => rw [Slot.named.inj (Option.some.inj hasks)]
  | check text choices handle =>
    -- it asks the handle too, but answers diagnostics
    exfalso
    simp only [run, Outcome.andThen, checkWith] at h
    split at h
    · cases h
    · split at h <;> cases h
  | _ => cases hasks

/-- No step but a later question to the handle answers what it keeps. -/
theorem eq_of_answer_kept (hw : w.Sound) (h : w.Loads steps name path m k s)
    {i : SchemaInstance} (hi : w.resultAt? steps j = some (.ok (.schema i)))
    (hnumber : i.number = (w.instanceAt steps k s).number) :
    i = w.instanceAt steps k s ∧ k ≤ j ∧ Asked steps name path m j (.get name) := by
  obtain ⟨step, htaken, hasks⟩ := h.first.asks
  have hasked : Asked steps name path m k step := ⟨h.lives, htaken, hasks⟩
  have hempty : w.AsksHandle steps (.named name) k step ⟨path.map Path.ofText, none⟩ := by
    refine (hasked.empty ?_).2
    rintro ⟨l, s', hlk, -, hfirst⟩
    have := (hfirst.unique h.first).1
    omega
  have hstores := stores_of_read hempty h.first.reads
  have hkj := le_of_answer hw hi hnumber
  have hbefore : i = w.instanceAt steps k s ∧ AsksAt steps (.named name) j ∧
      Lives steps name path m j := by
    rcases Nat.lt_or_eq_of_le hkj with hlt | rfl
    · -- from step `k + 1` on the instance is kept under the name, and nowhere else
      have hread := (sound_atStep hw (k + 1)).read _ _ hstores
      obtain ⟨slot, hasksAt, hkept⟩ := kept_of_answer (hnumber ▸ hread) hlt hi
      have hthere := hkept (k + 1) (Nat.le_refl _) hlt
      obtain rfl := (sound_atStep hw (k + 1)).apart _ _ _ _ hthere hstores hnumber
      exact ⟨hthere.unique hstores, hasksAt,
        hasked.lives_succ.trans hlt (unrenewed_of_stores hkept)⟩
    · rw [hempty.resultAt?, fetch_of_read h.first.reads] at hi
      exact ⟨(Except.ok.inj (eq_of_answer (Option.some.inj hi))).symm, h.first.asks, h.lives⟩
  obtain ⟨heq, ⟨last, hlast, hlastAsks⟩, hlives⟩ := hbefore
  obtain ⟨_, hlast', hresult⟩ := exists_step_of_resultAt? hi
  obtain rfl := Option.some.inj (hlast.symm.trans hlast')
  obtain rfl := eq_get_of_answer hlastAsks hresult
  exact ⟨heq, hkj, hlives, hlast, hlastAsks⟩

/-! ## Every session -/

/-- Every named handle of every session is write-once. -/
theorem writeOnce (files : Files) (environment : Table Text Text) (steps : List Step)
    (name : Text) (path : Option Text) (m : Nat) :
    WriteOnce { files, environment } steps name path m := by
  have hw := sound_of_fresh files environment
  constructor
  case loaded =>
    intro j hlives
    obtain ⟨handle, hhandle, hsince⟩ := since_of_lives hlives
    exact ⟨handle, hhandle, hsince.source_eq, isLoaded_iff hlives hsince⟩
  case told =>
    intro j hlives hstep
    obtain ⟨handle, hhandle, hsince⟩ := since_of_lives hlives
    refine ⟨handle.isLoaded, ?_, isLoaded_iff hlives hsince⟩
    have hget : (atStep { files, environment } steps j).handles.get? name = some handle := hhandle
    rw [resultAt?_eq hstep]
    simp only [run, aboutHandle, answer, hget]
  case kept =>
    intro k s hloads
    refine ⟨_, rfl, ?_, fun j i' hi' hnumber => eq_of_answer_kept hw hloads hi' hnumber⟩
    intro j step hasked hkj
    obtain ⟨handle, hhandle, hsince⟩ := since_of_lives hasked.lives
    have hasks := asksHandle_of_handleIn hasked.taken hasked.asks hhandle
    exact result_of_first hasks hsince hloads.first hkj
  case reads =>
    intro j step hasked hno
    obtain ⟨hnone, hasks⟩ := hasked.empty hno
    split
    · next s hread =>
      exact ⟨hasked.lives, Nat.succ_le_of_lt hasked.lives.later, hasked.asksAt, hread, hnone⟩
    · next r hread =>
      obtain ⟨hresult, hempty⟩ := result_of_refused hasks hread
      exact ⟨hempty, _, rfl, hresult,
        fun k i hi hnumber => eq_of_answer_fallback hw hasks hread hi hnumber⟩
    · next f hread =>
      obtain ⟨hresult, hempty⟩ := result_of_raised hasks hread
      exact ⟨hempty, hresult⟩
  case apart =>
    intro j step hlives hlives' hstep hasks
    have hrenews : step.renews? ≠ some (.named name) :=
      hlives'.kept j step (Nat.succ_le_of_lt hlives.later) (Nat.lt_succ_self j) hstep
    rw [atStep_succ hstep]
    exact handleIn_run hasks hrenews

end

/-- A file that is written after the first question and removed after the second: two instances are
    answered, and the second one again. -/
example : (runAll {}
    [.addHandle "h".toList (some "s.yaml".toList), .get "h".toList,
      .write "s.yaml".toList (.text "version: '1'".toList), .get "h".toList,
      .remove "s.yaml".toList, .get "h".toList]).map answered? =
    [none, some 0, none, some 1, none, some 1] := by
  decide +kernel

end Workspace
end ConfigLint
