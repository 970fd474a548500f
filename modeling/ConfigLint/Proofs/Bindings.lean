import ConfigLint.Proofs.Acceptance
import ConfigLint.Proofs.LineEnds
/-!
The grammar of key bindings. `IsBinding` says by the parts of a text what a key binding is: the word
`clear`, or a trigger and an action around the first equals sign. Behind the modifiers at its front a
trigger is steps between `>`, and a step is keys between `+`.

What is proved:
  1. `cut_eq_some` and `splitsAt_iff`: what it means to cut a text, and to split it.
  2. `mem_modifiers` and `isStripped_iff`: dropping modifiers one by one takes off as many as there are.
  3. `isTrigger_iff`, `isAction_iff` and `checkKeybind_eq_none`: the check of a key binding accepts the
     grammar.
  4. `accepts_keybind_iff`: so an option for key bindings without a pattern accepts exactly these.
-/
namespace ConfigLint

/-! ## Cutting and splitting -/

namespace Text

theorem cut_eq_some {c : Char} {t a b : Text} : cut c t = some (a, b) ↔ t = a ++ c :: b ∧ c ∉ a := by
  induction t generalizing a with
  | nil => simp [cut]
  | cons d t ih =>
    rw [cut]
    by_cases hd : d = c
    · subst hd
      rw [if_pos rfl, Option.some.injEq, Prod.mk.injEq]
      cases a with
      | nil => simp
      | cons x a =>
        simp only [reduceCtorEq, false_and, List.cons_append, List.cons.injEq, List.mem_cons, not_or,
          false_iff, not_and]
        intro ⟨hx, _⟩ hne
        exact absurd hx hne
    · rw [if_neg hd, Option.map_eq_some_iff]
      constructor
      · rintro ⟨⟨a', b'⟩, hparts, heq⟩
        obtain ⟨rfl, rfl⟩ := Prod.mk.inj heq
        obtain ⟨rfl, hfree⟩ := ih.1 hparts
        exact ⟨rfl, List.not_mem_cons_of_ne_of_not_mem (Ne.symm hd) hfree⟩
      · rintro ⟨heq, hfree⟩
        cases a with
        | nil => exact absurd (List.cons.inj heq).1 hd
        | cons x a =>
          rw [List.cons_append, List.cons.injEq] at heq
          obtain ⟨rfl, rfl⟩ := heq
          exact ⟨(a, b), ih.2 ⟨rfl, List.not_mem_of_not_mem_cons hfree⟩, rfl⟩

theorem cut_eq_none {c : Char} {t : Text} : cut c t = none ↔ c ∉ t := by
  induction t with
  | nil => simp [cut]
  | cons d t ih =>
    rw [cut]
    by_cases hd : d = c
    · simp [hd]
    · simp [hd, Ne.symm hd, ih]

/-- `parts` are what stands between the separators of a text. -/
structure SplitsAt (sep : Char) (t : Text) (parts : List Text) : Prop where
  text : t = join [sep] parts
  ne : parts ≠ []
  free : ∀ part ∈ parts, sep ∉ part

theorem splitsAt_splitOn (sep : Char) (t : Text) : SplitsAt sep t (t.splitOn sep) where
  text := (List.intercalate_splitOn sep).symm
  ne := List.splitOn_ne_nil sep t
  free part hpart hsep := ((mem_splitOn sep sep t).1 ⟨part, hpart, hsep⟩).1 rfl

theorem splitsAt_iff {sep : Char} {t : Text} {parts : List Text} :
    SplitsAt sep t parts ↔ t.splitOn sep = parts := by
  constructor
  · intro h
    rw [h.text]
    exact List.splitOn_intercalate sep h.free h.ne
  · rintro rfl
    exact splitsAt_splitOn sep t

end Text

open Text

namespace Keybind

/-! ## The grammar -/

/-- The words that may stand, each with a colon, in front of a trigger. -/
inductive IsModifier : Text → Prop where
  | global : IsModifier "global".toList
  | all : IsModifier "all".toList
  | unconsumed : IsModifier "unconsumed".toList
  | performable : IsModifier "performable".toList

/-- `rest` behind modifiers, each with a colon. -/
def modified : List Text → Text → Text
  | [], rest => rest
  | m :: front, rest => m ++ ':' :: modified front rest

/-- `rest` is what is left of a text when as many modifiers as possible are taken off its front. -/
structure IsStripped (t rest : Text) (front : List Text) : Prop where
  text : t = modified front rest
  known : ∀ m ∈ front, IsModifier m
  longest : ∀ front' rest', t = modified front' rest' → (∀ m ∈ front', IsModifier m) →
    front'.length ≤ front.length

/-- A key: at least one character, none of them white space. -/
def IsKey (t : Text) : Prop := t ≠ [] ∧ ∀ c ∈ t, isBlank c = false

/-- A trigger: modifiers, and then steps of keys. -/
def IsTrigger (t : Text) : Prop :=
  ∃ front rest steps, IsStripped t rest front ∧ SplitsAt '>' rest steps ∧
    ∀ step ∈ steps, ∃ keys, SplitsAt '+' step keys ∧ ∀ key ∈ keys, IsKey key

def IsLetter (c : Char) : Prop := 'a' ≤ c ∧ c ≤ 'z'

/-- An action: a name of small letters, digits and underscores that starts with a letter, and behind
    a colon an argument on one line, if there is one. -/
def IsAction (t : Text) : Prop :=
  ∃ first name rest, t = first :: (name ++ rest) ∧ IsLetter first ∧
    (∀ c ∈ name, IsLetter c ∨ ('0' ≤ c ∧ c ≤ '9') ∨ c = '_') ∧
    (rest = [] ∨ ∃ argument, rest = ':' :: argument ∧ '\n' ∉ argument)

inductive IsBinding (t : Text) : Prop where
  | clear (text : t = "clear".toList) : IsBinding t
  | bind {trigger action : Text} (text : t = trigger ++ '=' :: action) (first : '=' ∉ trigger)
      (isTrigger : IsTrigger trigger.trim) (isAction : IsAction action.trim) : IsBinding t

/-! ## Triggers -/

theorem mem_modifiers {m : Text} : m ∈ modifiers ↔ IsModifier m := by
  constructor
  · intro h
    simp only [modifiers, List.mem_cons, List.not_mem_nil, or_false] at h
    rcases h with rfl | rfl | rfl | rfl
    · exact .global
    · exact .all
    · exact .unconsumed
    · exact .performable
  · rintro (_ | _ | _ | _) <;> decide

theorem IsModifier.not_colon_mem {m : Text} (h : IsModifier m) : ':' ∉ m := by
  cases h <;> decide

/-- A text without the modifiers at its front. -/
def strip (t : Text) : Text := join [':'] (dropModifiers (t.splitOn ':'))

theorem strip_of_no_colon {t : Text} (h : ':' ∉ t) : strip t = t := by
  rw [strip, List.splitOn_eq_singleton h, dropModifiers, join, List.intercalate_singleton]
  exact fun _ _ _ hparts => by cases hparts

theorem strip_of_modifier {m : Text} (h : IsModifier m) (t : Text) :
    strip (m ++ ':' :: t) = strip t := by
  obtain ⟨segment, rest, hparts⟩ := List.exists_cons_of_ne_nil (List.splitOn_ne_nil ':' t)
  have hsplit := List.splitOn_append_cons_self_of_not_mem h.not_colon_mem t
  have hknown : modifiers.contains m = true := List.contains_iff_mem.2 (mem_modifiers.2 h)
  rw [strip, strip, hsplit, hparts, dropModifiers, if_pos hknown]

theorem strip_of_other {m : Text} (hcolon : ':' ∉ m) (h : ¬ IsModifier m) (t : Text) :
    strip (m ++ ':' :: t) = m ++ ':' :: t := by
  obtain ⟨segment, rest, hparts⟩ := List.exists_cons_of_ne_nil (List.splitOn_ne_nil ':' t)
  have hsplit := List.splitOn_append_cons_self_of_not_mem hcolon t
  have hunknown : ¬ modifiers.contains m = true := fun hm =>
    h (mem_modifiers.1 (List.contains_iff_mem.1 hm))
  have hkept : dropModifiers (m :: t.splitOn ':') = m :: t.splitOn ':' := by
    rw [hparts, dropModifiers, if_neg hunknown]
  rw [strip, hsplit, hkept, ← hsplit]
  exact List.intercalate_splitOn ':'

theorem modified_cons_inj {m m' t t' : Text} (hm : ':' ∉ m) (hm' : ':' ∉ m')
    (h : m ++ ':' :: t = m' ++ ':' :: t') : m = m' ∧ t = t' := by
  have hcut : cut ':' (m ++ ':' :: t) = some (m, t) := cut_eq_some.2 ⟨rfl, hm⟩
  rw [h, cut_eq_some.2 ⟨rfl, hm'⟩, Option.some.injEq, Prod.mk.injEq] at hcut
  exact ⟨hcut.1.symm, hcut.2.symm⟩

/-- What is left is determined by the text and by the number of modifiers. -/
theorem rest_unique {front front' : List Text} {rest rest' : Text}
    (h : modified front rest = modified front' rest') (known : ∀ m ∈ front, IsModifier m)
    (known' : ∀ m ∈ front', IsModifier m) (hlength : front.length = front'.length) :
    rest = rest' := by
  induction front generalizing front' with
  | nil =>
    rw [List.length_nil, eq_comm, List.length_eq_zero_iff] at hlength
    rwa [hlength] at h
  | cons m front ih =>
    cases front' with
    | nil => cases hlength
    | cons m' front' =>
      rw [List.forall_mem_cons] at known known'
      obtain ⟨-, hrest⟩ := modified_cons_inj known.1.not_colon_mem known'.1.not_colon_mem h
      exact ih hrest known.2 known'.2 (Nat.succ.inj hlength)

theorem exists_isStripped (t : Text) : ∃ front, IsStripped t (strip t) front := by
  -- on the length: what stands behind the first colon is shorter
  induction hn : t.length using Nat.strong_induction_on generalizing t with
  | _ n ih =>
    cases hcut : cut ':' t with
    | none =>
      have hcolon : ':' ∉ t := cut_eq_none.1 hcut
      refine ⟨[], (strip_of_no_colon hcolon).symm, by simp, ?_⟩
      intro front' rest' htext _
      cases front' with
      | nil => exact le_rfl
      | cons m front' => exact absurd (by simp [htext, modified]) hcolon
    | some parts =>
      obtain ⟨m, behind⟩ := parts
      obtain ⟨rfl, hcolon⟩ := cut_eq_some.1 hcut
      by_cases hm : IsModifier m
      · have hshorter : behind.length < n := by
          rw [← hn, List.length_append, List.length_cons]
          omega
        obtain ⟨front, hstripped⟩ := ih _ hshorter behind rfl
        rw [strip_of_modifier hm]
        refine ⟨m :: front, congrArg (m ++ ':' :: ·) hstripped.text,
          List.forall_mem_cons.2 ⟨hm, hstripped.known⟩, ?_⟩
        intro front' rest' htext known'
        cases front' with
        | nil => exact Nat.zero_le _
        | cons m' front' =>
          rw [List.forall_mem_cons] at known'
          obtain ⟨-, hbehind⟩ := modified_cons_inj hcolon known'.1.not_colon_mem htext
          exact Nat.succ_le_succ (hstripped.longest front' rest' hbehind known'.2)
      · refine ⟨[], (strip_of_other hcolon hm behind).symm, by simp, ?_⟩
        intro front' rest' htext known'
        cases front' with
        | nil => exact le_rfl
        | cons m' front' =>
          rw [List.forall_mem_cons] at known'
          obtain ⟨rfl, -⟩ := modified_cons_inj hcolon known'.1.not_colon_mem htext
          exact absurd known'.1 hm

theorem isStripped_iff {t rest : Text} : (∃ front, IsStripped t rest front) ↔ strip t = rest := by
  constructor
  · rintro ⟨front, h⟩
    obtain ⟨front', h'⟩ := exists_isStripped t
    have hlength : front'.length = front.length :=
      Nat.le_antisymm (h.longest front' _ h'.text h'.known) (h'.longest front _ h.text h.known)
    exact rest_unique (h'.text.symm.trans h.text) h'.known h.known hlength
  · rintro rfl
    exact exists_isStripped t

theorem isKey_iff {t : Text} : isKey t = true ↔ IsKey t := by
  simp [isKey, IsKey]

theorem isTrigger_iff {t : Text} : isTrigger t = true ↔ IsTrigger t := by
  have hsteps : isTrigger t = true ↔
      ∀ step ∈ (strip t).splitOn '>', ∀ key ∈ step.splitOn '+', IsKey key := by
    simp only [isTrigger, strip, List.all_eq_true, isKey_iff]
  rw [hsteps]
  constructor
  · intro h
    obtain ⟨front, hstripped⟩ := exists_isStripped t
    exact ⟨front, strip t, (strip t).splitOn '>', hstripped, splitsAt_splitOn '>' _,
      fun step hstep => ⟨step.splitOn '+', splitsAt_splitOn '+' step, h step hstep⟩⟩
  · rintro ⟨front, rest, steps, hstripped, hsteps, hkeys⟩ step hstep
    rw [isStripped_iff.1 ⟨front, hstripped⟩, splitsAt_iff.1 hsteps] at hstep
    obtain ⟨keys, hsplits, hall⟩ := hkeys step hstep
    rwa [splitsAt_iff.1 hsplits]

/-! ## Actions -/

theorem isActionStart_iff {c : Char} : isActionStart c = true ↔ IsLetter c := by
  simp [isActionStart, IsLetter]

theorem isActionChar_iff {c : Char} :
    isActionChar c = true ↔ IsLetter c ∨ ('0' ≤ c ∧ c ≤ '9') ∨ c = '_' := by
  simp [isActionChar, isActionStart_iff, or_assoc]

theorem isAction_iff {t : Text} : isAction t = true ↔ IsAction t := by
  cases t with
  | nil => simp [isAction, IsAction]
  | cons first t =>
    rw [isAction, Bool.and_eq_true, isActionStart_iff]
    constructor
    · rintro ⟨hfirst, hrest⟩
      refine ⟨first, t.takeWhile isActionChar, t.dropWhile isActionChar, ?_, hfirst, ?_, ?_⟩
      · rw [List.takeWhile_append_dropWhile]
      · exact fun c hc => isActionChar_iff.1 (List.mem_takeWhile_imp hc)
      · split at hrest
        · next hnil => exact .inl hnil
        · next d argument hcons =>
          rw [Bool.and_eq_true, beq_iff_eq, Bool.not_eq_true', List.contains_eq_mem,
            decide_eq_false_iff_not] at hrest
          exact .inr ⟨argument, by rw [hcons, hrest.1], hrest.2⟩
    · rintro ⟨first', name, rest, heq, hfirst, hname, hrest⟩
      obtain ⟨rfl, rfl⟩ := List.cons.inj heq
      have hskip : (name ++ rest).dropWhile isActionChar = rest.dropWhile isActionChar :=
        List.dropWhile_append_of_pos fun c hc => isActionChar_iff.2 (hname c hc)
      refine ⟨hfirst, ?_⟩
      rw [hskip]
      rcases hrest with rfl | ⟨argument, rfl, hline⟩
      · rfl
      · have hcolon : isActionChar ':' = false := by decide
        simp [hcolon, hline]

/-! ## Bindings -/

theorem not_isTrigger_nil : isTrigger [] = false := by decide

theorem checkKeybind_eq_none {t : Text} : checkKeybind t = none ↔ IsBinding t := by
  unfold checkKeybind
  by_cases hclear : t = "clear".toList
  · rw [if_pos hclear]
    exact ⟨fun _ => .clear hclear, fun _ => rfl⟩
  rw [if_neg hclear]
  cases hcut : cut '=' t with
  | none =>
    constructor
    · intro h
      cases h
    · intro h
      cases h with
      | clear text => exact absurd text hclear
      | bind text _ _ _ => exact absurd (by simp [text]) (cut_eq_none.1 hcut)
  | some parts =>
    obtain ⟨trigger, action⟩ := parts
    simp only []
    have hparts : IsBinding t ↔ IsTrigger trigger.trim ∧ IsAction action.trim := by
      constructor
      · intro h
        cases h with
        | clear text => exact absurd text hclear
        | bind text first isTrigger isAction =>
          rw [cut_eq_some.2 ⟨text, first⟩, Option.some.injEq, Prod.mk.injEq] at hcut
          rw [← hcut.1, ← hcut.2]
          exact ⟨isTrigger, isAction⟩
      · rintro ⟨htrigger, haction⟩
        obtain ⟨text, first⟩ := cut_eq_some.1 hcut
        exact .bind text first htrigger haction
    rw [hparts, ← isTrigger_iff, ← isAction_iff]
    by_cases htrigger : isTrigger trigger.trim = true
    · -- the check has a message of its own for no trigger at all, which is no trigger anyway
      have hne : trigger.trim ≠ [] := by
        intro hnil
        rw [hnil, not_isTrigger_nil] at htrigger
        cases htrigger
      simp [htrigger, hne, rejectUnless_eq_none]
    · simp [htrigger]

end Keybind

namespace Schema

/-- An option for key bindings that has no pattern accepts the values that are key bindings once they
    are trimmed, and no others. -/
theorem accepts_keybind_iff [Interpreter] (s : Schema) (o : OptionDecl) (value : Text)
    (kind : o.type = ValueKind.keybind.name) (plain : o.HasNoPattern) :
    s.Accepts o value ↔ Keybind.IsBinding value.trim := by
  have htype : s.HasType o value ↔ checkKeybind value.trim = none := by
    simp only [HasType, OptionDecl.checkType, kind, ValueKind.ofName?_name, Except.ok.injEq]
  rw [accepts_of_no_pattern plain, htype, Keybind.checkKeybind_eq_none]

def bindings : OptionDecl := { type := "keybind".toList }

/-- A binding with two modifiers and two steps, and an argument that has an equals sign in it. -/
theorem accepts_keybind_iff_steps :
    let value : Text := " all:global:ctrl+a>n = text:a=b\t".toList
    bindings.type = ValueKind.keybind.name ∧ bindings.HasNoPattern ∧
      fallback.Accepts bindings value ∧ Keybind.IsBinding value.trim := by
  intro value
  have hplain : bindings.HasNoPattern := .inl rfl
  have haccepted : fallback.Accepts bindings value := by
    rw [Accepts]
    decide +kernel
  exact ⟨rfl, hplain, haccepted, (accepts_keybind_iff fallback bindings value rfl hplain).1 haccepted⟩

end Schema
end ConfigLint
