import Mathlib.Data.List.Perm.Basic
import ConfigLint.Proofs.Duplicates
/-!
What a check reads of its schema. A document mentions the keys of its key/value lines, and a check
asks the schema about these keys only: for the option of the key, for the declaration of the
option's type, and whether the key may be repeated.

What is proved:
  1. `checkLine_congr` and `checkDuplicates_congr`: two schemas that say the same about the keys of
     the lines come to the same verdicts, faults included, and report the same repeated keys.
  2. `checkDocument_congr`: so they make the same report of a document, its records included. Nor
     does it matter in which order a schema declares things, or what else it declares.
-/
namespace ConfigLint

/-- The document has a key/value line with this key. -/
def Mentions (text key : Text) : Prop :=
  ∃ line ∈ readDocument text, line.kind = .keyValue ∧ line.key = some key

/-- Two schemas say the same about a key. -/
structure AgreeOn (s s' : Schema) (key : Text) : Prop where
  option : s.lookup key = s'.lookup key
  repeatable : s.isRepeatable key = s'.isRepeatable key
  type : ∀ o, s.lookup key = some o → s.types.get? o.type = s'.types.get? o.type

/-- The schema `s'` declares what `s` declares, in any order, and beside it options and types that
    the document does not use: those of other keys, and those that no option of its keys has. -/
structure Enlarges (s s' : Schema) (text : Text) : Prop where
  options : ∃ more, s'.options.entries.Perm (s.options.entries ++ more) ∧
    ∀ key, Mentions text key → CodeText.ofText key ∉ more.map Prod.fst
  types : ∃ more, s'.types.entries.Perm (s.types.entries ++ more) ∧
    ∀ key o, Mentions text key → s.lookup key = some o → o.type ∉ more.map Prod.fst
  repeatableKeys : s'.repeatableKeys.Perm s.repeatableKeys

/-! ## Tables with the same entries -/

namespace Table

variable {κ α : Type} [DecidableEq κ]

/-- What a table is asked for does not depend on the order of its entries, nor on entries under
    other names. -/
theorem get?_of_perm {t t' : Table κ α} {more : List (κ × α)} {name : κ}
    (h : t'.entries.Perm (t.entries ++ more)) (hname : name ∉ more.map Prod.fst) :
    t'.get? name = t.get? name := by
  apply Option.ext
  intro value
  have hmore : (name, value) ∉ more := fun hmem => hname (List.mem_map_of_mem hmem)
  rw [get?_eq_some, get?_eq_some, h.mem_iff, List.mem_append]
  exact or_iff_left hmore

end Table

theorem Enlarges.agreeOn {s s' : Schema} {text key : Text} (h : Enlarges s s' text)
    (hkey : Mentions text key) : AgreeOn s s' key := by
  obtain ⟨moreOptions, hoptions, hunused⟩ := h.options
  obtain ⟨moreTypes, htypes, hunusedType⟩ := h.types
  have hlookup : s.lookup key = s'.lookup key :=
    (Table.get?_of_perm hoptions (hunused key hkey)).symm
  refine ⟨hlookup, ?_, ?_⟩
  · have hlisted : s.repeatableKeys.contains (CodeText.ofText key) =
        s'.repeatableKeys.contains (CodeText.ofText key) := by
      rw [Bool.eq_iff_iff, List.contains_iff_mem, List.contains_iff_mem, h.repeatableKeys.mem_iff]
    rw [Schema.isRepeatable, Schema.isRepeatable, hlisted, hlookup]
  · intro o ho
    exact (Table.get?_of_perm htypes (hunusedType key o hkey ho)).symm

namespace Schema

section
variable {s s' : Schema} {options : CheckOptions}

/-! ## One line -/

theorem checkOption_congr [Interpreter] {o : OptionDecl}
    (h : s.types.get? o.type = s'.types.get? o.type)
    (value : Text) : s.checkOption o value = s'.checkOption o value := by
  rw [checkOption, checkOption, h]

theorem checkKnown_congr [Interpreter] {o : OptionDecl}
    (h : s.types.get? o.type = s'.types.get? o.type) (line : Line) (key : Text) :
    s.checkKnown options line key o = s'.checkKnown options line key o := by
  have hvalue : s.checkValue o line = s'.checkValue o line := by
    simp only [checkValue, checkOption_congr h]
  simp only [checkKnown, hvalue]

theorem checkLine_congr [Interpreter] {line : Line}
    (h : ∀ key, line.key? = some key → AgreeOn s s' key) :
    s.checkLine options line = s'.checkLine options line := by
  by_cases hkind : line.kind = .invalid
  · simp only [checkLine, if_pos hkind]
  cases hkey : line.key? with
  | none => simp only [checkLine, hkey]
  | some key =>
    have hagree := h key hkey
    have hlookup := hagree.option
    cases known : s.lookup key with
    | none =>
      rw [known] at hlookup
      simp only [checkLine, hkey, known, ← hlookup]
    | some o =>
      rw [known] at hlookup
      simp only [checkLine, hkey, known, ← hlookup, checkKnown_congr (hagree.type o known)]

/-! ## Many lines -/

variable {lines : List Line}

theorem checkLines_congr [Interpreter]
    (h : ∀ line ∈ lines, ∀ key, line.key? = some key → AgreeOn s s' key) :
    s.checkLines options lines = s'.checkLines options lines := by
  rw [checkLines, checkLines]
  apply List.flatMap_congr
  intro line hline
  rw [checkLine_congr (h line hline)]

theorem skippedLines_congr [Interpreter]
    (h : ∀ line ∈ lines, ∀ key, line.key? = some key → AgreeOn s s' key) :
    s.skippedLines options lines = s'.skippedLines options lines := by
  rw [skippedLines, skippedLines]
  apply List.filterMap_congr
  intro line hline
  rw [checkLine_congr (h line hline)]

theorem checkDuplicates_congr
    (h : ∀ line ∈ lines, ∀ key, line.key? = some key → AgreeOn s s' key) :
    s.checkDuplicates lines = s'.checkDuplicates lines := by
  rw [checkDuplicates_eq, checkDuplicates_eq]
  apply List.flatMap_congr
  intro key hkey
  -- a key that has a group is the key of some line
  obtain ⟨line, hline, hset⟩ := List.mem_filterMap.1 (List.mem_eraseDups.1 hkey)
  rw [(h line hline key hset).repeatable]

end

/-! ## Whole documents -/

/-- The report of a document, its records included, depends on what the schema says about the keys
    that the document mentions. The order of options, types and repeatable keys has no effect, nor
    have options and types that the document does not use. -/
theorem checkDocument_congr [Interpreter] (options : CheckOptions) (text : Text) (s s' : Schema) :
    ((∀ key, Mentions text key → AgreeOn s s' key) →
      s.checkDocument options text = s'.checkDocument options text) ∧
    (Enlarges s s' text → s.checkDocument options text = s'.checkDocument options text) := by
  have hcongr : (∀ key, Mentions text key → AgreeOn s s' key) →
      s.checkDocument options text = s'.checkDocument options text := by
    intro hagree
    have hlines : ∀ line ∈ readDocument text, ∀ key, line.key? = some key → AgreeOn s s' key := by
      intro line hline key hkey
      obtain ⟨hkind, hkey, -⟩ := Line.key?_eq_some.1 hkey
      exact hagree key ⟨line, hline, hkind, hkey⟩
    simp only [checkDocument, checkLines_congr hlines, skippedLines_congr hlines,
      checkDuplicates_congr hlines]
  exact ⟨hcongr, fun h => hcongr fun key hkey => h.agreeOn hkey⟩

/-- A schema that declares an option of a type of its own, and one that is a number. -/
def sparseSchema : Schema :=
  { options := ⟨[(CodeText.ofText "mode".toList, { type := CodeText.ofText "choice".toList }),
      (CodeText.ofText "size".toList, { type := CodeText.ofText "number".toList })], by decide⟩
    types := ⟨[(CodeText.ofText "choice".toList, { values := [CodeText.ofText "on".toList] })],
      by decide⟩
    repeatableKeys := [CodeText.ofText "size".toList, CodeText.ofText "tag".toList] }

/-- The schema in another order, with one more option and one more type. -/
def ampleSchema : Schema :=
  { options := ⟨[(CodeText.ofText "page".toList, { deprecated := true }),
      (CodeText.ofText "size".toList, { type := CodeText.ofText "number".toList }),
      (CodeText.ofText "mode".toList, { type := CodeText.ofText "choice".toList })], by decide⟩
    types := ⟨[(CodeText.ofText "level".toList, { values := [CodeText.ofText "off".toList] }),
      (CodeText.ofText "choice".toList, { values := [CodeText.ofText "on".toList] })], by decide⟩
    repeatableKeys := [CodeText.ofText "tag".toList, CodeText.ofText "size".toList] }

/-- A wrong value of the declared type, a key that neither schema knows, and a repeated key. -/
theorem checkDocument_congr_ample :
    let text := "mode = off\ntag = 1\nmode = on".toList
    Enlarges sparseSchema ampleSchema text ∧
      (sparseSchema.checkDocument {} text).diagnostics.map Diagnostic.code =
        [.invalidValue, .unknownKey, .duplicateKey] ∧
      sparseSchema.checkDocument {} text = ampleSchema.checkDocument {} text := by
  intro text
  have hkeys : ∀ key, Mentions text key → key = "mode".toList ∨ key = "tag".toList := by
    have hlines : ∀ line ∈ readDocument text,
        line.key = some "mode".toList ∨ line.key = some "tag".toList := by decide +kernel
    rintro key ⟨line, hline, -, hkey⟩
    simpa [hkey] using hlines line hline
  have h : Enlarges sparseSchema ampleSchema text := by
    -- the entries of the one are those of the other from the back
    refine ⟨⟨ampleSchema.options.entries.take 1, ?_, ?_⟩, ⟨ampleSchema.types.entries.take 1, ?_, ?_⟩,
      List.reverse_perm sparseSchema.repeatableKeys⟩
    · exact List.reverse_perm (sparseSchema.options.entries ++ ampleSchema.options.entries.take 1)
    · intro key hkey
      rcases hkeys key hkey with rfl | rfl <;> decide
    · exact List.reverse_perm (sparseSchema.types.entries ++ ampleSchema.types.entries.take 1)
    · intro key o hkey ho
      rcases hkeys key hkey with rfl | rfl
      · obtain rfl := Option.some.inj ho
        decide
      · cases ho
  exact ⟨h, by decide +kernel, (checkDocument_congr {} text sparseSchema ampleSchema).2 h⟩

end Schema
end ConfigLint
