import Mathlib.Data.List.Sort
import ConfigLint.Assist
/-!
Completing keys. A completion stands for an option of the schema; `Completes` says which options
are meant. They are listed in the order of their names, by code point.

What is proved:
  1. `atMost_iff`: the comparison by which completions are sorted is that of the lexicographic order
     of the code points, and any two names can be compared.
  2. `pairwise_completeKeys`: no two options of a schema have the same name, so the completions are
     in strict order.
  3. `mem_completeKeys`: they stand for the options that are meant and for no others.
  4. `completeKeys_exact`: a list in strict order is determined by what is in it. So the order in
     which a schema declares its options does not matter, and without the deprecated ones the
     others keep their order.
-/
namespace ConfigLint

/-! ## The order of names -/

theorem CodePoint.toNat_surrogate_ne (offset : Fin 0x800) (c : Char) :
    (surrogate offset).toNat ≠ (char c).toNat := by
  intro h
  have hvalid : c.toNat < 0xD800 ∨ (0xDFFF < c.toNat ∧ c.toNat < 0x110000) := c.valid
  simp only [toNat] at h
  omega

theorem CodePoint.toNat_injective : Function.Injective toNat := by
  intro c d h
  cases c with
  | char c =>
    cases d with
    | char d => rw [Char.toNat_inj.1 h]
    | surrogate j => exact absurd h.symm (toNat_surrogate_ne j c)
  | surrogate i =>
    cases d with
    | char d => exact absurd h (toNat_surrogate_ne i d)
    | surrogate j =>
      simp only [toNat] at h
      rw [Fin.ext (show i.val = j.val by omega)]

namespace CodeText

/-- The order of texts: where two of them first differ, the one with the lower code point comes
    before, or the one that ends there. -/
def Before : CodeText → CodeText → Prop := List.Lex fun c d => c.toNat < d.toNat

theorem Before.trans {r s t : CodeText} (h : Before r s) (h' : Before s t) : Before r t :=
  List.lex_trans Nat.lt_trans h h'

theorem Before.asymm {s t : CodeText} (h : Before s t) : ¬ Before t s :=
  List.lex_asymm Nat.lt_asymm h

theorem atMost_iff {s t : CodeText} : atMost s t = true ↔ s = t ∨ Before s t := by
  induction s generalizing t with
  | nil =>
    cases t with
    | nil => simp [atMost]
    | cons d t => simp [atMost, Before]
  | cons c s ih =>
    cases t with
    | nil => simp [atMost, Before]
    | cons d t =>
      simp only [atMost, Bool.or_eq_true, Bool.and_eq_true, decide_eq_true_eq, beq_iff_eq, ih,
        List.cons.injEq]
      refine ⟨?_, ?_⟩
      · intro h
        rcases h with hlower | ⟨hnumber, hsame | hrest⟩
        · exact .inr (.rel hlower)
        · exact .inl ⟨CodePoint.toNat_injective hnumber, hsame⟩
        · rw [CodePoint.toNat_injective hnumber]
          exact .inr (.cons hrest)
      · intro h
        rcases h with ⟨hc, hsame⟩ | hbefore
        · exact .inr ⟨congrArg CodePoint.toNat hc, .inl hsame⟩
        · cases hbefore with
          | rel hlower => exact .inl hlower
          | cons hrest => exact .inr ⟨rfl, .inr hrest⟩

theorem atMost_trans {r s t : CodeText} (h : atMost r s = true) (h' : atMost s t = true) :
    atMost r t = true := by
  rw [atMost_iff] at h h' ⊢
  rcases h with hsame | hbefore
  · rwa [hsame]
  · rcases h' with hsame | hbefore'
    · rw [← hsame]
      exact .inr hbefore
    · exact .inr (hbefore.trans hbefore')

theorem atMost_total (s t : CodeText) : (atMost s t || atMost t s) = true := by
  induction s generalizing t with
  | nil => simp [atMost]
  | cons c s ih =>
    cases t with
    | nil => simp [atMost]
    | cons d t =>
      have hrest : atMost s t = true ∨ atMost t s = true := by simpa using ih t
      simp only [atMost, Bool.or_eq_true, Bool.and_eq_true, decide_eq_true_eq, beq_iff_eq]
      rcases Nat.lt_trichotomy c.toNat d.toNat with hlower | hsame | hhigher
      · exact .inl (.inl hlower)
      · rcases hrest with hst | hts
        · exact .inl (.inr ⟨hsame, hst⟩)
        · exact .inr (.inr ⟨hsame.symm, hts⟩)
      · exact .inr (.inl hhigher)

end CodeText

/-- The name of `c` comes before that of `d`. -/
def KeyCompletion.Before (c d : KeyCompletion) : Prop := CodeText.Before c.name d.name

instance : Std.Asymm KeyCompletion.Before := ⟨fun _ _ h => CodeText.Before.asymm h⟩

namespace Schema

/-- A completion stands for the option under its name, with its type. The name starts with the
    trimmed text, and the option is not deprecated unless deprecated ones are asked for. -/
def Completes (s : Schema) (start : Text) (withDeprecated : Bool) (c : KeyCompletion) : Prop :=
  ∃ o, s.options.get? c.name = some o ∧ CodeText.ofText start.trim <+: c.name ∧
    (o.deprecated = false ∨ withDeprecated = true) ∧ c.type = o.type ∧
    c.deprecated = o.deprecated

section
variable {s s' : Schema} {start : Text} {withDeprecated : Bool} {c : KeyCompletion}

/-! ## The list of completions -/

/-- The completions stand for the options that are meant, and for no others. -/
theorem mem_completeKeys :
    c ∈ s.completeKeys start withDeprecated ↔ s.Completes start withDeprecated c := by
  simp only [completeKeys, List.mem_mergeSort, List.mem_map, List.mem_filter, Bool.and_eq_true,
    Bool.or_eq_true, List.isPrefixOf_iff_prefix, Bool.not_eq_eq_eq_not, Bool.not_true]
  constructor
  · intro h
    obtain ⟨⟨name, o⟩, ⟨hentry, hstart, hasked⟩, heq⟩ := h
    rw [← heq]
    exact ⟨o, Table.get?_eq_some.2 hentry, hstart, hasked.symm, rfl, rfl⟩
  · intro h
    obtain ⟨o, hentry, hstart, hasked, htype, hdeprecated⟩ := h
    refine ⟨(c.name, o), ⟨Table.get?_eq_some.1 hentry, hstart, hasked.symm⟩, ?_⟩
    rw [← htype, ← hdeprecated]

theorem nodup_names_completeKeys (s : Schema) (start : Text) (withDeprecated : Bool) :
    ((s.completeKeys start withDeprecated).map KeyCompletion.name).Nodup := by
  rw [completeKeys, ((List.mergeSort_perm _ _).map KeyCompletion.name).nodup_iff, List.map_map]
  exact s.options.distinct.sublist (List.filter_sublist.map Prod.fst)

theorem pairwise_completeKeys (s : Schema) (start : Text) (withDeprecated : Bool) :
    (s.completeKeys start withDeprecated).Pairwise KeyCompletion.Before := by
  have hsorted : (s.completeKeys start withDeprecated).Pairwise
      fun a b => CodeText.atMost a.name b.name = true := by
    apply List.pairwise_mergeSort
    · exact fun a b c => CodeText.atMost_trans
    · exact fun a b => CodeText.atMost_total a.name b.name
  have hdistinct := List.pairwise_map.1 (nodup_names_completeKeys s start withDeprecated)
  apply (hsorted.and hdistinct).imp
  intro a b hab
  exact (CodeText.atMost_iff.1 hab.1).resolve_left hab.2

/-! ## Other lists of the same options -/

theorem Completes.of_perm (h : s'.options.entries.Perm s.options.entries) :
    s'.Completes start withDeprecated c ↔ s.Completes start withDeprecated c := by
  simp only [Completes, Table.get?_eq_some, h.mem_iff]

theorem Completes.with_deprecated (h : s.Completes start false c) : s.Completes start true c := by
  obtain ⟨o, hknown, hstart, -, htype, hdeprecated⟩ := h
  exact ⟨o, hknown, hstart, .inr rfl, htype, hdeprecated⟩

end

/-- The completions of a text are in strict order of their names, so each name is there once. A
    completion is there just if the schema has an option of its name and type that starts with the
    trimmed text, and that is not deprecated unless deprecated ones are asked for. A schema with the
    same options in another order completes the text alike. Without the deprecated ones, the
    completions are some of those with them, in the same order. -/
theorem completeKeys_exact (s : Schema) (start : Text) :
    (∀ withDeprecated,
      ((s.completeKeys start withDeprecated).map KeyCompletion.name).Pairwise CodeText.Before ∧
      ((s.completeKeys start withDeprecated).map KeyCompletion.name).Nodup ∧
      (∀ c, c ∈ s.completeKeys start withDeprecated ↔ s.Completes start withDeprecated c) ∧
      ∀ s' : Schema, s'.options.entries.Perm s.options.entries →
        s'.completeKeys start withDeprecated = s.completeKeys start withDeprecated) ∧
    (s.completeKeys start false).Sublist (s.completeKeys start true) := by
  refine ⟨?_, ?_⟩
  · intro withDeprecated
    have hordered := pairwise_completeKeys s start withDeprecated
    refine ⟨List.pairwise_map.2 hordered, nodup_names_completeKeys s start withDeprecated,
      fun c => mem_completeKeys, ?_⟩
    intro s' hperm
    apply (pairwise_completeKeys s' start withDeprecated).eq_of_mem_iff hordered
    intro c
    rw [mem_completeKeys, mem_completeKeys, Completes.of_perm hperm]
  · have hordered := pairwise_completeKeys s start false
    have hsome : s.completeKeys start false ⊆ s.completeKeys start true := by
      intro c hc
      rw [mem_completeKeys] at hc ⊢
      exact hc.with_deprecated
    apply List.sublist_of_subperm_of_pairwise _ hordered (pairwise_completeKeys s start true)
    exact List.subperm_of_subset hordered.nodup hsome

/-- A deprecated option and one with a longer name that is declared first, and the same two the
    other way round. -/
theorem completeKeys_exact_swapped :
    let long : CodeText × OptionDecl := ("font-size".toList, { type := "number".toList })
    let short : CodeText × OptionDecl := ("font".toList, { deprecated := true })
    let s : Schema := { options := ⟨[long, short], by decide⟩ }
    let s' : Schema := { options := ⟨[short, long], by decide⟩ }
    let c : KeyCompletion := ⟨"font".toList, "string".toList, true⟩
    s'.options.entries.Perm s.options.entries ∧
      s'.completeKeys " font".toList true = s.completeKeys " font".toList true ∧
      c ∈ s.completeKeys " font".toList true ∧ c ∉ s.completeKeys " font".toList false := by
  intro long short s s' c
  have hperm : s'.options.entries.Perm s.options.entries := List.Perm.swap long short []
  obtain ⟨hexact, -⟩ := completeKeys_exact s " font".toList
  obtain ⟨-, -, hwith, hsame⟩ := hexact true
  obtain ⟨-, -, hwithout, -⟩ := hexact false
  refine ⟨hperm, hsame s' hperm, (hwith c).2 ?_, mt (hwithout c).1 ?_⟩
  · exact ⟨short.2, rfl, by decide +kernel, .inr rfl, rfl, rfl⟩
  · intro h
    obtain ⟨o, hknown, -, hasked, -⟩ := h
    obtain rfl : short.2 = o := Option.some.inj hknown
    rcases hasked with hasked | hasked <;> cases hasked

end Schema
end ConfigLint
