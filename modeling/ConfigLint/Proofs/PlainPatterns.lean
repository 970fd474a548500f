import Mathlib.Algebra.Group.Action.Defs
import Mathlib.Algebra.Order.BigOperators.Group.List
import Mathlib.Algebra.Order.Group.Nat
import ConfigLint.Pattern.Parser
import ConfigLint.Proofs.Acceptance
import ConfigLint.Proofs.Leads
import ConfigLint.Proofs.Marks
import ConfigLint.Proofs.Trials
/-!
Plain patterns: characters, one behind the other, alternatives, and repetitions that may go back. Of these
it can be said without a trial which texts they stand for. A trial tries the ways through a text one by one
and leaves out some that cannot succeed, by the part that a pattern starts with or that stands behind it.

What is proved:
  1. `takesAt_of_lead`: what is left out cannot succeed.
  2. `decides_run`: a run of a plain pattern comes to what its texts lead to, by induction on the pattern.
  3. `width_le`: the least width of a pattern is one, so no text of it is passed over as too short.
  4. `patternTakes_iff`: so a plain pattern takes the texts that it stands for.
-/
namespace ConfigLint
namespace Pattern

def isPlain : Pattern → Bool
  | nothing | never | letter _ => true
  | seq a b | either a b => a.isPlain && b.isPlain
  | scope a => a.isPlain
  | loop greed least most a => greed ≠ .possessive && most.all (least ≤ ·) && a.isPlain
  | _ => false

/-- The texts that a plain pattern stands for. -/
def language : Pattern → Language Char
  | nothing => 1
  | letter l => l.texts
  | seq a b => a.language * b.language
  | either a b => a.language + b.language
  | scope a => a.language
  | loop _ least most a => between a.language least most
  | _ => 0

section
variable {t : Array Char} {p : Pattern} {l : Letter} {ok : Nat → Prop} {next : Next}
  {follow : Option Letter}

/-- A text that a pattern leads through starts with the part that the pattern starts with. -/
theorem takesAt_of_lead (hfollow : Starts t follow ok) :
    Starts t (p.lead? follow) (Reaches t p.language ok) := by
  induction p generalizing follow ok with
  | nothing =>
    intro l hl place hreaches
    exact hfollow l hl place (reaches_one.1 hreaches)
  | letter l =>
    rintro _ ⟨⟩ place hreaches
    exact (reaches_letter.1 hreaches).1
  | seq a b iha ihb =>
    intro l hl place hreaches
    exact iha (ihb hfollow) l hl place (reaches_mul.1 hreaches)
  | scope a ih => exact ih hfollow
  | _ => rintro l ⟨⟩

theorem language_of_single (h : p.single? = some l) : p.language = l.texts := by
  induction p with
  | letter l =>
    cases h
    rfl
  | seq a b iha ihb =>
    cases b with
    | nothing =>
      rw [language, language, mul_one]
      exact iha h
    | _ => cases h
  | scope a ih => exact ih h
  | _ => cases h

theorem decides_run (hp : p.isPlain = true) (inLoop : Bool) (hnext : Decides next ok)
    (hfollow : Starts t follow ok) :
    Decides (fun place m => run t p inLoop follow place m next) (Reaches t p.language ok) := by
  induction p generalizing inLoop follow next ok with
  | nothing =>
    intro place m
    rw [language, reaches_one]
    exact hnext place m
  | never => exact fun place m => iff_of_false Bool.false_ne_true reaches_zero
  | letter l =>
    intro place m
    rw [language, reaches_letter]
    show (if takesAt t l place then next (place + 1) m else failed m).taken = true ↔ _
    split
    · next htaken => rw [hnext _ _, and_iff_right htaken]
    · next hother => exact iff_of_false Bool.false_ne_true fun h => hother h.1
  | seq a b iha ihb =>
    rw [isPlain, Bool.and_eq_true] at hp
    intro place m
    rw [language, reaches_mul]
    exact iha hp.1 inLoop (ihb hp.2 inLoop hnext hfollow) (takesAt_of_lead hfollow) place m
  | either a b iha ihb =>
    rw [isPlain, Bool.and_eq_true] at hp
    intro place m
    rw [language, reaches_add]
    show (run t (either a b) inLoop follow place m next).taken = true ↔ _
    unfold run
    split
    · next hskip =>
      -- the first alternative is left out: what it starts with is not there
      obtain ⟨l, hl, hother⟩ := (Option.any_eq_true _ _).1 hskip
      rw [Bool.and_eq_true, Bool.not_eq_true'] at hother
      have hout : ¬ Reaches t a.language ok place := by
        intro hreaches
        have htaken := takesAt_of_lead starts_none l hl place hreaches
        rw [hother.2] at htaken
        cases htaken
      rw [or_iff_right hout]
      exact ihb hp.2 inLoop hnext starts_none place m
    · rw [Outcome.taken_orElse]
      exact or_congr (iha hp.1 inLoop hnext starts_none place _)
        (ihb hp.2 inLoop hnext starts_none place _)
  | scope a ih => exact ih hp inLoop hnext hfollow
  | loop greed least most a ih =>
    simp only [isPlain, Bool.and_eq_true, decide_eq_true_eq, Option.all_eq_true] at hp
    obtain ⟨⟨hgreed, hlimits⟩, ha⟩ := hp
    intro place m
    rw [language]
    show (run t (loop greed least most a) inLoop follow place m next).taken = true ↔ _
    unfold run
    split
    · next l hl =>
      rw [language_of_single hl]
      exact decides_runLetters hlimits hnext hfollow inLoop hgreed place m
    · -- inside of the rounds nothing is known of what stands behind
      have hbody : Traverses t a.language (run t a true none) := fun next ok hnext =>
        ih ha true hnext starts_none
      rw [← repeats_iff hlimits]
      cases greed with
      | greedy => exact decides_runGreedy hbody hnext place m
      | lazy => exact decides_runLazy hbody hnext inLoop place m
      | possessive => exact absurd rfl hgreed
  | _ => cases hp

theorem hasGroup_of_isPlain (hp : p.isPlain = true) : p.hasGroup = false := by
  induction p with
  | nothing | never | letter l => rfl
  | seq a b iha ihb | either a b iha ihb =>
    rw [isPlain, Bool.and_eq_true] at hp
    rw [hasGroup, iha hp.1, ihb hp.2]
    rfl
  | scope a ih => exact ih hp
  | loop greed least most a ih =>
    rw [isPlain, Bool.and_eq_true] at hp
    exact ih hp.2
  | _ => cases hp

theorem width_le {u : Text} (groups : List (Nat × Width)) (hu : u ∈ p.language) :
    (p.width groups).least ≤ u.length := by
  induction p generalizing u with
  | nothing => exact Nat.zero_le _
  | letter l =>
    obtain ⟨c, rfl, -⟩ := hu
    exact le_rfl
  | seq a b iha ihb =>
    obtain ⟨v, hv, w, hw, rfl⟩ := Language.mem_mul.1 hu
    rw [List.length_append]
    exact Nat.add_le_add (iha hv) (ihb hw)
  | either a b iha ihb =>
    rcases (Language.mem_add _ _ _).1 hu with hu | hu
    · exact (Nat.min_le_left _ _).trans ((Nat.min_le_left _ _).trans (iha hu))
    · exact (Nat.min_le_right _ _).trans (ihb hu)
  | scope a ih => exact (Nat.min_le_left _ _).trans (ih hu)
  | loop greed least most a ih =>
    obtain ⟨n, hleast, -, hn⟩ := hu
    obtain ⟨us, rfl, rfl, hus⟩ := Language.mem_pow.1 hn
    have hwidth : ∀ n ∈ us.map List.length, (a.width groups).cap.least ≤ n := by
      intro n hn
      obtain ⟨v, hv, rfl⟩ := List.mem_map.1 hn
      exact (Nat.min_le_left _ _).trans (ih (hus v hv))
    have hsum := List.card_nsmul_le_sum _ _ hwidth
    rw [List.length_map, smul_eq_mul, Nat.mul_comm] at hsum
    rw [List.length_flatten]
    exact (Nat.mul_le_mul_left _ hleast).trans hsum
  | _ => exact absurd hu (Language.notMem_zero u)

end

/-! ## Texts of patterns -/

section
variable {t : Text} {l : Letter} {L : Language Char} {least n : Nat} {most : Option Nat}

theorem mem_pow_texts : t ∈ l.texts ^ n ↔ t.length = n ∧ ∀ c ∈ t, l.takes c = true := by
  induction n generalizing t with
  | zero =>
    rw [pow_zero, Language.mem_one, List.length_eq_zero_iff]
    constructor
    · rintro rfl
      simp
    · exact And.left
  | succ n ih =>
    rw [pow_succ', Language.mem_mul]
    constructor
    · rintro ⟨_, ⟨c, rfl, hc⟩, u, hu, rfl⟩
      obtain ⟨hlength, htakes⟩ := ih.1 hu
      exact ⟨congrArg Nat.succ hlength, List.forall_mem_cons.2 ⟨hc, htakes⟩⟩
    · rintro ⟨hlength, htakes⟩
      cases t with
      | nil => cases hlength
      | cons c u =>
        rw [List.forall_mem_cons] at htakes
        exact ⟨[c], ⟨c, rfl, htakes.1⟩, u, ih.2 ⟨Nat.succ.inj hlength, htakes.2⟩, rfl⟩

theorem mem_between_texts : t ∈ between l.texts least most ↔
    least ≤ t.length ∧ (∀ k ∈ most, t.length ≤ k) ∧ ∀ c ∈ t, l.takes c = true := by
  constructor
  · rintro ⟨n, hleast, hmost, ht⟩
    obtain ⟨rfl, htakes⟩ := mem_pow_texts.1 ht
    exact ⟨hleast, hmost, htakes⟩
  · rintro ⟨hleast, hmost, htakes⟩
    exact ⟨t.length, hleast, hmost, mem_pow_texts.2 ⟨rfl, htakes⟩⟩

theorem mem_optional : t ∈ between L 0 (some 1) ↔ t = [] ∨ t ∈ L := by
  constructor
  · rintro ⟨n, -, hmost, ht⟩
    rcases Nat.le_one_iff_eq_zero_or_eq_one.1 (hmost 1 rfl) with rfl | rfl
    · exact .inl ht
    · exact .inr (pow_one L ▸ ht)
  · rintro (rfl | ht)
    · exact ⟨0, Nat.le_refl 0, by simp, Language.nil_mem_one⟩
    · exact ⟨1, Nat.zero_le 1, by simp, (pow_one L).symm ▸ ht⟩

theorem language_ofList (ps : List Pattern) : (ofList ps).language = (ps.map language).prod := by
  induction ps with
  | nil => rfl
  | cons p ps ih =>
    rw [List.map_cons, List.prod_cons, ← ih]
    rfl

theorem language_ofList_singleton (p : Pattern) : (ofList [p]).language = p.language := by
  rw [language_ofList, List.map_singleton, List.prod_singleton]

theorem mem_ofAlternatives {ps : List Pattern} :
    t ∈ (ofAlternatives ps).language ↔ ∃ p ∈ ps, t ∈ p.language := by
  induction ps with
  | nil => simp [ofAlternatives, language]
  | cons p ps ih =>
    have hcons : ofAlternatives (p :: ps) = either p (ofAlternatives ps) := rfl
    rw [hcons, language, Language.mem_add, ih, List.exists_mem_cons_iff]

/-- The part that takes one character, and no other. -/
def exactly (c : Char) : Letter := .ofTest {} (.code false c.toNat)

theorem takes_exactly {c d : Char} : (exactly c).takes d = true ↔ d = c := by
  show ((d.toNat == c.toNat) != false) = true ↔ _
  simp [Char.toNat_inj]

theorem mem_texts_exactly {c : Char} : t ∈ (exactly c).texts ↔ t = [c] := by
  constructor
  · rintro ⟨d, rfl, hd⟩
    rw [takes_exactly.1 hd]
  · rintro rfl
    exact ⟨c, rfl, takes_exactly.2 rfl⟩

/-- The part that takes the characters of a kind. -/
def ofKind (k : CharKind) : Letter := .ofTest {} (.set false [.kind k false])

theorem takes_ofKind {k : CharKind} {c : Char} : (ofKind k).takes c = k.holds false c := by
  simp [ofKind, Letter.ofTest, Letter.takes, SetItem.takes]

theorem mem_word {u : Text} : t ∈ (ofList (u.map (letter <| exactly ·))).language ↔ t = u := by
  rw [language_ofList, List.map_map]
  induction u generalizing t with
  | nil => rfl
  | cons c u ih =>
    rw [List.map_cons, List.prod_cons, Language.mem_mul]
    constructor
    · rintro ⟨v, hv, w, hw, rfl⟩
      rw [mem_texts_exactly.1 hv, ih.1 hw]
      rfl
    · rintro rfl
      exact ⟨[c], mem_texts_exactly.2 rfl, u, ih.2 rfl, rfl⟩

end

/-! ## Patterns that are read -/

theorem leads_any {σ ε α : Type} (I : σ → Prop) (m : StateT σ (Except ε) α) :
    Leads (fun _ => True) I m fun _ _ => True := by
  intro s _
  split <;> trivial

theorem leads_readAll_least : Leads (fun _ => True) (fun _ => True) readAll
    fun p _ => ∃ groups, p.least ≤ (p.body.width groups).least := by
  unfold readAll
  refine Leads.bind (leads_any _ _) fun _ => Leads.bind (leads_any _ _) fun _ => ?_
  refine Leads.bind (leads_any _ _) fun _ => Leads.bind (leads_any _ _) fun letters => ?_
  refine Leads.bind (leads_any _ _) fun parts => ?_
  extract_lets p rest
  have hrest : Leads (fun _ => True) (fun _ => True) (rest ())
      fun p _ => ∃ groups, p.least ≤ (p.body.width groups).least := by
    refine Leads.get_bind fun s _ => Leads.ite (Leads.throw_bind trivial) ?_
    exact Leads.pure fun _ _ => ⟨s.widths, Nat.min_le_left _ _⟩
  split
  · exact Leads.throw_bind trivial
  · exact hrest

/-- A pattern that was read asks for no more characters than its least width. -/
theorem least_of_ofText {pattern : CodeText} {p : TextPattern} (h : ofText pattern = .ok p) :
    ∃ groups, p.least ≤ (p.body.width groups).least := by
  have hread := leads_readAll_least { rest := Token.ofText pattern } trivial
  unfold ofText StateT.run' at h
  cases hout : readAll { rest := Token.ofText pattern } with
  | error e =>
    rw [hout] at h
    cases h
  | ok p' =>
    rw [hout] at h hread
    rw [← Except.ok.inj h]
    exact hread

end Pattern

open Pattern

section
variable {pattern : CodeText} {p : TextPattern} {t : Text}

theorem TextPattern.tryAll_eq_taken {groups : List (Nat × Width)} (plain : p.body.isPlain = true)
    (hleast : p.least ≤ (p.body.width groups).least) :
    p.tryAll t = .taken ↔ t ∈ p.body.language := by
  have hreversed : p.tryAll t ≠ .reversedGroup := by
    intro h
    have hgroup := hasGroup_of_reversedGroup h
    rw [hasGroup_of_isPlain plain] at hgroup
    cases hgroup
  unfold tryAll at hreversed ⊢
  extract_lets chars outcome at hreversed
  extract_lets
  have houtcome : outcome.taken = true ↔ t ∈ p.body.language := by
    rw [← reaches_end]
    refine decides_run plain false ?_ starts_none 0 ⟨0, []⟩
    intro place m
    dsimp only
    split
    · next hend => exact iff_of_true rfl hend
    · next hmore => exact iff_of_false Bool.false_ne_true hmore
  split
  · next hshort =>
    have hout : t ∉ p.body.language := fun ht =>
      Nat.not_le.2 hshort (hleast.trans (width_le groups ht))
    simp [hout]
  · next hfits =>
    rw [if_neg hfits] at hreversed
    rw [← houtcome]
    cases htaken : outcome.taken with
    | false => simp
    | true =>
      cases hreverse : outcome.memory.hasReversed with
      | false => simp
      | true => simp [htaken, hreverse] at hreversed

/-- A plain pattern takes the texts that it stands for. -/
theorem patternTakes_iff (read : Pattern.ofText pattern = .ok p) (plain : p.body.isPlain = true) :
    PatternTakes pattern t ↔ t ∈ p.body.language := by
  obtain ⟨groups, hleast⟩ := least_of_ofText read
  rw [← TextPattern.tryAll_eq_taken plain hleast]
  constructor
  · rintro (hnone | ⟨hread, htaken⟩)
    · rw [read] at hnone
      cases hnone
    · rw [read] at hread
      cases hread
      exact htaken
  · exact .trial read

end
end ConfigLint
