import Mathlib.Computability.Language
import ConfigLint.Pattern.Match
/-!
What a trial comes to, its memory left aside. A run of a pattern tries its ways through the text one after
the other and hands each place it reaches to what follows. If what follows looks at the place only, the
order of the ways makes no difference to whether the run succeeds, and neither do the traces that failed
ways leave behind: it succeeds if one of the texts that the pattern stands for leads to a place where what
follows succeeds. `Reaches` says that, and `Decides` that a run comes to it.

What is proved here, for repetitions that may go back:
  1. `decides_runGreedy` and `decides_runLazy`: rounds of a body come to the same, `Repeats`, whichever
     are tried first.
  2. `repeats_iff`: with enough fuel these are as many texts of the body as the limits allow. A round that
     takes nothing is the last one, so of a way through the text such rounds have to be left out.
  3. `decides_runLetters`: so do the repetitions of one character, which are not run round by round.
-/
namespace ConfigLint

/-- The texts that a part for one character stands for. -/
def Letter.texts (l : Letter) : Language Char := {u | ∃ c, u = [c] ∧ l.takes c = true}

namespace Pattern

/-- What follows succeeds at these places, whatever the memory is. -/
def Decides (next : Next) (ok : Nat → Prop) : Prop :=
  ∀ place m, (next place m).taken = true ↔ ok place

/-- From a place, one of the texts leads to a place with a property. -/
def Reaches (t : Array Char) (L : Language Char) (ok : Nat → Prop) (place : Nat) : Prop :=
  ∃ u ∈ L, u <+: t.toList.drop place ∧ ok (place + u.length)

/-- A run comes to what the texts lead to. -/
def Traverses (t : Array Char) (L : Language Char) (body : Nat → Memory → Next → Outcome) : Prop :=
  ∀ next ok, Decides next ok → Decides (fun place m => body place m next) (Reaches t L ok)

/-- So many texts of a language as the limits allow, one after the other. -/
def between (L : Language Char) (least : Nat) (most : Option Nat) : Language Char :=
  {u | ∃ n, least ≤ n ∧ (∀ k ∈ most, n ≤ k) ∧ u ∈ L ^ n}

section
variable {t : Array Char} {L M : Language Char} {ok ok' : Nat → Prop} {l : Letter} {place : Nat}

theorem reaches_zero : ¬ Reaches t 0 ok place := fun ⟨u, hu, _⟩ => Language.notMem_zero u hu

theorem reaches_one : Reaches t 1 ok place ↔ ok place := by
  simp [Reaches, Language.mem_one]

theorem reaches_add : Reaches t (L + M) ok place ↔ Reaches t L ok place ∨ Reaches t M ok place := by
  simp only [Reaches, Language.mem_add, or_and_right, exists_or]

theorem reaches_mul : Reaches t (L * M) ok place ↔ Reaches t L (Reaches t M ok) place := by
  constructor
  · rintro ⟨u, hu, ⟨rest, hfront⟩, hok⟩
    obtain ⟨v, hv, w, hw, rfl⟩ := Language.mem_mul.1 hu
    rw [List.append_assoc] at hfront
    refine ⟨v, hv, ⟨w ++ rest, hfront⟩, w, hw, ⟨rest, ?_⟩, ?_⟩
    · rw [← List.drop_drop, ← hfront, List.drop_left]
    · rwa [Nat.add_assoc, ← List.length_append]
  · rintro ⟨v, hv, ⟨rest, hfront⟩, w, hw, ⟨rest', hfront'⟩, hok⟩
    rw [← List.drop_drop, ← hfront, List.drop_left] at hfront'
    refine ⟨v ++ w, Language.append_mem_mul hv hw, ⟨rest', ?_⟩, ?_⟩
    · rw [List.append_assoc, hfront', hfront]
    · rwa [List.length_append, ← Nat.add_assoc]

theorem reaches_letter : Reaches t l.texts ok place ↔ takesAt t l place = true ∧ ok (place + 1) := by
  have hat : takesAt t l place = (t.toList.drop place).head?.any l.takes := by
    rw [takesAt, List.head?_drop, Array.getElem?_toList]
  rw [hat]
  constructor
  · rintro ⟨_, ⟨c, rfl, hc⟩, ⟨rest, hfront⟩, hok⟩
    rw [← hfront]
    exact ⟨hc, hok⟩
  · rintro ⟨hhead, hok⟩
    obtain ⟨c, hc, htakes⟩ := (Option.any_eq_true _ _).1 hhead
    obtain ⟨rest, hrest⟩ := List.head?_eq_some_iff.1 hc
    exact ⟨[c], ⟨c, rfl, htakes⟩, ⟨rest, hrest.symm⟩, hok⟩

theorem reaches_between {least : Nat} {most : Option Nat} :
    Reaches t (between L least most) ok place ↔
      ∃ n, least ≤ n ∧ (∀ k ∈ most, n ≤ k) ∧ Reaches t (L ^ n) ok place := by
  constructor
  · rintro ⟨u, ⟨n, hleast, hmost, hu⟩, hrest⟩
    exact ⟨n, hleast, hmost, u, hu, hrest⟩
  · rintro ⟨n, hleast, hmost, u, hu, hrest⟩
    exact ⟨u, ⟨n, hleast, hmost, hu⟩, hrest⟩

theorem Reaches.mono (h : Reaches t L ok place) (himp : ∀ place, ok place → ok' place) :
    Reaches t L ok' place := by
  obtain ⟨u, hu, hfront, hok⟩ := h
  exact ⟨u, hu, hfront, himp _ hok⟩

theorem reaches_end {t : Text} : Reaches t.toArray L (· = t.toArray.size) 0 ↔ t ∈ L := by
  constructor
  · rintro ⟨u, hu, hfront, hlength⟩
    rw [Nat.zero_add, List.size_toArray] at hlength
    have hall : u = t := hfront.eq_of_length hlength
    rwa [← hall]
  · intro ht
    exact ⟨t, ht, List.prefix_rfl, by simp⟩

end

theorem Outcome.taken_orElse (o : Outcome) (other : Memory → Outcome) :
    (o.orElse other).taken = true ↔ o.taken = true ∨ (other o.memory).taken = true := by
  unfold orElse
  split
  · next h => simp [h]
  · next h => simp [h]

theorem Outcome.taken_orBack (o : Outcome) (place : Nat) : (o.orBack place).taken = o.taken := by
  unfold orBack orElse
  split
  · rfl
  · next h => simp [h, failed]

/-! ## Rounds -/

section
variable {t : Array Char} {L : Language Char} {ok : Nat → Prop} {next : Next}
  {body : Nat → Memory → Next → Outcome} {least place fuel count : Nat} {most last : Option Nat}

theorem mayGoOn_eq_true :
    mayGoOn most count last place = true ↔ (∀ k ∈ most, count < k) ∧ last ≠ some place := by
  cases most <;> simp [mayGoOn]

/-- What rounds of a body come to, after `count` of them and with the fuel that is left. -/
def Repeats (t : Array Char) (L : Language Char) (least : Nat) (most : Option Nat)
    (ok : Nat → Prop) : Nat → Nat → Option Nat → Nat → Prop
  | 0, _, _, _ => False
  | fuel + 1, count, last, place =>
    if count < least then Reaches t L (Repeats t L least most ok fuel (count + 1) last) place
    else
      (mayGoOn most count last place = true ∧
        Reaches t L (Repeats t L least most ok fuel (count + 1) (some place)) place) ∨ ok place

theorem decides_runGreedy (hbody : Traverses t L body) (hnext : Decides next ok) :
    Decides (runGreedy body least most next fuel count last)
      (Repeats t L least most ok fuel count last) := by
  induction fuel generalizing count last with
  | zero => exact fun place m => iff_of_false Bool.false_ne_true id
  | succ fuel ih =>
    intro place m
    unfold runGreedy Repeats
    extract_lets here
    split
    · rw [Outcome.taken_orBack]
      exact hbody _ _ ih place here
    · split
      · next hgo =>
        rw [Outcome.taken_orElse, Outcome.taken_orBack, hnext _ _, hbody _ _ ih place here,
          and_iff_right hgo]
      · next hstop =>
        rw [Outcome.taken_orBack, hnext _ _, or_iff_right fun h => hstop h.1]

theorem decides_runLazy (hbody : Traverses t L body) (hnext : Decides next ok) (inLoop : Bool) :
    Decides (runLazy body inLoop least most next fuel count last)
      (Repeats t L least most ok fuel count last) := by
  induction fuel generalizing count last with
  | zero => exact fun place m => iff_of_false Bool.false_ne_true id
  | succ fuel ih =>
    intro place m
    unfold runLazy Repeats
    extract_lets here
    split
    · rw [Outcome.taken_orBack]
      exact hbody _ _ ih place here
    · rw [Outcome.taken_orElse, hnext _ _, or_comm]
      extract_lets again
      refine or_congr_left ?_
      split
      · next hgo =>
        rw [Outcome.taken_orBack, hbody _ _ ih place again, and_iff_right hgo]
      · next hstop => exact iff_of_false Bool.false_ne_true fun h => hstop h.1

/-- After `count` rounds, some more that the limits allow lead to a place with a property. -/
def ReachesAfter (t : Array Char) (L : Language Char) (least : Nat) (most : Option Nat)
    (ok : Nat → Prop) (count place : Nat) : Prop :=
  ∃ n, least ≤ count + n ∧ (∀ k ∈ most, count + n ≤ k) ∧ Reaches t (L ^ n) ok place

theorem reachesAfter_zero :
    ReachesAfter t L least most ok 0 place ↔ Reaches t (between L least most) ok place := by
  simp only [ReachesAfter, Nat.zero_add, reaches_between]

theorem Reaches.reachesAfter (h : Reaches t L (ReachesAfter t L least most ok (count + 1)) place) :
    ReachesAfter t L least most ok count place := by
  obtain ⟨u, hu, hfront, n, hleast, hmost, hreaches⟩ := h
  rw [Nat.add_right_comm] at hleast
  refine ⟨n + 1, hleast, ?_, ?_⟩
  · intro k hk
    rw [← Nat.add_assoc, Nat.add_right_comm]
    exact hmost k hk
  · rw [pow_succ', reaches_mul]
    exact ⟨u, hu, hfront, hreaches⟩

theorem reachesAfter_of_repeats (hlimits : ∀ k ∈ most, least ≤ k) (hcount : ∀ k ∈ most, count ≤ k)
    (h : Repeats t L least most ok fuel count last place) :
    ReachesAfter t L least most ok count place := by
  induction fuel generalizing count last place with
  | zero => exact h.elim
  | succ fuel ih =>
    unfold Repeats at h
    split at h
    · next hmore =>
      exact (h.mono fun _ => ih fun k hk => hmore.trans_le (hlimits k hk)).reachesAfter
    · next hleast =>
      rcases h with ⟨hgo, h⟩ | h
      · exact (h.mono fun _ => ih (mayGoOn_eq_true.1 hgo).1).reachesAfter
      · exact ⟨0, Nat.le_of_not_lt hleast, hcount, reaches_one.2 h⟩

theorem length_le_of_front {u : Text} (h : u <+: t.toList.drop place) :
    u.length ≤ t.size - place := by
  have hle := h.length_le
  rwa [List.length_drop, Array.length_toList] at hle

theorem repeats_of_reachesAfter (h : ReachesAfter t L least most ok count place)
    (hlast : ∀ p ∈ last, p < place) (hfuel : least - count + (t.size - place) < fuel) :
    Repeats t L least most ok fuel count last place := by
  -- on the number of rounds to go; the fuel pays for those that are due and for each character
  obtain ⟨n, hleast, hmost, hreaches⟩ := h
  induction n generalizing fuel count last place with
  | zero =>
    rw [Nat.add_zero] at hleast
    obtain ⟨fuel, rfl⟩ := Nat.exists_eq_succ_of_ne_zero (Nat.ne_zero_of_lt hfuel)
    unfold Repeats
    rw [if_neg (Nat.not_lt.2 hleast)]
    exact .inr (reaches_one.1 hreaches)
  | succ n ih =>
    rw [pow_succ', reaches_mul] at hreaches
    obtain ⟨u, hu, hfront, hrest⟩ := hreaches
    have hlength := length_le_of_front hfront
    have hleast' : least ≤ count + 1 + n := by omega
    have hmost' : ∀ k ∈ most, count + 1 + n ≤ k := by
      intro k hk
      rw [Nat.add_right_comm]
      exact hmost k hk
    obtain ⟨fuel, rfl⟩ := Nat.exists_eq_succ_of_ne_zero (Nat.ne_zero_of_lt hfuel)
    by_cases hmore : count < least
    · unfold Repeats
      rw [if_pos hmore]
      refine ⟨u, hu, hfront, ih ?_ (by omega) hleast' hmost' hrest⟩
      intro p hp
      exact (hlast p hp).trans_le (Nat.le_add_right _ _)
    · cases hempty : u.length with
      | zero =>
        -- the round takes nothing, so the others are enough
        rw [hempty, Nat.add_zero] at hrest
        refine ih hlast hfuel (by omega) ?_ hrest
        intro k hk
        exact (Nat.le_succ _).trans (hmost k hk)
      | succ taken =>
        -- the place moves on, so this round does not count as the last one
        unfold Repeats
        rw [if_neg hmore, mayGoOn_eq_true]
        refine .inl ⟨⟨?_, ?_⟩, u, hu, hfront, ih ?_ (by omega) hleast' hmost' hrest⟩
        · intro k hk
          have := hmost k hk
          omega
        · intro h
          exact (hlast place h).false
        · rintro p ⟨⟩
          omega

theorem repeats_iff (hlimits : ∀ k ∈ most, least ≤ k) :
    Repeats t L least most ok (rounds least t.size) 0 none place ↔
      Reaches t (between L least most) ok place := by
  have henough : least - 0 + (t.size - place) < rounds least t.size := by
    have hsquare : t.size + 2 ≤ (t.size + 2) * (t.size + 2) := Nat.le_mul_self _
    rw [rounds]
    omega
  rw [← reachesAfter_zero]
  constructor
  · exact reachesAfter_of_repeats hlimits fun k _ => Nat.zero_le k
  · intro h
    exact repeats_of_reachesAfter h (fun p hp => by cases hp) henough

end

/-! ## Repetitions of one character -/

section
variable {t : Array Char} {l : Letter} {ok : Nat → Prop} {next : Next} {follow : Option Letter}
  {least place n : Nat} {most : Option Nat}

/-- From a place on, a part takes so many characters. -/
def TakesRun (t : Array Char) (l : Letter) (place n : Nat) : Prop :=
  ∀ i < n, takesAt t l (place + i) = true

theorem takesRun_zero : TakesRun t l place 0 := fun i hi => absurd hi (Nat.not_lt_zero i)

theorem takesRun_succ :
    TakesRun t l place (n + 1) ↔ takesAt t l place = true ∧ TakesRun t l (place + 1) n := by
  simp only [TakesRun, Nat.forall_lt_succ_left, Nat.add_zero, Nat.add_assoc, Nat.add_comm 1]

theorem takesRun_add {m : Nat} :
    TakesRun t l place (m + n) ↔ TakesRun t l place m ∧ TakesRun t l (place + m) n := by
  induction m generalizing place with
  | zero => simp [takesRun_zero]
  | succ m ih =>
    rw [Nat.add_right_comm, takesRun_succ, takesRun_succ, ih, and_assoc, Nat.add_assoc,
      Nat.add_comm 1]

theorem TakesRun.le (h : TakesRun t l place n) : n ≤ t.size - place := by
  cases n with
  | zero => exact Nat.zero_le _
  | succ n =>
    obtain ⟨c, hc, -⟩ := (Option.any_eq_true _ _).1 (h n (Nat.lt_succ_self n))
    obtain ⟨hlt, -⟩ := Array.getElem?_eq_some_iff.1 hc
    omega

theorem reaches_pow_letter :
    Reaches t (l.texts ^ n) ok place ↔ TakesRun t l place n ∧ ok (place + n) := by
  induction n generalizing place with
  | zero => simp [reaches_one, takesRun_zero]
  | succ n ih =>
    rw [pow_succ', reaches_mul, reaches_letter, ih, takesRun_succ, and_assoc, Nat.add_assoc,
      Nat.add_comm 1]

theorem countTaken_le (bound : Nat) : countTaken t l bound place ≤ bound := by
  induction bound generalizing place with
  | zero => exact le_rfl
  | succ bound ih =>
    unfold countTaken
    split
    · exact Nat.succ_le_succ ih
    · exact Nat.zero_le _

theorem le_countTaken_iff {bound : Nat} (hn : n ≤ bound) :
    n ≤ countTaken t l bound place ↔ TakesRun t l place n := by
  induction bound generalizing n place with
  | zero =>
    obtain rfl := Nat.le_zero.1 hn
    exact iff_of_true (Nat.zero_le _) takesRun_zero
  | succ bound ih =>
    cases n with
    | zero => exact iff_of_true (Nat.zero_le _) takesRun_zero
    | succ n =>
      unfold countTaken
      rw [takesRun_succ]
      split
      · next htaken =>
        rw [Nat.add_le_add_iff_right, ih (Nat.le_of_succ_le_succ hn), and_iff_right htaken]
      · next hother => exact iff_of_false (Nat.not_succ_le_zero n) fun h => hother h.1

theorem taken_retreat (hnext : Decides next ok) {skip : Nat → Bool}
    (hskip : ∀ place, skip place = true → ¬ ok place) (inLoop : Bool) (start : Memory) (count : Nat)
    (m : Memory) : (retreat inLoop skip next start least place count m).taken = true ↔
      ∃ n < count + 1, least ≤ n ∧ ok (place + n) := by
  induction count generalizing m with
  | zero =>
    rw [Nat.exists_lt_succ_right]
    unfold retreat
    split
    · next hout =>
      rw [Bool.or_eq_true, decide_eq_true_eq] at hout
      refine iff_of_false Bool.false_ne_true ?_
      rintro (⟨n, hn, -⟩ | ⟨hleast, hok⟩)
      · exact Nat.not_lt_zero n hn
      · rcases hout with hmore | hskipped
        · exact Nat.not_lt.2 hleast hmore
        · exact hskip place hskipped hok
    · next hin =>
      rw [Bool.or_eq_true, decide_eq_true_eq, not_or, Nat.not_lt] at hin
      rw [Outcome.taken_orElse, hnext _ _, and_iff_right hin.1, or_comm]
      refine or_congr_left (iff_of_false Bool.false_ne_true ?_)
      rintro ⟨n, hn, -⟩
      exact Nat.not_lt_zero n hn
  | succ count ih =>
    rw [Nat.exists_lt_succ_right]
    unfold retreat
    extract_lets here
    split
    · next hfew =>
      refine iff_of_false Bool.false_ne_true ?_
      rintro (⟨n, hn, hleast, -⟩ | ⟨hleast, -⟩) <;> omega
    · next henough =>
      rw [and_iff_right (Nat.not_lt.1 henough)]
      split
      · next hskipped =>
        rw [ih]
        exact (or_iff_left (hskip here hskipped)).symm
      · rw [Outcome.taken_orElse, hnext _ _, ih]
        exact or_comm

theorem taken_advance (hnext : Decides next ok) (inLoop : Bool) (start : Memory) (left here : Nat)
    (m : Memory) : (advance t inLoop l next start left here m).taken = true ↔
      ∃ n < left + 1, TakesRun t l here n ∧ ok (here + n) := by
  have hnone : ∀ here, TakesRun t l here 0 ∧ ok (here + 0) ↔ ok here := by
    intro here
    rw [and_iff_right takesRun_zero, Nat.add_zero]
  induction left generalizing here m with
  | zero =>
    rw [Nat.exists_lt_succ_left, hnone]
    unfold advance
    rw [Outcome.taken_orElse, hnext _ _]
    refine or_congr_right (iff_of_false ?_ ?_)
    · split <;> exact Bool.false_ne_true
    · rintro ⟨n, hn, -⟩
      exact Nat.not_lt_zero n hn
  | succ left ih =>
    rw [Nat.exists_lt_succ_left, hnone]
    unfold advance
    rw [Outcome.taken_orElse, hnext _ _]
    refine or_congr_right ?_
    simp only [takesRun_succ]
    split
    · next htaken => simp only [ih, htaken, true_and, Nat.add_assoc, Nat.add_comm 1]
    · next hother =>
      refine iff_of_false Bool.false_ne_true ?_
      rintro ⟨n, -, ⟨htaken, -⟩, -⟩
      exact hother htaken

theorem eq_of_only {code : Nat} (h : l.only? = some code) {c : Char}
    (hc : l.takes c = true) : c.toNat = code := by
  unfold Letter.only? at h
  unfold Letter.takes at hc
  split at h
  · split at h
    · cases h
    · simp_all
  · cases h

/-- The part that stands behind takes the next character, if the rest is to succeed. -/
def Starts (t : Array Char) (follow : Option Letter) (ok : Nat → Prop) : Prop :=
  ∀ l ∈ follow, ∀ place, ok place → takesAt t l place = true

theorem starts_none : Starts t none ok := fun _ hl => by cases hl

/-- Where the part that stands behind cannot start, the rest fails. -/
theorem Starts.not_skipped (h : Starts t follow ok)
    (hskip : ((follow.bind Letter.only?).any fun n => (t[place]?.map Char.toNat) != some n) = true) :
    ¬ ok place := by
  intro hok
  obtain ⟨code, hcode, hother⟩ := (Option.any_eq_true _ _).1 hskip
  obtain ⟨l, hl, honly⟩ := Option.bind_eq_some_iff.1 hcode
  obtain ⟨c, hc, htakes⟩ := (Option.any_eq_true _ _).1 (h l hl place hok)
  rw [hc, Option.map_some, eq_of_only honly htakes, bne_self_eq_false] at hother
  cases hother

/-- As many characters as there are, with regard to a limit. -/
theorem le_bound_iff {available : Nat} :
    n ≤ min available (most.getD available) ↔ n ≤ available ∧ ∀ k ∈ most, n ≤ k := by
  cases most <;> simp

/-- The counts that are tried from the greatest on are those that the limits allow. -/
theorem exists_le_count_iff {bound : Nat}
    (hbound : bound = min (t.size - place) (most.getD (t.size - place))) :
    (∃ n < countTaken t l bound place + 1, least ≤ n ∧ ok (place + n)) ↔
      Reaches t (between l.texts least most) ok place := by
  simp only [reaches_between, reaches_pow_letter, Nat.lt_succ_iff]
  refine exists_congr fun n => ?_
  constructor
  · rintro ⟨hn, hleast, hok⟩
    have hfits : n ≤ bound := hn.trans (countTaken_le bound)
    exact ⟨hleast, (le_bound_iff.1 (hbound ▸ hfits)).2, (le_countTaken_iff hfits).1 hn, hok⟩
  · rintro ⟨hleast, hmost, hrun, hok⟩
    have hfits : n ≤ bound := hbound ▸ le_bound_iff.2 ⟨hrun.le, hmost⟩
    exact ⟨(le_countTaken_iff hfits).2 hrun, hleast, hok⟩

/-- So are those that are tried from the least on. -/
theorem exists_more_iff {bound : Nat}
    (hbound : bound = min (t.size - place) (most.getD (t.size - place))) (hleast : least ≤ bound)
    (hrun : TakesRun t l place least) :
    (∃ n < bound - least + 1, TakesRun t l (place + least) n ∧ ok (place + least + n)) ↔
      Reaches t (between l.texts least most) ok place := by
  simp only [reaches_between, reaches_pow_letter]
  constructor
  · rintro ⟨n, hn, hmore, hok⟩
    have hfits : least + n ≤ bound := by omega
    refine ⟨least + n, Nat.le_add_right _ _, (le_bound_iff.1 (hbound ▸ hfits)).2,
      takesRun_add.2 ⟨hrun, hmore⟩, ?_⟩
    rwa [← Nat.add_assoc]
  · rintro ⟨n, hn, hmost, hmore, hok⟩
    obtain ⟨n, rfl⟩ := Nat.exists_eq_add_of_le hn
    have hfits : least + n ≤ bound := hbound ▸ le_bound_iff.2 ⟨hmore.le, hmost⟩
    refine ⟨n, by omega, (takesRun_add.1 hmore).2, ?_⟩
    rwa [Nat.add_assoc]

theorem not_reaches_of_few (h : ¬ TakesRun t l place least) :
    ¬ Reaches t (between l.texts least most) ok place := by
  simp only [reaches_between, reaches_pow_letter]
  rintro ⟨n, hleast, -, hrun, -⟩
  obtain ⟨n, rfl⟩ := Nat.exists_eq_add_of_le hleast
  exact h (takesRun_add.1 hrun).1

theorem decides_runLetters (hlimits : ∀ k ∈ most, least ≤ k) (hnext : Decides next ok)
    (hfollow : Starts t follow ok) (inLoop : Bool) {greed : Greed} (hgreed : greed ≠ .possessive) :
    Decides (fun place m => runLetters t l inLoop follow greed least most place m next)
      (Reaches t (between l.texts least most) ok) := by
  intro place m
  show (runLetters t l inLoop follow greed least most place m next).taken = true ↔ _
  unfold runLetters
  extract_lets available bound count start
  by_cases hfew : available < least
  · rw [if_pos hfew]
    refine iff_of_false Bool.false_ne_true (not_reaches_of_few fun hrun => ?_)
    exact Nat.not_le.2 hfew hrun.le
  have hleast : least ≤ min available (most.getD available) :=
    le_bound_iff.2 ⟨Nat.not_lt.1 hfew, hlimits⟩
  -- the characters are counted up to a bound that depends on what is tried first
  have hbound : least ≤ bound := by
    cases greed with
    | greedy => exact hleast
    | lazy => exact le_rfl
    | possessive => exact absurd rfl hgreed
  have hrun : least ≤ count ↔ TakesRun t l place least := le_countTaken_iff hbound
  rw [if_neg hfew]
  by_cases hshort : count < least
  · rw [if_pos hshort]
    exact iff_of_false Bool.false_ne_true (not_reaches_of_few (hrun.not.1 (Nat.not_le.2 hshort)))
  rw [if_neg hshort]
  cases greed with
  | greedy =>
    refine (taken_retreat hnext (fun _ => hfollow.not_skipped) inLoop start count start).trans ?_
    exact exists_le_count_iff rfl
  | lazy =>
    have hcount : count = least := Nat.le_antisymm (countTaken_le bound) (Nat.not_lt.1 hshort)
    refine (taken_advance hnext inLoop start _ (place + count) start).trans ?_
    rw [hcount]
    exact exists_more_iff rfl hleast (hrun.1 hcount.ge)
  | possessive => exact absurd rfl hgreed

end
end Pattern
end ConfigLint
