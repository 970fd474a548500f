/-!
Tables: values under distinct names, in the order in which the names were first entered.
-/
namespace ConfigLint

/-- Values under distinct names. -/
structure Table (κ α : Type) where
  entries : List (κ × α)
  distinct : (entries.map Prod.fst).Nodup

namespace Table

variable {κ α : Type}

def empty : Table κ α := ⟨[], List.nodup_nil⟩

def names (t : Table κ α) : List κ := t.entries.map Prod.fst

def size (t : Table κ α) : Nat := t.entries.length

variable [DecidableEq κ]

def get? (t : Table κ α) (name : κ) : Option α := t.entries.lookup name

/-- The entries with the value under `name` changed, in the same place. -/
def replaceIn (name : κ) (value : α) (entries : List (κ × α)) : List (κ × α) :=
  entries.map fun e => if e.1 = name then (name, value) else e

theorem map_fst_replaceIn (name : κ) (value : α) (entries : List (κ × α)) :
    (replaceIn name value entries).map Prod.fst = entries.map Prod.fst := by
  simp only [replaceIn, List.map_map]
  apply List.map_congr_left
  intro e _
  by_cases h : e.1 = name <;> simp [h]

/-- Enters a value: under a name that the table has, it takes the place of the old value; a new
    name goes to the end. -/
def insert (t : Table κ α) (name : κ) (value : α) : Table κ α :=
  if h : name ∈ t.entries.map Prod.fst then
    ⟨replaceIn name value t.entries, by rw [map_fst_replaceIn]; exact t.distinct⟩
  else
    ⟨t.entries ++ [(name, value)], by
      rw [List.map_append, List.nodup_append]
      refine ⟨t.distinct, by simp, ?_⟩
      intro a ha b hb hab
      simp only [List.map_cons, List.map_nil, List.mem_singleton] at hb
      exact h (hb ▸ hab ▸ ha)⟩

def erase (t : Table κ α) (name : κ) : Table κ α :=
  ⟨t.entries.filter fun e => e.1 != name,
    t.distinct.sublist (List.filter_sublist.map Prod.fst)⟩

theorem lookup_replaceIn_self (name : κ) (value : α) (entries : List (κ × α))
    (h : name ∈ entries.map Prod.fst) :
    (replaceIn name value entries).lookup name = some value := by
  induction entries with
  | nil => cases h
  | cons e rest ih =>
    obtain ⟨key, old⟩ := e
    by_cases hk : key = name
    · simp [replaceIn, hk]
    · have hrest : name ∈ rest.map Prod.fst := by
        rw [List.map_cons, List.mem_cons] at h
        exact h.resolve_left fun hn => hk hn.symm
      have hne : (name == key) = false := beq_eq_false_iff_ne.2 fun hn => hk hn.symm
      have := ih hrest
      simp only [replaceIn, List.map_cons, hk, if_false, List.lookup_cons, hne] at this ⊢
      exact this

theorem lookup_replaceIn_of_ne (name other : κ) (value : α) (entries : List (κ × α))
    (h : other ≠ name) : (replaceIn name value entries).lookup other = entries.lookup other := by
  induction entries with
  | nil => rfl
  | cons e rest ih =>
    obtain ⟨key, old⟩ := e
    have hne : (other == name) = false := beq_eq_false_iff_ne.2 h
    simp only [replaceIn, List.map_cons] at ih ⊢
    by_cases hk : key = name
    · simp only [hk, if_true, List.lookup_cons, hne, ih]
    · simp only [hk, if_false, List.lookup_cons, ih]

theorem lookup_append_single (name other : κ) (value : α) (entries : List (κ × α)) :
    (entries ++ [(name, value)]).lookup other =
      (entries.lookup other).or (if other = name then some value else none) := by
  induction entries with
  | nil =>
    by_cases h : other = name
    · simp [h]
    · simp [List.lookup_cons, h, beq_eq_false_iff_ne.2 h]
  | cons e rest ih =>
    obtain ⟨key, old⟩ := e
    rw [List.cons_append, List.lookup_cons, List.lookup_cons, ih]
    cases other == key <;> simp

theorem lookup_eq_none (name : κ) (entries : List (κ × α))
    (h : name ∉ entries.map Prod.fst) : entries.lookup name = none := by
  induction entries with
  | nil => rfl
  | cons e rest ih =>
    obtain ⟨key, old⟩ := e
    rw [List.map_cons, List.mem_cons, not_or] at h
    rw [List.lookup_cons, beq_eq_false_iff_ne.2 h.1, ih h.2]

theorem get?_insert_self (t : Table κ α) (name : κ) (value : α) :
    (t.insert name value).get? name = some value := by
  unfold insert get?
  split
  · next h => exact lookup_replaceIn_self name value t.entries h
  · next h =>
    rw [lookup_append_single, lookup_eq_none name t.entries h]
    simp

theorem get?_insert_of_ne (t : Table κ α) (name other : κ) (value : α) (h : other ≠ name) :
    (t.insert name value).get? other = t.get? other := by
  unfold insert get?
  split
  · exact lookup_replaceIn_of_ne name other value t.entries h
  · rw [lookup_append_single, if_neg h, Option.or_none]

/-- Entering a value adds its name behind the others, unless the table has the name. -/
theorem names_insert (t : Table κ α) (name : κ) (value : α) :
    (t.insert name value).names = if name ∈ t.names then t.names else t.names ++ [name] := by
  unfold insert names
  by_cases h : name ∈ t.entries.map Prod.fst
  · rw [dif_pos h, if_pos h]
    exact map_fst_replaceIn name value t.entries
  · rw [dif_neg h, if_neg h]
    simp

theorem get?_of_mem (t : Table κ α) {name : κ} {value : α} (h : (name, value) ∈ t.entries) :
    t.get? name = some value := by
  obtain ⟨entries, distinct⟩ := t
  simp only [get?] at h ⊢
  induction entries with
  | nil => cases h
  | cons e rest ih =>
    rw [List.map_cons, List.nodup_cons] at distinct
    rcases List.mem_cons.1 h with rfl | hrest
    · simp
    · have hne : name ≠ e.1 := fun he => distinct.1 (he ▸ List.mem_map_of_mem hrest)
      rw [List.lookup_cons, beq_eq_false_iff_ne.2 hne]
      exact ih distinct.2 hrest

theorem get?_eq_some {t : Table κ α} {name : κ} {value : α} :
    t.get? name = some value ↔ (name, value) ∈ t.entries := by
  constructor
  · intro h
    obtain ⟨front, back, hentries, -⟩ := List.lookup_eq_some_iff.1 h
    rw [hentries]
    exact List.mem_append_right _ List.mem_cons_self
  · exact t.get?_of_mem

theorem lookup_filter_ne (name other : κ) (entries : List (κ × α)) :
    (entries.filter fun e => e.1 != name).lookup other =
      if other = name then none else entries.lookup other := by
  induction entries with
  | nil => simp
  | cons e rest ih =>
    obtain ⟨key, old⟩ := e
    rw [List.filter_cons]
    by_cases hk : key = name
    · simp only [hk, bne_self_eq_false, Bool.false_eq_true, if_false, ih, List.lookup_cons]
      by_cases ho : other = name
      · simp [ho]
      · simp [ho, beq_eq_false_iff_ne.2 ho]
    · simp only [bne_iff_ne, ne_eq, hk, not_false_eq_true, if_true, List.lookup_cons, ih]
      by_cases ho : other = name
      · simp [ho, beq_eq_false_iff_ne.2 (Ne.symm hk)]
      · simp [ho]

theorem get?_erase (t : Table κ α) (name other : κ) :
    (t.erase name).get? other = if other = name then none else t.get? other :=
  lookup_filter_ne name other t.entries

/-- The table with these entries, entered one after the other. -/
def ofList (entries : List (κ × α)) : Table κ α :=
  entries.foldl (fun t e => t.insert e.1 e.2) empty

end Table
end ConfigLint
