import ConfigLint.Data
/-!
Keys of mappings: which data can be a key, when two keys are the same, and how an entry gets its
place among others.
-/
namespace ConfigLint
namespace Artifact

/-- A number in the form in which keys are compared. -/
def keyNumber? : Data → Option Binary64
  | .bool b => some (.ofBool b)
  | .float x => some x
  | _ => none

mutual

/-- Whether two keys are the same. Truth values and whole floating-point numbers are the same as
    the integers that they equal. -/
def sameKey : Data → Data → Bool
  | .null, .null => true
  | .str a, .str b => a == b
  | .moment a, .moment b => a.same b
  | .list a, .list b => sameKeys a b
  | .int a, .int b => a == b
  | .int a, b => (keyNumber? b).any fun x => x.toInt? == some a
  | a, .int b => (keyNumber? a).any fun x => x.toInt? == some b
  | a, b =>
    match keyNumber? a, keyNumber? b with
    | some .nan, some .nan => true
    | some x, some y => x.same y
    | _, _ => false

def sameKeys : List Data → List Data → Bool
  | [], [] => true
  | a :: as, b :: bs => sameKey a b && sameKeys as bs
  | _, _ => false

end

def valueUnder? {α : Type} (key : Data) (entries : List (Data × α)) : Option α :=
  (entries.find? fun e => sameKey e.1 key).map Prod.snd

/-- Entries with one more: under a key that is there its value changes, a new key goes last. -/
def putEntry {α : Type} (entries : List (Data × α)) (key : Data) (value : α) : List (Data × α) :=
  if (valueUnder? key entries).isSome then
    entries.map fun old => if sameKey old.1 key then (old.1, value) else old
  else entries ++ [(key, value)]

end Artifact
end ConfigLint
