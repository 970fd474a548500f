import ConfigLint.Libraries
/-!
Loading a schema from the text of an artifact. A text that is too long, follows no format, is not
a mapping or does not type as a schema is refused with a reason.
-/
namespace ConfigLint

def maxArtifactLength : Nat := 10000000

/-- The schema of an artifact. -/
def Schema.ofArtifact [Libraries] (name t : Text) : Except LoadFault Schema :=
  let refuse (reason : LoadReason) : Except LoadFault Schema := .error (.refused ⟨name, reason⟩)
  if maxArtifactLength < t.length then refuse (.tooLong t.length)
  else
    match Libraries.parse t with
    | .error (.malformed why) => refuse (.unparsable why)
    | .error (.raised e) => .error (.raised e)
    | .ok data =>
      if !Libraries.isMapping data then refuse .notMapping
      else
        match Libraries.validate data with
        | .ok s => .ok s
        | .error (.invalid faults) => refuse (.illTyped faults)
        | .error (.raised e) => .error (.raised e)

end ConfigLint
