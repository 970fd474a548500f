import ConfigLint.Text
/-!
Values in double quotes. A value may stand in one pair of quotes; a quote on one side only is a
fault of the value.
-/
namespace ConfigLint
namespace Text

/-- A text without its pair of surrounding double quotes, or as it is when no quote surrounds it;
    `none` when only one side has a quote. -/
def unquote (t : Text) : Option Text :=
  match t with
  | '"' :: rest => if rest.getLast? = some '"' then some rest.dropLast else none
  | t => if t.getLast? = some '"' then none else some t

end Text
end ConfigLint
