import ConfigLint.Text
/-!
Line ends. A document may end its lines with a line feed, a carriage return, or the two together;
`unifyLineEnds` leaves line feeds only, and `lines` cuts a text there.
-/
namespace ConfigLint
namespace Text

/-- Puts `c` in front of a text whose line ends are line feeds. The flag says that the text came
    from one that starts with a line feed; a carriage return in front of that is one line end
    with it. -/
def consLineEnd (c : Char) (tail : Text × Bool) : Text × Bool :=
  if c = '\r' then (if tail.2 then tail.1 else '\n' :: tail.1, false)
  else (c :: tail.1, c == '\n')

/-- Every line end as a single line feed. -/
def unifyLineEnds (t : Text) : Text := (t.foldr consLineEnd ([], false)).1

def byteOrderMark : Char := '\ufeff'

/-- The lines of a text, without their ends. A byte order mark at the front is not part of the
    first line. There is one line more than there are line ends. -/
def lines (t : Text) : List Text :=
  (unifyLineEnds (t.dropLead [byteOrderMark])).splitOn '\n'

end Text
end ConfigLint
