import ConfigLint.Text.LowerCase
/-!
Colours: three or six hexadecimal digits, or one of the names of the X11 list.
-/
namespace ConfigLint
namespace Color

/-- Colour names that stand by themselves. -/
def plainNames : List String :=
  ["aliceblue", "antiquewhite", "aqua", "aquamarine", "azure", "beige", "bisque", "black",
   "blanchedalmond", "blue", "blueviolet", "brown", "burlywood", "cadetblue", "chartreuse",
   "chocolate", "coral", "cornflowerblue", "cornsilk", "crimson", "cyan", "darkblue", "darkcyan",
   "darkgoldenrod", "darkgray", "darkgreen", "darkgrey", "darkkhaki", "darkmagenta",
   "darkolivegreen", "darkorange", "darkorchid", "darkred", "darksalmon", "darkseagreen",
   "darkslateblue", "darkslategray", "darkslategrey", "darkturquoise", "darkviolet", "deeppink",
   "deepskyblue", "dimgray", "dimgrey", "dodgerblue", "firebrick", "floralwhite", "forestgreen",
   "fuchsia", "gainsboro", "ghostwhite", "gold", "goldenrod", "gray", "green", "greenyellow",
   "grey", "honeydew", "hotpink", "indianred", "indigo", "ivory", "khaki", "lavender",
   "lavenderblush", "lawngreen", "lemonchiffon", "lightblue", "lightcoral", "lightcyan",
   "lightgoldenrod", "lightgoldenrodyellow", "lightgray", "lightgreen", "lightgrey", "lightpink",
   "lightsalmon", "lightseagreen", "lightskyblue", "lightslateblue", "lightslategray",
   "lightslategrey", "lightsteelblue", "lightyellow", "lime", "limegreen", "linen", "magenta",
   "maroon", "mediumaquamarine", "mediumblue", "mediumorchid", "mediumpurple", "mediumseagreen",
   "mediumslateblue", "mediumspringgreen", "mediumturquoise", "mediumvioletred", "midnightblue",
   "mintcream", "mistyrose", "moccasin", "navajowhite", "navy", "navyblue", "oldlace", "olive",
   "olivedrab", "orange", "orangered", "orchid", "palegoldenrod", "palegreen", "paleturquoise",
   "palevioletred", "papayawhip", "peachpuff", "peru", "pink", "plum", "powderblue", "purple",
   "rebeccapurple", "red", "rosybrown", "royalblue", "saddlebrown", "salmon", "sandybrown",
   "seagreen", "seashell", "sienna", "silver", "skyblue", "slateblue", "slategray", "slategrey",
   "snow", "springgreen", "steelblue", "tan", "teal", "thistle", "tomato", "turquoise", "violet",
   "violetred", "webgray", "webgreen", "webgrey", "webmaroon", "webpurple", "wheat", "white",
   "whitesmoke", "x11gray", "x11green", "x11grey", "x11maroon", "x11purple", "yellow",
   "yellowgreen"]

/-- Colour names that also come with a number from one to four. -/
def numberedNames : List String :=
  ["antiquewhite", "aquamarine", "azure", "bisque", "blue", "brown", "burlywood", "cadetblue",
   "chartreuse", "chocolate", "coral", "cornsilk", "cyan", "darkgoldenrod", "darkolivegreen",
   "darkorange", "darkorchid", "darkseagreen", "darkslategray", "deeppink", "deepskyblue",
   "dodgerblue", "firebrick", "gold", "goldenrod", "green", "honeydew", "hotpink", "indianred",
   "ivory", "khaki", "lavenderblush", "lemonchiffon", "lightblue", "lightcyan", "lightgoldenrod",
   "lightpink", "lightsalmon", "lightskyblue", "lightsteelblue", "lightyellow", "magenta",
   "maroon", "mediumorchid", "mediumpurple", "mistyrose", "navajowhite", "olivedrab", "orange",
   "orangered", "orchid", "palegreen", "paleturquoise", "palevioletred", "peachpuff", "pink",
   "plum", "purple", "red", "rosybrown", "royalblue", "salmon", "seagreen", "seashell", "sienna",
   "skyblue", "slateblue", "slategray", "snow", "springgreen", "steelblue", "tan", "thistle",
   "tomato", "turquoise", "violetred", "wheat", "yellow"]

/-- All colour names. The two spellings of grey also come with a number from 0 to 100. -/
def names : List Text :=
  plainNames.map String.toList ++
    numberedNames.flatMap (fun name =>
      [1, 2, 3, 4].map fun n => name.toList ++ Text.ofNat n) ++
    ["gray", "grey"].flatMap fun name =>
      (List.range 101).map fun n => name.toList ++ Text.ofNat n

/-- Whether a text is a colour name; case and spaces do not matter. -/
def isName (t : Text) : Bool := names.contains (Text.lower (t.filter (· ≠ ' ')))

def isHexDigit (c : Char) : Bool :=
  ('0' ≤ c && c ≤ '9') || ('a' ≤ c && c ≤ 'f') || ('A' ≤ c && c ≤ 'F')

/-- Whether a text is three or six hexadecimal digits, after a `#` or without one. -/
def isHex (t : Text) : Bool :=
  let digits := t.dropLead ['#']
  (digits.length == 3 || digits.length == 6) && digits.all isHexDigit

def accepts (t : Text) : Bool := isHex t || isName t

end Color
end ConfigLint
