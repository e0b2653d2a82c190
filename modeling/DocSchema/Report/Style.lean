/-!
# Styles of a text on a terminal

A styled text stands between an escape sequence that turns the style on and one that turns every
style off.
-/
namespace DocSchema

/-- How a text looks on a terminal. -/
inductive Style where
  | bold | red | green | yellow | blue | cyan | brightBlue | boldRed
deriving DecidableEq, Repr

namespace Style

/-- The number of a style in an escape sequence. -/
def code : Style → List Char
  | bold => ['1']
  | red => ['3', '1']
  | green => ['3', '2']
  | yellow => ['3', '3']
  | blue => ['3', '4']
  | cyan => ['3', '6']
  | brightBlue => ['9', '4']
  | boldRed => ['1', ';', '3', '1']

/-- The escape sequence with a number. -/
def escape (code : List Char) : List Char := '\x1b' :: '[' :: (code ++ ['m'])

/-- The escape sequence that turns every style off. -/
def reset : List Char := escape ['0']

/-- Turns the style on again after each place in a text that turns it off. -/
def resume (on : List Char) : List Char → List Char
  | '\x1b' :: '[' :: '0' :: 'm' :: rest => reset ++ on ++ resume on rest
  | c :: rest => c :: resume on rest
  | [] => []

/-- A text in a style. -/
def paint (style : Style) (text : List Char) : List Char :=
  escape style.code ++ resume (escape style.code) text ++ reset

end Style
end DocSchema
