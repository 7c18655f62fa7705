import CallBook.Text.Search

/-!
# Styles on a terminal

A style is switched on by an escape sequence before a text and off by another after it. Where the
text itself switches styles off, the style is switched on again. Without colours a text is shown as
it is.
-/

namespace CallBook.Terminal

/-- How strong a text is shown. -/
inductive Weight
  | bold
  | dim
  deriving DecidableEq, Repr

/-- The colours in use. -/
inductive Color
  | red
  | green
  | yellow
  | cyan
  deriving DecidableEq, Repr

/-- A weight, a colour, or both. -/
inductive Style
  | weight (w : Weight)
  | color (c : Color)
  | both (w : Weight) (c : Color)
  deriving DecidableEq, Repr

/-- The number of a weight. -/
def Weight.code : Weight → String
  | bold => "1"
  | dim => "2"

/-- The number of a colour. -/
def Color.code : Color → String
  | red => "31"
  | green => "32"
  | yellow => "33"
  | cyan => "36"

/-- The numbers of a style. -/
def Style.code : Style → String
  | weight w => w.code
  | color c => c.code
  | both w c => w.code ++ ";" ++ c.code

/-- The escape sequence with some numbers. -/
def sequence (code : String) : List Char := '\x1b' :: '[' :: (code.toList ++ ['m'])

/-- Switches a style on. -/
def Style.on (style : Style) : List Char := sequence style.code

/-- Switches all styles off. -/
def off : List Char := sequence "0"

/-- Switches a style on again behind every place where a text switches styles off; `skip` characters
are passed over first. -/
def Style.restore (style : Style) : (skip : Nat) → List Char → List Char
  | _, [] => []
  | skip + 1, c :: rest => c :: (if skip = 0 then style.on else []) ++ style.restore skip rest
  | 0, c :: rest =>
    if Text.beginsWith off (c :: rest) then c :: style.restore (off.length - 1) rest
    else c :: style.restore 0 rest

/-- A text in a style, if there are colours. -/
def Style.paint (style : Style) (colours : Bool) (text : String) : String :=
  if colours then String.ofList (style.on ++ style.restore 0 text.toList ++ off) else text

/-- Bold. -/
def bold : Style := .weight .bold

/-- Dim. -/
def dim : Style := .weight .dim

end CallBook.Terminal
