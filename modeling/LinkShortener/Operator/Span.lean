/-!
# Spans of text

What a command prints consists of spans of text, each in a colour or in none. The colours show only
where the environment asks for them; otherwise only the texts are printed.
-/

namespace LinkShortener.Operator

inductive Colour where
  | red
  | green
  | yellow
  | cyan
  | grey
  | brightGreen
  | brightBlue
  | white
  deriving DecidableEq

/-- The number of a colour on a terminal. -/
def Colour.code : Colour → String
  | .red => "31"
  | .green => "32"
  | .yellow => "33"
  | .cyan => "36"
  | .grey => "90"
  | .brightGreen => "92"
  | .brightBlue => "94"
  | .white => "97"

/-- A text, and how it looks in colour. -/
inductive Span where
  | plain (text : String)
  | coloured (isBold : Bool) (colour : Colour) (text : String)

namespace Span

instance : Coe String Span := ⟨.plain⟩

def light (colour : Colour) (text : String) : Span := .coloured false colour text

def bold (colour : Colour) (text : String) : Span := .coloured true colour text

/-- Ends every look. -/
def ending : String := "\x1b[0m"

/-- Begins a look. -/
def opening (isBold : Bool) (colour : Colour) : String :=
  "\x1b[" ++ (if isBold then "1;" else "") ++ colour.code ++ "m"

/-- A span as it is printed. Where its text ends a look, its own begins again. -/
def render (inColour : Bool) : Span → String
  | .plain text => text
  | .coloured isBold colour text =>
    if inColour then
      let opening := opening isBold colour
      opening ++ (ending ++ opening).intercalate (text.splitOn ending) ++ ending
    else text

end Span

/-- Spans as they are printed. -/
def rendered (inColour : Bool) (spans : List Span) : String :=
  String.join (spans.map (Span.render inColour))

end LinkShortener.Operator
