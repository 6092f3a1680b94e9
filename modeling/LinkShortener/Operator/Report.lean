/-!
# Reports of failed commands

A command that fails prints its error and the causes behind it, and ends with a code.
-/

namespace LinkShortener.Operator

/-- What a command printed, and the code it ended with. -/
structure Finished where
  code : Nat
  output : String
  errors : String

/-- A text with the same number of blanks before each of its further lines. -/
def indented (width : Nat) (text : String) : String :=
  String.ofList (text.toList.flatMap fun c =>
    if c == '\n' then '\n' :: List.replicate width ' ' else [c])

def numbered (number : Nat) (cause : String) : String :=
  let digits := toString number
  let margin := String.ofList (List.replicate (5 - digits.length) ' ')
  margin ++ digits ++ ": " ++ indented 7 cause ++ "\n"

/-- The causes behind an error; only if there are several are they numbered. -/
def causesText : List String → String
  | [] => ""
  | [cause] => "\nCaused by:\n    " ++ indented 4 cause ++ "\n"
  | causes =>
    "\nCaused by:\n" ++ String.join ((List.range causes.length).zipWith numbered causes)

/-- The report of an error, outermost message first. -/
def report : List String → String
  | [] => ""
  | message :: causes => "Error: " ++ message ++ "\n" ++ causesText causes

/-- A command that failed after printing something. -/
def failed (output : String) (chain : List String) : Finished := ⟨1, output, report chain⟩

/-- The code of a process that ends by a fault of the program. -/
def crashCode : Nat := 101

/-- A process that ended by a fault of the program. -/
def crashed (text : String) : Finished := ⟨crashCode, "", text ++ "\n"⟩

def succeeded (output : String) : Finished := ⟨0, output, ""⟩

end LinkShortener.Operator
