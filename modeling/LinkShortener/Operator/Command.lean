import LinkShortener.Uuid

/-!
# Commands of the operator

What an operator can ask for on the command line. Words are read from left to right, and the first
one that settles the matter does: a wrong word is a misuse whatever follows it, and a request for
help or for the version is met even where a wrong word follows it.
-/

namespace LinkShortener.Operator

inductive Command where
  /-- Deletes expired keys, and asks before unless it was told not to. -/
  | purge (isConfirmed : Bool)
  | showKey (key : Uuid)
  | statistics
  | checkDatabase
  | databaseInfo

/-- A name of the command line: the tool itself, a group of commands, or a command. -/
inductive Topic where
  | tool
  | idempotency
  | purge
  | showKey
  | statistics
  | database
  | checkDatabase
  | databaseInfo
  | help
  /-- Help about the members of the group on idempotency keys. -/
  | idempotencyHelp
  /-- Help about the members of the group on the database. -/
  | databaseHelp
  deriving DecidableEq

/-- What a command line asks for. -/
inductive Invocation where
  | command (command : Command)
  | version
  | help (topic : Topic)
  | misused

namespace Topic

/-- The names that may follow a name; only groups have any. -/
def members : Topic → List (String × Topic)
  | .tool =>
    [("idempotency", .idempotency), ("stats", .statistics), ("db", .database), ("help", .help)]
  | .idempotency => [("purge", .purge), ("show", .showKey), ("help", .idempotencyHelp)]
  | .database => [("check", .checkDatabase), ("info", .databaseInfo), ("help", .databaseHelp)]
  | _ => []

/-- Whether a name asks for help. -/
def isHelp : Topic → Bool
  | .help => true
  | .idempotencyHelp => true
  | .databaseHelp => true
  | _ => false

/-- What the name stands for. -/
def summary : Topic → String
  | .tool =>
    "A URL shortener with an idempotent, retrying write pipeline built with Axum and PostgreSQL"
  | .idempotency => "Maintain the idempotency ledger"
  | .purge => "Delete expired idempotency keys"
  | .showKey => "Show the ledger row for a key"
  | .statistics => "Show statistics"
  | .database => "Database operations"
  | .checkDatabase => "Check database connection"
  | .databaseInfo => "Show database info"
  | _ => "Print this message or the help of the given subcommand(s)"

/-- How the name is used on a command line. -/
def pattern : Topic → String
  | .tool => "admin <COMMAND>"
  | .idempotency => "admin idempotency <COMMAND>"
  | .purge => "admin idempotency purge [OPTIONS]"
  | .showKey => "admin idempotency show <KEY>"
  | .statistics => "admin stats"
  | .database => "admin db <COMMAND>"
  | .checkDatabase => "admin db check"
  | .databaseInfo => "admin db info"
  | .help => "admin help [COMMAND]..."
  | .idempotencyHelp => "admin idempotency help [COMMAND]..."
  | .databaseHelp => "admin db help [COMMAND]..."

/-- The options with their meaning. -/
def options (topic : Topic) : List (String × String) :=
  let help := ("-h, --help", "Print help")
  match topic with
  | .tool => [help, ("-V, --version", "Print version")]
  | .purge => [("-y, --yes", "Skip confirmation prompt"), help]
  | topic => if topic.isHelp then [] else [help]

/-- The operands with their meaning. -/
def operands (topic : Topic) : List (String × String) :=
  if topic = .showKey then [("<KEY>", "The X-Idempotency-Key value")]
  else if topic.isHelp then [("[COMMAND]...", "Print help for the subcommand(s)")]
  else []

/-- A titled part of a help page, with the meanings in one column; nothing if it has no lines. -/
def helpPart (title : String) (lines : List (String × String)) : String :=
  let width := (lines.map fun (name, _) => name.length).foldl max 0
  let line : String × String → String := fun (name, meaning) =>
    let margin := String.ofList (List.replicate (width - name.length) ' ')
    "  " ++ name ++ margin ++ "  " ++ meaning ++ "\n"
  if lines.isEmpty then "" else "\n" ++ title ++ ":\n" ++ String.join (lines.map line)

def helpPage (topic : Topic) : String :=
  topic.summary ++ "\n\nUsage: " ++ topic.pattern ++ "\n" ++
    helpPart "Commands" (topic.members.map fun (name, member) => (name, member.summary)) ++
    helpPart "Arguments" topic.operands ++ helpPart "Options" topic.options

end Topic

namespace Invocation

/-- The help about the name that a path of names leads to. -/
def ofHelp (topic : Topic) : List String → Invocation
  | [] => .help topic
  | word :: rest =>
    match topic.members.lookup word with
    | some member => ofHelp member rest
    | none => .misused

/-- An option in the place where a name is due. -/
def ofGroupOption (topic : Topic) (word : String) : Invocation :=
  let knowsVersion := topic = .tool
  match word.toList with
  | '-' :: 'h' :: _ => .help topic
  | '-' :: 'V' :: _ => if knowsVersion then .version else .misused
  | _ =>
    if word == "--help" then .help topic
    else if knowsVersion && word == "--version" then .version
    else .misused

/-- What was read of the words for a command so far. -/
structure Draft where
  isConfirmed : Bool
  key : Option String

namespace Draft

/-- A draft before any word. -/
def blank : Draft := ⟨false, none⟩

/-- The key of a draft, in any spelling; nothing if it is not one. -/
def uuid? (draft : Draft) : Option Uuid := draft.key.bind Uuid.ofText?

/-- Whether the operand of a draft, if there is one, can be used. -/
def isSound (draft : Draft) : Bool := draft.key.isNone || draft.uuid?.isSome

/-- Confirms a purge. It may be confirmed once. -/
def confirm? (topic : Topic) (draft : Draft) : Option Draft :=
  if topic = .purge && !draft.isConfirmed then some { draft with isConfirmed := true } else none

/-- Adds an operand. Only a key is one, and it may be given once. -/
def addOperand? (topic : Topic) (draft : Draft) (word : String) : Option Draft :=
  if topic = .showKey && draft.key.isNone then some { draft with key := some word } else none

def finish (topic : Topic) (draft : Draft) : Invocation :=
  match topic with
  | .purge => .command (.purge draft.isConfirmed)
  | .showKey =>
    match draft.uuid? with
    | some key => .command (.showKey key)
    | none => .misused
  | .statistics => .command .statistics
  | .checkDatabase => .command .checkDatabase
  | .databaseInfo => .command .databaseInfo
  | _ => .misused

/-- Takes in the letters of a word with one hyphen: another draft, or what settles the matter. -/
def addLetters (topic : Topic) (draft : Draft) : List Char → Except Invocation Draft
  | [] => .ok draft
  | 'h' :: _ => .error (.help topic)
  | 'y' :: rest =>
    match draft.confirm? topic with
    | some draft => draft.addLetters topic rest
    | none => .error .misused
  | _ :: _ => .error .misused

/-- Takes in an option. What stands before it has to be sound. -/
def addOption (topic : Topic) (draft : Draft) (word : String) : Except Invocation Draft :=
  if !draft.isSound then .error .misused
  else if word == "--help" then .error (.help topic)
  else if word == "--yes" then ((draft.confirm? topic).map .ok).getD (.error .misused)
  else draft.addLetters topic (word.toList.drop 1)

end Draft

/-- Words after the mark that ends the options: operands, whatever they look like. -/
def ofOperands (topic : Topic) (draft : Draft) : List String → Invocation
  | [] => draft.finish topic
  | word :: rest =>
    match draft.addOperand? topic word with
    | some draft => ofOperands topic draft rest
    | none => .misused

def ofCommandWords (topic : Topic) (draft : Draft) : List String → Invocation
  | [] => draft.finish topic
  | word :: rest =>
    if word == "--" then ofOperands topic draft rest
    else if word.toList.head? == some '-' && word != "-" then
      match draft.addOption topic word with
      | .ok draft => ofCommandWords topic draft rest
      | .error invocation => invocation
    else
      match draft.addOperand? topic word with
      | some draft => ofCommandWords topic draft rest
      | none => .misused

/-- Words after a name. -/
def ofTopic (topic : Topic) : List String → Invocation
  | [] => if topic.members.isEmpty then Draft.blank.finish topic else .misused
  | word :: rest =>
    if topic.members.isEmpty then ofCommandWords topic .blank (word :: rest)
    else
      match topic.members.lookup word with
      | some member => if member.isHelp then ofHelp topic rest else ofTopic member rest
      | none => ofGroupOption topic word

/-- Reads a command line. -/
def ofWords (words : List String) : Invocation := ofTopic .tool words

end Invocation

end LinkShortener.Operator
