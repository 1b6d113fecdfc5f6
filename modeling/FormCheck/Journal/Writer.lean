import FormCheck.Journal
import FormCheck.Text.Case

/-!
# Writing a journal out

A writer writes the entries of a journal as lines.  It has a name, and leaves out entries
below a level.  A line is either a sentence or a table of fields.  In a table, the details
of an entry stand beside the fields of the writer; some names cannot be used for details.
-/

namespace FormCheck

/-- How the lines of a journal are laid out. -/
inductive JournalLayout where
  | fields
  | sentence
  deriving DecidableEq, Repr

/-- Where an entry is written: in which part of a program, and in which function. -/
structure Origin where
  part : String
  function : String

/-- A line of a journal. -/
inductive JournalLine where
  | fields (fields : Table Value)
  | sentence (text : String)

structure JournalWriter where
  name : String
  least : Level
  layout : JournalLayout

namespace JournalWriter

/-- What is asked for, or else what holds all around, or else what is usual.  Nothing is
asked for by the empty text. -/
def chosen (asked? ambient? : Option String) (usual : String) : String :=
  match asked? with
  | none | some "" => ambient?.getD usual
  | some asked => asked

/-- The level with a name, written in capitals or not; entries that inform are written when
there is none. -/
def levelNamed (name : String) : Level :=
  (Level.ofName? (String.ofList (Text.upper name.toList))).getD .info

/-- A writer set up for a name, with the level and the layout asked for. -/
def setUp (name : String) (level? layout? ambientLevel? ambientLayout? : Option String) :
    JournalWriter where
  name := if name.isEmpty then "root" else name
  least := levelNamed (chosen level? ambientLevel? "INFO")
  layout := if chosen layout? ambientLayout? "json" = "json" then .fields else .sentence

/-- The names that an entry has for itself, and that no detail can have. -/
def reservedNames : List String :=
  ["name", "msg", "args", "levelname", "levelno", "pathname", "filename", "module", "exc_info",
    "exc_text", "stack_info", "lineno", "funcName", "created", "msecs", "relativeCreated",
    "thread", "threadName", "processName", "process", "message", "asctime"]

/-- The fields that a writer fills in. -/
def ownNames : List String :=
  ["timestamp", "level", "logger", "module", "function", "message"]

/-- The level as a field: the detail of that name in capitals, unless it counts as false.
There is no line when it counts as true and is not a text. -/
def levelField? (level : Level) (details : Details) : Option Value :=
  match details.get? "level" with
  | none => some (.text level.name)
  | some given =>
      if given.truth then
        match given with
        | .text word => some (.text (String.ofList (Text.upper word.toList)))
        | _ => none
      else
        some (.text level.name)

/-- The time as a field: the detail of that name, unless it counts as false. -/
def timeField (time : String) (details : Details) : Value :=
  match details.get? "timestamp" with
  | none => .text time
  | some given => if given.truth then given else .text time

/-- The fields of an entry; details whose names begin with a low line are left out. -/
def fields? (writer : JournalWriter) (time : String) (origin : Origin) (level : Level)
    (message : String) (details : Details) : Option (Table Value) :=
  (levelField? level details).map fun levelField =>
    let own : Table Value := .ofList
      [("timestamp", timeField time details), ("level", levelField),
        ("logger", .text writer.name), ("module", .text origin.part),
        ("function", .text origin.function), ("message", .text message)]
    own.insertAll (details.entries.filter fun detail =>
      !(detail.1.startsWith "_") && !ownNames.contains detail.1)

/-- An entry as a sentence. -/
def sentence (writer : JournalWriter) (time : String) (origin : Origin) (level : Level)
    (message : String) : String :=
  " - ".intercalate
    [time, writer.name, level.name, origin.part ++ ":" ++ origin.function, message]

def line? (writer : JournalWriter) (time : String) (origin : Origin) (level : Level)
    (message : String) (details : Details) : Option JournalLine :=
  match writer.layout with
  | .fields => (writer.fields? time origin level message details).map .fields
  | .sentence => some (.sentence (writer.sentence time origin level message))

/-- Write an entry, unless its level is too low. -/
def write (writer : JournalWriter) (time : String) (origin : Origin) (level : Level)
    (message : String) (details : Details) : Traced JournalLine Unit :=
  if level.rank < writer.least.rank then
    .done ()
  else
    match details.keys.find? reservedNames.contains with
    | some name => .fail (.entryClash name)
    | none => .notes (writer.line? time origin level message details).toList

/-- Where the entries round an operation are written. -/
def operationOrigin (function : String) : Origin :=
  ⟨"logger", function⟩

/-- The names that an operation has for itself, and that no detail of it can have. -/
def operationNames : List String :=
  ["self", "operation_name", "logger"]

/-- Write the entries round an operation.  When the last of them cannot be written, that
failure takes the place of the operation's own. -/
def around (writer : JournalWriter) (time : String) (duration : Value) (operation : String)
    (details : Details) (body : Except Failure Unit) : Traced JournalLine Unit := do
  if let some name := details.keys.find? operationNames.contains then
    throw (.callUnfit ("got multiple values for argument '" ++ name ++ "'"))
  writer.write time (operationOrigin "__enter__") .debug ("Starting: " ++ operation)
    (Journal.openingDetails operation details)
  let failure? := Journal.failure? body
  writer.write time (operationOrigin "__exit__") (Journal.closingLevel failure?)
    (Journal.closingMessage operation failure?)
    ((Table.ofList [("duration_seconds", duration)]).insertAll
      (Journal.closingDetails operation failure? details).entries)
  body

end JournalWriter

end FormCheck
