import FormCheck.Notice
import FormCheck.Table
import FormCheck.Traced

/-!
# The journal

Operations keep a journal.  An entry has a level, the part of the library that it
comes from, its words, and details by name.  Besides entries, a trace holds the
notices that are passed on.
-/

namespace FormCheck

/-- How much an entry matters. -/
inductive Level where
  | debug
  | info
  | warning
  | error
  | critical
  deriving DecidableEq, Repr

namespace Level

def name : Level → String
  | .debug => "DEBUG"
  | .info => "INFO"
  | .warning => "WARNING"
  | .error => "ERROR"
  | .critical => "CRITICAL"

def rank : Level → Nat
  | .debug => 10
  | .info => 20
  | .warning => 30
  | .error => 40
  | .critical => 50

def all : List Level :=
  [.debug, .info, .warning, .error, .critical]

def ofName? (word : String) : Option Level :=
  all.find? fun level => level.name = word

end Level

/-- The part of the library that an entry comes from. -/
inductive Source where
  | registry
  | validation
  | binding
  | definitions
  | screens
  | commandLine
  deriving DecidableEq, Repr

def Source.name : Source → String
  | .registry => "formrules.core.validators.registry"
  | .validation => "formrules.core.rules.rule_engine"
  | .binding => "formrules.forms.binding"
  | .definitions => "formrules.forms.definitions"
  | .screens => "formrules.forms.screens"
  | .commandLine => "formrules.cli.validate_cli"

/-- Details of an entry, by name. -/
abbrev Details := Table Value

structure Entry where
  level : Level
  source : Source
  message : String
  details : Details

/-- What operations leave behind. -/
inductive Event where
  | entry (entry : Entry)
  | notice (notice : Notice)

namespace Event

def entries (events : List Event) : List Entry :=
  events.filterMap fun
    | .entry written => some written
    | .notice _ => none

def notices (events : List Event) : List Notice :=
  events.filterMap fun
    | .entry _ => none
    | .notice given => some given

end Event

namespace Journal

def write (level : Level) (source : Source) (message : String)
    (details : List (String × Value)) : Traced Event Unit :=
  .note (.entry ⟨level, source, message, .ofList details⟩)

/-- The details of the entry at the beginning of an operation.  Details that the
caller gives stand before those of the journal. -/
def openingDetails (operation : String) (details : Details) : Details :=
  (Table.ofList [("operation", .text operation)]).insertAll details.entries

/-- The details of the entry at the end of an operation. -/
def closingDetails (operation : String) (failure? : Option Failure) (details : Details) :
    Details :=
  let outcome : List (String × Value) :=
    match failure? with
    | none => [("status", .text "success")]
    | some failure =>
        [("status", .text "error"), ("error_type", .text failure.kindName),
          ("error_message", .text failure.text)]
  (Table.ofList (("operation", .text operation) :: outcome)).insertAll details.entries

def failure? {α : Type} : Except Failure α → Option Failure
  | .ok _ => none
  | .error failure => some failure

/-- The words of the entry at the end of an operation. -/
def closingMessage (operation : String) (failure? : Option Failure) : String :=
  (if failure?.isSome then "Failed: " else "Completed: ") ++ operation

def closingLevel (failure? : Option Failure) : Level :=
  if failure?.isSome then .error else .debug

/-- The entries round an operation: one when it begins, one when it is completed or
when it has failed.  The outcome of the operation stays what it is. -/
def around {α : Type} (source : Source) (operation : String) (details : Details)
    (body : Traced Event α) : Traced Event α :=
  let failure? := failure? body.outcome
  let opening : Entry :=
    ⟨.debug, source, "Starting: " ++ operation, openingDetails operation details⟩
  let closing : Entry :=
    ⟨closingLevel failure?, source, closingMessage operation failure?,
      closingDetails operation failure? details⟩
  { trace := .entry opening :: (body.trace ++ [.entry closing]), outcome := body.outcome }

end Journal

end FormCheck
