import FormCheck.CommandLine.Page
import FormCheck.CommandLine.Word
import FormCheck.Table

/-!
# What a command line asks for

The first plain word names a command, and the words behind it are for that command.  A
request for help is answered as soon as it is met; a word that a command does not take
makes the whole command line misused, unless help is asked for behind it.
-/

namespace FormCheck.CommandLine

/-- What a command line asks for. -/
inductive Request where
  | help (page : Page)
  | misuse (page : Page)
  | nothing
  | validate (form data : String) (rules? : Option String)
  | parse (expression : String)
  | rules (rules? : Option String)
  deriving DecidableEq, Repr

namespace Command

def settings : Command → List Setting
  | .validate => [.form, .data, .rules]
  | .parse => []
  | .rules => [.rules]

end Command

/-- What the words for a command have given so far. -/
structure Gathered where
  values : Table String
  plain : List String
  separated : Bool
  strange : Bool

namespace Gathered

def nothing : Gathered :=
  ⟨.empty, [], false, false⟩

/-- A setting is given a value; an earlier one does not count. -/
def set (gathered : Gathered) (setting : Setting) (value : String) : Gathered :=
  { gathered with values := gathered.values.insert setting.name value }

def value? (gathered : Gathered) (setting : Setting) : Option String :=
  gathered.values.get? setting.name

/-- What the words for a command give, or the request that they end with at once. -/
def ofWords (page : Page) : Gathered → List Word → Except Request Gathered
  | sofar, [] => .ok sofar
  | _, .help :: _ => .error (.help page)
  | _, .misused :: _ | _, .ambiguous :: _ => .error (.misuse page)
  | sofar, .given setting (some value) :: rest => ofWords page (sofar.set setting value) rest
  | sofar, .given setting none :: .plain value :: rest =>
      ofWords page (sofar.set setting value) rest
  | _, .given _ none :: _ => .error (.misuse page)
  | sofar, .plain text :: rest =>
      ofWords page { sofar with plain := sofar.plain ++ [text] } rest
  | sofar, .separator :: rest => ofWords page { sofar with separated := true } rest
  | sofar, .unknown :: rest => ofWords page { sofar with strange := true } rest

end Gathered

namespace Request

/-- The request that a command makes of what its words give, if it takes all of it. -/
def ofGathered? (command : Command) (gathered : Gathered) : Option Request :=
  if gathered.strange then
    none
  else
    match command, gathered.plain, gathered.separated with
    | .validate, [], false => do
        let form ← gathered.value? .form
        let data ← gathered.value? .data
        return .validate form data (gathered.value? .rules)
    | .parse, [expression], _ => some (.parse expression)
    | .rules, [], false => some (.rules (gathered.value? .rules))
    | _, _, _ => none

def ofCommand (command : Command) (arguments : List String) : Request :=
  let words := Word.ofTexts command.settings arguments
  let page := Page.command command
  if words.contains .ambiguous then
    .misuse page
  else
    match Gathered.ofWords page .nothing words with
    | .error request => request
    | .ok gathered => (ofGathered? command gathered).getD (.misuse page)

/-- The request when words that nothing takes stood before the name of the command. -/
def afterStrange : Request → Request
  | .help page => .help page
  | _ => .misuse .overview

def ofArguments : List String → Request
  | [] => .nothing
  | argument :: rest =>
      match Word.ofText [] argument with
      | .help => .help .overview
      | .unknown => afterStrange (ofArguments rest)
      | .plain name =>
          match Command.named? name with
          | some command => ofCommand command rest
          | none => .misuse .overview
      | _ => .misuse .overview

/-- The page for a request that asks for help or is misused. -/
def page? : Request → Option Page
  | .help page | .misuse page => some page
  | _ => none

def paths : Request → List String
  | .validate _ data rules? => data :: rules?.toList
  | .rules rules? => rules?.toList
  | _ => []

end Request

end FormCheck.CommandLine
