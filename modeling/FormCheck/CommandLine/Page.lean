/-!
# Pages of help

Each command has a page of help, and one page gives the commands.
-/

namespace FormCheck.CommandLine

/-- What the command line can be used for. -/
inductive Command where
  | validate
  | parse
  | rules
  deriving DecidableEq, Repr

namespace Command

def name : Command → String
  | .validate => "validate"
  | .parse => "parse"
  | .rules => "rules"

def all : List Command :=
  [.validate, .parse, .rules]

def named? (name : String) : Option Command :=
  all.find? fun command => command.name == name

end Command

/-- A page of help. -/
inductive Page where
  | overview
  | command (command : Command)
  deriving DecidableEq, Repr

namespace Page

/-- Lines of text. -/
private def ofLines (lines : List String) : String :=
  String.join (lines.map (· ++ "\n"))

def usage : Page → String
  | .overview => "usage: formrules [-h] \x7bvalidate,parse,rules\x7d ..."
  | .command .validate => "usage: formrules validate [-h] --form FORM --data DATA [--rules RULES]"
  | .command .parse => "usage: formrules parse [-h] expression"
  | .command .rules => "usage: formrules rules [-h] [--rules RULES]"

/-- The lines that follow the usage. -/
private def explanation : Page → List String
  | .overview =>
      ["Validate form values against rule expressions",
        "",
        "positional arguments:",
        "  \x7bvalidate,parse,rules\x7d",
        "                        Command to execute",
        "    validate            Validate a JSON object of field values",
        "    parse               Parse a rule expression",
        "    rules               List available rules",
        "",
        "options:",
        "  -h, --help            show this help message and exit",
        "",
        "Examples:",
        "  # Validate values against the built-in registration form",
        "  formrules validate --form registration --data signup.json",
        "",
        "  # Validate against forms defined in a YAML file",
        "  formrules validate --rules config/forms.yaml --form checkout --data order.json",
        "",
        "  # Show how an expression is parsed",
        "  formrules parse \"required|string|min:6\"",
        "        "]
  | .command .validate =>
      ["options:",
        "  -h, --help     show this help message and exit",
        "  --form FORM    Form name (built-in: registration, login, forget_password)",
        "  --data DATA    Path to a JSON file with field values",
        "  --rules RULES  Path to a rules YAML file (default: built-in forms)"]
  | .command .parse =>
      ["positional arguments:",
        "  expression  Rule expression, e.g. required|min:6",
        "",
        "options:",
        "  -h, --help  show this help message and exit"]
  | .command .rules =>
      ["options:",
        "  -h, --help     show this help message and exit",
        "  --rules RULES  Path to a rules YAML file"]

def text (page : Page) : String :=
  ofLines (page.usage :: "" :: page.explanation)

end Page

end FormCheck.CommandLine
