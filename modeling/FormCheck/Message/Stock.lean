import FormCheck.Message

/-!
# Stock messages

Ready-made functions that compose messages.  Two of them give no text, so rendering
them is a mistake of the rule.
-/

namespace FormCheck.MessageOffer

/-- The value and the arguments as they are. -/
def echo : MessageOffer :=
  .composed fun value arguments =>
    .ok (.text (String.ofList value.display ++ "|" ++ ",".intercalate arguments))

def fixed : MessageOffer :=
  .composed fun _ _ => .ok (.text "fixed text")

/-- The value alone; arguments are refused. -/
def valueOnly : MessageOffer :=
  .composed fun value arguments =>
    if arguments.isEmpty then
      .ok (.text ("<" ++ String.ofList value.display ++ ">"))
    else
      .error (.callUnfit
        ("one_arg() takes 1 positional argument but " ++ toString (arguments.length + 1)
          ++ " were given"))

def stock? : String → Option MessageOffer
  | "echo" => some echo
  | "fixed" => some fixed
  | "one_arg" => some valueOnly
  | "returns_int" => some (.composed fun _ _ => .ok (.integer 1))
  | "returns_none" => some (.composed fun _ _ => .ok .null)
  | _ => none

end FormCheck.MessageOffer
