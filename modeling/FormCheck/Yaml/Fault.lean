import FormCheck.Number.Numeral
import FormCheck.Text.Quoted

/-!
# Faults of YAML documents

A document is malformed when its characters, its structure or its tags are at
odds with YAML.  A document that is well formed may still write a number or a
moment of time that does not exist.
-/

namespace FormCheck

/-- Why a whole number cannot be read, in words. -/
def Numeral.Refusal.text (base : Nat) (written : List Char) : Numeral.Refusal → String
  | .notNumeral =>
      "invalid literal for int() with base " ++ toString base ++ ": "
        ++ String.ofList (Text.quoted written)
  | .tooLong digits =>
      "Exceeds the limit (" ++ toString Numeral.longestDecimal
        ++ " digits) for integer string conversion: value has " ++ toString digits
        ++ " digits; use sys.set_int_max_str_digits() to increase the limit"

namespace Yaml

/-- Why a moment of time does not exist. -/
inductive MomentFault where
  | year
  | month
  | day
  | hour
  | minute
  | second
  | offset (minutes : Int)
  deriving DecidableEq, Repr

/-- An offset in days and seconds, in the notation of durations. -/
private def durationText (minutes : Int) : String :=
  let seconds := minutes * 60
  let days := seconds.fdiv 86400
  let left := seconds.fmod 86400
  let parts :=
    (if days = 0 then [] else ["days=" ++ toString days])
      ++ if left = 0 then [] else ["seconds=" ++ toString left]
  "datetime.timedelta(" ++ ", ".intercalate parts ++ ")"

def MomentFault.text : MomentFault → String
  | .year => "year 0 is out of range"
  | .month => "month must be in 1..12"
  | .day => "day is out of range for month"
  | .hour => "hour must be in 0..23"
  | .minute => "minute must be in 0..59"
  | .second => "second must be in 0..59"
  | .offset minutes =>
      "offset must be a timedelta strictly between -timedelta(hours=24) and timedelta(hours=24),"
        ++ " not " ++ durationText minutes ++ "."

/-- Why a document cannot be read. -/
inductive Fault where
  | malformed
  | escapeBeyondText (number : Nat)
  | wholeNumber (base : Nat) (written : List Char) (refusal : Numeral.Refusal)
  | realNumber (written : List Char)
  | moment (fault : MomentFault)
  | truthWord (word : List Char)
  | digitsMissing
  | notMoment
  deriving Repr

def Fault.kindName : Fault → String
  | .malformed => "YAMLError"
  | .escapeBeyondText number => if number < Nat.pow 2 31 then "ValueError" else "OverflowError"
  | .wholeNumber _ _ _ | .realNumber _ | .moment _ => "ValueError"
  | .truthWord _ => "KeyError"
  | .digitsMissing => "IndexError"
  | .notMoment => "AttributeError"

def Fault.text : Fault → String
  | .malformed => "malformed document"
  | .escapeBeyondText number =>
      if number < Nat.pow 2 31 then
        "chr() arg not in range(0x110000)"
      else
        "signed integer is greater than maximum"
  | .wholeNumber base written refusal => refusal.text base written
  | .realNumber written =>
      "could not convert string to float: " ++ String.ofList (Text.quoted written)
  | .moment fault => fault.text
  | .truthWord word => String.ofList (Text.quoted word)
  | .digitsMissing => "string index out of range"
  | .notMoment => "'NoneType' object has no attribute 'groupdict'"

end Yaml

end FormCheck
