import FormCheck.Text.Blank
import FormCheck.Text.DecimalDigit
import FormCheck.Text.Split

/-!
# Mailboxes

A mailbox has a local part, an at sign and a domain.  The local part is a row of
atoms between dots, or anything on one line between quotes.  The domain is a row
of labels between dots that ends in at least two letters, or four groups of one to
three digits between brackets.

A domain has no at sign, so the last at sign of the text is the one that counts.
-/

namespace FormCheck.Mailbox

/-- A character that stands for itself in an atom. -/
def isAtomChar (c : Char) : Bool :=
  !(Text.isBlank c || "<>()[]\\.,;:@\"".toList.contains c)

/-- A letter from `a` to `z`, small or capital. -/
def isLetter (c : Char) : Bool :=
  ('a' ≤ c && c ≤ 'z') || ('A' ≤ c && c ≤ 'Z')

/-- A character of a label in a domain. -/
def isLabelChar (c : Char) : Bool :=
  isLetter c || Text.isAsciiDigit c || c == '-'

/-- At least one character, each of a certain sort. -/
def isRowOf (sort : Char → Bool) (text : List Char) : Bool :=
  !text.isEmpty && text.all sort

/-- Atoms between dots. -/
def isDotted (text : List Char) : Bool :=
  (Text.pieces '.' text).all (isRowOf isAtomChar)

/-- Anything on one line, but something, between quotes. -/
def isQuoted : List Char → Bool
  | '"' :: rest =>
      match rest.reverse with
      | '"' :: body => isRowOf (· != '\n') body
      | _ => false
  | _ => false

/-- One to three digits. -/
def isGroup (text : List Char) : Bool :=
  isRowOf Text.isAsciiDigit text && text.length ≤ 3

/-- Four groups of digits between brackets. -/
def isAddress : List Char → Bool
  | '[' :: rest =>
      match rest.reverse with
      | ']' :: body =>
          let groups := Text.pieces '.' body.reverse
          groups.length == 4 && groups.all isGroup
      | _ => false
  | _ => false

/-- Labels with dots after them, and at least two letters. -/
def isHostName (text : List Char) : Bool :=
  match (Text.pieces '.' text).reverse with
  | final :: labels =>
      2 ≤ final.length && final.all isLetter && !labels.isEmpty && labels.all (isRowOf isLabelChar)
  | [] => false

def isLocalPart (text : List Char) : Bool :=
  isDotted text || isQuoted text

def isDomain (text : List Char) : Bool :=
  isAddress text || isHostName text

/-- What stands before the last at sign and what stands after it. -/
def cutLast (text : List Char) : Option (List Char × List Char) :=
  match Text.cutFirst '@' text.reverse with
  | (after, some before) => some (before.reverse, after.reverse)
  | (_, none) => none

def accepts (text : List Char) : Bool :=
  match cutLast text with
  | some (localPart, domain) => isLocalPart localPart && isDomain domain
  | none => false

end FormCheck.Mailbox
