/-!
# UTF-8

Files hold octets; `Utf8.decode` reads them as characters.  A character takes one
to four octets.  The first one says how many follow and which values the second
may have, so that no character has two spellings and no surrogate has one.  The
reader stops at the first octet that cannot stand where it stands.
-/

namespace FormCheck.Utf8

/-- Why octets are no text. -/
inductive Reason where
  | invalidStart
  | invalidContinuation
  | unexpectedEnd
  deriving DecidableEq, Repr

def Reason.text : Reason → String
  | .invalidStart => "invalid start byte"
  | .invalidContinuation => "invalid continuation byte"
  | .unexpectedEnd => "unexpected end of data"

/-- A stretch of octets that writes no character. -/
structure Fault where
  reason : Reason
  first : UInt8
  start : Nat
  length : Nat
  deriving DecidableEq, Repr

/-- A character of which some octets have been read. -/
structure Pending where
  first : UInt8
  start : Nat
  taken : Nat
  owed : Nat
  bits : Nat
  low : Nat
  high : Nat

/-- The character that an octet from `0x80` on begins. -/
def begin? (octet : UInt8) (start : Nat) : Option Pending :=
  let number := octet.toNat
  if number < 0xC2 then
    none
  else if number < 0xE0 then
    some ⟨octet, start, 1, 1, number - 0xC0, 0x80, 0xBF⟩
  else if number < 0xF0 then
    some ⟨octet, start, 1, 2, number - 0xE0, if number = 0xE0 then 0xA0 else 0x80,
      if number = 0xED then 0x9F else 0xBF⟩
  else if number < 0xF5 then
    some ⟨octet, start, 1, 3, number - 0xF0, if number = 0xF0 then 0x90 else 0x80,
      if number = 0xF4 then 0x8F else 0xBF⟩
  else
    none

/-- Read octets from a place on. -/
def decodeFrom : (place : Nat) → Option Pending → List UInt8 → Except Fault (List Char)
  | _, none, [] => .ok []
  | _, some pending, [] =>
      .error ⟨.unexpectedEnd, pending.first, pending.start, pending.taken⟩
  | place, none, octet :: rest =>
      if octet < 0x80 then
        (decodeFrom (place + 1) none rest).map (Char.ofNat octet.toNat :: ·)
      else
        match begin? octet place with
        | some pending => decodeFrom (place + 1) (some pending) rest
        | none => .error ⟨.invalidStart, octet, place, 1⟩
  | place, some pending, octet :: rest =>
      let number := octet.toNat
      if pending.low ≤ number ∧ number ≤ pending.high then
        let bits := pending.bits * 64 + (number - 0x80)
        if pending.owed = 1 then
          (decodeFrom (place + 1) none rest).map (Char.ofNat bits :: ·)
        else
          decodeFrom (place + 1)
            (some ⟨pending.first, pending.start, pending.taken + 1, pending.owed - 1, bits,
              0x80, 0xBF⟩)
            rest
      else
        .error ⟨.invalidContinuation, pending.first, pending.start, pending.taken⟩

/-- The characters that octets write. -/
def decode (octets : List UInt8) : Except Fault (List Char) :=
  decodeFrom 0 none octets

/-- What is wrong.  A stretch that ends with the octets is counted from its own
beginning, every other one from the beginning of the octets. -/
def Fault.text (fault : Fault) : String :=
  let start := if fault.reason = .unexpectedEnd then 0 else fault.start
  let place :=
    if fault.length = 1 then
      "byte 0x" ++ String.ofList (Nat.toDigits 16 fault.first.toNat) ++ " in position "
        ++ toString start
    else
      "bytes in position " ++ toString start ++ "-" ++ toString (start + fault.length - 1)
  "'utf-8' codec can't decode " ++ place ++ ": " ++ fault.reason.text

end FormCheck.Utf8
