/-!
# Octets in base sixty-four

Four characters write three octets.  Characters that are no digits do not count.  The
digits must come in fours; the last four may be filled up with signs of equality, after
which nothing is read.
-/

namespace FormCheck.Yaml.Base64

def digit? (c : Char) : Option Nat :=
  if 'A' ≤ c ∧ c ≤ 'Z' then some (c.toNat - 'A'.toNat)
  else if 'a' ≤ c ∧ c ≤ 'z' then some (c.toNat - 'a'.toNat + 26)
  else if '0' ≤ c ∧ c ≤ '9' then some (c.toNat - '0'.toNat + 52)
  else if c = '+' then some 62
  else if c = '/' then some 63
  else none

/-- Read digits.  `count` of them belong to an unfinished group, `left` holds the bits of
the last one that are not used yet, and `fillers` signs of equality came after it. -/
def decodeFrom (count left fillers : Nat) : List Char → Option (List UInt8)
  | [] => if count = 0 then some [] else none
  | c :: rest =>
      if c = '=' then
        if count < 2 then
          decodeFrom count left fillers rest
        else if 4 ≤ count + fillers + 1 then
          some []
        else
          decodeFrom count left (fillers + 1) rest
      else
        match digit? c with
        | none => decodeFrom count left fillers rest
        | some digit =>
            match count with
            | 0 => decodeFrom 1 digit 0 rest
            | 1 =>
                (decodeFrom 2 (digit % 16) 0 rest).map
                  (UInt8.ofNat (left * 4 + digit / 16) :: ·)
            | 2 =>
                (decodeFrom 3 (digit % 4) 0 rest).map
                  (UInt8.ofNat (left * 16 + digit / 4) :: ·)
            | _ => (decodeFrom 0 0 0 rest).map (UInt8.ofNat (left * 64 + digit) :: ·)

/-- The octets that a text writes. -/
def decode (text : List Char) : Option (List UInt8) :=
  decodeFrom 0 0 0 text

end FormCheck.Yaml.Base64
