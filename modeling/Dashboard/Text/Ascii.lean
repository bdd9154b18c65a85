/-!
# Letter case in ASCII

Mount kinds, log levels and the names of environment variables are compared without regard to the
case of the letters `A` to `Z`. Other letters keep their case here.
-/

namespace Dashboard.Text

def lowerAsciiChar (c : Char) : Char :=
  if 'A' ≤ c ∧ c ≤ 'Z' then Char.ofNat (c.toNat + 32) else c

def lowerAscii (s : String) : String := String.ofList (s.toList.map lowerAsciiChar)

def eqIgnoringCase (s t : String) : Bool := lowerAscii s == lowerAscii t

end Dashboard.Text
