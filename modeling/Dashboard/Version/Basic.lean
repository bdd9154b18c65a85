/-!
# Versions and version requirements

A requirement is a list of comparators that a version must all satisfy; the empty list, written as a
lone wildcard, accepts every version. Versions here are releases: they have no pre-release part,
which ranks them above every pre-release of the same numbers.
-/

namespace Dashboard

structure Version where
  major : Nat
  minor : Nat
  patch : Nat
  deriving DecidableEq, Repr

namespace Version

def text (v : Version) : String :=
  toString v.major ++ "." ++ toString v.minor ++ "." ++ toString v.patch

/-- How a version is compared. -/
inductive Op where
  | exact
  | greater
  | greaterEq
  | less
  | lessEq
  | tilde
  | caret
  | wildcard
  deriving DecidableEq, Repr

/-- One condition on a version. Parts that are left out are not compared. -/
structure Comparator where
  op : Op
  major : Nat
  minor : Option Nat
  patch : Option Nat
  /-- The pre-release part, empty for a release. -/
  pre : String
  deriving DecidableEq, Repr

namespace Comparator

def isRelease (c : Comparator) : Bool := c.pre.isEmpty

/-- The numbers given are those of the version. -/
def matchesExact (c : Comparator) (v : Version) : Bool :=
  v.major == c.major && c.minor.all (v.minor == ·) && c.patch.all (v.patch == ·) && c.isRelease

/-- The version is beyond the numbers given. -/
def matchesGreater (c : Comparator) (v : Version) : Bool :=
  if v.major != c.major then v.major > c.major
  else match c.minor with
    | none => false
    | some minor =>
      if v.minor != minor then v.minor > minor
      else match c.patch with
        | none => false
        | some patch => if v.patch != patch then v.patch > patch else !c.isRelease

/-- The version is before the numbers given. -/
def matchesLess (c : Comparator) (v : Version) : Bool :=
  if v.major != c.major then v.major < c.major
  else match c.minor with
    | none => false
    | some minor =>
      if v.minor != minor then v.minor < minor
      else match c.patch with
        | none => false
        | some patch => v.patch < patch

/-- Only the last number given may be exceeded. -/
def matchesTilde (c : Comparator) (v : Version) : Bool :=
  v.major == c.major && c.minor.all (v.minor == ·) && c.patch.all (· ≤ v.patch)

/-- The first number that is not zero must be the same, and the rest not smaller. -/
def matchesCaret (c : Comparator) (v : Version) : Bool :=
  v.major == c.major && match c.minor, c.patch with
    | none, _ => true
    | some minor, none => if c.major > 0 then minor ≤ v.minor else v.minor == minor
    | some minor, some patch =>
      if c.major > 0 then if v.minor != minor then v.minor > minor else patch ≤ v.patch
      else if minor > 0 then v.minor == minor && patch ≤ v.patch
      else v.minor == minor && v.patch == patch

def matchesVersion (c : Comparator) (v : Version) : Bool :=
  match c.op with
  | .exact | .wildcard => c.matchesExact v
  | .greater => c.matchesGreater v
  | .greaterEq => c.matchesExact v || c.matchesGreater v
  | .less => c.matchesLess v
  | .lessEq => c.matchesExact v || c.matchesLess v
  | .tilde => c.matchesTilde v
  | .caret => c.matchesCaret v

end Comparator

/-- Conditions on a version. -/
structure Requirement where
  comparators : List Comparator
  deriving DecidableEq, Repr

namespace Requirement

def accepts (r : Requirement) (v : Version) : Bool := r.comparators.all (·.matchesVersion v)

end Requirement

end Version

end Dashboard
