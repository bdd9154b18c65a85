import Dashboard.Number.Numeral
import Dashboard.Text.Quoted
import Dashboard.Version.Basic

/-!
# Reading version requirements

A requirement is a lone wildcard, or comparators separated by commas: an operator, up to three
numbers of which the last may be wildcards, and for complete versions a pre-release part and build
metadata. Spaces may stand around operators and comparators, nowhere else. At most thirty-two
comparators are read.
-/

namespace Dashboard.Version

open Number

/-- The part of a version at which a requirement is wrong. -/
inductive Part where
  | major
  | minor
  | patch
  | pre
  | build
  deriving DecidableEq, Repr

namespace Part

def text : Part → String
  | major => "major version number"
  | minor => "minor version number"
  | patch => "patch version number"
  | pre => "pre-release identifier"
  | build => "build metadata"

end Part

inductive RequirementError where
  | unexpectedEnd (part : Part)
  | unexpectedChar (part : Part) (c : Char)
  | expectedComma (part : Part) (found : Char)
  | leadingZero (part : Part)
  | overflow (part : Part)
  | emptySegment (part : Part)
  | wildcardNotAlone (wildcard : Char)
  | afterWildcard
  | tooMany
  deriving DecidableEq, Repr

namespace RequirementError

def message : RequirementError → String
  | unexpectedEnd part => "unexpected end of input while parsing " ++ part.text
  | unexpectedChar part c =>
    "unexpected character " ++ Text.quotedSingle c ++ " while parsing " ++ part.text
  | expectedComma part c =>
    "expected comma after " ++ part.text ++ ", found " ++ Text.quotedSingle c
  | leadingZero part => "invalid leading zero in " ++ part.text
  | overflow part => "value of " ++ part.text ++ " exceeds u64::MAX"
  | emptySegment part => "empty identifier segment in " ++ part.text
  | wildcardNotAlone c =>
    "wildcard req (" ++ String.singleton c
      ++ ") must be the only comparator in the version req"
  | afterWildcard => "unexpected character after wildcard in version req"
  | tooMany => "excessive number of version comparators"

end RequirementError

def skipSpaces (s : List Char) : List Char := s.dropWhile (· == ' ')

/-- The text after a wildcard, and the wildcard. -/
def wildcard? : List Char → Option (Char × List Char)
  | c :: rest => if c == '*' || c == 'x' || c == 'X' then some (c, rest) else none
  | [] => none

/-- The operator at the start of a comparator, if there is one, and the text after it. -/
def operator? : List Char → Option Op × List Char
  | '=' :: s => (some .exact, s)
  | '>' :: '=' :: s => (some .greaterEq, s)
  | '>' :: s => (some .greater, s)
  | '<' :: '=' :: s => (some .lessEq, s)
  | '<' :: s => (some .less, s)
  | '~' :: s => (some .tilde, s)
  | '^' :: s => (some .caret, s)
  | s => (none, s)

/-- Reads the digits of a number on top of `value`; `started` says whether there was one before. -/
def readDigits (part : Part) (value : Nat) (started : Bool) :
    List Char → Except RequirementError (Nat × Bool × List Char)
  | [] => .ok (value, started, [])
  | c :: s =>
    if !c.isDigit then .ok (value, started, c :: s)
    else if value == 0 && started then .error (.leadingZero part)
    else
      let value := value * 10 + (c.toNat - '0'.toNat)
      if value < UInt64.size then readDigits part value true s else .error (.overflow part)

def readNumber (part : Part) (s : List Char) : Except RequirementError (Nat × List Char) :=
  match readDigits part 0 false s with
  | .error e => .error e
  | .ok (value, true, rest) => .ok (value, rest)
  | .ok (_, false, c :: _) => .error (.unexpectedChar part c)
  | .ok (_, false, []) => .error (.unexpectedEnd part)

def isIdentifierChar (c : Char) : Bool := c.isAlphanum || c == '-'

/-- Whether a segment of digits alone has a zero in front. -/
def hasLeadingZero (segment : List Char) : Bool :=
  segment.all Char.isDigit && 1 < segment.length && segment.head? == some '0'

/-- Reads the identifiers of a pre-release part or of build metadata, separated by points.
`segment` holds the characters of the current identifier and `done` what comes before it, both
reversed. -/
def readIdentifiers (part : Part) (done segment : List Char) :
    List Char → Except RequirementError (List Char × List Char)
  | [] => close []
  | c :: s =>
    if isIdentifierChar c then readIdentifiers part done (c :: segment) s
    else if c == '.' then
      if segment.isEmpty then .error (.emptySegment part)
      else if part == .pre && hasLeadingZero segment.reverse then .error (.leadingZero part)
      else readIdentifiers part ('.' :: segment ++ done) [] s
    else close (c :: s)
where
  /-- What is read when no more identifiers follow. -/
  close (rest : List Char) : Except RequirementError (List Char × List Char) :=
    if segment.isEmpty then
      if done.isEmpty then .ok ([], rest) else .error (.emptySegment part)
    else if part == .pre && hasLeadingZero segment.reverse then .error (.leadingZero part)
    else .ok ((segment ++ done).reverse, rest)

/-- Reads the identifiers after `mark`, if it is there; then there must be some. -/
def readSuffix (part : Part) (mark : Char) (s : List Char) :
    Except RequirementError (Option (List Char) × List Char) :=
  match s with
  | c :: rest =>
    if c == mark then
      match readIdentifiers part [] [] rest with
      | .error e => .error e
      | .ok ([], _) => .error (.emptySegment part)
      | .ok (identifiers, rest) => .ok (some identifiers, rest)
    else .ok (none, s)
  | [] => .ok (none, [])

/-- A number or wildcard after a point. -/
inductive NumberOrWildcard where
  | missing
  | number (n : Nat)
  | wildcard

def readPart (part : Part) (afterWildcard : Bool) (s : List Char) :
    Except RequirementError (NumberOrWildcard × List Char) :=
  match s with
  | '.' :: rest =>
    match wildcard? rest with
    | some (_, rest) => .ok (.wildcard, rest)
    | none =>
      if afterWildcard then .error .afterWildcard
      else
        match readNumber part rest with
        | .error e => .error e
        | .ok (n, rest) => .ok (.number n, rest)
  | s => .ok (.missing, s)

namespace NumberOrWildcard

def number? : NumberOrWildcard → Option Nat
  | number n => some n
  | _ => none

def isWildcard : NumberOrWildcard → Bool
  | wildcard => true
  | _ => false

def isGiven : NumberOrWildcard → Bool
  | missing => false
  | _ => true

end NumberOrWildcard

/-- Reads a comparator and the spaces after it, with the last part that was read. -/
def readComparator (s : List Char) : Except RequirementError (Comparator × Part × List Char) := do
  let (op, rest) := operator? s
  let (major, rest) ← readNumber .major (skipSpaces rest)
  let (minor, rest) ← readPart .minor false rest
  let (patch, rest) ← readPart .patch minor.isWildcard rest
  let part : Part := if patch.isGiven then .patch else if minor.isGiven then .minor else .major
  let complete := patch.number?.isSome
  let (pre, rest) ← if complete then readSuffix .pre '-' rest else .ok (none, rest)
  let (build, rest) ← if complete then readSuffix .build '+' rest else .ok (none, rest)
  let part := if build.isSome then .build else if pre.isSome then .pre else part
  let plain := if minor.isWildcard || patch.isWildcard then Op.wildcard else .caret
  .ok (⟨op.getD plain, major, minor.number?, patch.number?, String.ofList (pre.getD [])⟩, part,
    skipSpaces rest)

/-- Reads at most `n` comparators separated by commas. -/
def readComparators : Nat → List Char → Except RequirementError (List Comparator)
  | 0, _ => .error .tooMany
  | n + 1, s =>
    match readComparator s with
    | .error e =>
      match wildcard? s with
      | some (c, rest) =>
        match skipSpaces rest with
        | [] => .error (.wildcardNotAlone c)
        | ',' :: _ => .error (.wildcardNotAlone c)
        | _ => .error e
      | none => .error e
    | .ok (c, _, []) => .ok [c]
    | .ok (c, _, ',' :: rest) =>
      match readComparators n (skipSpaces rest) with
      | .error e => .error e
      | .ok cs => .ok (c :: cs)
    | .ok (_, part, found :: _) => .error (.expectedComma part found)

namespace Requirement

def ofText (text : String) : Except RequirementError Requirement :=
  let s := skipSpaces text.toList
  match wildcard? s with
  | some (c, rest) =>
    match skipSpaces rest with
    | [] => .ok ⟨[]⟩
    | ',' :: _ => .error (.wildcardNotAlone c)
    | _ => .error .afterWildcard
  | none => Requirement.mk <$> readComparators 32 s

end Requirement

end Dashboard.Version
