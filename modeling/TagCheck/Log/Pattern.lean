/-
# Patterns in filters

A filter may ask that the value of a field match a regular expression.  No field of a
context holds text, so that no pattern ever matches, but one that is not well formed
is an error all the same.

There are no tables of characters here: classes of letters, digits and words, the
boundaries of words, and the two cases of a letter are not known.
-/

namespace TagCheck.Log.Pattern

/-- The digit a character is in base sixteen. -/
def hexDigit? (c : Char) : Option Nat :=
  if '0' ≤ c && c ≤ '9' then some (c.toNat - '0'.toNat)
  else if 'a' ≤ c && c ≤ 'f' then some (c.toNat - 'a'.toNat + 10)
  else if 'A' ≤ c && c ≤ 'F' then some (c.toNat - 'A'.toNat + 10)
  else none

/-- The character whose code point begins the text, in so many digits. -/
def codePoint (digits value : Nat) (text : List Char) : Option (Char × List Char) :=
  match digits, text with
  | 0, rest => if value.isValidChar then some (Char.ofNat value, rest) else none
  | _ + 1, [] => none
  | more + 1, c :: rest =>
      match hexDigit? c with
      | some digit => codePoint more (16 * value + digit) rest
      | none => none

/-- The character that stands behind a backslash. -/
def escaped : List Char → Option (Char × List Char)
  | [] => none
  | 'x' :: rest => codePoint 2 0 rest
  | 'u' :: rest => codePoint 4 0 rest
  | 'U' :: rest => codePoint 8 0 rest
  | 'a' :: rest => some ('\x07', rest)
  | 'f' :: rest => some ('\x0c', rest)
  | 't' :: rest => some ('\t', rest)
  | 'n' :: rest => some ('\n', rest)
  | 'r' :: rest => some ('\r', rest)
  | 'v' :: rest => some ('\x0b', rest)
  | c :: rest =>
      if c.toNat < 0x80 && !c.isAlphanum && c != '<' && c != '>' then some (c, rest) else none

/-- Whether the text behind a backslash asks for the start or the end. -/
def isAnchor : List Char → Bool
  | 'A' :: _ | 'z' :: _ => true
  | _ => false

/-- A member of a set of characters, or the end of a range of them. -/
def member : List Char → Option (Char × List Char)
  | [] => none
  | '\\' :: rest => escaped rest
  | c :: rest => some (c, rest)

/-- The names of sets of ASCII characters. -/
def asciiSets : List String :=
  ["alnum", "alpha", "ascii", "blank", "cntrl", "digit", "graph", "lower", "print", "punct",
    "space", "upper", "word", "xdigit"]

/-- What follows the name of a set of ASCII characters between colons, read behind the
opening bracket. -/
def afterNamedSet : List Char → Option (List Char)
  | ':' :: rest =>
      let positive := match rest with
        | '^' :: others => others
        | others => others
      match positive.dropWhile (· ≠ ':') with
      | ':' :: ']' :: others =>
          if asciiSets.contains (String.ofList (positive.takeWhile (· ≠ ':'))) then some others
          else none
      | _ => none
  | _ => none

/-- What follows the marks that a set can begin with: a caret, then dashes, or a closing
bracket that is a member. -/
def afterOpening (text : List Char) : List Char :=
  let positive := match text with
    | '^' :: rest => rest
    | others => others
  match positive with
  | '-' :: rest => rest.dropWhile (· = '-')
  | ']' :: rest => rest
  | others => others

/-- What follows a set, read behind its opening marks; `level` sets are open.  The fuel
is at least the length of the text. -/
def afterSet (fuel level : Nat) (text : List Char) : Option (List Char) :=
  match fuel with
  | 0 => none
  | fuel + 1 =>
      match text with
      | [] => none
      | ']' :: rest => if level ≤ 1 then some rest else afterSet fuel (level - 1) rest
      | '[' :: rest =>
          match afterNamedSet rest with
          | some others => afterSet fuel level others
          | none => afterSet fuel (level + 1) (afterOpening rest)
      | '&' :: '&' :: rest | '-' :: '-' :: rest | '~' :: '~' :: rest => afterSet fuel level rest
      | _ =>
          match member text with
          | none => none
          | some (first, '-' :: rest) =>
              match rest with
              | ']' :: _ | '-' :: _ => afterSet fuel level ('-' :: rest)
              | _ =>
                  match member rest with
                  | some (last, others) =>
                      if first ≤ last then afterSet fuel level others else none
                  | none => none
          | some (_, rest) => afterSet fuel level rest

/-- How a group begins. -/
inductive Opening where
  /-- The group goes on with this text. -/
  | group (rest : List Char)
  /-- There is no group, only a change of how the rest is read. -/
  | flags (rest : List Char)
  deriving DecidableEq, Repr

/-- Whether a name can be that of a group. -/
def isGroupName : List Char → Bool
  | [] => false
  | first :: rest =>
      (first.isAlpha || first == '_') &&
        rest.all fun c => c.isAlphanum || c == '_' || c == '.' || c == '[' || c == ']'

/-- Whether letters, of which those behind a dash are taken back, are flags.  Case
cannot be left out of account. -/
def areFlags (letters : List Char) : Bool :=
  letters.all (fun c => ['i', 'm', 's', 'U', 'u', 'R', 'x', '-'].contains c) &&
    letters.eraseDups.length == letters.length && letters.getLast? != some '-' &&
    !(letters.takeWhile (· ≠ '-')).contains 'i'

/-- A group with a name. -/
def namedGroup (text : List Char) : Option Opening :=
  match text.dropWhile (· ≠ '>') with
  | _ :: rest => if isGroupName (text.takeWhile (· ≠ '>')) then some (.group rest) else none
  | [] => none

/-- How a group begins, read behind its parenthesis and question mark. -/
def opening (text : List Char) : Option Opening :=
  match text with
  | 'P' :: '<' :: rest => namedGroup rest
  | '<' :: rest => namedGroup rest
  | _ =>
      let ends (c : Char) : Bool := c == ':' || c == ')'
      let letters := text.takeWhile (fun c => !ends c)
      match text.dropWhile (fun c => !ends c) with
      | ':' :: rest => if areFlags letters then some (.group rest) else none
      | _ :: rest => if areFlags letters && !letters.isEmpty then some (.flags rest) else none
      | [] => none

/-- Whether a text is the rest of a well-formed pattern.  `level` groups are open, and
`repeatable` tells whether there is something that can be repeated.  The fuel is more
than the length of the text. -/
def finishes (fuel level : Nat) (repeatable : Bool) (text : List Char) : Bool :=
  match fuel with
  | 0 => false
  | fuel + 1 =>
      match text with
      | [] => level == 0
      | '\\' :: rest =>
          if isAnchor rest then finishes fuel level true rest.tail
          else
            match escaped rest with
            | some (_, others) => finishes fuel level true others
            | none => false
      | '[' :: rest =>
          match afterSet fuel 1 (afterOpening rest) with
          | some others => finishes fuel level true others
          | none => false
      | '(' :: '?' :: rest =>
          match opening rest with
          | some (.group others) => finishes fuel (level + 1) false others
          | some (.flags others) => finishes fuel level false others
          | none => false
      | '(' :: rest => finishes fuel (level + 1) false rest
      | ')' :: rest => level > 0 && finishes fuel (level - 1) true rest
      | '|' :: rest => finishes fuel level false rest
      | '{' :: _ => false
      | '*' :: rest | '+' :: rest | '?' :: rest => repeatable && finishes fuel level true rest
      | _ :: rest => finishes fuel level true rest

/-- Whether a text is a well-formed pattern.  Closing braces cannot stand in a filter, so
that there are no counted repetitions. -/
def isWellFormed (text : List Char) : Bool := finishes (text.length + 1) 0 false text

end TagCheck.Log.Pattern
