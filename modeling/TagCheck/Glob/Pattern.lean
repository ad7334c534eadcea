/-
# Glob patterns

A glob is a pattern for paths.  It matches a whole path or not at all, byte by
byte; a star matches any bytes, slashes included.  Two stars that stand for whole
folders are tokens of their own.
-/

import TagCheck.Text.Byte

namespace TagCheck

/-- A part of a glob. -/
inductive GlobToken where
  | literal (c : Char)
  /-- Any one byte. -/
  | anyByte
  /-- Any bytes, or none. -/
  | anyBytes
  /-- Any folders in front: nothing, or anything up to and with a slash. -/
  | leadingFolders
  /-- Any folders in between: a slash, or anything that begins and ends with one. -/
  | innerFolders
  /-- Anything below: a slash and whatever follows. -/
  | trailingFolders
  /-- One of the characters in some ranges or, if negated, none of them. -/
  | charClass (negated : Bool) (ranges : List (Char × Char))
  | alternatives (branches : List (List GlobToken))
  deriving Repr, Inhabited

/-- A glob with the text it was written as. -/
structure Glob where
  text : String
  tokens : List GlobToken
  deriving Repr, Inhabited

/-- Why a text is no glob. -/
inductive GlobFault where
  | unclosedClass
  | descendingRange (first last : Char)
  | unopenedAlternatives
  | unclosedAlternatives
  | danglingEscape
  deriving DecidableEq, Repr

namespace GlobFault

/-- What is wrong with the glob of this text. -/
def message (text : String) (fault : GlobFault) : String :=
  let what := match fault with
    | unclosedClass => "unclosed character class; missing ']'"
    | descendingRange first last =>
        "invalid range; '" ++ String.singleton first ++ "' > '" ++ String.singleton last ++ "'"
    | unopenedAlternatives =>
        "unopened alternate group; missing '\x7b' (maybe escape '\x7d' with '[\x7d]'?)"
    | unclosedAlternatives =>
        "unclosed alternate group; missing '\x7d' (maybe escape '\x7b' with '[\x7b]'?)"
    | danglingEscape => "dangling '\\'"
  "error parsing glob '" ++ text ++ "': " ++ what

end GlobFault

end TagCheck
