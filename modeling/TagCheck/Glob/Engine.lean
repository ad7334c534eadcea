/-
# Glob engines

What the library needs of globs is little: a text is compiled or is found to be none,
and what was compiled matches texts or does not.  An engine is anything that does both.
The library works with any engine, and a program that names none has the one that reads
globs as tokens and matches them byte by byte.
-/

import TagCheck.Glob.Matching
import TagCheck.Glob.Parser

namespace TagCheck

/-- What compiles globs and matches them. -/
class GlobEngine where
  /-- What globs are compiled to. -/
  Matcher : Type
  /-- The glob that a text stands for, or the words for what is wrong with the text. -/
  compile : String → Except String Matcher
  isMatch : Matcher → String → Bool

namespace GlobEngine

instance : GlobEngine where
  Matcher := Glob
  compile text := (Glob.parse text).mapError (GlobFault.message text)
  isMatch := Glob.matchesString

end GlobEngine

/-- A glob with the text that it was compiled from. -/
structure CompiledGlob [GlobEngine] where
  text : String
  matcher : GlobEngine.Matcher
  compiled : GlobEngine.compile text = .ok matcher

namespace CompiledGlob

variable [GlobEngine]

def isMatch (glob : CompiledGlob) (text : String) : Bool := GlobEngine.isMatch glob.matcher text

end CompiledGlob

end TagCheck
