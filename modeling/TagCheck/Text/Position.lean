/-
# Positions and spans

A position is what a person reads: a line and a column, both counted from one,
beside the byte offset that tools use.  Columns count characters, so a byte that
continues a character does not advance them.  A span is a run of bytes given by
its first offset and its length.
-/

import TagCheck.Text.Byte

namespace TagCheck

/-- A run of bytes of a text. -/
structure Span where
  start : Nat
  length : Nat
  deriving DecidableEq, Repr

namespace Span

/-- The offset just past the span. -/
def stop (s : Span) : Nat := s.start + s.length

def isEmpty (s : Span) : Bool := s.length == 0

/-- The span between two offsets; a second offset before the first gives an
empty span at the first. -/
def between (start stop : Nat) : Span := ⟨start, stop - start⟩

/-- Half-open interval notation, for people. -/
def display (s : Span) : String := "[" ++ toString s.start ++ ", " ++ toString s.stop ++ ")"

/-- The short form `start..stop`, for diagnostics of the tool itself. -/
def debug (s : Span) : String := toString s.start ++ ".." ++ toString s.stop

end Span

/-- A place in a text. -/
structure Position where
  offset : Nat
  line : Nat
  column : Nat
  deriving DecidableEq, Repr

namespace Position

/-- The position of the first byte. -/
def start : Position := ⟨0, 1, 1⟩

instance : Inhabited Position := ⟨start⟩

/-- The position after one more byte. -/
def next (p : Position) (b : UInt8) : Position :=
  if b = Byte.lineFeed then ⟨p.offset + 1, p.line + 1, 1⟩
  else if Byte.isContinuation b then ⟨p.offset + 1, p.line, p.column⟩
  else ⟨p.offset + 1, p.line, p.column + 1⟩

/-- The position after a text that begins here. -/
def past (p : Position) (bytes : Text) : Position := bytes.foldl next p

/-- The span from here up to an offset, empty if the offset lies before. -/
def spanTo (p : Position) (stop : Nat) : Span := Span.between p.offset stop

def display (p : Position) : String := toString p.line ++ ":" ++ toString p.column

/-- As `display`, with the byte offset added. -/
def debug (p : Position) : String := p.display ++ "@" ++ toString p.offset

end Position

end TagCheck
