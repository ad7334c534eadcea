/-
# The stack of open tags

A bounded stack of the elements and fragments that are open, innermost first.  A
closing tag is matched against the innermost entry alone.  An operation that
fails hands nothing back, so the caller keeps the stack it had.
-/

import TagCheck.Markup.Defect
import TagCheck.Markup.Options

namespace TagCheck

/-- An element or fragment that has been opened but not closed. -/
structure OpenTag where
  /-- The name as written; empty for a fragment. -/
  name : String
  /-- Where its opening tag begins. -/
  site : Position
  deriving DecidableEq, Repr

namespace OpenTag

def isFragment (t : OpenTag) : Bool := t.name.isEmpty

end OpenTag

/-- The open tags of a text, with the limit on their number. -/
structure TagStack where
  /-- Innermost first. -/
  entries : List OpenTag
  limit : Nat
  policy : OverflowPolicy
  /-- The number of open tags, kept so that it need not be counted. -/
  depth : Nat := entries.length
  depth_eq : depth = entries.length := by rfl
  deriving DecidableEq, Repr

namespace TagStack

/-- The number of open tags is no news about a stack. -/
theorem ext_of_entries {s t : TagStack} (entries : s.entries = t.entries)
    (limit : s.limit = t.limit) (policy : s.policy = t.policy) : s = t := by
  obtain ⟨_, _, _, _, depth_s⟩ := s
  obtain ⟨_, _, _, _, depth_t⟩ := t
  simp_all

/-- The stack with nothing open. -/
def empty (limit : Nat) (policy : OverflowPolicy) : TagStack :=
  { entries := [], limit := limit, policy := policy }

/-- The empty stack that scans with these options start from. -/
def ofOptions (options : ScanOptions) : TagStack := empty options.maxDepth options.overflow

/-- The innermost open tag. -/
def top (s : TagStack) : Option OpenTag := s.entries.head?

/-- Whether the limit is reached. -/
def isFull (s : TagStack) : Bool := s.limit ≤ s.depth

/-- The names of the open tags, outermost first. -/
def names (s : TagStack) : List String := (s.entries.map (·.name)).reverse

/-- Open a tag.  On a full stack the policy decides between failing and leaving
the tag unrecorded. -/
def push (s : TagStack) (name : String) (site : Position) : Except Defect TagStack :=
  if s.isFull then
    match s.policy with
    | .fail => .error (.tooDeep s.limit site)
    | .truncate => .ok s
  else
    .ok { s with
      entries := ⟨name, site⟩ :: s.entries
      depth := s.depth + 1
      depth_eq := by rw [s.depth_eq, List.length_cons] }

/-- Close the innermost tag, which must bear exactly this name.  `site` and `span`
tell where the closing tag is. -/
def pop (s : TagStack) (name : String) (site : Position) (span : Span) :
    Except Defect (OpenTag × TagStack) :=
  match open' : s.entries with
  | [] => .error (.unmatchedClose name site span)
  | innermost :: outer =>
      if innermost.name = name then
        .ok (innermost, { s with
          entries := outer
          depth := s.depth - 1
          depth_eq := by rw [s.depth_eq, open', List.length_cons, Nat.add_sub_cancel] })
      else .error (.mismatch innermost.name innermost.site name site span)

/-- What is wrong with the stack where the text ends: nothing, or the innermost
tag was never closed. -/
def finish (s : TagStack) : Option Defect :=
  match s.entries with
  | [] => none
  | innermost :: outer => some (.unclosed innermost.name innermost.site outer.length)

end TagStack

end TagCheck
