/-
# Options of a scan

A scan is bounded in how deep elements may nest and in how much of a tag name is
kept, and may or may not take comment openers in the text of a template literal
for comments.
-/

namespace TagCheck

/-- What happens to an element opened when the nesting limit is reached. -/
inductive OverflowPolicy where
  /-- The text is defective. -/
  | fail
  /-- The element is not recorded, and that level of nesting is lost. -/
  | truncate
  deriving DecidableEq, Repr, Inhabited

namespace OverflowPolicy

/-- The word for the policy in configuration files. -/
def keyword : OverflowPolicy → String
  | fail => "error"
  | truncate => "truncate"

/-- The words for all policies. -/
def keywords : List String := [fail.keyword, truncate.keyword]

/-- The policy a configuration word stands for. -/
def ofKeyword? : String → Option OverflowPolicy
  | "error" => some fail
  | "truncate" => some truncate
  | _ => none

@[simp] theorem ofKeyword?_keyword (policy : OverflowPolicy) :
    ofKeyword? policy.keyword = some policy := by
  cases policy <;> rfl

end OverflowPolicy

/-- The options of one scan. -/
structure ScanOptions where
  /-- How many elements may be open at once. -/
  maxDepth : Nat := 256
  overflow : OverflowPolicy := .fail
  /-- How many bytes of a tag name are kept. -/
  maxNameLength : Nat := 127
  /-- Whether comments open in the text of a template literal.  They always open
  in its interpolations. -/
  commentsInTemplateText : Bool := true
  deriving DecidableEq, Repr, Inhabited

end TagCheck
