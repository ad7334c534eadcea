/-
# Tag names

A tag name starts with an ASCII letter or an underscore and goes on with letters,
digits and the bytes that join the parts of a compound name, as in `my-el`,
`Foo.Bar` and `svg:rect`.  The void elements of HTML never take a closing tag.
-/

import TagCheck.Text.Byte

namespace TagCheck.TagName

/-- Digits are excluded, so `<1` is never a tag. -/
def isStart (b : UInt8) : Bool := Byte.isLetter b || b == Byte.underscore

def isPart (b : UInt8) : Bool :=
  Byte.isLetter b || Byte.isDigit b || b == Byte.minus || b == Byte.underscore ||
    b == Byte.dot || b == Byte.colon

/-- The bytes of the name at the front of a text, cut off at `limit`. -/
def bytes (limit : Nat) (text : Text) : List UInt8 := (text.takeWhile isPart).take limit

/-- The elements without content, which end with their opening tag. -/
def voidElements : List String :=
  ["area", "base", "br", "col", "embed", "hr", "img", "input", "link", "meta", "param",
    "source", "track", "wbr"]

/-- Whether a name is that of a void element; ASCII case does not matter. -/
def isVoid (name : String) : Bool := voidElements.contains name.toLower

end TagCheck.TagName
