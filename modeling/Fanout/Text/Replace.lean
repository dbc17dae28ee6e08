import Fanout.Text.Blank

/-!
# Replacing a part of a text

`replace old new` copies a text from left to right and writes `new` for every occurrence of `old`,
going on behind it; what it has written is not looked at again.
-/
namespace Fanout

namespace Chars

/-- Replaces every occurrence of `old`, after passing over the rest of one already replaced. -/
def replaceFrom (old new : List Char) : Nat → List Char → List Char
  | _, [] => []
  | skip + 1, _ :: cs => replaceFrom old new skip cs
  | 0, c :: cs =>
    if old.isPrefixOf (c :: cs) then new ++ replaceFrom old new (old.length - 1) cs
    else c :: replaceFrom old new 0 cs

def replace (old new : List Char) (cs : List Char) : List Char :=
  replaceFrom old new 0 cs

end Chars

namespace Text

def replace (old new : String) : String → String :=
  onChars (Chars.replace old.toList new.toList)

/-- Whether a text starts with another one. -/
def startsWith (s start : String) : Bool :=
  start.toList.isPrefixOf s.toList

end Text

end Fanout
