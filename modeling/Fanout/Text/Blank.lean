/-!
# Blank characters

The characters with the Unicode property White_Space, and trimming by them. Trimming removes a
run of blanks at an end of a text and nothing inside it; what is left starts or ends with no blank.
-/
namespace Fanout

namespace Text

/-- The 25 characters of the property White_Space. -/
def isBlank (c : Char) : Bool :=
  let n := c.toNat
  (0x09 ≤ n && n ≤ 0x0D) || n == 0x20 || n == 0x85 || n == 0xA0 || n == 0x1680 ||
    (0x2000 ≤ n && n ≤ 0x200A) || n == 0x2028 || n == 0x2029 || n == 0x202F || n == 0x205F ||
    n == 0x3000

end Text

namespace Chars

/-- Without the blanks in front. -/
def trimStart (cs : List Char) : List Char :=
  cs.dropWhile Text.isBlank

/-- Without the blanks at the end. -/
def trimEnd (cs : List Char) : List Char :=
  (cs.reverse.dropWhile Text.isBlank).reverse

/-- Without the blanks at either end. -/
def trim (cs : List Char) : List Char :=
  trimEnd (trimStart cs)

end Chars

namespace Text

/-- Applies a function on characters to a text. -/
def onChars (f : List Char → List Char) (s : String) : String :=
  String.ofList (f s.toList)

@[simp] theorem toList_onChars (f : List Char → List Char) (s : String) :
    (onChars f s).toList = f s.toList := by
  simp [onChars]

def trimStart : String → String := onChars Chars.trimStart

def trimEnd : String → String := onChars Chars.trimEnd

def trim : String → String := onChars Chars.trim

/-- Nothing but blanks. -/
def isBlankText (s : String) : Bool :=
  s.toList.all isBlank

end Text

end Fanout
