import QueryDialect.Text.GraphemeExtend
import QueryDialect.Text.Unprintable

/-!
# Quoted text for messages

A text in a message stands between double quotes. Quotes and backslashes get a backslash, the
common controls their letter, and every character that would not show on its own its code point.
-/
namespace QueryDialect.Text

/-- Letters without a shape: each holds the place of a sound that is not written. -/
def hangulFillers : CodeRanges := [(0x115F, 0x1160), (0x3164, 0x3164), (0xFFA0, 0xFFA0)]

/-- Marks that extend the character before them and still take up a place of their own. -/
def halfwidthVoicingMarks : CodeRanges := [(0xFF9E, 0xFF9F)]

/-- Whether a character is drawn onto the one before it. -/
def attaches (c : Char) : Bool := graphemeExtend.contains c && !halfwidthVoicingMarks.contains c

def isPrintable (c : Char) : Bool := !unprintable.contains c && !hangulFillers.contains c

/-- A backslash, `u` and the code point in lower-case hexadecimal between braces. -/
def codePointEscape (c : Char) : List Char :=
  ['\\', 'u', '{'] ++ Nat.toDigits 16 c.toNat ++ ['}']

def escapeChar (c : Char) : List Char :=
  if c = '\x00' then ['\\', '0']
  else if c = '\t' then ['\\', 't']
  else if c = '\r' then ['\\', 'r']
  else if c = '\n' then ['\\', 'n']
  else if c = '\\' then ['\\', '\\']
  else if c = '\"' then ['\\', '\"']
  else if attaches c || !isPrintable c then codePointEscape c
  else [c]

def quote (s : String) : String :=
  .ofList ('\"' :: s.toList.flatMap escapeChar ++ ['\"'])

@[simp] theorem toList_quote (s : String) :
    (quote s).toList = '\"' :: s.toList.flatMap escapeChar ++ ['\"'] := by
  simp [quote]

end QueryDialect.Text
