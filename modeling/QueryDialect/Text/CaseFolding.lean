import QueryDialect.Text.Cased
import QueryDialect.Text.CaseIgnorable
import QueryDialect.Text.LowerMapping
import QueryDialect.Text.UpperMapping

/-!
# Lower and upper case of a text

Upper case maps character by character. Lower case does so too, except that a capital sigma at the
end of a word becomes the final sigma; its neighbours decide where a word ends.
-/
namespace QueryDialect.Text

def isCased (c : Char) : Bool := cased.contains c

def isCaseIgnorable (c : Char) : Bool := caseIgnorable.contains c

def capitalSigma : Char := 'Σ'
def smallSigma : Char := 'σ'
def finalSigma : Char := 'ς'

/-- Whether the first character that is not case-ignorable is cased. -/
def meetsCased (chars : List Char) : Bool :=
  match chars.dropWhile isCaseIgnorable with
  | [] => false
  | c :: _ => isCased c

/-- A word ends between `before`, read backwards, and `after`. -/
def endsWord (before after : List Char) : Bool := meetsCased before && !meetsCased after

/-- The lower-case form of a character between the text before it, read backwards, and after it. -/
def lowerChar (before : List Char) (c : Char) (after : List Char) : List Char :=
  if c = capitalSigma then [if endsWord before after then finalSigma else smallSigma]
  else mapCase lowerEntries c

def lowerFrom (before : List Char) : List Char → List Char
  | [] => []
  | c :: after => lowerChar before c after ++ lowerFrom (c :: before) after

def upperChar (c : Char) : List Char := mapCase upperEntries c

def lower (s : String) : String := .ofList (lowerFrom [] s.toList)

def upper (s : String) : String := .ofList (s.toList.flatMap upperChar)

@[simp] theorem toList_lower (s : String) : (lower s).toList = lowerFrom [] s.toList := by
  simp [lower]

@[simp] theorem toList_upper (s : String) : (upper s).toList = s.toList.flatMap upperChar := by
  simp [upper]

theorem upper_append (s t : String) : upper (s ++ t) = upper s ++ upper t := by
  apply String.ext
  simp

end QueryDialect.Text
