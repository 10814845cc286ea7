/-!
# Quoted literals

A literal stands between single quotes, and a quote inside it is written twice. Reading a literal
stops at the first quote that is not doubled.
-/
namespace QueryDialect.Text

def doubleQuotes : List Char → List Char
  | [] => []
  | c :: cs => if c = '\'' then '\'' :: '\'' :: doubleQuotes cs else c :: doubleQuotes cs

def literal (s : String) : String := .ofList ('\'' :: doubleQuotes s.toList ++ ['\''])

/-- The content up to the closing quote, and what follows the quote. -/
def readContent : List Char → Option (List Char × List Char)
  | [] => none
  | '\'' :: '\'' :: rest => (readContent rest).map fun (s, after) => ('\'' :: s, after)
  | '\'' :: rest => some ([], rest)
  | c :: rest => (readContent rest).map fun (s, after) => (c :: s, after)

/-- Reads one literal from the front of a text. -/
def readLiteral : List Char → Option (List Char × List Char)
  | '\'' :: rest => readContent rest
  | _ => none

@[simp] theorem toList_literal (s : String) :
    (literal s).toList = '\'' :: doubleQuotes s.toList ++ ['\''] := by
  simp [literal]

@[simp] theorem doubleQuotes_append (s t : List Char) :
    doubleQuotes (s ++ t) = doubleQuotes s ++ doubleQuotes t := by
  induction s with
  | nil => rfl
  | cons c s ih => by_cases h : c = '\'' <;> simp [doubleQuotes, h, ih]

end QueryDialect.Text
