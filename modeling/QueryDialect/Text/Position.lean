import QueryDialect.Text.Span

/-!
# Lines and columns

A position counts lines and characters from one. A line ends at a line feed; a carriage return
right before it belongs to the line end.
-/
namespace QueryDialect.Text

structure Position where
  line : Nat
  column : Nat
  deriving DecidableEq, Repr

namespace Position

def first : Position := ⟨1, 1⟩

/-- The position behind a character. -/
def advance (p : Position) (c : Char) : Position :=
  if c = '\n' then ⟨p.line + 1, 1⟩ else ⟨p.line, p.column + 1⟩

/-- The position of a byte offset, behind every character that starts before it. -/
def ofOffset (source : String) (offset : Nat) : Position :=
  (takeBytes offset source.toList).foldl advance first

end Position

/-- Puts a character at the front of the first line. -/
def pushFront (c : Char) : List (List Char) → List (List Char)
  | [] => [[c]]
  | line :: lines => (c :: line) :: lines

/-- The lines without their ends. A text that ends in a line end has no empty line behind it. -/
def lines : List Char → List (List Char)
  | [] => []
  | '\n' :: rest => [] :: lines rest
  | '\r' :: '\n' :: rest => [] :: lines rest
  | c :: rest => pushFront c (lines rest)

/-- The line with a number counted from one, empty if there is none. -/
def lineAt (source : String) (number : Nat) : String :=
  .ofList ((lines source.toList)[number - 1]?.getD [])

end QueryDialect.Text
