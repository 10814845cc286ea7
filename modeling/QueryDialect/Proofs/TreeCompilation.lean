import Mathlib.Data.List.ReduceOption
import QueryDialect.Proofs.PatternGrammar

/-!
# Compiling trees

A pattern can be compiled from its tree, rule by rule. Two more errors seem possible then: a text
that the grammar does not read, and a placeholder without an index. Since neither of them exists,
the outcome is the one that compilation has from the pieces.
-/
namespace QueryDialect

open Text
open Pattern (Node Piece)

namespace Template

/-- The span of each node in a row, given the byte offset of the first one. -/
def locateNodes : Nat → List Node → List (Node × Span)
  | _, [] => []
  | start, x :: rest =>
    let stop := start + byteSize x.written
    (x, ⟨start, stop⟩) :: locateNodes stop rest

/-- Takes a part of a placeholder into account, after those before it. -/
def readPart (pattern : String) (span : Span) (found : Option Nat × Modifier) (part : Node) :
    Except PatternError (Option Nat × Modifier) :=
  match part.rule with
  | .index =>
    let index := Nat.ofDigitChars 10 part.written 0
    if index < indexLimit then .ok (some index, found.2)
    else .error ⟨pattern, span, .indexTooLarge (.ofList part.written)⟩
  | .modifier => .ok (found.1, (part.written.head?.bind Modifier.ofLetter?).getD .keep)
  | _ => .ok found

/-- The argument that the parts of a placeholder make. -/
def argument (pattern : String) (span : Span) :
    Option Nat × Modifier → Except PatternError (Option Element)
  | (some index, modifier) => .ok (some ⟨.argument index modifier, span⟩)
  | (none, _) => .error ⟨pattern, span, .stated "placeholder without index"⟩

/-- The element that a node stands for, if it stands for one. -/
def nodeElement? (pattern : String) : Node × Span → Except PatternError (Option Element)
  | (⟨.text, content, _⟩, span) => .ok (some ⟨.text (.ofList content), span⟩)
  | (⟨.placeholder, _, parts⟩, span) =>
    parts.foldlM (readPart pattern span) (none, .keep) >>= argument pattern span
  | _ => .ok none

/-- Compiles what the grammar makes of a pattern; an error is given for the case that it cannot be
read. -/
def compileRead (pattern : String) (unread : PatternError) :
    Option (List Node × List Char) → Except PatternError Template
  | none => .error unread
  | some (nodes, _) => do
    let elements ← (locateNodes 0 (nodes.flatMap Node.inner)).mapM (nodeElement? pattern)
    return ⟨pattern, elements.reduceOption⟩

lemma written_node (x : Piece) : x.node.written = x.chars := by
  cases x <;> rfl

variable {pattern : String}

/-- The parts of a placeholder are its index and perhaps a modifier. -/
lemma foldlM_readPart (p : Pattern.Placeholder) (span : Span) :
    ((Piece.placeholder p).node.inner).foldlM (readPart pattern span) (none, .keep) =
      if p.index < indexLimit then .ok (some p.index, p.modifier)
      else .error ⟨pattern, span, .indexTooLarge (.ofList p.digits)⟩ := by
  have index : readPart pattern span (none, .keep) ⟨.index, p.digits, []⟩ =
      if p.index < indexLimit then .ok (some p.index, .keep)
      else .error ⟨pattern, span, .indexTooLarge (.ofList p.digits)⟩ := rfl
  rw [Piece.node, List.foldlM_cons, index]
  split_ifs with fits
  · cases letter : p.letter with
    | none => simp [Pattern.Placeholder.modifier, letter, bind, Except.bind, pure, Except.pure]
    | some c =>
      simp [Pattern.Placeholder.modifier, letter, readPart, bind, Except.bind, pure, Except.pure]
  · rfl

lemma nodeElement?_node (x : Piece × Span) :
    nodeElement? pattern (x.1.node, x.2) = (element pattern x).map some := by
  obtain ⟨piece, span⟩ := x
  cases piece with
  | text content => rfl
  | placeholder p =>
    have parts : nodeElement? pattern ((Piece.placeholder p).node, span) =
        (Piece.placeholder p).node.inner.foldlM (readPart pattern span) (none, .keep) >>=
          argument pattern span := rfl
    rw [parts, foldlM_readPart, element]
    split_ifs <;> rfl

lemma mapM_nodeElement? (start : Nat) (xs : List Piece) :
    (locateNodes start (xs.map Piece.node ++ [⟨.ending, [], []⟩])).mapM (nodeElement? pattern) =
      ((locate start xs).mapM (element pattern)).map fun ys => ys.map some ++ [none] := by
  induction xs generalizing start with
  | nil => rfl
  | cons x xs ih =>
    rw [List.map_cons, List.cons_append, locateNodes, written_node, locate, List.mapM_cons,
      List.mapM_cons, ih, nodeElement?_node (x, _)]
    cases element pattern (x, ⟨start, start + byteSize x.chars⟩) with
    | error e => rfl
    | ok y =>
      cases (locate (start + byteSize x.chars) xs).mapM (element pattern) with
      | error e => rfl
      | ok ys => rfl

lemma compileRead_tree (unread : PatternError) :
    compileRead pattern unread (some ([Pattern.tree pattern.toList], [])) = compile pattern := by
  have nodes : [Pattern.tree pattern.toList].flatMap Node.inner =
      (Pattern.pieces pattern.toList).map Piece.node ++ [⟨.ending, [], []⟩] :=
    List.flatMap_singleton ..
  rw [compileRead, nodes, mapM_nodeElement?, compile]
  cases (locate 0 (Pattern.pieces pattern.toList)).mapM (element pattern) with
  | error e => rfl
  | ok ys =>
    have elements : (ys.map some ++ [none]).reduceOption = ys := by
      simp [List.reduceOption, List.filterMap_map]
    exact congrArg (fun elements => Except.ok (Template.mk pattern elements)) elements

end Template

end QueryDialect
