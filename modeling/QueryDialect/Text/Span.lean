/-!
# Byte spans

Places in a text are counted in the bytes of its UTF-8 form. A span is a half-open byte range, and
its slice is the text between its two ends.
-/
namespace QueryDialect.Text

def byteSize : List Char → Nat
  | [] => 0
  | c :: cs => c.utf8Size + byteSize cs

@[simp] theorem byteSize_nil : byteSize [] = 0 := rfl

@[simp] theorem byteSize_cons (c : Char) (cs : List Char) :
    byteSize (c :: cs) = c.utf8Size + byteSize cs := rfl

@[simp] theorem byteSize_append (cs ds : List Char) :
    byteSize (cs ++ ds) = byteSize cs + byteSize ds := by
  induction cs with
  | nil => simp
  | cons c cs ih => rw [List.cons_append, byteSize_cons, byteSize_cons, ih, Nat.add_assoc]

theorem utf8ByteSize_ofList (cs : List Char) : (String.ofList cs).utf8ByteSize = byteSize cs := by
  induction cs with
  | nil => simp
  | cons c cs ih =>
    have front : String.ofList (c :: cs) = String.singleton c ++ String.ofList cs := by
      apply String.ext
      simp
    rw [front, String.utf8ByteSize_append, String.utf8ByteSize_singleton, ih, byteSize_cons]

@[simp] theorem byteSize_toList (s : String) : byteSize s.toList = s.utf8ByteSize := by
  rw [← utf8ByteSize_ofList, String.ofList_toList]

/-- The characters that start before a byte offset. -/
def takeBytes : Nat → List Char → List Char
  | 0, _ => []
  | _ + 1, [] => []
  | n + 1, c :: cs => c :: takeBytes (n + 1 - c.utf8Size) cs

/-- The characters that start at or after a byte offset. -/
def dropBytes : Nat → List Char → List Char
  | 0, cs => cs
  | _ + 1, [] => []
  | n + 1, c :: cs => dropBytes (n + 1 - c.utf8Size) cs

theorem takeBytes_append_dropBytes (n : Nat) (cs : List Char) :
    takeBytes n cs ++ dropBytes n cs = cs := by
  induction cs generalizing n with
  | nil => cases n <;> rfl
  | cons c cs ih => cases n with
    | zero => rfl
    | succ n => simp [takeBytes, dropBytes, ih]

theorem dropBytes_byteSize_append (cs ds : List Char) : dropBytes (byteSize cs) (cs ++ ds) = ds := by
  induction cs with
  | nil => simp [dropBytes]
  | cons c cs ih =>
    have positive := c.utf8Size_pos
    obtain ⟨n, hn⟩ : ∃ n, c.utf8Size + byteSize cs = n + 1 := ⟨_, (Nat.succ_pred (by omega)).symm⟩
    rw [byteSize_cons, hn, List.cons_append, dropBytes, ← hn, Nat.add_sub_cancel_left, ih]

theorem takeBytes_byteSize_append (cs ds : List Char) : takeBytes (byteSize cs) (cs ++ ds) = cs := by
  have whole := takeBytes_append_dropBytes (byteSize cs) (cs ++ ds)
  rw [dropBytes_byteSize_append] at whole
  exact List.append_cancel_right whole

structure Span where
  start : Nat
  stop : Nat
  deriving DecidableEq, Repr

namespace Span

def length (span : Span) : Nat := span.stop - span.start

def isEmpty (span : Span) : Bool := span.start == span.stop

def slice (span : Span) (source : String) : String :=
  .ofList (takeBytes span.length (dropBytes span.start source.toList))

/-- The span of a middle part is cut out exactly. -/
theorem slice_middle (before middle after : List Char) :
    slice ⟨byteSize before, byteSize before + byteSize middle⟩
      (.ofList (before ++ (middle ++ after))) = .ofList middle := by
  simp [slice, length, dropBytes_byteSize_append, takeBytes_byteSize_append]

end Span

end QueryDialect.Text
