/-!
# Case mapping entries

An entry covers either every `stride`-th code point of a range, each moved by one offset, or a
single code point that is spelled out as several.
-/
namespace QueryDialect.Text

inductive CaseEntry where
  | shift (first last stride : Nat) (offset : Int)
  | spell (code : Nat) (form : List Nat)
  deriving DecidableEq, Repr

namespace CaseEntry

/-- The greatest code point the entry can cover. -/
def last : CaseEntry → Nat
  | shift _ last _ _ => last
  | spell code _ => code

/-- The form of a character, itself if the entry does not cover it. -/
def form : CaseEntry → Char → List Char
  | shift first last stride offset, c =>
    if first ≤ c.toNat ∧ c.toNat ≤ last ∧ (c.toNat - first) % stride = 0 then
      [Char.ofNat (c.toNat + offset).toNat]
    else [c]
  | spell code form, c => if c.toNat = code then form.map Char.ofNat else [c]

end CaseEntry

/-- The form a mapping in increasing order gives to a character. -/
def mapCase (entries : List CaseEntry) (c : Char) : List Char :=
  match entries.find? (fun entry => c.toNat ≤ entry.last) with
  | some entry => entry.form c
  | none => [c]

/-- A mapped character is left alone or mapped by an entry of the list. -/
theorem mapCase_mem (entries : List CaseEntry) (c : Char) :
    mapCase entries c = [c] ∨ ∃ entry ∈ entries, mapCase entries c = entry.form c := by
  unfold mapCase
  split
  · next entry found => exact .inr ⟨entry, List.mem_of_find?_eq_some found, rfl⟩
  · exact .inl rfl

end QueryDialect.Text
