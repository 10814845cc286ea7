import Mathlib.Algebra.Ring.Nat
import Mathlib.Data.List.Nodup
import QueryDialect.Dialect

/-!
# Numbers of operators

A supply counts the operators it makes in 32 bits, from the numbers on that built-in operators leave
free. Up to the last number of the counter every new operator is unlike all others, and a pattern
for it is a pattern for it alone. After that the counter begins again at zero, and soon the numbers
it gives out belong to built-in operators.
-/
namespace QueryDialect

/-- Among these operators, equal ones are the same: the number settles the name and the result. -/
def Operator.Identified (among : Operator → Prop) : Prop :=
  ∀ f g, among f → among g → (f == g) = true → f = g

lemma Operator.Identified.mono {among others : Operator → Prop} (h : Operator.Identified others)
    (sub : ∀ f, among f → others f) : Operator.Identified among :=
  fun f g hf hg => h f g (sub f hf) (sub g hg)

namespace OperatorOf

/-- How an operator differs from one that was there before it. Its number is greater, so the two are
unequal, and a pattern for one of them does not change what is found for the other. -/
structure Follows (f g : Σ τ, OperatorOf τ) : Prop where
  id_lt : f.2.id < g.2.id
  unequal : (f.2.toOperator == g.2.toOperator) = false
  patterns_apart : ∀ (table : PatternTable UInt32) (pattern : String),
    (table.add g.2.id pattern).byNumber f.2.toOperator = table.byNumber f.2.toOperator ∧
      (table.add f.2.id pattern).byNumber g.2.toOperator = table.byNumber g.2.toOperator

lemma follows_iff {f g : Σ τ, OperatorOf τ} : Follows f g ↔ f.2.id.toNat < g.2.id.toNat := by
  rw [← UInt32.lt_iff_toNat_lt]
  refine ⟨Follows.id_lt, fun h => ⟨h, ?_, fun table pattern => ⟨?_, ?_⟩⟩⟩
  · exact (beq_eq_false_iff_ne (a := f.2.id)).2 (UInt32.ne_of_lt h)
  · simp [PatternTable.byNumber, PatternTable.find?_add, UInt32.ne_of_lt h]
  · simp [PatternTable.byNumber, PatternTable.find?_add, (UInt32.ne_of_lt h).symm]

lemma pairwise_follows_iff {fs : List (Σ τ, OperatorOf τ)} :
    fs.Pairwise Follows ↔ (fs.map fun f => f.2.id.toNat).Pairwise (· < ·) := by
  rw [List.pairwise_map]
  exact ⟨fun h => h.imp follows_iff.1, fun h => h.imp follows_iff.2⟩

/-- Operators in the order of their numbers are told apart by them. -/
lemma identified_of_pairwise {fs : List (Σ τ, OperatorOf τ)} (h : fs.Pairwise Follows) :
    Operator.Identified fun f => ∃ x ∈ fs, x.2.toOperator = f := by
  rintro _ _ ⟨x, hx, rfl⟩ ⟨y, hy, rfl⟩ same
  have distinct : (fs.map fun f => f.2.id.toNat).Nodup :=
    (pairwise_follows_iff.1 h).imp Nat.ne_of_lt
  have number : x.2.id.toNat = y.2.id.toNat := congrArg UInt32.toNat (eq_of_beq same)
  rw [List.inj_on_of_nodup_map distinct hx hy number]

end OperatorOf

namespace OperatorSupply

open OperatorOf (Follows pairwise_follows_iff)

/-- How many operators a new supply makes before its counter begins again. -/
def room : Nat := 2 ^ 32 - 2 ^ 16

/-- The operators made for some requests, one after another. -/
def createAll (supply : OperatorSupply) : List (ResultType × String) → List (Σ τ, OperatorOf τ)
  | [] => []
  | (τ, name) :: rest =>
    let (f, next) := supply.create τ name
    ⟨τ, f⟩ :: next.createAll rest

/-- Each request takes the next number, reckoned in 32 bits. -/
lemma getElem?_createAll (n : Nat) (requests : List (ResultType × String)) (i : Nat) :
    (createAll ⟨.ofNat n⟩ requests)[i]? =
      (requests[i]?).map fun (τ, name) => ⟨τ, (create ⟨.ofNat (n + i)⟩ τ name).1⟩ := by
  induction requests generalizing n i with
  | nil => rfl
  | cons request rest ih =>
    cases i with
    | zero => rfl
    | succ i =>
      have next : UInt32.ofNat n + 1 = UInt32.ofNat (n + 1) := by rw [UInt32.ofNat_add]; rfl
      have made := ih (n + 1) i
      rw [← next, Nat.succ_add_eq_add_succ] at made
      exact made

lemma getElem?_createAll_initial (requests : List (ResultType × String)) (i : Nat) :
    (initial.createAll requests)[i]? =
      (requests[i]?).map fun (τ, name) => ⟨τ, (create ⟨.ofNat (2 ^ 16 + i)⟩ τ name).1⟩ := by
  have start : initial = ⟨.ofNat (2 ^ 16)⟩ := rfl
  rw [start, getElem?_createAll]

/-- The number of an operator tells how many were made before it, up to the size of the counter. -/
lemma getElem?_created (requests : List (ResultType × String)) (i : Nat) :
    ((initial.createAll requests)[i]?).map (fun f => f.2.id.toNat) =
      if i < requests.length then some ((2 ^ 16 + i) % 2 ^ 32) else none := by
  rw [getElem?_createAll_initial, Option.map_map]
  split_ifs with inside
  · rw [List.getElem?_eq_getElem inside]
    rfl
  · rw [List.getElem?_eq_none (Nat.le_of_not_lt inside)]
    rfl

lemma ids_created (requests : List (ResultType × String)) :
    (initial.createAll requests).map (fun f => f.2.id.toNat) =
      (List.range' (2 ^ 16) requests.length).map (· % 2 ^ 32) := by
  refine List.ext_getElem? fun i => ?_
  rw [List.getElem?_map, getElem?_created, List.getElem?_map]
  split_ifs with inside
  · rw [List.getElem?_range' inside, Option.map_some, Nat.one_mul]
  · rw [List.getElem?_eq_none (by simpa using inside), Option.map_none]

/-- Where the counter does not wrap, the numbers are just counted up. -/
lemma ids_created_of_le {requests : List (ResultType × String)} (h : requests.length ≤ room) :
    (initial.createAll requests).map (fun f => f.2.id.toNat) =
      List.range' (2 ^ 16) requests.length := by
  rw [ids_created]
  refine (List.map_congr_left fun n mem => Nat.mod_eq_of_lt ?_).trans (List.map_id _)
  have bounds := List.mem_range'_1.1 mem
  unfold room at h
  omega

/-- As long as the counter has room, all operators come in the order of their numbers. -/
lemma pairwise_created {requests : List (ResultType × String)} (h : requests.length ≤ room) :
    (Builtin.all ++ initial.createAll requests).Pairwise Follows := by
  rw [pairwise_follows_iff, List.map_append, Builtin.all_ids, ids_created_of_le h,
    List.pairwise_append]
  refine ⟨List.pairwise_lt_range', List.pairwise_lt_range', fun m hm n hn => ?_⟩
  have low := List.mem_range'_1.1 hm
  have high := List.mem_range'_1.1 hn
  omega

/-- An operator that is built in or was made while the counter had room is known by its number. -/
lemma identified_created {requests : List (ResultType × String)} (h : requests.length ≤ room) :
    Operator.Identified fun f =>
      ∃ x ∈ Builtin.all ++ initial.createAll requests, x.2.toOperator = f :=
  OperatorOf.identified_of_pairwise (pairwise_created h)

/-- The first operator that the counter has no room for gets the number zero, below all built-in
ones. -/
lemma length_le_room_of_pairwise {requests : List (ResultType × String)}
    (h : (Builtin.all ++ initial.createAll requests).Pairwise Follows) :
    requests.length ≤ room := by
  by_contra more
  rw [Nat.not_le] at more
  have zero := getElem?_created requests room
  rw [if_pos more] at zero
  obtain ⟨f, found, number⟩ := Option.map_eq_some_iff.1 zero
  have first : (⟨.bool, Builtin.eq⟩ : Σ τ, OperatorOf τ) ∈ Builtin.all := by simp [Builtin.all]
  have follows := (List.pairwise_append.1 h).2.2 _ first f (List.mem_of_getElem? found)
  have below := OperatorOf.follows_iff.1 follows
  rw [number] at below
  exact absurd below (by decide)

/-- The operator that comes second after the counter has begun again has the number one. -/
lemma getElem?_created_past_room (τ : ResultType) (name : String) :
    (initial.createAll (List.replicate (room + 2) (τ, name)))[room + 1]? =
      some ⟨τ, (create ⟨1⟩ τ name).1⟩ := by
  have number : UInt32.ofNat (2 ^ 16 + (room + 1)) = 1 := by decide
  rw [getElem?_createAll_initial, List.getElem?_replicate_of_lt (Nat.lt_succ_self _),
    Option.map_some, number]

/-- The operators that a supply makes, together with the built-in ones: each comes after all those
before it, in number and in what its pattern touches, if and only if the counter has room for all
that are made. The number of each one tells how many were made before it, up to a multiple of the
size of the counter. -/
theorem created_follow_iff (requests : List (ResultType × String)) :
    ((Builtin.all ++ initial.createAll requests).Pairwise Follows ↔ requests.length ≤ room) ∧
    ∀ i, ((initial.createAll requests)[i]?).map (fun f => f.2.id.toNat) =
      if i < requests.length then some ((2 ^ 16 + i) % 2 ^ 32) else none :=
  ⟨⟨length_le_room_of_pairwise, pairwise_created⟩, getElem?_created requests⟩

/-- Two operators more than the counter has room for: the last of them equals a built-in one, and a
pattern for it takes the place of the other's. -/
theorem created_beyond_room_equals_builtin :
    let made := initial.createAll (List.replicate (room + 2) (.bool, "MATCHES"))
    ¬(Builtin.all ++ made).Pairwise Follows ∧
      ∃ f, made[room + 1]? = some f ∧ (f.2.toOperator == Builtin.eq.toOperator) = true ∧
        ((PatternTable.empty.add Builtin.eq.id "{0} = {1}").add f.2.id "{0} matches {1}").byNumber
          Builtin.eq.toOperator = some "{0} matches {1}" := by
  intro made
  refine ⟨fun pairwise => ?_, _, getElem?_created_past_room .bool "MATCHES", rfl, rfl⟩
  have fits := length_le_room_of_pairwise pairwise
  rw [List.length_replicate] at fits
  omega

end OperatorSupply

end QueryDialect
