import Mathlib.Data.List.Perm.Basic
import Mathlib.Data.List.Range
import Mathlib.Logic.Function.Basic

/-!
# An account of what is allocated and freed

The allocator is an oracle: it is told the number of the call and the size that
is asked for, and says whether it refuses. A block is known by the call that
returned it, so no two blocks are the same and a block that is freed never
comes back. The ledger keeps every block ever handed out and every block ever
given to `free`, in order, and nothing stops a program from freeing a block
twice or one it never got. Whether it did is a question about the two lists.

`Holds l owned` answers it: the freed blocks and the owned ones together are
the allocated ones, each once. An operation moves blocks in and out of `owned`,
and a program that ends owning nothing has freed all it got, once each.

An array of pointers is filled by one allocation after another, and `fill` gives
back what it has when one is refused. Entries may be meant to stay null, so
what an array holds is what it points to, not as many blocks as it has entries.
-/

namespace Lifetime

/-- A block, by the number of the call that returned it. -/
structure Block (S : Type) where
  call : Nat
  size : S
deriving DecidableEq

structure Ledger (S : Type) where
  calls : Nat
  allocated : List (Block S)
  freed : List (Block S)

namespace Ledger

variable {S : Type}

def empty : Ledger S := ⟨0, [], []⟩

/-- `malloc`, with null for a refusal. -/
def malloc (fails : Nat → S → Bool) (size : S) (l : Ledger S) : Option (Block S) × Ledger S :=
  if fails l.calls size then (none, { l with calls := l.calls + 1 })
  else
    (some ⟨l.calls, size⟩,
      { l with calls := l.calls + 1, allocated := ⟨l.calls, size⟩ :: l.allocated })

/-- `free`, which does nothing to a null pointer. -/
def free (p : Option (Block S)) (l : Ledger S) : Ledger S :=
  match p with
  | none => l
  | some b => { l with freed := b :: l.freed }

/-- Free the entries below `n` of an array, from the last one down. -/
def freeDown (arr : Nat → Option (Block S)) : Nat → Ledger S → Ledger S
  | 0, l => l
  | k + 1, l => freeDown arr k (l.free (arr k))

/-- Allocate the next `todo` entries of an array from entry `i` on. An entry
that is not wanted is set to null; when one is refused, the entries before it
are freed. -/
def fill (fails : Nat → S → Bool) (want : Nat → Option S) :
    Nat → Nat → (Nat → Option (Block S)) → Ledger S →
      Bool × (Nat → Option (Block S)) × Ledger S
  | 0, _, arr, l => (true, arr, l)
  | todo + 1, i, arr, l =>
      match want i with
      | none => fill fails want todo (i + 1) (Function.update arr i none) l
      | some size =>
          let r := l.malloc fails size
          let arr := Function.update arr i r.1
          if r.1.isNone then (false, arr, freeDown arr i r.2)
          else fill fails want todo (i + 1) arr r.2

/-! ## Who owns what -/

/-- The blocks that the entries below `n` of an array point to. -/
def blocksOf (arr : Nat → Option (Block S)) (n : Nat) : List (Block S) :=
  (List.range n).filterMap arr

/-- Every block handed out is freed or owned, and only one of the two. -/
structure Holds (l : Ledger S) (owned : List (Block S)) : Prop where
  bound : ∀ b ∈ l.allocated, b.call < l.calls
  nodup : l.allocated.Nodup
  account : l.allocated.Perm (l.freed ++ owned)

theorem blocksOf_succ (arr : Nat → Option (Block S)) (n : Nat) :
    blocksOf arr (n + 1) = blocksOf arr n ++ (arr n).toList := by
  rw [blocksOf, blocksOf, List.range_succ, List.filterMap_append]
  rfl

/-- Entries are owned as they were whatever is stored behind them. -/
theorem blocksOf_update (arr : Nat → Option (Block S)) {n i : Nat} (p : Option (Block S))
    (h : n ≤ i) : blocksOf (Function.update arr i p) n = blocksOf arr n := by
  refine List.filterMap_congr fun j hj => ?_
  have hlt := List.mem_range.mp hj
  rw [Function.update_of_ne (by omega)]

theorem holds_empty : (empty : Ledger S).Holds [] :=
  ⟨fun _ hb => absurd hb List.not_mem_nil, List.nodup_nil, List.Perm.refl _⟩

theorem freed_malloc (fails : Nat → S → Bool) (size : S) (l : Ledger S) :
    (l.malloc fails size).2.freed = l.freed := by
  rw [malloc]
  split <;> rfl

theorem allocated_free (p : Option (Block S)) (l : Ledger S) :
    (l.free p).allocated = l.allocated := by
  cases p <;> rfl

theorem allocated_freeDown (arr : Nat → Option (Block S)) (n : Nat) (l : Ledger S) :
    (freeDown arr n l).allocated = l.allocated := by
  induction n generalizing l with
  | zero => rfl
  | succ k ih => rw [freeDown, ih, allocated_free]

theorem size_of_malloc {fails : Nat → S → Bool} {size : S} {l : Ledger S} {b : Block S}
    (h : (l.malloc fails size).1 = some b) : b.size = size := by
  rw [malloc] at h
  split at h
  · cases h
  · cases h
    rfl

theorem malloc_isNone (fails : Nat → S → Bool) (size : S) (l : Ledger S) :
    (l.malloc fails size).1.isNone = fails l.calls size := by
  rw [malloc]
  cases fails l.calls size <;> rfl

namespace Holds

variable {l : Ledger S} {owned owned' : List (Block S)}

theorem perm (h : l.Holds owned) (hp : owned.Perm owned') : l.Holds owned' :=
  ⟨h.bound, h.nodup, h.account.trans (hp.append_left _)⟩

/-- What is allocated is owned; after a refusal that is nothing new. -/
theorem malloc (h : l.Holds owned) (fails : Nat → S → Bool) (size : S) :
    (l.malloc fails size).2.Holds ((l.malloc fails size).1.toList ++ owned) := by
  rw [Ledger.malloc]
  split
  · exact ⟨fun b hb => Nat.lt_succ_of_lt (h.bound b hb), h.nodup, h.account⟩
  · refine ⟨?_, ?_, ?_⟩
    · intro b hb
      rcases List.mem_cons.mp hb with rfl | hb
      · exact Nat.lt_succ_self _
      · exact Nat.lt_succ_of_lt (h.bound b hb)
    · refine List.nodup_cons.mpr ⟨fun hmem => ?_, h.nodup⟩
      exact absurd (h.bound _ hmem) (Nat.lt_irrefl _)
    · exact (h.account.cons _).trans List.perm_middle.symm

/-- A refusal changes nothing about who owns what. -/
theorem refused (h : l.Holds owned) {fails : Nat → S → Bool} {size : S}
    (hnull : (l.malloc fails size).1.isNone = true) : (l.malloc fails size).2.Holds owned := by
  have hmalloc := h.malloc fails size
  rw [Option.isNone_iff_eq_none.mp hnull] at hmalloc
  exact hmalloc

theorem free {p : Option (Block S)} (h : l.Holds (p.toList ++ owned)) :
    (l.free p).Holds owned := by
  cases p with
  | none => exact h
  | some b => exact ⟨h.bound, h.nodup, h.account.trans List.perm_middle⟩

theorem freeDown {arr : Nat → Option (Block S)} (n : Nat)
    (h : l.Holds (blocksOf arr n ++ owned)) : (freeDown arr n l).Holds owned := by
  induction n generalizing l with
  | zero => exact h
  | succ k ih =>
      rw [blocksOf_succ, List.append_assoc] at h
      exact ih (Holds.free (h.perm (List.perm_append_comm_assoc _ _ _)))

/-- All there is has been freed, each block once. -/
theorem settled (h : l.Holds []) : l.freed.Perm l.allocated ∧ l.freed.Nodup := by
  have hperm := h.account
  rw [List.append_nil] at hperm
  exact ⟨hperm.symm, hperm.nodup_iff.mp h.nodup⟩

end Holds

/-! ## Filling an array -/

/-- An array that has been filled holds its blocks and nothing has been freed;
one that has not been filled holds nothing. -/
theorem fill_spec (fails : Nat → S → Bool) (want : Nat → Option S) {owned : List (Block S)}
    (todo i : Nat) (arr : Nat → Option (Block S)) {l : Ledger S}
    (h : l.Holds (blocksOf arr i ++ owned)) :
    ((fill fails want todo i arr l).1 = false →
        (fill fails want todo i arr l).2.2.Holds owned) ∧
      ((fill fails want todo i arr l).1 = true →
        (fill fails want todo i arr l).2.2.Holds
            (blocksOf (fill fails want todo i arr l).2.1 (i + todo) ++ owned) ∧
          (fill fails want todo i arr l).2.2.freed = l.freed) := by
  induction todo generalizing i arr l with
  | zero => exact ⟨fun hf => Bool.noConfusion hf, fun _ => ⟨h, rfl⟩⟩
  | succ todo ih =>
      rw [fill, show i + (todo + 1) = i + 1 + todo by omega]
      cases want i with
      | none =>
          refine ih (i + 1) _ ?_
          rw [blocksOf_succ, blocksOf_update _ _ (Nat.le_refl i), Function.update_self,
            Option.toList_none, List.append_nil]
          exact h
      | some size =>
          have hblocks : ∀ p, blocksOf (Function.update arr i p) i = blocksOf arr i := fun p =>
            blocksOf_update arr p (Nat.le_refl i)
          simp only []
          split
          · next hnull =>
              refine ⟨fun _ => Holds.freeDown i ?_, fun ht => Bool.noConfusion ht⟩
              rw [hblocks]
              exact h.refused hnull
          · have hheld : (l.malloc fails size).2.Holds
                (blocksOf (Function.update arr i (l.malloc fails size).1) (i + 1) ++ owned) := by
              rw [blocksOf_succ, hblocks, Function.update_self, List.append_assoc]
              exact (h.malloc fails size).perm (List.perm_append_comm_assoc _ _ _)
            have hnext := ih (i + 1) _ hheld
            refine ⟨hnext.1, fun ht => ⟨(hnext.2 ht).1, ?_⟩⟩
            rw [(hnext.2 ht).2, freed_malloc]

/-- The entries of an array that has been filled have the sizes that were asked
for, and those before them are as they were. -/
theorem size_of_fill {fails : Nat → S → Bool} {want : Nat → Option S} (todo i : Nat)
    {arr : Nat → Option (Block S)} {l : Ledger S}
    (h : (fill fails want todo i arr l).1 = true) :
    (∀ j < i, (fill fails want todo i arr l).2.1 j = arr j) ∧
      ∀ j, i ≤ j → j < i + todo →
        ((fill fails want todo i arr l).2.1 j).map Block.size = want j := by
  induction todo generalizing i arr l with
  | zero => exact ⟨fun _ _ => rfl, fun j hle hlt => absurd hlt (by omega)⟩
  | succ todo ih =>
      -- a round sets entry `i` to what was asked for and leaves the others
      have hround : ∀ {p : Option (Block S)} {l' : Ledger S}, p.map Block.size = want i →
          (fill fails want todo (i + 1) (Function.update arr i p) l').1 = true →
          (∀ j < i,
            (fill fails want todo (i + 1) (Function.update arr i p) l').2.1 j = arr j) ∧
          ∀ j, i ≤ j → j < i + (todo + 1) →
            ((fill fails want todo (i + 1) (Function.update arr i p) l').2.1 j).map Block.size
              = want j := by
        intro p l' hp hrest
        obtain ⟨hbefore, hentries⟩ := ih (i + 1) hrest
        refine ⟨fun j hj => ?_, fun j hle hlt => ?_⟩
        · rw [hbefore j (by omega), Function.update_of_ne (by omega)]
        · rcases Nat.eq_or_lt_of_le hle with rfl | hlt'
          · rw [hbefore i (Nat.lt_succ_self i), Function.update_self, hp]
          · exact hentries j hlt' (by omega)
      rw [fill] at h ⊢
      cases hw : want i with
      | none =>
          rw [hw] at h hround
          exact hround rfl h
      | some size =>
          rw [hw] at h hround
          simp only [] at h ⊢
          split at h
          · cases h
          · next hnull =>
              rw [if_neg hnull]
              obtain ⟨b, hb⟩ := Option.ne_none_iff_exists'.mp (by simpa using hnull)
              exact hround (by rw [hb, Option.map_some, size_of_malloc hb]) h

/-- An allocator that refuses nothing fills every array. -/
theorem fill_granted {fails : Nat → S → Bool} (hgrant : ∀ n size, fails n size = false)
    (want : Nat → Option S) (todo i : Nat) (arr : Nat → Option (Block S)) (l : Ledger S) :
    (fill fails want todo i arr l).1 = true := by
  induction todo generalizing i arr l with
  | zero => rfl
  | succ todo ih =>
      rw [fill]
      cases want i with
      | none => exact ih _ _ _
      | some size =>
          simp only []
          rw [malloc_isNone, hgrant]
          exact ih _ _ _

end Ledger

end Lifetime
