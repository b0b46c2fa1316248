import Mathlib.Algebra.GroupWithZero.Nat
import Mathlib.Data.List.Dedup
import Mathlib.Data.List.Perm.Subperm
import Ibssa.Lib.Ledger
import Ibssa.Lib.Slots

/-!
# What a call does to who owns what

`Holds` speaks about a moment. `Trades l l' a b n` speaks about a call: whoever
owned the blocks `a` before it owns the blocks `b` after it, `n` blocks were lost
in between, and what the caller owned besides is as it was. A block is lost when
nothing points to it any more and it has not been freed. Trades are put one
behind the other (`trans`), and a trade of a few blocks is one of many (`on`),
so what a function does to the ledger is read off its calls.

An intrusive map owns its items, and `Items` is such a map with the blocks its
items lie in. There are two ways to insert. `add` hands the new item to the map
and forgets about it, so that it is lost if the map has one under that key, and
`addOrFree` looks at what the map answers and frees it then. `drop` frees all.

How many items `add` has lost can be counted from outside: as many as the keys
it was given are more than the items there are now. `TakesIn` is a trade with
that equation, and it is the one that loops keep.
-/

namespace Lifetime

open Keyed

variable {S : Type}

namespace Ledger

/-- `malloc` that is not refused. -/
def get (size : S) (l : Ledger S) : Block S × Ledger S :=
  (⟨l.calls, size⟩,
    { l with calls := l.calls + 1, allocated := ⟨l.calls, size⟩ :: l.allocated })

/-- `realloc` that is not refused: a new block, and the old one is gone. -/
def regrow (p : Option (Block S)) (size : S) (l : Ledger S) : Block S × Ledger S :=
  let r := l.get size
  (r.1, r.2.free p)

theorem malloc_of_granted {fails : Nat → S → Bool} {size : S} {l : Ledger S}
    (h : fails l.calls size = false) :
    l.malloc fails size = (some (l.get size).1, (l.get size).2) := by
  rw [malloc, h]
  rfl

theorem calls_malloc (fails : Nat → S → Bool) (size : S) (l : Ledger S) :
    (l.malloc fails size).2.calls = l.calls + 1 := by
  rw [malloc]
  split <;> rfl

/-- Every block handed out has been freed or is owned, but for `n` that are lost. -/
def AllBut (l : Ledger S) (owned : List (Block S)) (n : Nat) : Prop :=
  ∃ lost : List (Block S), lost.length = n ∧ l.Holds (owned ++ lost)

/-! ## Trades -/

/-- Who owned `a` owns `b` now, and `n` blocks have been lost. -/
def Trades (l l' : Ledger S) (a b : List (Block S)) (n : Nat) : Prop :=
  ∀ owned, l.Holds (a ++ owned) →
    ∃ lost : List (Block S), lost.length = n ∧ l'.Holds (b ++ (owned ++ lost))

/-- A trade in which `k` blocks come in, and those that found no place are lost. -/
def TakesIn (l l' : Ledger S) (a b : List (Block S)) (k : Nat) : Prop :=
  ∃ n, Trades l l' a b n ∧ n + b.length = a.length + k

section

variable {l l' l'' : Ledger S} {a b c : List (Block S)} {m n : Nat}

theorem AllBut.perm {owned owned' : List (Block S)} (h : l.AllBut owned n)
    (hp : owned.Perm owned') : l.AllBut owned' n := by
  obtain ⟨lost, hlost, hl⟩ := h
  exact ⟨lost, hlost, hl.perm (hp.append_right lost)⟩

theorem AllBut.trade {owned : List (Block S)} (h : l.AllBut (a ++ owned) m)
    (ht : Trades l l' a b n) : l'.AllBut (b ++ owned) (m + n) := by
  obtain ⟨lost, hlost, hl⟩ := h
  rw [List.append_assoc] at hl
  obtain ⟨more, hmore, hl'⟩ := ht _ hl
  refine ⟨lost ++ more, by rw [List.length_append, hlost, hmore], ?_⟩
  simpa [List.append_assoc] using hl'

theorem allBut_empty : (empty : Ledger S).AllBut [] 0 := ⟨[], rfl, holds_empty⟩

/-- What is owned has been handed out and not freed, and what has been freed has
been handed out, all of it once. -/
theorem AllBut.sound {owned : List (Block S)} (h : l.AllBut owned n) :
    (∀ b ∈ owned, b ∈ l.allocated ∧ b ∉ l.freed) ∧ owned.Nodup ∧
      (∀ b ∈ l.freed, b ∈ l.allocated) ∧ l.freed.Nodup := by
  obtain ⟨lost, _, hl⟩ := h
  obtain ⟨hfreed, hreached, hapart⟩ :=
    List.nodup_append'.mp (hl.account.nodup_iff.mp hl.nodup)
  refine ⟨fun b hb => ⟨?_, fun hmem => ?_⟩, (List.nodup_append'.mp hreached).1,
    fun b hb => ?_, hfreed⟩
  · exact hl.account.mem_iff.mpr (List.mem_append_right _ (List.mem_append_left _ hb))
  · exact hapart hmem (List.mem_append_left _ hb)
  · exact hl.account.mem_iff.mpr (List.mem_append_left _ hb)

/-- Nothing is owned besides. -/
theorem AllBut.trade_all (h : l.AllBut a m) (ht : Trades l l' a b n) :
    l'.AllBut b (m + n) := by
  have h' := (h.perm (List.Perm.of_eq (List.append_nil a).symm)).trade ht
  rwa [List.append_nil] at h'

namespace Trades

theorem refl (l : Ledger S) (a : List (Block S)) : Trades l l a a 0 := by
  intro owned h
  refine ⟨[], rfl, ?_⟩
  rwa [List.append_nil]

theorem trans (h : Trades l l' a b m) (h' : Trades l' l'' b c n) :
    Trades l l'' a c (m + n) := by
  intro owned ho
  obtain ⟨lost, hlost, hl'⟩ := h owned ho
  obtain ⟨more, hmore, hl''⟩ := h' _ hl'
  refine ⟨lost ++ more, by rw [List.length_append, hlost, hmore], ?_⟩
  simpa [List.append_assoc] using hl''

/-- A trade of some blocks is a trade of more: the rest stays as it is. -/
theorem on {x y rest : List (Block S)} (h : Trades l l' a b n) (hx : x.Perm (a ++ rest))
    (hy : (b ++ rest).Perm y) : Trades l l' x y n := by
  intro owned ho
  have hassoc : (x ++ owned).Perm (a ++ (rest ++ owned)) := by
    rw [← List.append_assoc]
    exact hx.append_right owned
  obtain ⟨lost, hlost, hl'⟩ := h _ (ho.perm hassoc)
  refine ⟨lost, hlost, hl'.perm ?_⟩
  rw [List.append_assoc, ← List.append_assoc]
  exact hy.append_right _

theorem perm {a' b' : List (Block S)} (h : Trades l l' a b n) (ha : a'.Perm a)
    (hb : b.Perm b') : Trades l l' a' b' n :=
  h.on (ha.trans (List.Perm.of_eq (List.append_nil a).symm))
    ((List.Perm.of_eq (List.append_nil b)).trans hb)

theorem frame (h : Trades l l' a b n) (rest : List (Block S)) :
    Trades l l' (a ++ rest) (b ++ rest) n :=
  h.on (List.Perm.refl _) (List.Perm.refl _)

/-- Two trades of different blocks, one after the other. -/
theorem par {d : List (Block S)} (h : Trades l l' a b m) (h' : Trades l' l'' c d n) :
    Trades l l'' (a ++ c) (b ++ d) (m + n) :=
  (h.frame c).trans (h'.on List.perm_append_comm List.perm_append_comm)

theorem malloc (fails : Nat → S → Bool) (size : S) (l : Ledger S) :
    Trades l (l.malloc fails size).2 [] (l.malloc fails size).1.toList 0 := by
  intro owned h
  refine ⟨[], rfl, ?_⟩
  rw [List.append_nil]
  exact h.malloc fails size

theorem get (size : S) (l : Ledger S) : Trades l (l.get size).2 [] [(l.get size).1] 0 := by
  have hnew := Trades.malloc (fun _ _ => false) size l
  rwa [malloc_of_granted rfl] at hnew

theorem free (p : Option (Block S)) (l : Ledger S) : Trades l (l.free p) p.toList [] 0 := by
  intro owned h
  refine ⟨[], rfl, ?_⟩
  rw [List.append_nil]
  exact h.free

/-- What is no longer pointed to is lost. -/
theorem lose (l : Ledger S) (a : List (Block S)) : Trades l l a [] a.length := by
  intro owned h
  exact ⟨a, rfl, h.perm List.perm_append_comm⟩

theorem regrow (p : Option (Block S)) (size : S) (l : Ledger S) :
    Trades l (l.regrow p size).2 p.toList [(l.regrow p size).1] 0 := by
  have hget : Trades l (l.get size).2 p.toList ([(l.get size).1] ++ p.toList) 0 :=
    (Trades.get size l).frame p.toList
  exact hget.trans ((Trades.free p (l.get size).2).on List.perm_append_comm (List.Perm.refl _))

/-- Free a block, and go on with the rest. -/
theorem free_then {p : Option (Block S)} {rest : List (Block S)}
    (h : Trades (l.free p) l' rest b n) : Trades l l' (p.toList ++ rest) b n := by
  have hall := ((Trades.free p l).frame rest).trans h
  rwa [Nat.zero_add] at hall

end Trades

namespace TakesIn

theorem refl (l : Ledger S) (a : List (Block S)) : TakesIn l l a a 0 :=
  ⟨0, Trades.refl l a, by omega⟩

theorem trans {j k : Nat} (h : TakesIn l l' a b j) (h' : TakesIn l' l'' b c k) :
    TakesIn l l'' a c (j + k) := by
  obtain ⟨m, hm, hmk⟩ := h
  obtain ⟨n, hn, hnk⟩ := h'
  exact ⟨m + n, hm.trans hn, by omega⟩

theorem on {k : Nat} {x y rest : List (Block S)} (h : TakesIn l l' a b k)
    (hx : x.Perm (a ++ rest)) (hy : (b ++ rest).Perm y) : TakesIn l l' x y k := by
  obtain ⟨n, hn, hk⟩ := h
  refine ⟨n, hn.on hx hy, ?_⟩
  have hlx := hx.length_eq
  have hly := hy.length_eq
  rw [List.length_append] at hlx hly
  omega

theorem get (size : S) (l : Ledger S) : TakesIn l (l.get size).2 [] [(l.get size).1] 1 :=
  ⟨0, Trades.get size l, rfl⟩

end TakesIn

end

end Ledger

/-! ## Items of a map -/

/-- An intrusive map, by the blocks that its items lie in. -/
abbrev Items (K : Type) [LinearOrder K] (S : Type) := OrdMap K (Block S)

/-- How many of some keys are there more than once. -/
def repeats {K : Type} [DecidableEq K] (ks : List K) : Nat := ks.length - ks.dedup.length

theorem repeats_of_nodup {K : Type} [DecidableEq K] {ks : List K} (h : ks.Nodup) :
    repeats ks = 0 := by
  rw [repeats, h.dedup, Nat.sub_self]

namespace Items

open Ledger

variable {K : Type} [LinearOrder K]

def blocks (m : Items K S) : List (Block S) := m.items.map Prod.snd

/-- Insert a new item under a key. -/
def add (size : S) (m : Items K S) (k : K) (l : Ledger S) : Items K S × Ledger S :=
  let r := l.get size
  (m.insert k r.1, r.2)

/-- Insert a new item under a key, and free it if it is not the one that the
map has there now. -/
def addOrFree [DecidableEq S] (size : S) (m : Items K S) (k : K) (l : Ledger S) :
    Items K S × Ledger S :=
  let r := l.get size
  let m := m.insert k r.1
  if m.get? k ≠ some r.1 then (m, r.2.free (some r.1)) else (m, r.2)

/-- Free all items, in key order. -/
def drop (m : Items K S) (l : Ledger S) : Ledger S :=
  m.blocks.foldl (fun l b => l.free (some b)) l

@[simp] theorem blocks_empty : blocks (OrdMap.empty : Items K S) = [] := rfl

theorem length_blocks (m : Items K S) : m.blocks.length = m.count := List.length_map _

theorem blocks_insert_of_none {m : Items K S} {k : K} (b : Block S) (h : m.get? k = none) :
    (blocks (m.insert k b)).Perm (b :: m.blocks) :=
  (items_insert_perm b h).map Prod.snd

theorem mem_blocks_of_get? {m : Items K S} {k : K} {b : Block S} (h : m.get? k = some b) :
    b ∈ m.blocks :=
  List.mem_map_of_mem (OrdMap.get?_eq_some.mp h)

/-- A new item finds its place, or is lost to the one that has it. -/
theorem takesIn_add (size : S) (m : Items K S) (k : K) (l : Ledger S) :
    TakesIn l (m.add size k l).2 m.blocks (m.add size k l).1.blocks 1 := by
  cases hk : m.get? k with
  | none =>
      refine (TakesIn.get size l).on (List.Perm.refl _) ?_
      exact (blocks_insert_of_none _ hk).symm
  | some b =>
      have hsame : (m.add size k l).1 = m := OrdMap.insert_of_mem _ hk
      rw [hsame]
      refine ⟨1, ?_, Nat.add_comm _ _⟩
      have hget := (Trades.get size l).frame m.blocks
      exact hget.trans ((Trades.lose _ [(l.get size).1]).frame m.blocks)

/-- A key that is new costs nothing but its item. -/
theorem trades_add (size : S) {m : Items K S} {k : K} (l : Ledger S) (hk : m.get? k = none) :
    Trades l (m.add size k l).2 m.blocks (m.add size k l).1.blocks 0 :=
  (Trades.get size l).on (List.Perm.refl _) (blocks_insert_of_none _ hk).symm

/-- Looking at the answer loses nothing. That the new item is in its place only
if it was put there rests on the blocks being told apart. -/
theorem trades_addOrFree [DecidableEq S] (size : S) (m : Items K S) (k : K) (l : Ledger S) :
    Trades l (m.addOrFree size k l).2 m.blocks (m.addOrFree size k l).1.blocks 0 := by
  have hget := Trades.get size l
  rw [addOrFree]
  cases hk : m.get? k with
  | none =>
      rw [OrdMap.get?_insert_self _ hk, if_neg (fun hc => hc rfl)]
      exact hget.on (List.Perm.refl _) (blocks_insert_of_none _ hk).symm
  | some b =>
      rw [OrdMap.insert_of_mem _ hk, hk]
      intro owned ho
      obtain ⟨lost, hlost, hl'⟩ := hget _ ho
      -- the item that was there is one of the owned blocks, and not a new one
      have hne : some b ≠ some (l.get size).1 := by
        intro hc
        have hmem : b ∈ l.allocated :=
          ho.account.mem_iff.mpr (List.mem_append_right _
            (List.mem_append_left _ (mem_blocks_of_get? hk)))
        have hlt := ho.bound b hmem
        rw [Option.some.inj hc] at hlt
        exact absurd hlt (Nat.lt_irrefl _)
      rw [if_pos hne]
      refine ⟨lost, hlost, ?_⟩
      have hfree := Holds.free (p := some (l.get size).1) hl'
      simpa [List.append_assoc] using hfree

private theorem trades_freeAll (bs : List (Block S)) (l : Ledger S) :
    Trades l (bs.foldl (fun l b => l.free (some b)) l) bs [] 0 := by
  induction bs generalizing l with
  | nil => exact Trades.refl l []
  | cons b bs ih => exact ((Trades.free (some b) l).frame bs).trans (ih _)

theorem trades_drop (m : Items K S) (l : Ledger S) : Trades l (m.drop l) m.blocks [] 0 :=
  trades_freeAll m.blocks l

/-- Free the items of a map, and go on with the rest. -/
theorem drop_then {m : Items K S} {l l' : Ledger S} {rest b : List (Block S)} {n : Nat}
    (h : Trades (m.drop l) l' rest b n) : Trades l l' (m.blocks ++ rest) b n := by
  have hall := ((trades_drop m l).frame rest).trans h
  rwa [Nat.zero_add] at hall

/-! ## Keys -/

theorem mem_keys_insert {V : Type} {m : OrdMap K V} {k k' : K} (v : V) :
    k' ∈ (m.insert k v).keys ↔ k' = k ∨ k' ∈ m.keys := by
  rw [← OrdMap.get?_isSome, ← OrdMap.get?_isSome, OrdMap.get?_insert]
  by_cases h : k' = k <;> simp [h]

/-- What a map answers to an insert depends on its keys alone. -/
theorem keys_insert_congr {V W : Type} {m : OrdMap K V} {m' : OrdMap K W} (k : K) (v : V) (w : W)
    (h : m.keys = m'.keys) : (m.insert k v).keys = (m'.insert k w).keys := by
  refine OrdMap.keys_eq fun k' => ?_
  rw [mem_keys_insert, mem_keys_insert, h]

/-- A map has as many items as there are different keys. -/
theorem count_eq_dedup {V : Type} {m : OrdMap K V} {ks : List K} (h : ∀ k, k ∈ m.keys ↔ k ∈ ks) :
    m.count = ks.dedup.length := by
  have hperm : m.keys.Perm ks.dedup :=
    (List.perm_ext_iff_of_nodup m.keys_nodup (List.nodup_dedup ks)).mpr fun k => by
      rw [h, List.mem_dedup]
  rw [← hperm.length_eq]
  exact (List.length_map _).symm

theorem count_of_keys_eq {V W : Type} {m : OrdMap K V} {m' : OrdMap K W} (h : m.keys = m'.keys) :
    m.count = m'.count := by
  have hlen := congrArg List.length h
  rwa [OrdMap.keys, OrdMap.keys, List.length_map, List.length_map] at hlen

theorem isNone_get?_congr {V W : Type} {m : OrdMap K V} {m' : OrdMap K W} (h : m.keys = m'.keys)
    (k : K) : (m.get? k).isSome = (m'.get? k).isSome := by
  rw [Bool.eq_iff_iff, OrdMap.get?_isSome, OrdMap.get?_isSome, h]

end Items

end Lifetime
