import Mathlib.Logic.Function.Basic

/-!
# Heap blocks with a capacity

A block is an address, an element capacity and its contents. The contents
are a total function: what lies beyond the capacity is memory like any
other, so a read is always answered, and a read outside the block is
answered with whatever happens to be there.

Writes are where a block can be hurt, and a block remembers it: `fits`
stays true as long as every write so far fell below the capacity it had at
the moment of the write. A write that does not fit is recorded there and
then carried out as if there had been room, so a statement about contents
says the same with and without the room, and the room is a statement of its
own.
-/

namespace Keyed

/-- An address an allocator returned: not null. -/
structure Addr where
  val : UInt64
  ne : val ≠ 0

instance : Inhabited Addr := ⟨⟨1, by decide⟩⟩

structure Buf (α : Type) where
  addr : UInt64
  cap : Nat
  cell : Nat → α
  fits : Bool

namespace Buf

variable {α : Type}

/-- The null pointer. -/
def null [Inhabited α] : Buf α := ⟨0, 0, fun _ => default, true⟩

instance [Inhabited α] : Inhabited (Buf α) := ⟨null⟩

def isNull (b : Buf α) : Bool := b.addr == 0

/-- A fresh block of `n` elements; `junk` is what the memory held before. -/
def malloc (a : Addr) (n : Nat) (junk : Nat → α) : Buf α := ⟨a.val, n, junk, true⟩

/-- A block that holds a list. -/
def ofList [Inhabited α] (a : Addr) (l : List α) : Buf α :=
  ⟨a.val, l.length, fun i => l.getD i default, true⟩

/-- Contents are kept up to the new capacity. A null block has none to keep. -/
def realloc (b : Buf α) (a : Addr) (n : Nat) (junk : Nat → α) : Buf α where
  addr := a.val
  cap := n
  cell i := if i < n ∧ b.isNull = false then b.cell i else junk i
  fits := b.fits

/-- Store one element. -/
def write (b : Buf α) (i : Nat) (v : α) : Buf α :=
  { b with cell := Function.update b.cell i v, fits := b.fits && decide (i < b.cap) }

/-- Copy `n` elements in, starting at `off`. -/
def copy (b : Buf α) (off n : Nat) (src : Nat → α) : Buf α :=
  { b with
    cell := fun j => if off ≤ j ∧ j < off + n then src (j - off) else b.cell j
    fits := b.fits && decide (n = 0 ∨ off + n ≤ b.cap) }

@[simp] theorem cell_write (b : Buf α) (i : Nat) (v : α) :
    (b.write i v).cell = Function.update b.cell i v := rfl

theorem fits_write (b : Buf α) (i : Nat) (v : α) :
    (b.write i v).fits = true ↔ b.fits = true ∧ i < b.cap := by
  simp [write]

/-- The later of two writes to one cell is all that counts. -/
@[simp] theorem write_write (b : Buf α) (i : Nat) (v w : α) :
    (b.write i v).write i w = b.write i w := by
  rw [write, write, write]
  simp only [Function.update_idem, Bool.and_assoc]
  rw [Bool.and_self]

/-- Writing behind the entries of a list extends the list. -/
theorem cells_write {β : Type} (val : β → α) {l : List β} {b : Buf α}
    (h : ∀ i (hi : i < l.length), b.cell i = val l[i]) (e : β) (i : Nat)
    (hi : i < (l ++ [e]).length) : (b.write l.length (val e)).cell i = val (l ++ [e])[i] := by
  rw [List.length_append, List.length_singleton] at hi
  rw [cell_write]
  by_cases hlt : i < l.length
  · rw [Function.update_of_ne (by omega), h i hlt, List.getElem_append_left hlt]
  · obtain rfl : i = l.length := by omega
    rw [Function.update_self, List.getElem_append_right (Nat.le_refl _)]
    simp

theorem fits_copy (b : Buf α) (off n : Nat) (src : Nat → α) :
    (b.copy off n src).fits = true ↔ b.fits = true ∧ (n = 0 ∨ off + n ≤ b.cap) := by
  simp [copy]

@[simp] theorem copy_zero (b : Buf α) (off : Nat) (src : Nat → α) : b.copy off 0 src = b := by
  have hcell : (fun j => if off ≤ j ∧ j < off + 0 then src (j - off) else b.cell j) = b.cell := by
    funext j
    rw [if_neg (by omega)]
  simp only [copy, hcell, true_or, decide_true, Bool.and_true]

theorem cell_copy_of_mem (b : Buf α) {off n : Nat} (src : Nat → α) {j : Nat} (h : j < n) :
    (b.copy off n src).cell (off + j) = src j := by
  simp only [copy]
  rw [if_pos ⟨by omega, by omega⟩, Nat.add_sub_cancel_left]

theorem cell_copy_of_lt (b : Buf α) {off n : Nat} (src : Nat → α) {j : Nat} (h : j < off) :
    (b.copy off n src).cell j = b.cell j := by
  simp only [copy]
  rw [if_neg (by omega)]

@[simp] theorem isNull_realloc (b : Buf α) (a : Addr) (n : Nat) (junk : Nat → α) :
    (b.realloc a n junk).isNull = false := by
  simp [isNull, realloc, a.ne]

theorem cell_realloc (b : Buf α) (a : Addr) {n : Nat} (junk : Nat → α) {i : Nat}
    (hb : b.isNull = false) (h : i < n) : (b.realloc a n junk).cell i = b.cell i := by
  simp only [realloc]
  rw [if_pos ⟨h, hb⟩]

@[simp] theorem isNull_malloc (a : Addr) (n : Nat) (junk : Nat → α) :
    (malloc a n junk).isNull = false := by
  simp [isNull, malloc, a.ne]

end Buf

end Keyed
