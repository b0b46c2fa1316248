import Mathlib.Data.List.Perm.Basic
import Mathlib.Logic.Function.Basic

/-!
# Objects with a lifetime

A pointer is NULL or the number of an object, and a number is given out once:
an object that has been freed keeps its number, so a pointer to it cannot come
to mean another object. That is what makes `sound` exact. It says that every
use and every deletion so far was of an object that was live, which is to say
that nothing was used after its deletion and nothing was deleted twice.

`Owns l` lists the live objects. The list has no duplicates, so the pointers
it is made of are distinct without a word about it, and an operation's lemma
says what it does to the list. What nobody points to any more stays in it.
-/

namespace Lifetime

structure Objects (α : Type) where
  obj : Nat → Option α
  next : Nat
  sound : Bool
  fresh : ∀ n, next ≤ n → obj n = none

namespace Objects

variable {α : Type}

def empty : Objects α where
  obj := fun _ => none
  next := 0
  sound := true
  fresh := fun _ _ => rfl

/-- What a pointer points to, if it points to a live object. -/
def read (h : Objects α) (p : Option Nat) : Option α := p.bind h.obj

theorem fresh_update {obj : Nat → Option α} {next n : Nat} {v : Option α}
    (h : ∀ m, next ≤ m → obj m = none) (hv : next ≤ n → v = none) :
    ∀ m, next ≤ m → Function.update obj n v m = none := by
  intro m hm
  by_cases hmn : m = n
  · subst hmn
    rw [Function.update_self, hv hm]
  · rw [Function.update_of_ne hmn, h m hm]

/-- `calloc`: a new object. -/
def alloc (h : Objects α) (a : α) : Objects α where
  obj := Function.update h.obj h.next (some a)
  next := h.next + 1
  sound := h.sound
  fresh := fresh_update (fun m hm => h.fresh m (by omega)) (fun hle => by omega)

/-- Read through a pointer. -/
def use (h : Objects α) (p : Option Nat) : Objects α :=
  { h with sound := h.sound && (h.read p).isSome }

/-- Write through a pointer. -/
def modify (h : Objects α) (p : Option Nat) (f : α → α) : Objects α :=
  match p with
  | none => { h with sound := false }
  | some n =>
      { obj := Function.update h.obj n ((h.obj n).map f)
        next := h.next
        sound := h.sound && (h.obj n).isSome
        fresh := fresh_update h.fresh fun hle => by rw [h.fresh n hle, Option.map_none] }

/-- `if (p) { ...; free(p); }`. -/
def free (h : Objects α) (p : Option Nat) : Objects α :=
  match p with
  | none => h
  | some n =>
      { obj := Function.update h.obj n none
        next := h.next
        sound := h.sound && (h.obj n).isSome
        fresh := fresh_update h.fresh fun _ => rfl }

@[simp] theorem read_some (h : Objects α) (n : Nat) : h.read (some n) = h.obj n := rfl

theorem obj_alloc (h : Objects α) (a : α) :
    (h.alloc a).obj = Function.update h.obj h.next (some a) := rfl

theorem obj_modify (h : Objects α) (n : Nat) (f : α → α) :
    (h.modify (some n) f).obj = Function.update h.obj n ((h.obj n).map f) := rfl

theorem obj_free (h : Objects α) (n : Nat) :
    (h.free (some n)).obj = Function.update h.obj n none := rfl

/-! ## Who is live -/

/-- The live objects are those of the list, each listed once. -/
structure Owns (h : Objects α) (l : List Nat) : Prop where
  nodup : l.Nodup
  live_iff : ∀ n, (h.obj n).isSome ↔ n ∈ l

theorem owns_empty : (empty : Objects α).Owns [] where
  nodup := List.nodup_nil
  live_iff := by
    intro n
    simp [empty]

variable {h : Objects α} {l : List Nat}

theorem Owns.perm {l' : List Nat} (hl : h.Owns l) (hp : l.Perm l') : h.Owns l' where
  nodup := hp.nodup_iff.mp hl.nodup
  live_iff := by
    intro n
    rw [hl.live_iff, hp.mem_iff]

theorem Owns.lt_next (hl : h.Owns l) {n : Nat} (hn : n ∈ l) : n < h.next := by
  by_contra hge
  have hlive := (hl.live_iff n).mpr hn
  rw [h.fresh n (by omega)] at hlive
  exact absurd hlive (by simp)

theorem Owns.alloc (hl : h.Owns l) (a : α) : (h.alloc a).Owns (h.next :: l) where
  nodup := by
    refine List.nodup_cons.mpr ⟨fun hmem => ?_, hl.nodup⟩
    exact absurd (hl.lt_next hmem) (by omega)
  live_iff := by
    intro n
    rw [List.mem_cons, obj_alloc]
    by_cases hn : n = h.next
    · simp [hn]
    · simp [hn, hl.live_iff]

theorem Owns.use (hl : h.Owns l) (p : Option Nat) : (h.use p).Owns l :=
  ⟨hl.nodup, hl.live_iff⟩

theorem Owns.modify (hl : h.Owns l) (n : Nat) (f : α → α) : (h.modify (some n) f).Owns l where
  nodup := hl.nodup
  live_iff := by
    intro m
    rw [← hl.live_iff, obj_modify]
    by_cases hm : m = n
    · simp [hm]
    · simp [Function.update_of_ne hm]

theorem Owns.free {n : Nat} (hl : h.Owns (n :: l)) : (h.free (some n)).Owns l where
  nodup := (List.nodup_cons.mp hl.nodup).2
  live_iff := by
    intro m
    have hnot := (List.nodup_cons.mp hl.nodup).1
    rw [obj_free]
    by_cases hm : m = n
    · simp [hm, hnot]
    · simp [hl.live_iff, hm]

/-! ## What stays sound -/

theorem sound_use (hsound : h.sound = true) {n : Nat} (hn : (h.obj n).isSome) :
    (h.use (some n)).sound = true := by
  rw [use, read_some, hsound, hn]
  rfl

theorem sound_modify (hsound : h.sound = true) {n : Nat} (f : α → α) (hn : (h.obj n).isSome) :
    (h.modify (some n) f).sound = true := by
  rw [modify, hsound, hn]
  rfl

theorem sound_free (hsound : h.sound = true) {n : Nat} (hn : (h.obj n).isSome) :
    (h.free (some n)).sound = true := by
  rw [free, hsound, hn]
  rfl

end Objects

end Lifetime
