import Ibssa.Lib.Slots

/-!
# Walking two sorted lists at once

The walk is the merge that computes a difference: with one cursor in the
old list and one in the new, a key only the old list has is removed, a key
only the new list has is added, and a key both have is removed and added
when the comparison says its item changed. What is done on a removal and on
an addition is up to the caller, and so is the state the walk threads
through.

A walk is easiest to reason about as the list of its operations. `walkOps`
is that list, `walk_eq` says the walk folds over it, and
`removed_walkOps` and `added_walkOps` say what is in it: the removals are
the old list filtered, the additions are the new list filtered, each in its
own order. Nothing else about the order of the operations is ever needed.

`patch` is the consumer's side: delete the removed keys, then insert the
added entries. `patch_walk_iff` says when that gives the new map.
-/

namespace Keyed

variable {K V W σ : Type}

/-! ## Operations -/

/-- One operation of a walk. -/
inductive WalkOp (K V : Type) where
  | remove (p : K × V)
  | add (p : K × V)
deriving DecidableEq

namespace WalkOp

def apply (remove add : K × V → σ → σ) (s : σ) : WalkOp K V → σ
  | .remove p => remove p s
  | .add p => add p s

def item : WalkOp K V → K × V
  | .remove p => p
  | .add p => p

/-- The key an operation removes. -/
def removeKey : WalkOp K V → Option K
  | .remove p => some p.1
  | .add _ => none

/-- The key an operation adds. -/
def addKey : WalkOp K V → Option K
  | .remove _ => none
  | .add p => some p.1

theorem addKey_isSome (op : WalkOp K V) : op.addKey.isSome = !op.removeKey.isSome := by
  cases op <;> rfl

end WalkOp

/-- The items a list of operations removes, in order. -/
def removedOf : List (WalkOp K V) → List (K × V)
  | [] => []
  | .remove p :: ops => p :: removedOf ops
  | .add _ :: ops => removedOf ops

/-- The items a list of operations adds, in order. -/
def addedOf : List (WalkOp K V) → List (K × V)
  | [] => []
  | .remove _ :: ops => addedOf ops
  | .add p :: ops => p :: addedOf ops

@[simp] theorem removedOf_map_add (l : List (K × V)) :
    removedOf (l.map WalkOp.add) = [] := by
  induction l with
  | nil => rfl
  | cons p rest ih => exact ih

@[simp] theorem addedOf_map_add (l : List (K × V)) : addedOf (l.map WalkOp.add) = l := by
  induction l with
  | nil => rfl
  | cons p rest ih => exact congrArg _ ih

@[simp] theorem removedOf_map_remove (l : List (K × V)) :
    removedOf (l.map WalkOp.remove) = l := by
  induction l with
  | nil => rfl
  | cons p rest ih => exact congrArg _ ih

@[simp] theorem addedOf_map_remove (l : List (K × V)) :
    addedOf (l.map WalkOp.remove) = [] := by
  induction l with
  | nil => rfl
  | cons p rest ih => exact ih

theorem mem_removedOf {ops : List (WalkOp K V)} {p : K × V} :
    p ∈ removedOf ops ↔ WalkOp.remove p ∈ ops := by
  induction ops with
  | nil => simp [removedOf]
  | cons op ops ih => cases op <;> simp [removedOf, ih]

theorem mem_addedOf {ops : List (WalkOp K V)} {p : K × V} :
    p ∈ addedOf ops ↔ WalkOp.add p ∈ ops := by
  induction ops with
  | nil => simp [addedOf]
  | cons op ops ih => cases op <;> simp [addedOf, ih]

theorem filterMap_removeKey (ops : List (WalkOp K V)) :
    ops.filterMap WalkOp.removeKey = (removedOf ops).map Prod.fst := by
  induction ops with
  | nil => rfl
  | cons op ops ih =>
      cases op with
      | remove p =>
          have hk : (WalkOp.remove p).removeKey = some p.1 := rfl
          rw [List.filterMap_cons_some hk, ih, removedOf, List.map_cons]
      | add p =>
          have hk : (WalkOp.add p).removeKey = none := rfl
          rw [List.filterMap_cons_none hk, ih, removedOf]

theorem filterMap_addKey (ops : List (WalkOp K V)) :
    ops.filterMap WalkOp.addKey = (addedOf ops).map Prod.fst := by
  induction ops with
  | nil => rfl
  | cons op ops ih =>
      cases op with
      | remove p =>
          have hk : (WalkOp.remove p).addKey = none := rfl
          rw [List.filterMap_cons_none hk, ih, addedOf]
      | add p =>
          have hk : (WalkOp.add p).addKey = some p.1 := rfl
          rw [List.filterMap_cons_some hk, ih, addedOf, List.map_cons]

theorem mem_filterMap_removeKey {ops : List (WalkOp K V)} {k : K} :
    k ∈ ops.filterMap WalkOp.removeKey ↔ ∃ v, WalkOp.remove (k, v) ∈ ops := by
  rw [filterMap_removeKey]
  simp only [List.mem_map, mem_removedOf, Prod.exists, exists_and_right, exists_eq_right]

theorem mem_filterMap_addKey {ops : List (WalkOp K V)} {k : K} :
    k ∈ ops.filterMap WalkOp.addKey ↔ ∃ v, WalkOp.add (k, v) ∈ ops := by
  rw [filterMap_addKey]
  simp only [List.mem_map, mem_addedOf, Prod.exists, exists_and_right, exists_eq_right]

theorem length_removedOf_add_addedOf (ops : List (WalkOp K V)) :
    (removedOf ops).length + (addedOf ops).length = ops.length := by
  induction ops with
  | nil => rfl
  | cons op ops ih =>
      cases op <;> simp only [removedOf, addedOf, List.length_cons] <;> omega

/-! ## The consumer's side -/

/-- Delete the removed keys, then insert the added entries. -/
def patch (f : K → Option W) (removed : K → Bool) (added : K → Option W) : K → Option W :=
  layered (fun k => if removed k then none else f k) added

variable [LinearOrder K]

/-! ## The walk -/

section Walk

variable (changed : K × V → K × V → Bool) (remove add : K × V → σ → σ)

/-- The loop that runs while both cursors have an item. What is left of the
two lists is returned beside the state. -/
def walkBoth : List (K × V) → List (K × V) → σ → List (K × V) × List (K × V) × σ
  | [], new, s => ([], new, s)
  | o :: old, [], s => (o :: old, [], s)
  | o :: old, n :: new, s =>
      if o.1 < n.1 then walkBoth old (n :: new) (remove o s)
      else if n.1 < o.1 then walkBoth (o :: old) new (add n s)
      else if changed o n then walkBoth old new (add n (remove o s))
      else walkBoth old new s
termination_by old new => old.length + new.length

/-- The whole walk: both cursors, then what the new list has left, then what
the old list has left. -/
def walk (old new : List (K × V)) (s : σ) : σ :=
  let r := walkBoth changed remove add old new s
  let s := r.2.1.foldl (fun s n => add n s) r.2.2
  r.1.foldl (fun s o => remove o s) s

end Walk

/-- The operations of a walk, in the order they are done. -/
def walkOps (changed : K × V → K × V → Bool) :
    List (K × V) → List (K × V) → List (WalkOp K V)
  | [], new => new.map .add
  | o :: old, [] => (o :: old).map .remove
  | o :: old, n :: new =>
      if o.1 < n.1 then .remove o :: walkOps changed old (n :: new)
      else if n.1 < o.1 then .add n :: walkOps changed (o :: old) new
      else if changed o n then .remove o :: .add n :: walkOps changed old new
      else walkOps changed old new
termination_by old new => old.length + new.length

theorem walk_eq (changed : K × V → K × V → Bool) (remove add : K × V → σ → σ)
    (old new : List (K × V)) (s : σ) :
    walk changed remove add old new s
      = (walkOps changed old new).foldl (WalkOp.apply remove add) s := by
  unfold walk
  induction old, new, s using walkBoth.induct changed remove add with
  | case1 new s =>
      rw [walkBoth, walkOps]
      simp only [List.foldl_nil, List.foldl_map, WalkOp.apply]
  | case2 s o old =>
      rw [walkBoth, walkOps]
      simp only [List.foldl_nil, List.foldl_map, WalkOp.apply]
  | case3 o old n new s hlt ih =>
      rw [walkBoth, walkOps, if_pos hlt, if_pos hlt]
      exact ih
  | case4 o old n new s hlt hgt ih =>
      rw [walkBoth, walkOps, if_neg hlt, if_neg hlt, if_pos hgt, if_pos hgt]
      exact ih
  | case5 o old n new s hlt hgt hch ih =>
      rw [walkBoth, walkOps, if_neg hlt, if_neg hlt, if_neg hgt, if_neg hgt, if_pos hch,
        if_pos hch]
      exact ih
  | case6 o old n new s hlt hgt hch ih =>
      rw [walkBoth, walkOps, if_neg hlt, if_neg hlt, if_neg hgt, if_neg hgt, if_neg hch,
        if_neg hch]
      exact ih

/-! ## What the operations are -/

/-- An old item that goes: its key is gone, or the item changed. -/
def goes (changed : K × V → K × V → Bool) (new : List (K × V)) (o : K × V) : Bool :=
  match OrdMap.find o.1 new with
  | none => true
  | some w => changed o (o.1, w)

/-- A new item that comes: its key is new, or the item changed. -/
def comes (changed : K × V → K × V → Bool) (old : List (K × V)) (n : K × V) : Bool :=
  match OrdMap.find n.1 old with
  | none => true
  | some w => changed (n.1, w) n

section Contents

variable {changed : K × V → K × V → Bool}

theorem goes_nil (o : K × V) : goes changed [] o = true := rfl

theorem comes_nil (n : K × V) : comes changed [] n = true := rfl

theorem goes_of_lt {new : List (K × V)} {o : K × V} (h : ∀ n ∈ new, o.1 < n.1) :
    goes changed new o = true := by
  have hnone : OrdMap.find o.1 new = none :=
    OrdMap.find_eq_none.mpr fun n hn => ne_of_gt (h n hn)
  unfold goes
  rw [hnone]

theorem comes_of_lt {old : List (K × V)} {n : K × V} (h : ∀ o ∈ old, n.1 < o.1) :
    comes changed old n = true := by
  have hnone : OrdMap.find n.1 old = none :=
    OrdMap.find_eq_none.mpr fun o ho => ne_of_gt (h o ho)
  unfold comes
  rw [hnone]

theorem goes_cons_of_ne {n o : K × V} {new : List (K × V)} (h : n.1 ≠ o.1) :
    goes changed (n :: new) o = goes changed new o := by
  unfold goes
  rw [OrdMap.find_cons, if_neg h]

theorem comes_cons_of_ne {n o : K × V} {old : List (K × V)} (h : o.1 ≠ n.1) :
    comes changed (o :: old) n = comes changed old n := by
  unfold comes
  rw [OrdMap.find_cons, if_neg h]

theorem goes_cons_self {n o : K × V} {new : List (K × V)} (h : n.1 = o.1) :
    goes changed (n :: new) o = changed o n := by
  unfold goes
  rw [OrdMap.find_cons, if_pos h]
  simp only [← h]

theorem comes_cons_self {n o : K × V} {old : List (K × V)} (h : o.1 = n.1) :
    comes changed (o :: old) n = changed o n := by
  unfold comes
  rw [OrdMap.find_cons, if_pos h]
  simp only [← h]

private theorem filter_goes_cons {n : K × V} {old new : List (K × V)}
    (h : ∀ o ∈ old, n.1 < o.1) :
    old.filter (goes changed (n :: new)) = old.filter (goes changed new) :=
  List.filter_congr fun o ho => goes_cons_of_ne (ne_of_lt (h o ho))

private theorem filter_comes_cons {o : K × V} {old new : List (K × V)}
    (h : ∀ n ∈ new, o.1 < n.1) :
    new.filter (comes changed (o :: old)) = new.filter (comes changed old) :=
  List.filter_congr fun n hn => comes_cons_of_ne (ne_of_lt (h n hn))

/-- Both halves of what a walk does, by one induction on the walk. -/
theorem walkOps_spec {old new : List (K × V)}
    (ho : old.Pairwise fun a b => a.1 < b.1) (hn : new.Pairwise fun a b => a.1 < b.1) :
    removedOf (walkOps changed old new) = old.filter (goes changed new) ∧
      addedOf (walkOps changed old new) = new.filter (comes changed old) := by
  induction old, new using walkOps.induct changed with
  | case1 new =>
      rw [walkOps]
      refine ⟨removedOf_map_add new, ?_⟩
      rw [addedOf_map_add, List.filter_eq_self.mpr fun n _ => comes_nil n]
  | case2 o old =>
      rw [walkOps]
      refine ⟨?_, addedOf_map_remove (o :: old)⟩
      rw [removedOf_map_remove, List.filter_eq_self.mpr fun o _ => goes_nil o]
  | case3 o old n new hlt ih =>
      have ho' := List.pairwise_cons.mp ho
      have hn' := List.pairwise_cons.mp hn
      have hall : ∀ x ∈ n :: new, o.1 < x.1 := by
        intro x hx
        rcases List.mem_cons.mp hx with rfl | hx
        · exact hlt
        · exact lt_trans hlt (hn'.1 x hx)
      rw [walkOps, if_pos hlt]
      obtain ⟨ihr, iha⟩ := ih ho'.2 hn
      refine ⟨?_, ?_⟩
      · rw [removedOf, ihr, List.filter_cons, goes_of_lt hall, if_pos rfl]
      · rw [addedOf, iha, filter_comes_cons hall]
  | case4 o old n new hlt hgt ih =>
      have ho' := List.pairwise_cons.mp ho
      have hn' := List.pairwise_cons.mp hn
      have hall : ∀ x ∈ o :: old, n.1 < x.1 := by
        intro x hx
        rcases List.mem_cons.mp hx with rfl | hx
        · exact hgt
        · exact lt_trans hgt (ho'.1 x hx)
      rw [walkOps, if_neg hlt, if_pos hgt]
      obtain ⟨ihr, iha⟩ := ih ho hn'.2
      refine ⟨?_, ?_⟩
      · rw [removedOf, ihr, filter_goes_cons hall]
      · rw [addedOf, iha, List.filter_cons, comes_of_lt hall, if_pos rfl]
  | case5 o old n new hlt hgt hch ih =>
      have ho' := List.pairwise_cons.mp ho
      have hn' := List.pairwise_cons.mp hn
      have hkey : o.1 = n.1 := le_antisymm (not_lt.mp hgt) (not_lt.mp hlt)
      obtain ⟨ihr, iha⟩ := ih ho'.2 hn'.2
      rw [walkOps, if_neg hlt, if_neg hgt, if_pos hch]
      refine ⟨?_, ?_⟩
      · rw [removedOf, removedOf, ihr, List.filter_cons, goes_cons_self hkey.symm, if_pos hch,
          filter_goes_cons (hkey ▸ ho'.1)]
      · rw [addedOf, addedOf, iha, List.filter_cons, comes_cons_self hkey, if_pos hch,
          filter_comes_cons (hkey ▸ hn'.1)]
  | case6 o old n new hlt hgt hch ih =>
      have ho' := List.pairwise_cons.mp ho
      have hn' := List.pairwise_cons.mp hn
      have hkey : o.1 = n.1 := le_antisymm (not_lt.mp hgt) (not_lt.mp hlt)
      obtain ⟨ihr, iha⟩ := ih ho'.2 hn'.2
      rw [walkOps, if_neg hlt, if_neg hgt, if_neg hch]
      refine ⟨?_, ?_⟩
      · rw [ihr, List.filter_cons, goes_cons_self hkey.symm, if_neg hch,
          filter_goes_cons (hkey ▸ ho'.1)]
      · rw [iha, List.filter_cons, comes_cons_self hkey, if_neg hch,
          filter_comes_cons (hkey ▸ hn'.1)]

theorem removed_walkOps {old new : List (K × V)}
    (ho : old.Pairwise fun a b => a.1 < b.1) (hn : new.Pairwise fun a b => a.1 < b.1) :
    removedOf (walkOps changed old new) = old.filter (goes changed new) :=
  (walkOps_spec ho hn).1

theorem added_walkOps {old new : List (K × V)}
    (ho : old.Pairwise fun a b => a.1 < b.1) (hn : new.Pairwise fun a b => a.1 < b.1) :
    addedOf (walkOps changed old new) = new.filter (comes changed old) :=
  (walkOps_spec ho hn).2

/-- A filtered item list keeps its keys apart. -/
private theorem keys_filter_nodup {l : List (K × V)} (h : l.Pairwise fun a b => a.1 < b.1)
    (p : K × V → Bool) : ((l.filter p).map Prod.fst).Nodup :=
  (List.pairwise_map.mpr (h.filter p)).imp ne_of_lt

theorem removed_keys_nodup {old new : List (K × V)}
    (ho : old.Pairwise fun a b => a.1 < b.1) (hn : new.Pairwise fun a b => a.1 < b.1) :
    ((removedOf (walkOps changed old new)).map Prod.fst).Nodup := by
  rw [removed_walkOps ho hn]
  exact keys_filter_nodup ho _

theorem added_keys_nodup {old new : List (K × V)}
    (ho : old.Pairwise fun a b => a.1 < b.1) (hn : new.Pairwise fun a b => a.1 < b.1) :
    ((addedOf (walkOps changed old new)).map Prod.fst).Nodup := by
  rw [added_walkOps ho hn]
  exact keys_filter_nodup hn _

theorem length_walkOps_le {old new : List (K × V)}
    (ho : old.Pairwise fun a b => a.1 < b.1) (hn : new.Pairwise fun a b => a.1 < b.1) :
    (walkOps changed old new).length ≤ old.length + new.length := by
  rw [← length_removedOf_add_addedOf, removed_walkOps ho hn, added_walkOps ho hn]
  have h₁ := List.length_filter_le (goes changed new) old
  have h₂ := List.length_filter_le (comes changed old) new
  omega

theorem remove_mem_walkOps {old new : OrdMap K V} {k : K} {v : V} :
    WalkOp.remove (k, v) ∈ walkOps changed old.items new.items ↔
      old.get? k = some v ∧ goes changed new.items (k, v) = true := by
  rw [← mem_removedOf, removed_walkOps old.sorted new.sorted, List.mem_filter,
    OrdMap.get?_eq_some]

theorem add_mem_walkOps {old new : OrdMap K V} {k : K} {v : V} :
    WalkOp.add (k, v) ∈ walkOps changed old.items new.items ↔
      new.get? k = some v ∧ comes changed old.items (k, v) = true := by
  rw [← mem_addedOf, added_walkOps old.sorted new.sorted, List.mem_filter,
    OrdMap.get?_eq_some]

theorem goes_eq {new : OrdMap K V} {k : K} {v : V} :
    goes changed new.items (k, v) = true ↔
      ∀ w, new.get? k = some w → changed (k, v) (k, w) = true := by
  show (match new.get? k with
    | none => true
    | some w => changed (k, v) (k, w)) = true ↔ _
  cases hk : new.get? k with
  | none => simp
  | some w => simp

theorem comes_eq {old : OrdMap K V} {k : K} {w : V} :
    comes changed old.items (k, w) = true ↔
      ∀ v, old.get? k = some v → changed (k, v) (k, w) = true := by
  show (match old.get? k with
    | none => true
    | some v => changed (k, v) (k, w)) = true ↔ _
  cases hk : old.get? k with
  | none => simp
  | some v => simp

/-- A key is removed when only the old map has it, or both have it and its
item changed. -/
theorem exists_remove_mem_walkOps {old new : OrdMap K V} {k : K} :
    (∃ v, WalkOp.remove (k, v) ∈ walkOps changed old.items new.items) ↔
      (k ∈ old.keys ∧ k ∉ new.keys) ∨
        ∃ v w, old.get? k = some v ∧ new.get? k = some w ∧ changed (k, v) (k, w) = true := by
  simp only [remove_mem_walkOps, goes_eq, ← OrdMap.get?_isSome]
  cases old.get? k with
  | none => simp
  | some v => cases new.get? k <;> simp

/-- A key is added when only the new map has it, or both have it and its item
changed. -/
theorem exists_add_mem_walkOps {old new : OrdMap K V} {k : K} :
    (∃ w, WalkOp.add (k, w) ∈ walkOps changed old.items new.items) ↔
      (k ∈ new.keys ∧ k ∉ old.keys) ∨
        ∃ v w, old.get? k = some v ∧ new.get? k = some w ∧ changed (k, v) (k, w) = true := by
  simp only [add_mem_walkOps, comes_eq, ← OrdMap.get?_isSome]
  cases new.get? k with
  | none => simp
  | some w => cases old.get? k <;> simp

end Contents

/-! ## The law of a difference -/

section Law

variable (changed : K × V → K × V → Bool) (old new : OrdMap K V)

/-- The keys that a walk over two maps removes. -/
def removedKey (k : K) : Bool :=
  match old.get? k with
  | none => false
  | some v => goes changed new.items (k, v)

/-- The keys that a walk over two maps adds, with the values they come with. -/
def addedVal (val : V → W) (k : K) : Option W :=
  match new.get? k with
  | none => none
  | some v => if comes changed old.items (k, v) then some (val v) else none

variable {changed old new}

theorem removedKey_eq_true {k : K} :
    removedKey changed old new k = true ↔
      ∃ v, WalkOp.remove (k, v) ∈ walkOps changed old.items new.items := by
  simp only [remove_mem_walkOps]
  unfold removedKey
  cases old.get? k with
  | none => simp
  | some v => simp

theorem addedVal_eq_some {val : V → W} {k : K} {w : W} :
    addedVal changed old new val k = some w ↔
      ∃ v, WalkOp.add (k, v) ∈ walkOps changed old.items new.items ∧ val v = w := by
  simp only [add_mem_walkOps]
  unfold addedVal
  cases new.get? k with
  | none => simp
  | some v => simp

/-- A key of both maps is removed exactly when its item changed. -/
theorem removedKey_of_common {k : K} {v w : V} (hv : old.get? k = some v)
    (hw : new.get? k = some w) :
    removedKey changed old new k = changed (k, v) (k, w) := by
  unfold removedKey
  rw [hv]
  show goes changed new.items (k, v) = _
  rw [Bool.eq_iff_iff, goes_eq]
  constructor
  · intro h
    exact h w hw
  · intro h w' hw'
    rw [hw] at hw'
    exact Option.some.inj hw' ▸ h

/-- And it is added exactly then. -/
theorem addedVal_of_common {val : V → W} {k : K} {v w : V} (hv : old.get? k = some v)
    (hw : new.get? k = some w) :
    addedVal changed old new val k = if changed (k, v) (k, w) then some (val w) else none := by
  have hc : comes changed old.items (k, w) = changed (k, v) (k, w) := by
    rw [Bool.eq_iff_iff, comes_eq]
    constructor
    · intro h
      exact h v hv
    · intro h v' hv'
      rw [hv] at hv'
      exact Option.some.inj hv' ▸ h
  unfold addedVal
  rw [hw]
  show (if comes changed old.items (k, w) then some (val w) else none) = _
  rw [hc]

/-- Two maps differ: some key is in one of them only, or its item changed. -/
def Differ (changed : K × V → K × V → Bool) (old new : OrdMap K V) : Prop :=
  ∃ k, (old.get? k).isSome ≠ (new.get? k).isSome ∨
    ∃ v w, old.get? k = some v ∧ new.get? k = some w ∧ changed (k, v) (k, w) = true

/-- The walk has something to do exactly when the maps differ. -/
theorem exists_mem_walkOps :
    (∃ op, op ∈ walkOps changed old.items new.items) ↔ Differ changed old new := by
  constructor
  swap
  · rintro ⟨k, hone | ⟨v, w, hv, hw, hch⟩⟩
    · cases hv : old.get? k with
      | some v =>
          have hw : new.get? k = none := by
            rw [hv] at hone
            simpa using hone
          refine ⟨.remove (k, v), remove_mem_walkOps.mpr ⟨hv, goes_eq.mpr ?_⟩⟩
          intro w hw'
          rw [hw] at hw'
          cases hw'
      | none =>
          rw [hv] at hone
          obtain ⟨w, hw⟩ := Option.ne_none_iff_exists'.mp
            (show new.get? k ≠ none by simpa using hone)
          refine ⟨.add (k, w), add_mem_walkOps.mpr ⟨hw, comes_eq.mpr ?_⟩⟩
          intro v hv'
          rw [hv] at hv'
          cases hv'
    · refine ⟨.remove (k, v), remove_mem_walkOps.mpr ⟨hv, goes_eq.mpr ?_⟩⟩
      intro w' hw'
      rw [hw] at hw'
      exact Option.some.inj hw' ▸ hch
  · rintro ⟨op, hop⟩
    cases op with
    | remove p =>
        obtain ⟨hv, hgo⟩ := remove_mem_walkOps.mp hop
        refine ⟨p.1, ?_⟩
        cases hw : new.get? p.1 with
        | none =>
            left
            rw [hv]
            simp
        | some w => exact Or.inr ⟨p.2, w, hv, rfl, goes_eq.mp hgo w hw⟩
    | add p =>
        obtain ⟨hw, hco⟩ := add_mem_walkOps.mp hop
        refine ⟨p.1, ?_⟩
        cases hv : old.get? p.1 with
        | none =>
            left
            rw [hw]
            simp
        | some v => exact Or.inr ⟨v, p.2, rfl, hw, comes_eq.mp hco v hv⟩

theorem walkOps_eq_nil :
    walkOps changed old.items new.items = [] ↔ ¬ Differ changed old new := by
  rw [← exists_mem_walkOps, List.eq_nil_iff_forall_not_mem, not_exists]

/-- Applying the difference gives the new map, provided the comparison calls
nothing unchanged that is not; and only then. -/
theorem patch_walk_iff {val valNew : V → W} :
    patch (fun k => (old.get? k).map val) (removedKey changed old new)
        (addedVal changed old new valNew) = (fun k => (new.get? k).map valNew) ↔
      ∀ k v w, old.get? k = some v → new.get? k = some w → changed (k, v) (k, w) = false →
        val v = valNew w := by
  constructor
  · intro h k v w hv hw hch
    have hk := congrFun h k
    simp only [patch, layered, removedKey_of_common hv hw, addedVal_of_common hv hw, hch, hv,
      hw] at hk
    simpa using hk
  · intro h
    funext k
    simp only [patch, layered]
    cases hv : old.get? k with
    | none =>
        have hrem : removedKey changed old new k = false := by
          unfold removedKey
          rw [hv]
        rw [hrem]
        unfold addedVal
        cases hw : new.get? k with
        | none => rfl
        | some w =>
            have hcomes : comes changed old.items (k, w) = true := by
              rw [comes_eq]
              intro v hv'
              rw [hv] at hv'
              cases hv'
            simp only [hcomes, if_true, Option.map_some, Option.some_or]
    | some v =>
        cases hw : new.get? k with
        | none =>
            have hrem : removedKey changed old new k = true := by
              unfold removedKey
              rw [hv]
              show goes changed new.items (k, v) = true
              rw [goes_eq]
              intro w hw'
              rw [hw] at hw'
              cases hw'
            have hadd : addedVal changed old new valNew k = none := by
              unfold addedVal
              rw [hw]
            rw [hrem, hadd]
            rfl
        | some w =>
            rw [removedKey_of_common hv hw, addedVal_of_common hv hw]
            cases hch : changed (k, v) (k, w) with
            | true => rfl
            | false =>
                simp only [Bool.false_eq_true, if_false, Option.none_or, Option.map_some,
                  h k v w hv hw hch]

end Law

end Keyed
