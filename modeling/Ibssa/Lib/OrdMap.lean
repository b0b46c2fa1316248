import Mathlib.Data.List.Sort
import Mathlib.Order.Basic

/-!
# Ordered maps whose insert keeps the item already there

The map is the sorted list of its items, and the sortedness is a field, so
a walk over the items is a walk in key order and nothing has to be said
about it again. `insert` is the insert of an intrusive map: a key that is
present keeps its item, and the new one is turned away.

Everything a client needs comes down to two facts: what `get?` answers
after an `insert`, and that `get?` and the item list say the same thing.
-/

namespace Keyed

/-- A finite map from ordered keys, as the list of its items in key order. -/
structure OrdMap (K : Type) [LinearOrder K] (V : Type) where
  items : List (K × V)
  sorted : items.Pairwise fun a b => a.1 < b.1

namespace OrdMap

variable {K V W : Type} [LinearOrder K]

theorem ext {m₁ m₂ : OrdMap K V} (h : m₁.items = m₂.items) : m₁ = m₂ := by
  cases m₁
  cases m₂
  cases h
  rfl

def empty : OrdMap K V := ⟨[], List.Pairwise.nil⟩

instance : Inhabited (OrdMap K V) := ⟨empty⟩

instance [DecidableEq V] : DecidableEq (OrdMap K V) := fun m₁ m₂ =>
  decidable_of_iff (m₁.items = m₂.items) ⟨ext, fun h => h ▸ rfl⟩

def count (m : OrdMap K V) : Nat := m.items.length

def keys (m : OrdMap K V) : List K := m.items.map Prod.fst

/-- The first item of a list under a key. -/
def find (k : K) (l : List (K × V)) : Option V :=
  (l.find? fun p => decide (p.1 = k)).map Prod.snd

def get? (m : OrdMap K V) (k : K) : Option V := find k m.items

/-- Put an item in its place in a sorted list, unless its key is there. -/
def insertItem (k : K) (v : V) : List (K × V) → List (K × V)
  | [] => [(k, v)]
  | p :: rest =>
      if k < p.1 then (k, v) :: p :: rest
      else if p.1 < k then p :: insertItem k v rest
      else p :: rest

theorem mem_insertItem {k : K} {v : V} {l : List (K × V)} {q : K × V}
    (h : q ∈ insertItem k v l) : q = (k, v) ∨ q ∈ l := by
  induction l with
  | nil => exact Or.inl (List.mem_singleton.mp h)
  | cons p rest ih =>
      rw [insertItem] at h
      split at h
      · exact (List.mem_cons.mp h).imp id id
      · split at h
        · rcases List.mem_cons.mp h with rfl | hq
          · exact Or.inr List.mem_cons_self
          · exact (ih hq).imp id fun hm => List.mem_cons_of_mem p hm
        · exact Or.inr h

theorem insertItem_sorted {k : K} {v : V} {l : List (K × V)}
    (h : l.Pairwise fun a b => a.1 < b.1) :
    (insertItem k v l).Pairwise fun a b => a.1 < b.1 := by
  induction l with
  | nil => exact List.pairwise_singleton _ _
  | cons p rest ih =>
      have hp := List.pairwise_cons.mp h
      rw [insertItem]
      split
      · next hlt =>
          refine List.pairwise_cons.mpr ⟨fun q hq => ?_, h⟩
          rcases List.mem_cons.mp hq with rfl | hq
          · exact hlt
          · exact lt_trans hlt (hp.1 q hq)
      · split
        · next hlt =>
            refine List.pairwise_cons.mpr ⟨fun q hq => ?_, ih hp.2⟩
            rcases mem_insertItem hq with rfl | hq
            · exact hlt
            · exact hp.1 q hq
        · exact h

/-- Insert an item; a key that is already present keeps the item it has. -/
def insert (m : OrdMap K V) (k : K) (v : V) : OrdMap K V :=
  ⟨insertItem k v m.items, insertItem_sorted m.sorted⟩

/-- The map of a list of items, the first of a key winning. -/
def ofList (l : List (K × V)) : OrdMap K V := l.foldl (fun m p => m.insert p.1 p.2) empty

/-! ## Lookups -/

@[simp] theorem find_nil (k : K) : find k ([] : List (K × V)) = none := rfl

theorem find_cons (k : K) (p : K × V) (l : List (K × V)) :
    find k (p :: l) = if p.1 = k then some p.2 else find k l := by
  unfold find
  rw [List.find?_cons]
  by_cases h : p.1 = k <;> simp [h]

theorem find_eq_none {k : K} {l : List (K × V)} :
    find k l = none ↔ ∀ p ∈ l, p.1 ≠ k := by
  unfold find
  simp [List.find?_eq_none]

theorem mem_of_find {k : K} {v : V} {l : List (K × V)} (h : find k l = some v) :
    (k, v) ∈ l := by
  unfold find at h
  obtain ⟨p, hp, rfl⟩ := Option.map_eq_some_iff.mp h
  have hk : p.1 = k := by simpa using List.find?_some hp
  rw [← hk]
  exact List.mem_of_find?_eq_some hp

theorem find_of_mem {k : K} {v : V} {l : List (K × V)}
    (hs : l.Pairwise fun a b => a.1 < b.1) (h : (k, v) ∈ l) : find k l = some v := by
  induction l with
  | nil => cases h
  | cons p rest ih =>
      have hp := List.pairwise_cons.mp hs
      rw [find_cons]
      rcases List.mem_cons.mp h with rfl | hmem
      · rw [if_pos rfl]
      · rw [if_neg (ne_of_lt (hp.1 _ hmem)), ih hp.2 hmem]

theorem get?_eq_some {m : OrdMap K V} {k : K} {v : V} :
    m.get? k = some v ↔ (k, v) ∈ m.items :=
  ⟨mem_of_find, find_of_mem m.sorted⟩

theorem get?_eq_none {m : OrdMap K V} {k : K} :
    m.get? k = none ↔ k ∉ m.keys := by
  unfold get? keys
  rw [find_eq_none]
  constructor
  · intro h hk
    obtain ⟨p, hp, rfl⟩ := List.mem_map.mp hk
    exact h p hp rfl
  · rintro h p hp rfl
    exact h (List.mem_map_of_mem hp)

theorem get?_isSome {m : OrdMap K V} {k : K} : (m.get? k).isSome ↔ k ∈ m.keys := by
  rw [← not_iff_not, ← get?_eq_none]
  cases m.get? k <;> simp

@[simp] theorem items_empty : (empty : OrdMap K V).items = [] := rfl

theorem find_insertItem {k : K} {v : V} {l : List (K × V)}
    (hs : l.Pairwise fun a b => a.1 < b.1) (k' : K) :
    find k' (insertItem k v l)
      = if k' = k then some ((find k l).getD v) else find k' l := by
  induction l with
  | nil => simp only [insertItem, find_cons, find_nil, Option.getD_none, eq_comm]
  | cons p rest ih =>
      have hp := List.pairwise_cons.mp hs
      rw [insertItem]
      split
      · next hlt =>
          have hnone : find k (p :: rest) = none :=
            find_eq_none.mpr fun q hq => by
              rcases List.mem_cons.mp hq with rfl | hq
              · exact ne_of_gt hlt
              · exact ne_of_gt (lt_trans hlt (hp.1 q hq))
          rw [hnone, find_cons]
          simp only [Option.getD_none, eq_comm]
      · split
        · next hlt =>
            rw [find_cons, ih hp.2, find_cons, find_cons, if_neg (ne_of_lt hlt)]
            by_cases hk : k' = k
            · subst hk
              rw [if_neg (ne_of_lt hlt)]
              simp only [if_true]
            · simp only [if_neg hk]
        · next hge hle =>
            have hpk : p.1 = k := le_antisymm (not_lt.mp hge) (not_lt.mp hle)
            simp only [find_cons, if_pos hpk, Option.getD_some]
            by_cases hk : k' = k
            · rw [if_pos (hpk.trans hk.symm), if_pos hk]
            · rw [if_neg hk]

theorem get?_insert (m : OrdMap K V) (k : K) (v : V) (k' : K) :
    (m.insert k v).get? k' = if k' = k then some ((m.get? k).getD v) else m.get? k' :=
  find_insertItem m.sorted k'

theorem get?_insert_self {m : OrdMap K V} {k : K} (v : V) (h : m.get? k = none) :
    (m.insert k v).get? k = some v := by
  rw [get?_insert, if_pos rfl, h, Option.getD_none]

theorem get?_insert_ne (m : OrdMap K V) {k k' : K} (v : V) (h : k' ≠ k) :
    (m.insert k v).get? k' = m.get? k' := by
  rw [get?_insert, if_neg h]

/-- A list in key order is determined by what is in it. -/
theorem eq_of_sorted {l₁ l₂ : List (K × V)} (h₁ : l₁.Pairwise fun a b => a.1 < b.1)
    (h₂ : l₂.Pairwise fun a b => a.1 < b.1) (h : ∀ p, p ∈ l₁ ↔ p ∈ l₂) : l₁ = l₂ := by
  have hnodup : ∀ {l : List (K × V)}, l.Pairwise (fun a b => a.1 < b.1) → l.Nodup := by
    intro l hl
    exact hl.imp fun hlt heq => absurd (congrArg Prod.fst heq) (ne_of_lt hlt)
  refine List.Perm.eq_of_pairwise (fun a b _ _ hab hba => absurd hab (lt_asymm hba)) h₁ h₂ ?_
  exact (List.perm_ext_iff_of_nodup (hnodup h₁) (hnodup h₂)).mpr h

theorem keys_sorted (m : OrdMap K V) : m.keys.Pairwise (· < ·) := List.pairwise_map.mpr m.sorted

theorem keys_nodup (m : OrdMap K V) : m.keys.Nodup := m.keys_sorted.imp ne_of_lt

/-- Maps with the same keys have them in the same order. -/
theorem keys_eq {m : OrdMap K V} {m' : OrdMap K W} (h : ∀ k, k ∈ m.keys ↔ k ∈ m'.keys) :
    m.keys = m'.keys :=
  List.Perm.eq_of_pairwise (fun _ _ _ _ hab hba => absurd hab (lt_asymm hba)) m.keys_sorted
    m'.keys_sorted ((List.perm_ext_iff_of_nodup m.keys_nodup m'.keys_nodup).mpr h)

/-- Equal lookups make equal maps. -/
theorem ext_get? {m₁ m₂ : OrdMap K V} (h : ∀ k, m₁.get? k = m₂.get? k) : m₁ = m₂ := by
  refine ext (eq_of_sorted m₁.sorted m₂.sorted ?_)
  intro p
  rw [← get?_eq_some (k := p.1), ← get?_eq_some (k := p.1), h]

theorem insert_of_mem {m : OrdMap K V} {k : K} {w : V} (v : V) (h : m.get? k = some w) :
    m.insert k v = m := by
  refine ext_get? fun k' => ?_
  rw [get?_insert]
  split
  · next hk => rw [hk, h, Option.getD_some]
  · rfl

/-! ## Counting -/

theorem length_insertItem_of_none {k : K} {v : V} {l : List (K × V)}
    (h : find k l = none) : (insertItem k v l).length = l.length + 1 := by
  induction l with
  | nil => rfl
  | cons p rest ih =>
      rw [find_cons] at h
      split at h
      · cases h
      · next hne =>
          rw [insertItem]
          split
          · rfl
          · next hge =>
              rw [if_pos (lt_of_le_of_ne (not_lt.mp hge) hne)]
              simp only [List.length_cons, ih h]

theorem count_insert_of_none {m : OrdMap K V} {k : K} (v : V) (h : m.get? k = none) :
    (m.insert k v).count = m.count + 1 :=
  length_insertItem_of_none h

end OrdMap

end Keyed
