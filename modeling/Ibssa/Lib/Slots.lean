import Mathlib.Data.List.Range
import Mathlib.Data.List.Perm.Basic
import Ibssa.Lib.OrdMap
import Ibssa.Lib.Buf

/-!
# Keyed stores: a map into the slots of a block

A store is a block of records and an ordered map from keys to slot numbers.
What it means is its view, the partial function from keys to records that
reads a key's slot through the map, and a change to a store is described by
what it does to the view.

`put` overwrites in place when the key has a slot and appends at the slot
numbered `count` when it has none. That is a function update of the view as
long as no other key lives in the slot written to, which is why the shape
of the slot numbers is an invariant worth a name: `Dense` says they are
exactly the numbers below the count, each once.

Stores that are only appended to have a module of their own.
-/

namespace Keyed

variable {K V : Type}

/-! ## Partial functions, overlaid -/

/-- `g` where it is defined, `f` elsewhere. -/
def layered (f g : K → Option V) : K → Option V := fun k => (g k).or (f k)

@[simp] theorem layered_none_right (f : K → Option V) : layered f (fun _ => none) = f := rfl

@[simp] theorem layered_none_left (f : K → Option V) : layered (fun _ => none) f = f := by
  funext k
  simp only [layered, Option.or_none]

variable [LinearOrder K]

/-- A partial function after a list of assignments, the later ones winning. -/
def overlay (f : K → Option V) (l : List (K × V)) : K → Option V :=
  l.foldl (fun f p => Function.update f p.1 (some p.2)) f

theorem overlay_cons (f : K → Option V) (p : K × V) (l : List (K × V)) :
    overlay f (p :: l) = overlay (Function.update f p.1 (some p.2)) l := rfl

theorem overlay_append (f : K → Option V) (l₁ l₂ : List (K × V)) :
    overlay f (l₁ ++ l₂) = overlay (overlay f l₁) l₂ := List.foldl_append

theorem layered_update (f g : K → Option V) (k : K) (v : V) :
    layered f (Function.update g k (some v)) = Function.update (layered f g) k (some v) := by
  funext k'
  by_cases h : k' = k
  · subst h
    simp [layered]
  · simp [layered, Function.update_of_ne h]

/-- Assignments can be collected first and laid over afterwards. -/
theorem layered_overlay (f g : K → Option V) (l : List (K × V)) :
    layered f (overlay g l) = overlay (layered f g) l := by
  induction l generalizing g with
  | nil => rfl
  | cons p rest ih => rw [overlay_cons, overlay_cons, ih, layered_update]

theorem overlay_eq_layered (f : K → Option V) (l : List (K × V)) :
    overlay f l = layered f (overlay (fun _ => none) l) := by
  rw [layered_overlay, layered_none_right]

/-- What the last assignment to a key assigned. -/
def latest (l : List (K × V)) : K → Option V := overlay (fun _ => none) l

theorem overlay_apply (f : K → Option V) (l : List (K × V)) (k : K) :
    overlay f l k = (latest l k).or (f k) := by
  rw [overlay_eq_layered]
  rfl

/-- Earlier assignments do not show behind later ones exactly when a later one
is to the same key, or the last of them assigned what was there. -/
theorem overlay_append_eq_iff {f : K → Option V} {l₁ l₂ : List (K × V)} {k : K} :
    overlay f (l₁ ++ l₂) k = (latest l₂ k).or (f k) ↔
      (latest l₂ k).isSome = true ∨ ∀ v, latest l₁ k = some v → f k = some v := by
  rw [overlay_append, overlay_apply, overlay_apply]
  cases latest l₂ k with
  | some v => simp
  | none =>
      cases h₁ : latest l₁ k with
      | some w => simp [eq_comm]
      | none => simp

/-- With one assignment for each key the order does not matter, and the
overlay is a lookup. -/
theorem overlay_of_nodup {f : K → Option V} {l : List (K × V)}
    (hd : (l.map Prod.fst).Nodup) : overlay f l = layered f fun k => OrdMap.find k l := by
  induction l generalizing f with
  | nil => rfl
  | cons p rest ih =>
      have hp := List.nodup_cons.mp hd
      rw [overlay_cons, ih hp.2]
      funext k
      simp only [layered, OrdMap.find_cons]
      by_cases hk : p.1 = k
      · have hnone : OrdMap.find k rest = none := by
          rw [OrdMap.find_eq_none]
          intro q hq heq
          exact hp.1 (List.mem_map.mpr ⟨q, hq, heq.trans hk.symm⟩)
        rw [if_pos hk, hnone, ← hk]
        simp
      · rw [if_neg hk, Function.update_of_ne (Ne.symm hk)]

theorem overlay_of_sorted {f : K → Option V} {l : List (K × V)}
    (hs : l.Pairwise fun a b => a.1 < b.1) :
    overlay f l = layered f fun k => OrdMap.find k l :=
  overlay_of_nodup ((List.pairwise_map.mpr hs).imp ne_of_lt)

/-! ## Views and slot numbers -/

/-- What a store says about a key: the record in the key's slot. -/
def view (m : OrdMap K Nat) (b : Buf V) : K → Option V := fun k => (m.get? k).map b.cell

theorem view_eq_some {m : OrdMap K Nat} {b : Buf V} {k : K} {v : V} :
    view m b k = some v ↔ ∃ o, m.get? k = some o ∧ b.cell o = v := by
  simp [view]

theorem view_eq_none {m : OrdMap K Nat} {b : Buf V} {k : K} :
    view m b k = none ↔ m.get? k = none := by
  simp [view]

@[simp] theorem view_empty (b : Buf V) :
    view (OrdMap.empty : OrdMap K Nat) b = fun _ => none := rfl

theorem view_congr {m : OrdMap K Nat} {b b' : Buf V}
    (h : ∀ k o, m.get? k = some o → b'.cell o = b.cell o) : view m b' = view m b := by
  funext k
  unfold view
  cases hk : m.get? k with
  | none => rfl
  | some o => simp only [Option.map_some, h k o hk]

/-- The slot numbers in use. -/
def slotsOf (m : OrdMap K Nat) : List Nat := m.items.map Prod.snd

theorem mem_slotsOf {m : OrdMap K Nat} {o : Nat} :
    o ∈ slotsOf m ↔ ∃ k, m.get? k = some o := by
  unfold slotsOf
  simp only [List.mem_map, Prod.exists, exists_eq_right]
  exact exists_congr fun k => OrdMap.get?_eq_some.symm

/-- No two keys share a slot. -/
def Apart (m : OrdMap K Nat) : Prop := (slotsOf m).Nodup

/-- Every slot number is below the count. -/
def Bounded (m : OrdMap K Nat) : Prop := ∀ o ∈ slotsOf m, o < m.count

/-- The slot numbers are exactly those below the count, each used once. -/
def Dense (m : OrdMap K Nat) : Prop := (slotsOf m).Perm (List.range m.count)

instance (m : OrdMap K Nat) : Decidable (Dense m) :=
  inferInstanceAs (Decidable ((slotsOf m).Perm (List.range m.count)))

theorem Apart.inj {m : OrdMap K Nat} (h : Apart m) {k k' : K} {o : Nat}
    (hk : m.get? k = some o) (hk' : m.get? k' = some o) : k = k' := by
  have := List.inj_on_of_nodup_map h (OrdMap.get?_eq_some.mp hk)
    (OrdMap.get?_eq_some.mp hk') rfl
  exact congrArg Prod.fst this

theorem Bounded.lt {m : OrdMap K Nat} (h : Bounded m) {k : K} {o : Nat}
    (hk : m.get? k = some o) : o < m.count :=
  h o (mem_slotsOf.mpr ⟨k, hk⟩)

theorem Dense.apart {m : OrdMap K Nat} (h : Dense m) : Apart m :=
  h.nodup_iff.mpr List.nodup_range

theorem Dense.bounded {m : OrdMap K Nat} (h : Dense m) : Bounded m :=
  fun _ ho => List.mem_range.mp (h.mem_iff.mp ho)

/-- Distinct numbers below the count leave none of them out. -/
theorem Dense.of_apart_bounded {m : OrdMap K Nat} (ha : Apart m) (hb : Bounded m) :
    Dense m := by
  have hsub : (slotsOf m).Subperm (List.range m.count) :=
    List.subperm_of_subset ha fun o ho => List.mem_range.mpr (hb o ho)
  refine hsub.perm_of_length_le ?_
  rw [List.length_range, slotsOf, List.length_map]
  exact Nat.le_refl _

theorem dense_empty : Dense (OrdMap.empty : OrdMap K Nat) := List.Perm.refl _

theorem items_insert_perm {m : OrdMap K V} {k : K} (v : V) (h : m.get? k = none) :
    (m.insert k v).items.Perm ((k, v) :: m.items) := by
  have key : ∀ l : List (K × V), OrdMap.find k l = none →
      (OrdMap.insertItem k v l).Perm ((k, v) :: l) := by
    intro l
    induction l with
    | nil => intro _; exact List.Perm.refl _
    | cons p rest ih =>
        intro hn
        rw [OrdMap.find_cons] at hn
        split at hn
        · cases hn
        · next hne =>
            rw [OrdMap.insertItem]
            split
            · exact List.Perm.refl _
            · next hge =>
                rw [if_pos (lt_of_le_of_ne (not_lt.mp hge) hne)]
                exact ((ih hn).cons p).trans (List.Perm.swap _ _ _)
  exact key m.items h

theorem slotsOf_insert_perm {m : OrdMap K Nat} {k : K} (o : Nat) (h : m.get? k = none) :
    (slotsOf (m.insert k o)).Perm (o :: slotsOf m) :=
  (items_insert_perm o h).map Prod.snd

theorem Dense.insert {m : OrdMap K Nat} (hd : Dense m) {k : K} (h : m.get? k = none) :
    Dense (m.insert k m.count) := by
  unfold Dense
  rw [OrdMap.count_insert_of_none _ h, List.range_succ]
  exact (slotsOf_insert_perm _ h).trans
    ((hd.cons _).trans (List.perm_append_singleton _ _).symm)

/-! ## Stores that are updated in place -/

structure Slots (K : Type) [LinearOrder K] (V : Type) where
  map : OrdMap K Nat
  buf : Buf V

namespace Slots

def view (s : Slots K V) : K → Option V := Keyed.view s.map s.buf

/-- Overwrite the record of a key in its slot; a new key gets the slot
numbered by the count. -/
def put (s : Slots K V) (k : K) (v : V) : Slots K V :=
  match s.map.get? k with
  | some o => { s with buf := s.buf.write o v }
  | none => ⟨s.map.insert k s.map.count, s.buf.write s.map.count v⟩

def putAll (s : Slots K V) (l : List (K × V)) : Slots K V :=
  l.foldl (fun s p => s.put p.1 p.2) s

theorem put_of_some {s : Slots K V} {k : K} {o : Nat} (v : V) (h : s.map.get? k = some o) :
    s.put k v = { s with buf := s.buf.write o v } := by
  unfold put
  rw [h]

theorem put_of_none {s : Slots K V} {k : K} (v : V) (h : s.map.get? k = none) :
    s.put k v = ⟨s.map.insert k s.map.count, s.buf.write s.map.count v⟩ := by
  unfold put
  rw [h]

/-- The keys of a list can be put without meeting another key's slot: they
all have slots already, or the slot numbered by the count is free and stays
so. -/
def Room (s : Slots K V) (l : List (K × V)) : Prop :=
  Apart s.map ∧ ((∀ p ∈ l, (s.map.get? p.1).isSome) ∨ Bounded s.map)

theorem view_put {s : Slots K V} {p : K × V} {l : List (K × V)} (h : s.Room (p :: l)) :
    (s.put p.1 p.2).view = Function.update s.view p.1 (some p.2) := by
  obtain ⟨hap, hroom⟩ := h
  funext k
  cases hk : s.map.get? p.1 with
  | some o =>
      rw [put_of_some _ hk]
      by_cases hkk : k = p.1
      · subst hkk
        simp [Slots.view, Keyed.view, hk]
      · rw [Function.update_of_ne hkk]
        simp only [Slots.view, Keyed.view, Buf.cell_write]
        cases hk' : s.map.get? k with
        | none => rfl
        | some o' =>
            have hne : o' ≠ o := by
              rintro rfl
              exact hkk (hap.inj hk' hk)
            simp only [Option.map_some, Function.update_of_ne hne]
  | none =>
      have hb : Bounded s.map := by
        rcases hroom with hall | hb
        · have := hall p List.mem_cons_self
          rw [hk] at this
          cases this
        · exact hb
      rw [put_of_none _ hk]
      by_cases hkk : k = p.1
      · subst hkk
        simp [Slots.view, Keyed.view, OrdMap.get?_insert_self _ hk]
      · rw [Function.update_of_ne hkk]
        simp only [Slots.view, Keyed.view, Buf.cell_write, OrdMap.get?_insert_ne _ _ hkk]
        cases hk' : s.map.get? k with
        | none => rfl
        | some o' =>
            have hne : o' ≠ s.map.count := ne_of_lt (hb.lt hk')
            simp only [Option.map_some, Function.update_of_ne hne]

theorem dense_put {s : Slots K V} {k : K} (v : V) (hd : Dense s.map) :
    Dense (s.put k v).map := by
  cases hk : s.map.get? k with
  | some o => rw [put_of_some _ hk]; exact hd
  | none => rw [put_of_none _ hk]; exact hd.insert hk

theorem Room.put {s : Slots K V} {p : K × V} {l : List (K × V)} (h : s.Room (p :: l)) :
    (s.put p.1 p.2).Room l := by
  obtain ⟨hap, hall | hb⟩ := h
  · obtain ⟨o, ho⟩ := Option.isSome_iff_exists.mp (hall p List.mem_cons_self)
    rw [put_of_some _ ho]
    exact ⟨hap, Or.inl fun q hq => hall q (List.mem_cons_of_mem p hq)⟩
  · have hd := dense_put (k := p.1) p.2 (Dense.of_apart_bounded hap hb)
    exact ⟨hd.apart, Or.inr hd.bounded⟩

theorem Room.of_dense {s : Slots K V} (h : Dense s.map) (l : List (K × V)) : s.Room l :=
  ⟨h.apart, Or.inr h.bounded⟩

theorem putAll_cons (s : Slots K V) (p : K × V) (l : List (K × V)) :
    s.putAll (p :: l) = (s.put p.1 p.2).putAll l := rfl

/-- Putting a list of entries overlays the view with them. -/
theorem view_putAll {s : Slots K V} {l : List (K × V)} (h : s.Room l) :
    (s.putAll l).view = overlay s.view l := by
  induction l generalizing s with
  | nil => rfl
  | cons p rest ih => rw [putAll_cons, ih h.put, view_put h, overlay_cons]

theorem dense_putAll {s : Slots K V} (l : List (K × V)) (hd : Dense s.map) :
    Dense (s.putAll l).map := by
  induction l generalizing s with
  | nil => exact hd
  | cons p rest ih => exact ih (dense_put p.2 hd)

@[simp] theorem cap_put (s : Slots K V) (k : K) (v : V) :
    (s.put k v).buf.cap = s.buf.cap := by
  unfold put
  split <;> rfl

@[simp] theorem isNull_put (s : Slots K V) (k : K) (v : V) :
    (s.put k v).buf.isNull = s.buf.isNull := by
  unfold put
  split <;> rfl

@[simp] theorem cap_putAll (s : Slots K V) (l : List (K × V)) :
    (s.putAll l).buf.cap = s.buf.cap := by
  induction l generalizing s with
  | nil => rfl
  | cons p rest ih => rw [putAll_cons, ih, cap_put]

@[simp] theorem isNull_putAll (s : Slots K V) (l : List (K × V)) :
    (s.putAll l).buf.isNull = s.buf.isNull := by
  induction l generalizing s with
  | nil => rfl
  | cons p rest ih => rw [putAll_cons, ih, isNull_put]

/-! How far the count grows, and that a block with that much room is enough. -/

theorem count_le_put (s : Slots K V) (k : K) (v : V) :
    s.map.count ≤ (s.put k v).map.count := by
  cases hk : s.map.get? k with
  | some o => rw [put_of_some _ hk]
  | none =>
      rw [put_of_none _ hk]
      simp only [OrdMap.count_insert_of_none _ hk]
      omega

theorem count_le_putAll (s : Slots K V) (l : List (K × V)) :
    s.map.count ≤ (s.putAll l).map.count := by
  induction l generalizing s with
  | nil => exact Nat.le_refl _
  | cons p rest ih => exact Nat.le_trans (count_le_put s p.1 p.2) (ih _)

theorem fits_put {s : Slots K V} {k : K} {v : V} (hb : Bounded s.map)
    (hf : s.buf.fits = true) (hc : (s.put k v).map.count ≤ s.buf.cap) :
    (s.put k v).buf.fits = true := by
  cases hk : s.map.get? k with
  | some o =>
      rw [put_of_some _ hk] at hc ⊢
      exact (Buf.fits_write _ _ _).mpr ⟨hf, Nat.lt_of_lt_of_le (hb.lt hk) hc⟩
  | none =>
      rw [put_of_none _ hk] at hc ⊢
      simp only [OrdMap.count_insert_of_none _ hk] at hc
      exact (Buf.fits_write _ _ _).mpr ⟨hf, by omega⟩

theorem fits_putAll {s : Slots K V} {l : List (K × V)} (hd : Dense s.map)
    (hf : s.buf.fits = true) (hc : (s.putAll l).map.count ≤ s.buf.cap) :
    (s.putAll l).buf.fits = true := by
  induction l generalizing s with
  | nil => exact hf
  | cons p rest ih =>
      rw [putAll_cons] at hc ⊢
      refine ih (dense_put p.2 hd) (fits_put hd.bounded hf ?_) (by rw [cap_put]; exact hc)
      exact Nat.le_trans (count_le_putAll _ rest) hc

/-! Putting what a store holds already changes nothing, so a list put twice is
a list put once. The record of writes past the end is part of the store, and
the second time every write falls where one of the first time fell. -/

theorem put_self {s : Slots K V} {k : K} {v : V} {o : Nat} (hk : s.map.get? k = some o)
    (hv : s.buf.cell o = v) (hf : s.buf.fits = true → o < s.buf.cap) : s.put k v = s := by
  have hcell : Function.update s.buf.cell o v = s.buf.cell := by
    rw [← hv]
    exact Function.update_eq_self o s.buf.cell
  have hfits : (s.buf.fits && decide (o < s.buf.cap)) = s.buf.fits := by
    cases hb : s.buf.fits with
    | false => rfl
    | true => rw [Bool.true_and, decide_eq_true (hf hb)]
  rw [put_of_some v hk, Buf.write, hcell, hfits]

theorem putAll_self {s : Slots K V} {l : List (K × V)}
    (h : ∀ p ∈ l, ∃ o, s.map.get? p.1 = some o ∧ s.buf.cell o = p.2 ∧
      (s.buf.fits = true → o < s.buf.cap)) : s.putAll l = s := by
  induction l with
  | nil => rfl
  | cons p rest ih =>
      obtain ⟨o, hk, hv, hf⟩ := h p List.mem_cons_self
      rw [putAll_cons, put_self hk hv hf]
      exact ih fun q hq => h q (List.mem_cons_of_mem p hq)

/-- A key keeps the slot it has. -/
theorem get?_put_of_some {s : Slots K V} {k' : K} {o : Nat} (k : K) (v : V)
    (h : s.map.get? k' = some o) : (s.put k v).map.get? k' = some o := by
  cases hk : s.map.get? k with
  | some o' => rw [put_of_some _ hk]; exact h
  | none =>
      have hne : k' ≠ k := by
        rintro rfl
        rw [h] at hk
        cases hk
      rw [put_of_none _ hk, OrdMap.get?_insert_ne _ _ hne]
      exact h

theorem get?_putAll_of_some {s : Slots K V} {k : K} {o : Nat} (l : List (K × V))
    (h : s.map.get? k = some o) : (s.putAll l).map.get? k = some o := by
  induction l generalizing s with
  | nil => exact h
  | cons p rest ih => exact ih (get?_put_of_some p.1 p.2 h)

/-- A key that is put has a slot, and one inside the block if the put fits. -/
theorem slot_put (s : Slots K V) (k : K) (v : V) :
    ∃ o, (s.put k v).map.get? k = some o ∧ ((s.put k v).buf.fits = true → o < s.buf.cap) := by
  cases hk : s.map.get? k with
  | some o =>
      rw [put_of_some _ hk]
      exact ⟨o, hk, fun hf => ((Buf.fits_write _ _ _).mp hf).2⟩
  | none =>
      rw [put_of_none _ hk]
      exact ⟨_, OrdMap.get?_insert_self _ hk, fun hf => ((Buf.fits_write _ _ _).mp hf).2⟩

theorem fits_of_put {s : Slots K V} {k : K} {v : V} (h : (s.put k v).buf.fits = true) :
    s.buf.fits = true := by
  cases hk : s.map.get? k with
  | some o => rw [put_of_some _ hk] at h; exact ((Buf.fits_write _ _ _).mp h).1
  | none => rw [put_of_none _ hk] at h; exact ((Buf.fits_write _ _ _).mp h).1

theorem fits_of_putAll {s : Slots K V} {l : List (K × V)}
    (h : (s.putAll l).buf.fits = true) : s.buf.fits = true := by
  induction l generalizing s with
  | nil => exact h
  | cons p rest ih => exact fits_of_put (ih h)

theorem slot_putAll {s : Slots K V} {l : List (K × V)} {p : K × V} (hp : p ∈ l) :
    ∃ o, (s.putAll l).map.get? p.1 = some o ∧
      ((s.putAll l).buf.fits = true → o < s.buf.cap) := by
  induction l generalizing s with
  | nil => cases hp
  | cons q rest ih =>
      rcases List.mem_cons.mp hp with rfl | hp
      · obtain ⟨o, ho, hlt⟩ := slot_put s p.1 p.2
        exact ⟨o, get?_putAll_of_some rest ho, fun hf => hlt (fits_of_putAll hf)⟩
      · obtain ⟨o, ho, hlt⟩ := ih hp
        rw [cap_put] at hlt
        exact ⟨o, ho, hlt⟩

theorem putAll_putAll {s : Slots K V} {l : List (K × V)} (hroom : s.Room l)
    (hs : l.Pairwise fun a b => a.1 < b.1) : (s.putAll l).putAll l = s.putAll l := by
  refine putAll_self fun p hp => ?_
  obtain ⟨o, ho, hlt⟩ := slot_putAll (s := s) hp
  have hview : (s.putAll l).view p.1 = some p.2 := by
    rw [view_putAll hroom, overlay_of_sorted hs]
    simp only [layered, OrdMap.find_of_mem hs hp, Option.some_or]
  obtain ⟨o', ho', hcell⟩ := view_eq_some.mp hview
  obtain rfl : o = o' := Option.some.inj (ho.symm.trans ho')
  exact ⟨o, ho, hcell, by rw [cap_putAll]; exact hlt⟩

/-! A block that is moved to a larger one keeps what the map points to. -/

/-- A store that has a record has a block. -/
def Live (s : Slots K V) : Prop := s.map.count = 0 ∨ s.buf.isNull = false

theorem isNull_of_mem {s : Slots K V} (h : s.Live) {o : Nat} (ho : o ∈ slotsOf s.map) :
    s.buf.isNull = false := by
  rcases h with hzero | hnull
  · have hlen : (slotsOf s.map).length = 0 := by
      rw [slotsOf, List.length_map]
      exact hzero
    rw [List.length_eq_zero_iff.mp hlen] at ho
    cases ho
  · exact hnull

theorem view_realloc {s : Slots K V} (h : s.Live) (a : Addr) {n : Nat} (junk : Nat → V)
    (hn : ∀ o ∈ slotsOf s.map, o < n) :
    Slots.view ⟨s.map, s.buf.realloc a n junk⟩ = s.view := by
  refine view_congr fun k o hk => ?_
  have ho : o ∈ slotsOf s.map := mem_slotsOf.mpr ⟨k, hk⟩
  exact Buf.cell_realloc _ _ _ (isNull_of_mem h ho) (hn o ho)

/-- The keys that a sorted list of entries brings to a map. -/
def newKeys (m : OrdMap K Nat) (l : List (K × V)) : List (K × V) :=
  l.filter fun p => (m.get? p.1).isNone

theorem count_putAll {s : Slots K V} {l : List (K × V)}
    (hs : l.Pairwise fun a b => a.1 < b.1) :
    (s.putAll l).map.count = s.map.count + (newKeys s.map l).length := by
  induction l generalizing s with
  | nil => rfl
  | cons p rest ih =>
      have hp := List.pairwise_cons.mp hs
      rw [putAll_cons, ih hp.2]
      cases hk : s.map.get? p.1 with
      | some o =>
          rw [put_of_some _ hk]
          simp only [newKeys, List.filter_cons, hk, Option.isNone_some, Bool.false_eq_true,
            if_false]
      | none =>
          rw [put_of_none _ hk]
          have hrest : newKeys (s.map.insert p.1 s.map.count) rest = newKeys s.map rest := by
            refine List.filter_congr fun q hq => ?_
            rw [OrdMap.get?_insert_ne _ _ (ne_of_gt (hp.1 q hq))]
          simp only [hrest, OrdMap.count_insert_of_none _ hk]
          simp only [newKeys, List.filter_cons, hk, Option.isNone_none, if_true,
            List.length_cons]
          omega

end Slots

/-- The entries of a store in key order. -/
def entries (m : OrdMap K Nat) (b : Buf V) : List (K × V) :=
  m.items.map fun p => (p.1, b.cell p.2)

theorem entries_sorted (m : OrdMap K Nat) (b : Buf V) :
    (entries m b).Pairwise fun x y => x.1 < y.1 :=
  List.pairwise_map.mpr m.sorted

theorem find_entries (m : OrdMap K Nat) (b : Buf V) (k : K) :
    OrdMap.find k (entries m b) = view m b k := by
  unfold entries view OrdMap.get?
  induction m.items with
  | nil => rfl
  | cons p rest ih =>
      rw [List.map_cons, OrdMap.find_cons, OrdMap.find_cons, ih]
      split <;> rfl

theorem overlay_entries (f : K → Option V) (m : OrdMap K Nat) (b : Buf V) :
    overlay f (entries m b) = layered f (view m b) := by
  rw [overlay_of_sorted (entries_sorted m b)]
  funext k
  simp only [layered, find_entries]

end Keyed
