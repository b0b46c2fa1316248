import Ibssa.Lib.Slots

/-!
# Stores filled one slot after the other

A store that is only ever appended to holds the list of what was appended:
entry `i` of the list lies in slot `i`. Several maps may point into the one
block, each recording the entries it was told to (`sel`), and a map keeps
the first slot of a key. `Laid` says that of one map and the block.

Without a map there is only the log, `Logged`.

Two things follow that clients ask for. Reading a key through the map finds
the first entry selected for it, `Laid.view_eq`. And when two maps share out
the entries between them, none under a key that its map already had, their
slots together are the numbers below the number of entries, each once:
`slotsOf_append_perm`.
-/

namespace Keyed

variable {K V E : Type} [LinearOrder K]

/-- The first place of a list that is selected for a key. -/
def placeOf (sel : E → Option K) (l : List E) (k : K) : Option Nat :=
  l.findIdx? fun e => decide (sel e = some k)

theorem placeOf_eq_some {sel : E → Option K} {l : List E} {k : K} {i : Nat} :
    placeOf sel l k = some i ↔
      ∃ h : i < l.length, sel l[i] = some k ∧ ∀ j (hj : j < i), sel l[j] ≠ some k := by
  rw [placeOf, List.findIdx?_eq_some_iff_getElem]
  simp only [decide_eq_true_eq]

theorem placeOf_eq_none {sel : E → Option K} {l : List E} {k : K} :
    placeOf sel l k = none ↔ ∀ e ∈ l, sel e ≠ some k := by
  rw [placeOf, List.findIdx?_eq_none_iff]
  simp only [decide_eq_false_iff_not, ne_eq]

theorem placeOf_append_singleton (sel : E → Option K) (l : List E) (e : E) (k : K) :
    placeOf sel (l ++ [e]) k
      = (placeOf sel l k).or (if sel e = some k then some l.length else none) := by
  rw [placeOf, List.findIdx?_append]
  simp only [placeOf, List.findIdx?_cons, List.findIdx?_nil]
  by_cases h : sel e = some k <;> simp [h]

/-- With distinct keys every place is the first for its key. -/
theorem placeOf_of_nodup {sel : E → Option K} {l : List E} (hd : (l.filterMap sel).Nodup)
    {k : K} {i : Nat} (hi : i < l.length) (hk : sel l[i] = some k) :
    placeOf sel l k = some i := by
  refine placeOf_eq_some.mpr ⟨hi, hk, ?_⟩
  intro j hj hjk
  have hp := List.pairwise_filterMap.mp hd
  have hne := List.pairwise_iff_getElem.mp hp j i (by omega) hi hj
  exact hne k hjk k hk rfl

/-! ## The invariant -/

/-- The entries of a list lie in the slots of a block in order, and a map
has the first slot of every key selected for it. -/
structure Laid (sel : E → Option K) (val : E → V) (l : List E) (m : OrdMap K Nat)
    (b : Buf V) : Prop where
  places : ∀ k, m.get? k = placeOf sel l k
  cells : ∀ i (h : i < l.length), b.cell i = val l[i]

namespace Laid

variable {sel sel' : E → Option K} {val : E → V} {l : List E} {m m' : OrdMap K Nat} {b : Buf V}

theorem nil (sel : E → Option K) (val : E → V) (b : Buf V) :
    Laid sel val [] OrdMap.empty b := by
  refine ⟨fun _ => rfl, ?_⟩
  intro i h
  exact absurd h (Nat.not_lt_zero i)

/-- Append an entry, and record it under its key. -/
theorem push {e : E} {k : K} (h : Laid sel val l m b) (he : sel e = some k) :
    Laid sel val (l ++ [e]) (m.insert k l.length) (b.write l.length (val e)) := by
  refine ⟨?_, Buf.cells_write val h.cells e⟩
  intro k'
  rw [OrdMap.get?_insert, placeOf_append_singleton, he, ← h.places]
  by_cases hk : k' = k
  · subst hk
    rw [if_pos rfl, if_pos rfl]
    cases m.get? k' <;> rfl
  · have hne : ¬ (some k = some k') := fun hc => hk (Option.some.inj hc).symm
    rw [if_neg hk, if_neg hne, Option.or_none]

/-- Append an entry that the map is not told about. -/
theorem skip {e : E} (h : Laid sel val l m b) (he : sel e = none) :
    Laid sel val (l ++ [e]) m (b.write l.length (val e)) := by
  refine ⟨?_, Buf.cells_write val h.cells e⟩
  intro k'
  have hne : ¬ (none = some k') := fun hc => by cases hc
  rw [placeOf_append_singleton, he, ← h.places, if_neg hne, Option.or_none]

/-- Reading a key finds the first entry selected for it. -/
theorem view_eq (h : Laid sel val l m b) (k : K) :
    view m b k = (l.find? fun e => decide (sel e = some k)).map val := by
  unfold view
  rw [h.places k]
  cases hp : placeOf sel l k with
  | none =>
      have hnone := placeOf_eq_none.mp hp
      rw [List.find?_eq_none.mpr (by simpa using hnone)]
      rfl
  | some i =>
      obtain ⟨hi, hk, hfirst⟩ := placeOf_eq_some.mp hp
      have hfind : l.find? (fun e => decide (sel e = some k)) = some l[i] := by
        rw [List.find?_eq_some_iff_getElem]
        refine ⟨by simpa using hk, i, hi, rfl, ?_⟩
        intro j hj
        simpa using hfirst j hj
      rw [hfind, Option.map_some, Option.map_some, h.cells i hi]

/-- With distinct keys a key reads as the entry selected for it. -/
theorem view_of_mem (h : Laid sel val l m b) (hd : (l.filterMap sel).Nodup) {e : E} {k : K}
    (he : e ∈ l) (hk : sel e = some k) : view m b k = some (val e) := by
  obtain ⟨i, hi, rfl⟩ := List.mem_iff_getElem.mp he
  unfold view
  rw [h.places k, placeOf_of_nodup hd hi hk, Option.map_some, h.cells i hi]

/-- And as nothing else. -/
theorem view_eq_some (h : Laid sel val l m b) (hd : (l.filterMap sel).Nodup) {k : K} {v : V} :
    view m b k = some v ↔ ∃ e ∈ l, sel e = some k ∧ val e = v := by
  constructor
  · intro hv
    rw [h.view_eq] at hv
    obtain ⟨e, he, rfl⟩ := Option.map_eq_some_iff.mp hv
    exact ⟨e, List.mem_of_find?_eq_some he, by simpa using List.find?_some he, rfl⟩
  · rintro ⟨e, he, hk, rfl⟩
    exact h.view_of_mem hd he hk

theorem mem_slotsOf (h : Laid sel val l m b) {o : Nat} :
    o ∈ slotsOf m ↔ ∃ k, placeOf sel l k = some o := by
  rw [Keyed.mem_slotsOf]
  exact exists_congr fun k => by rw [h.places]

theorem slot_lt (h : Laid sel val l m b) {o : Nat} (ho : o ∈ slotsOf m) : o < l.length := by
  obtain ⟨k, hk⟩ := h.mem_slotsOf.mp ho
  obtain ⟨hlt, _⟩ := placeOf_eq_some.mp hk
  exact hlt

/-- Two keys never share a slot: a slot holds one entry, selected for one key. -/
theorem apart (h : Laid sel val l m b) : Apart m := by
  refine (List.nodup_map_iff_inj_on ?_).mpr ?_
  · exact m.sorted.imp fun hlt heq => absurd (congrArg Prod.fst heq) (ne_of_lt hlt)
  · rintro ⟨k, o⟩ hp ⟨k', o'⟩ hp' ho
    obtain rfl : o = o' := ho
    have hk := OrdMap.get?_eq_some.mpr hp
    have hk' := OrdMap.get?_eq_some.mpr hp'
    rw [h.places] at hk hk'
    obtain ⟨_, hs, _⟩ := placeOf_eq_some.mp hk
    obtain ⟨_, hs', _⟩ := placeOf_eq_some.mp hk'
    rw [hs] at hs'
    rw [Option.some.inj hs']

/-- Two maps that share out the entries use up the slots between them. -/
theorem slotsOf_append_perm (h : Laid sel val l m b) (h' : Laid sel' val l m' b)
    (hd : (l.filterMap sel).Nodup) (hd' : (l.filterMap sel').Nodup)
    (hxor : ∀ e ∈ l, (sel e).isSome = !(sel' e).isSome) :
    (slotsOf m ++ slotsOf m').Perm (List.range l.length) := by
  have hdisj : ∀ o ∈ slotsOf m, ∀ o' ∈ slotsOf m', o ≠ o' := by
    rintro o ho _ ho' rfl
    obtain ⟨k, hk⟩ := h.mem_slotsOf.mp ho
    obtain ⟨k', hk'⟩ := h'.mem_slotsOf.mp ho'
    obtain ⟨hlt, hs, _⟩ := placeOf_eq_some.mp hk
    obtain ⟨_, hs', _⟩ := placeOf_eq_some.mp hk'
    have hx := hxor l[o] (List.getElem_mem hlt)
    rw [hs, hs'] at hx
    cases hx
  refine (List.perm_ext_iff_of_nodup (List.nodup_append.mpr ⟨h.apart, h'.apart, hdisj⟩)
    List.nodup_range).mpr ?_
  intro o
  rw [List.mem_append, List.mem_range]
  constructor
  · rintro (ho | ho)
    · exact h.slot_lt ho
    · exact h'.slot_lt ho
  · intro ho
    have hx := hxor l[o] (List.getElem_mem ho)
    cases hs : sel l[o] with
    | some k => exact Or.inl (h.mem_slotsOf.mpr ⟨k, placeOf_of_nodup hd ho hs⟩)
    | none =>
        rw [hs] at hx
        obtain ⟨k, hk⟩ := Option.isSome_iff_exists.mp
          (show (sel' l[o]).isSome = true by simpa using hx.symm)
        exact Or.inr (h'.mem_slotsOf.mpr ⟨k, placeOf_of_nodup hd' ho hk⟩)

/-- One map that records every entry, no key twice. -/
theorem slotsOf_perm (h : Laid sel val l m b) (hd : (l.filterMap sel).Nodup)
    (hall : ∀ e ∈ l, (sel e).isSome) : (slotsOf m).Perm (List.range l.length) := by
  have hnone : Laid (fun _ => none) val l (OrdMap.empty : OrdMap K Nat) b := by
    refine ⟨?_, h.cells⟩
    intro k
    exact (placeOf_eq_none.mpr fun e _ hc => by cases hc).symm
  have hfil : (l.filterMap fun _ => (none : Option K)) = [] := by simp
  have hp := h.slotsOf_append_perm hnone hd (by rw [hfil]; exact List.nodup_nil)
    (fun e he => by rw [hall e he]; rfl)
  simpa [slotsOf] using hp

theorem count_eq (h : Laid sel val l m b) (hd : (l.filterMap sel).Nodup)
    (hall : ∀ e ∈ l, (sel e).isSome) : m.count = l.length := by
  have hl := (h.slotsOf_perm hd hall).length_eq
  rw [slotsOf, List.length_map, List.length_range] at hl
  exact hl

theorem dense (h : Laid sel val l m b) (hd : (l.filterMap sel).Nodup)
    (hall : ∀ e ∈ l, (sel e).isSome) : Dense m := by
  unfold Dense
  rw [h.count_eq hd hall]
  exact h.slotsOf_perm hd hall

end Laid

/-! ## One map that records every entry

The entries are then pairs of a key and a record, and the block is a log of
them. The block it started from is part of the invariant: a log that is not
longer than that block was written inside it. -/

structure Stored (l : List (K × V)) (m : OrdMap K Nat) (b₀ b : Buf V) : Prop where
  laid : Laid (fun e => some e.1) Prod.snd l m b
  addr_eq : b.addr = b₀.addr
  cap_eq : b.cap = b₀.cap
  fits : b₀.fits = true → l.length ≤ b₀.cap → b.fits = true

namespace Stored

variable {l : List (K × V)} {m : OrdMap K Nat} {b₀ b : Buf V}

theorem nil (b : Buf V) : Stored ([] : List (K × V)) OrdMap.empty b b :=
  ⟨Laid.nil _ _ _, rfl, rfl, fun hf _ => hf⟩

/-- One more entry, in the next slot. -/
theorem push (h : Stored l m b₀ b) (k : K) (v : V) :
    Stored (l ++ [(k, v)]) (m.insert k l.length) b₀ (b.write l.length v) where
  laid := h.laid.push rfl
  addr_eq := h.addr_eq
  cap_eq := h.cap_eq
  fits := by
    intro hf hle
    rw [List.length_append, List.length_singleton] at hle
    rw [Buf.fits_write, h.cap_eq]
    exact ⟨h.fits hf (by omega), by omega⟩

theorem isNull_eq (h : Stored l m b₀ b) : b.isNull = b₀.isNull := by
  rw [Buf.isNull, h.addr_eq]
  rfl

theorem view_eq (h : Stored l m b₀ b) : view m b = fun k => OrdMap.find k l := by
  funext k
  rw [h.laid.view_eq]
  unfold OrdMap.find
  simp only [Option.some.injEq]

omit [LinearOrder K] in
private theorem filterMap_fst (l : List (K × V)) :
    (l.filterMap fun e => some e.1) = l.map Prod.fst := by
  rw [← List.filterMap_eq_map]
  rfl

theorem dense (h : Stored l m b₀ b) (hd : (l.map Prod.fst).Nodup) : Dense m := by
  rw [← filterMap_fst] at hd
  exact h.laid.dense hd fun _ _ => rfl

theorem count_eq (h : Stored l m b₀ b) (hd : (l.map Prod.fst).Nodup) : m.count = l.length := by
  rw [← filterMap_fst] at hd
  exact h.laid.count_eq hd fun _ _ => rfl

/-- The map has the keys of the list. -/
theorem mem_keys (h : Stored l m b₀ b) {k : K} :
    k ∈ m.keys ↔ k ∈ l.map Prod.fst := by
  rw [← OrdMap.get?_isSome, Option.isSome_iff_ne_none, h.laid.places, Ne, placeOf_eq_none,
    List.mem_map]
  constructor
  · intro hne
    by_contra hnot
    refine hne fun e he hk => hnot ⟨e, he, Option.some.inj hk⟩
  · rintro ⟨e, he, rfl⟩ hnone
    exact hnone e he rfl

/-- With distinct keys every record of the list is read under its key. -/
theorem view_of_mem (h : Stored l m b₀ b) (hd : (l.map Prod.fst).Nodup) {e : K × V}
    (he : e ∈ l) : view m b e.1 = some e.2 := by
  rw [← filterMap_fst] at hd
  exact h.laid.view_of_mem hd he rfl

theorem cell_of_get? (h : Stored l m b₀ b) {k : K} {o : Nat} (ho : m.get? k = some o) :
    ∃ hlt : o < l.length, b.cell o = l[o].2 := by
  rw [h.laid.places] at ho
  obtain ⟨hlt, _, _⟩ := placeOf_eq_some.mp ho
  exact ⟨hlt, h.laid.cells o hlt⟩

end Stored

/-! ## A log without a map -/

structure Logged (l : List V) (b₀ b : Buf V) : Prop where
  cells : ∀ i (h : i < l.length), b.cell i = l[i]
  addr_eq : b.addr = b₀.addr
  cap_eq : b.cap = b₀.cap
  fits : b₀.fits = true → l.length ≤ b₀.cap → b.fits = true

namespace Logged

variable {l : List V} {b₀ b : Buf V}

theorem nil (b : Buf V) : Logged [] b b := by
  refine ⟨?_, rfl, rfl, fun hf _ => hf⟩
  intro i h
  exact absurd h (Nat.not_lt_zero i)

theorem push (h : Logged l b₀ b) (v : V) : Logged (l ++ [v]) b₀ (b.write l.length v) where
  cells := Buf.cells_write id h.cells v
  addr_eq := h.addr_eq
  cap_eq := h.cap_eq
  fits := by
    intro hf hle
    rw [List.length_append, List.length_singleton] at hle
    rw [Buf.fits_write, h.cap_eq]
    exact ⟨h.fits hf (by omega), by omega⟩

end Logged

end Keyed
