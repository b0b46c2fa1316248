import Mathlib.Algebra.GroupWithZero.Nat
import Ibssa.Core.Comparison
import Ibssa.Lib.Laid

/-!
# What is in a table of the diff

The routines that fill the diff keep five things in step by hand: the map, the
block, the two header counters, and for ports the PKEY table with its header
and cursor. `Filled` says that they are in step after a list of records has
gone in, and each routine is one step lemma about it. `Placed` is the part of
it that needs no more of the table than a count of zero to begin with.

A walk then contributes the list of what it moved, `recOps` for fixed-size
records. For ports the list depends on the cursor, because a record is given
the place of its pkeys in the diff on the way, and `portOps` is the walk's list
with the cursor run along it. Neither list is ever computed: `Filled` turns
it into counts and slots, and the walk's law into contents.
-/

namespace Ibssa

open Keyed ByteOrder

/-! ## A table, its header and its maps in step -/

/-- The record an operation moves. -/
def opRec {α : Type} (op : WalkOp UInt64 α) : α := op.item.2

/-- The count and the maps say where in the block each record went. -/
structure Placed {α : Type} (l : List (WalkOp UInt64 α)) (pMapAdded pMapRemoved : EpMap)
    (t : DataTbl α) : Prop where
  count : ntohll t.pDataset.setCount = l.length
  added : Laid WalkOp.addKey opRec l pMapAdded t.pDataTbl
  removed : Laid WalkOp.removeKey opRec l pMapRemoved t.pDataTbl

/-- And the rest of the header and the block's room are in step with them. -/
structure Filled {α : Type} (recSize cap : Nat) (l : List (WalkOp UInt64 α))
    (pMapAdded pMapRemoved : EpMap) (t : DataTbl α) : Prop where
  count : ntohll t.pDataset.setCount = l.length
  size : ntohll t.pDataset.setSize = l.length * recSize
  added : Laid WalkOp.addKey opRec l pMapAdded t.pDataTbl
  removed : Laid WalkOp.removeKey opRec l pMapRemoved t.pDataTbl
  cap_eq : t.pDataTbl.cap = cap
  fits : l.length ≤ cap → t.pDataTbl.fits = true

/-- A header and a table as `ssa_db_diff_init` leaves them. -/
structure Fresh {α : Type} (t : DataTbl α) : Prop where
  count : ntohll t.pDataset.setCount = 0
  size : ntohll t.pDataset.setSize = 0
  fits : t.pDataTbl.fits = true

/-- A table after one more record. -/
def DataTbl.push {α : Type} (recSize : Nat) (t : DataTbl α) (v : α) : DataTbl α :=
  ⟨t.pDataset.countRec recSize, t.pDataTbl.write (ntohll t.pDataset.setCount) v⟩

theorem setCount_countRec (d : DbDataset) (size : Nat) :
    ntohll (d.countRec size).setCount = ntohll d.setCount + 1 := rfl

theorem setSize_countRec (d : DbDataset) (size : Nat) :
    ntohll (d.countRec size).setSize = ntohll d.setSize + size := rfl

section Placed

variable {α : Type} {recSize : Nat} {l : List (WalkOp UInt64 α)}
  {pMapAdded pMapRemoved : EpMap} {t : DataTbl α}

/-- Where nothing is counted, nothing has been placed. -/
theorem placed_nil (h : ntohll t.pDataset.setCount = 0) :
    Placed [] OrdMap.empty OrdMap.empty t where
  count := h
  added := Laid.nil _ _ _
  removed := Laid.nil _ _ _

private theorem Placed.count_push (h : Placed l pMapAdded pMapRemoved t) (recSize : Nat)
    (op : WalkOp UInt64 α) (v : α) :
    ntohll (t.push recSize v).pDataset.setCount = (l ++ [op]).length := by
  rw [List.length_append, List.length_singleton, ← h.count]
  exact setCount_countRec _ _

/-- An added record goes in. -/
theorem Placed.add (h : Placed l pMapAdded pMapRemoved t) (recSize : Nat) (k : UInt64) (v : α) :
    Placed (l ++ [.add (k, v)]) (pMapAdded.insert k (ntohll t.pDataset.setCount)) pMapRemoved
      (t.push recSize v) where
  count := h.count_push recSize _ v
  added := by
    rw [DataTbl.push, h.count]
    exact h.added.push rfl
  removed := by
    rw [DataTbl.push, h.count]
    exact h.removed.skip rfl

/-- A removed record goes in. -/
theorem Placed.remove (h : Placed l pMapAdded pMapRemoved t) (recSize : Nat) (k : UInt64)
    (v : α) :
    Placed (l ++ [.remove (k, v)]) pMapAdded
      (pMapRemoved.insert k (ntohll t.pDataset.setCount)) (t.push recSize v) where
  count := h.count_push recSize _ v
  added := by
    rw [DataTbl.push, h.count]
    exact h.added.skip rfl
  removed := by
    rw [DataTbl.push, h.count]
    exact h.removed.push rfl

/-! What the maps say once no key was moved twice. -/

/-- The keys that went in as added, and those that went in as removed, are
distinct. -/
structure OncePerKey (l : List (WalkOp UInt64 α)) : Prop where
  added : (l.filterMap WalkOp.addKey).Nodup
  removed : (l.filterMap WalkOp.removeKey).Nodup

theorem Placed.slots_perm (h : Placed l pMapAdded pMapRemoved t) (hk : OncePerKey l) :
    (slotsOf pMapAdded ++ slotsOf pMapRemoved).Perm (List.range l.length) :=
  h.added.slotsOf_append_perm h.removed hk.added hk.removed fun op _ => op.addKey_isSome

theorem Placed.count_add_count (h : Placed l pMapAdded pMapRemoved t) (hk : OncePerKey l) :
    pMapAdded.count + pMapRemoved.count = l.length := by
  have hlen := (h.slots_perm hk).length_eq
  rw [List.length_append, List.length_range, slotsOf, slotsOf, List.length_map,
    List.length_map] at hlen
  exact hlen

/-- An added key reads back as the record it went in with. -/
theorem Placed.view_added (h : Placed l pMapAdded pMapRemoved t) (hk : OncePerKey l)
    {k : UInt64} {v : α} : view pMapAdded t.pDataTbl k = some v ↔ WalkOp.add (k, v) ∈ l := by
  rw [h.added.view_eq_some hk.added]
  constructor
  · rintro ⟨op, hop, hsel, rfl⟩
    cases op with
    | remove p => cases hsel
    | add p =>
        obtain rfl : p.1 = k := Option.some.inj hsel
        exact hop
  · intro hop
    exact ⟨_, hop, rfl, rfl⟩

/-- And so does a removed one. -/
theorem Placed.view_removed (h : Placed l pMapAdded pMapRemoved t) (hk : OncePerKey l)
    {k : UInt64} {v : α} :
    view pMapRemoved t.pDataTbl k = some v ↔ WalkOp.remove (k, v) ∈ l := by
  rw [h.removed.view_eq_some hk.removed]
  constructor
  · rintro ⟨op, hop, hsel, rfl⟩
    cases op with
    | add p => cases hsel
    | remove p =>
        obtain rfl : p.1 = k := Option.some.inj hsel
        exact hop
  · intro hop
    exact ⟨_, hop, rfl, rfl⟩

private theorem view_isSome {m : EpMap} {b : Buf α} {k : UInt64} :
    (m.get? k).isSome = true ↔ ∃ v, view m b k = some v := by
  unfold view
  cases m.get? k <;> simp

theorem Placed.removed_isSome (h : Placed l pMapAdded pMapRemoved t) (hk : OncePerKey l)
    {k : UInt64} : (pMapRemoved.get? k).isSome = true ↔ ∃ v, WalkOp.remove (k, v) ∈ l := by
  rw [view_isSome (b := t.pDataTbl)]
  exact exists_congr fun v => h.view_removed hk

theorem Placed.added_isSome (h : Placed l pMapAdded pMapRemoved t) (hk : OncePerKey l)
    {k : UInt64} : (pMapAdded.get? k).isSome = true ↔ ∃ v, WalkOp.add (k, v) ∈ l := by
  rw [view_isSome (b := t.pDataTbl)]
  exact exists_congr fun v => h.view_added hk

end Placed

section Filled

variable {α : Type} {recSize cap : Nat} {l : List (WalkOp UInt64 α)}
  {pMapAdded pMapRemoved : EpMap} {t : DataTbl α}

theorem Filled.placed (h : Filled recSize cap l pMapAdded pMapRemoved t) :
    Placed l pMapAdded pMapRemoved t := ⟨h.count, h.added, h.removed⟩

theorem Fresh.filled (h : Fresh t) (recSize : Nat) :
    Filled recSize t.pDataTbl.cap [] OrdMap.empty OrdMap.empty t where
  count := h.count
  size := by rw [h.size, List.length_nil, Nat.zero_mul]
  added := Laid.nil _ _ _
  removed := Laid.nil _ _ _
  cap_eq := rfl
  fits _ := h.fits

/-- What is placed is filled, if the table before it was. -/
private theorem Filled.push {op : WalkOp UInt64 α} {v : α} {pMapAdded' pMapRemoved' : EpMap}
    (h : Filled recSize cap l pMapAdded pMapRemoved t)
    (hp : Placed (l ++ [op]) pMapAdded' pMapRemoved' (t.push recSize v)) :
    Filled recSize cap (l ++ [op]) pMapAdded' pMapRemoved' (t.push recSize v) where
  count := hp.count
  size := by
    rw [DataTbl.push, setSize_countRec, h.size, List.length_append, List.length_singleton,
      Nat.succ_mul]
  added := hp.added
  removed := hp.removed
  cap_eq := h.cap_eq
  fits := by
    intro hle
    rw [List.length_append, List.length_singleton] at hle
    rw [DataTbl.push, Buf.fits_write, h.count, h.cap_eq]
    exact ⟨h.fits (by omega), by omega⟩

theorem Filled.add (h : Filled recSize cap l pMapAdded pMapRemoved t) (k : UInt64) (v : α) :
    Filled recSize cap (l ++ [.add (k, v)])
      (pMapAdded.insert k (ntohll t.pDataset.setCount)) pMapRemoved (t.push recSize v) :=
  h.push (h.placed.add recSize k v)

theorem Filled.remove (h : Filled recSize cap l pMapAdded pMapRemoved t) (k : UInt64) (v : α) :
    Filled recSize cap (l ++ [.remove (k, v)]) pMapAdded
      (pMapRemoved.insert k (ntohll t.pDataset.setCount)) (t.push recSize v) :=
  h.push (h.placed.remove recSize k v)

end Filled

/-- What holds of a table and its maps, at the list of what went in, and is
kept when one more record goes in, under either map. -/
structure KeptByPush {α : Type} (recSize : Nat)
    (P : List (WalkOp UInt64 α) → EpMap → EpMap → DataTbl α → Prop) : Prop where
  add : ∀ {l pMapAdded pMapRemoved t}, P l pMapAdded pMapRemoved t → ∀ k v,
    P (l ++ [.add (k, v)]) (pMapAdded.insert k (ntohll t.pDataset.setCount)) pMapRemoved
      (t.push recSize v)
  remove : ∀ {l pMapAdded pMapRemoved t}, P l pMapAdded pMapRemoved t → ∀ k v,
    P (l ++ [.remove (k, v)]) pMapAdded (pMapRemoved.insert k (ntohll t.pDataset.setCount))
      (t.push recSize v)

theorem placed_kept {α : Type} (recSize : Nat) : KeptByPush recSize (Placed (α := α)) :=
  ⟨fun h => h.add recSize, fun h => h.remove recSize⟩

theorem filled_kept {α : Type} (recSize cap : Nat) :
    KeptByPush recSize (Filled (α := α) recSize cap) :=
  ⟨Filled.add, Filled.remove⟩

/-! ## Fixed-size records -/

section Fixed

variable {α : Type} (cmp : EpMapRec → Buf α → EpMapRec → Buf α → Bool)
  (pMapOld pMapNew : EpMap) (pDataTblOld pDataTblNew : Buf α)

/-- The comparison a walk makes, of two items. -/
def itemCmp : EpMapRec → EpMapRec → Bool := fun o n => cmp o pDataTblOld n pDataTblNew

/-- An operation with the record in place of its offset. -/
def recOp : WalkOp UInt64 Nat → WalkOp UInt64 α
  | .remove p => .remove (p.1, pDataTblOld.cell p.2)
  | .add p => .add (p.1, pDataTblNew.cell p.2)

/-- What a walk moves into the diff. -/
def recOps : List (WalkOp UInt64 α) :=
  (walkOps (itemCmp cmp pDataTblOld pDataTblNew) pMapOld.items pMapNew.items).map
    (recOp pDataTblOld pDataTblNew)

/-- `uint8_t dirty` after a list of insertions. -/
def dirtyAfter {β : Type} (ops : List β) : UInt8 := if ops.isEmpty then 0 else 1

variable {cmp pMapOld pMapNew pDataTblOld pDataTblNew}

theorem removeKey_recOp (op : WalkOp UInt64 Nat) :
    (recOp pDataTblOld pDataTblNew op).removeKey = op.removeKey := by
  cases op <;> rfl

theorem addKey_recOp (op : WalkOp UInt64 Nat) :
    (recOp pDataTblOld pDataTblNew op).addKey = op.addKey := by
  cases op <;> rfl

theorem oncePerKey_recOps : OncePerKey (recOps cmp pMapOld pMapNew pDataTblOld pDataTblNew) := by
  constructor
  · rw [recOps, List.filterMap_map]
    simp only [Function.comp_def, addKey_recOp]
    rw [filterMap_addKey]
    exact added_keys_nodup pMapOld.sorted pMapNew.sorted
  · rw [recOps, List.filterMap_map]
    simp only [Function.comp_def, removeKey_recOp]
    rw [filterMap_removeKey]
    exact removed_keys_nodup pMapOld.sorted pMapNew.sorted

theorem length_recOps_le :
    (recOps cmp pMapOld pMapNew pDataTblOld pDataTblNew).length
      ≤ pMapNew.count + pMapOld.count := by
  rw [recOps, List.length_map, Nat.add_comm]
  exact length_walkOps_le pMapOld.sorted pMapNew.sorted

/-- A record moved by a walk was moved by its offset. -/
theorem exists_of_add_mem_recOps {k : UInt64} {v : α}
    (h : WalkOp.add (k, v) ∈ recOps cmp pMapOld pMapNew pDataTblOld pDataTblNew) :
    ∃ o, WalkOp.add (k, o)
        ∈ walkOps (itemCmp cmp pDataTblOld pDataTblNew) pMapOld.items pMapNew.items ∧
      pDataTblNew.cell o = v := by
  rw [recOps, List.mem_map] at h
  obtain ⟨op, hop, heq⟩ := h
  cases op with
  | remove p => cases heq
  | add p =>
      obtain ⟨rfl, rfl⟩ := Prod.mk.inj (WalkOp.add.inj heq)
      exact ⟨p.2, hop, rfl⟩

theorem exists_of_remove_mem_recOps {k : UInt64} {v : α}
    (h : WalkOp.remove (k, v) ∈ recOps cmp pMapOld pMapNew pDataTblOld pDataTblNew) :
    ∃ o, WalkOp.remove (k, o)
        ∈ walkOps (itemCmp cmp pDataTblOld pDataTblNew) pMapOld.items pMapNew.items ∧
      pDataTblOld.cell o = v := by
  rw [recOps, List.mem_map] at h
  obtain ⟨op, hop, heq⟩ := h
  cases op with
  | add p => cases heq
  | remove p =>
      obtain ⟨rfl, rfl⟩ := Prod.mk.inj (WalkOp.remove.inj heq)
      exact ⟨p.2, hop, rfl⟩

theorem add_mem_recOps {k : UInt64} {v : α} :
    WalkOp.add (k, v) ∈ recOps cmp pMapOld pMapNew pDataTblOld pDataTblNew ↔
      addedVal (itemCmp cmp pDataTblOld pDataTblNew) pMapOld pMapNew pDataTblNew.cell k
        = some v := by
  rw [addedVal_eq_some]
  constructor
  · exact exists_of_add_mem_recOps
  · rintro ⟨o, hop, rfl⟩
    exact List.mem_map.mpr ⟨_, hop, rfl⟩

theorem remove_mem_recOps {k : UInt64} :
    (∃ v, WalkOp.remove (k, v) ∈ recOps cmp pMapOld pMapNew pDataTblOld pDataTblNew) ↔
      removedKey (itemCmp cmp pDataTblOld pDataTblNew) pMapOld pMapNew k = true := by
  rw [removedKey_eq_true]
  constructor
  · rintro ⟨v, hv⟩
    obtain ⟨o, hop, -⟩ := exists_of_remove_mem_recOps hv
    exact ⟨o, hop⟩
  · rintro ⟨o, hop⟩
    exact ⟨pDataTblOld.cell o, List.mem_map.mpr ⟨_, hop, rfl⟩⟩

/-- Everything there is to know of a walk over fixed-size records. -/
structure TblDiff.Spec (recSize : Nat) (cmp : EpMapRec → Buf α → EpMapRec → Buf α → Bool)
    (pMapOld pMapNew : EpMap) (pDataTblOld pDataTblNew : Buf α) (cap : Nat)
    (r : TblDiff α) : Prop where
  filled : Filled recSize cap (recOps cmp pMapOld pMapNew pDataTblOld pDataTblNew)
    r.pMapAdded r.pMapRemoved r.pDest
  dirty : r.dirty = dirtyAfter (recOps cmp pMapOld pMapNew pDataTblOld pDataTblNew)

private theorem dirtyAfter_concat {β : Type} (l : List β) (x : β) :
    dirtyAfter (l ++ [x]) = 1 := by
  cases l <;> rfl

/-- One step of the walk, on the state of the table. -/
private theorem tblDiff_step {recSize : Nat}
    {P : List (WalkOp UInt64 α) → EpMap → EpMap → DataTbl α → Prop} (hP : KeptByPush recSize P)
    {l : List (WalkOp UInt64 α)} {s s' : TblDiff α} (h : P l s.pMapAdded s.pMapRemoved s.pDest)
    (op : WalkOp UInt64 Nat)
    (hs' : WalkOp.apply (TblDiff.remove (mapRecInsert recSize) pDataTblOld)
      (TblDiff.add (mapRecInsert recSize) pDataTblNew) s op = s') :
    P (l ++ [recOp pDataTblOld pDataTblNew op]) s'.pMapAdded s'.pMapRemoved s'.pDest ∧
      s'.dirty = dirtyAfter (l ++ [recOp pDataTblOld pDataTblNew op]) := by
  rw [dirtyAfter_concat]
  subst hs'
  cases op with
  | remove p => exact ⟨hP.remove h p.1 (pDataTblOld.cell p.2), rfl⟩
  | add p => exact ⟨hP.add h p.1 (pDataTblNew.cell p.2), rfl⟩

private theorem tblDiff_fold {recSize : Nat}
    {P : List (WalkOp UInt64 α) → EpMap → EpMap → DataTbl α → Prop} (hP : KeptByPush recSize P)
    (ops : List (WalkOp UInt64 Nat)) :
    ∀ {l : List (WalkOp UInt64 α)} {s s' : TblDiff α},
      P l s.pMapAdded s.pMapRemoved s.pDest → s.dirty = dirtyAfter l →
      ops.foldl (WalkOp.apply (TblDiff.remove (mapRecInsert recSize) pDataTblOld)
        (TblDiff.add (mapRecInsert recSize) pDataTblNew)) s = s' →
      P (l ++ ops.map (recOp pDataTblOld pDataTblNew)) s'.pMapAdded s'.pMapRemoved s'.pDest ∧
        s'.dirty = dirtyAfter (l ++ ops.map (recOp pDataTblOld pDataTblNew)) := by
  induction ops with
  | nil =>
      rintro l s _ h hd rfl
      rw [List.map_nil, List.append_nil]
      exact ⟨h, hd⟩
  | cons op ops ih =>
      intro l s s' h _ hs'
      obtain ⟨h', hd'⟩ := tblDiff_step hP h op rfl
      have hrest := ih h' hd' hs'
      rw [List.append_assoc] at hrest
      exact hrest

/-- `ssa_db_diff_table_cmp_v2` with the shared insert body keeps what one
insertion keeps, from the table it is given on. -/
theorem ssaDbDiffTableCmpV2_keeps {recSize : Nat}
    {P : List (WalkOp UInt64 α) → EpMap → EpMap → DataTbl α → Prop} (hP : KeptByPush recSize P)
    {pDest : DataTbl α} (h : P [] OrdMap.empty OrdMap.empty pDest) :
    let r := ssaDbDiffTableCmpV2 pMapOld pMapNew pDataTblOld pDataTblNew (mapRecInsert recSize)
      cmp OrdMap.empty OrdMap.empty pDest
    P (recOps cmp pMapOld pMapNew pDataTblOld pDataTblNew) r.pMapAdded r.pMapRemoved r.pDest ∧
      r.dirty = dirtyAfter (recOps cmp pMapOld pMapNew pDataTblOld pDataTblNew) := by
  rw [ssaDbDiffTableCmpV2, walk_eq]
  exact tblDiff_fold hP (s := ⟨OrdMap.empty, OrdMap.empty, pDest, 0⟩)
    (walkOps (itemCmp cmp pDataTblOld pDataTblNew) pMapOld.items pMapNew.items) h rfl rfl

/-- On a fresh table. -/
theorem ssaDbDiffTableCmpV2_spec (recSize : Nat) {pDest : DataTbl α} (h : Fresh pDest) :
    TblDiff.Spec recSize cmp pMapOld pMapNew pDataTblOld pDataTblNew pDest.pDataTbl.cap
      (ssaDbDiffTableCmpV2 pMapOld pMapNew pDataTblOld pDataTblNew (mapRecInsert recSize) cmp
        OrdMap.empty OrdMap.empty pDest) := by
  obtain ⟨hf, hd⟩ := ssaDbDiffTableCmpV2_keeps (filled_kept recSize pDest.pDataTbl.cap)
    (h.filled recSize)
  exact ⟨hf, hd⟩

/-- What the added map holds: the new records of the keys that come. -/
theorem Filled.view_recOps {recSize cap : Nat} {pMapAdded pMapRemoved : EpMap}
    {t : DataTbl α}
    (h : Filled recSize cap (recOps cmp pMapOld pMapNew pDataTblOld pDataTblNew) pMapAdded
      pMapRemoved t) :
    view pMapAdded t.pDataTbl
      = addedVal (itemCmp cmp pDataTblOld pDataTblNew) pMapOld pMapNew pDataTblNew.cell := by
  funext k
  refine Option.ext fun v => ?_
  rw [h.placed.view_added oncePerKey_recOps, add_mem_recOps]

/-- What the removed map holds: the keys that go. -/
theorem Filled.removed_recOps {recSize cap : Nat} {pMapAdded pMapRemoved : EpMap}
    {t : DataTbl α}
    (h : Filled recSize cap (recOps cmp pMapOld pMapNew pDataTblOld pDataTblNew) pMapAdded
      pMapRemoved t) :
    (fun k => (pMapRemoved.get? k).isSome)
      = removedKey (itemCmp cmp pDataTblOld pDataTblNew) pMapOld pMapNew := by
  funext k
  rw [Bool.eq_iff_iff, h.placed.removed_isSome oncePerKey_recOps, remove_mem_recOps]

end Fixed

/-! ## Ports and their pkeys

The walk over the ports moves bytes too. `portPayload` is how many for a
record that is added; the record goes in with the cursor as its new offset if
there are any, and as it was if there are none. -/

/-- The number of bytes that are moved with an added port. -/
def portPayload (pDataRefTbl : Buf UInt16) (r : EpPortTblRec) : Nat :=
  if pDataRefTbl.isNull then 0 else (ntohs r.pkeyTblSize).toNat

/-- The record of an added port in the diff, with the cursor at `off`. -/
def rebasePort (pDataRefTbl : Buf UInt16) (off : Nat) (r : EpPortTblRec) : EpPortTblRec :=
  if portPayload pDataRefTbl r = 0 then r else { r with pkeyTblOffset := htonll off }

/-- The PKEY table after the pkeys of one more added port. -/
def RefTbl.append (ref : RefTbl) (pDataRefTbl : Buf UInt16) (r : EpPortTblRec) : RefTbl where
  pRefDataset :=
    { ref.pRefDataset with
      setSize := htonll (ntohll ref.pRefDataset.setSize + portPayload pDataRefTbl r) }
  pDataRefTbl :=
    ref.pDataRefTbl.copy ref.pOffset (portPayload pDataRefTbl r) fun i =>
      bytesOf pDataRefTbl (ntohll r.pkeyTblOffset + i)
  pOffset := ref.pOffset + portPayload pDataRefTbl r

@[simp] theorem pOffset_append (ref : RefTbl) (pDataRefTbl : Buf UInt16) (r : EpPortTblRec) :
    (ref.append pDataRefTbl r).pOffset = ref.pOffset + portPayload pDataRefTbl r := rfl

@[simp] theorem setSize_append (ref : RefTbl) (pDataRefTbl : Buf UInt16) (r : EpPortTblRec) :
    ntohll (ref.append pDataRefTbl r).pRefDataset.setSize
      = ntohll ref.pRefDataset.setSize + portPayload pDataRefTbl r := rfl

theorem pDataRefTbl_append (ref : RefTbl) (pDataRefTbl : Buf UInt16) (r : EpPortTblRec) :
    (ref.append pDataRefTbl r).pDataRefTbl
      = ref.pDataRefTbl.copy ref.pOffset (portPayload pDataRefTbl r) fun i =>
          bytesOf pDataRefTbl (ntohll r.pkeyTblOffset + i) := rfl

theorem RefTbl.append_of_zero {ref : RefTbl} {pDataRefTbl : Buf UInt16} {r : EpPortTblRec}
    (h : portPayload pDataRefTbl r = 0) : ref.append pDataRefTbl r = ref := by
  rw [RefTbl.append, h]
  simp only [Buf.copy_zero, Nat.add_zero]
  rfl

/-- With a reference table, the early return and the full path are one: the
record goes in rebased, and the pkeys are appended. -/
theorem ssaDbPortInsert_some (pMap : EpMap) (pDest : DataTbl EpPortTblRec) (ref : RefTbl)
    (key : UInt64) (pItem : EpMapRec) (pDataTblSrc : Buf EpPortTblRec)
    (pDataRefTblSrc : Buf UInt16) :
    ssaDbPortInsert pMap pDest (some ref) key pItem pDataTblSrc pDataRefTblSrc
      = (pMap.insert key (ntohll pDest.pDataset.setCount),
          ⟨pDest.pDataset.countRec SsaTableId.port.recSize,
            pDest.pDataTbl.write (ntohll pDest.pDataset.setCount)
              (rebasePort pDataRefTblSrc ref.pOffset (pDataTblSrc.cell pItem.2))⟩,
          some (ref.append pDataRefTblSrc (pDataTblSrc.cell pItem.2))) := by
  simp only [ssaDbPortInsert, mapRecInsert]
  split
  · next hnull =>
      have hz : portPayload pDataRefTblSrc (pDataTblSrc.cell pItem.2) = 0 := by
        rw [portPayload, if_pos hnull]
      rw [RefTbl.append_of_zero hz, rebasePort, if_pos hz]
  · next hnull =>
      have hp : portPayload pDataRefTblSrc (pDataTblSrc.cell pItem.2)
          = (ntohs (pDataTblSrc.cell pItem.2).pkeyTblSize).toNat := by
        rw [portPayload, if_neg hnull]
      split
      · next hsize =>
          have hz : portPayload pDataRefTblSrc (pDataTblSrc.cell pItem.2) = 0 := by
            rw [hp, hsize]
            rfl
          rw [RefTbl.append_of_zero hz, rebasePort, if_pos hz]
      · next hsize =>
          have hnz : portPayload pDataRefTblSrc (pDataTblSrc.cell pItem.2) ≠ 0 := by
            rw [hp]
            intro hc
            exact hsize (UInt16.toNat_inj.mp hc)
          rw [rebasePort, if_neg hnz, RefTbl.append, hp, Buf.write_write, Buf.cell_write,
            Function.update_self]
          rfl

/-- The PKEY table after a list of added ports. -/
def RefTbl.appendAll (pDataRefTbl : Buf UInt16) (ref : RefTbl) (l : List EpPortTblRec) :
    RefTbl :=
  l.foldl (fun ref r => ref.append pDataRefTbl r) ref

/-- The bytes that a list of added ports brings. -/
def payloads (pDataRefTbl : Buf UInt16) (l : List EpPortTblRec) : Nat :=
  (l.map (portPayload pDataRefTbl)).sum

section AppendAll

variable {pDataRefTbl : Buf UInt16}

theorem payloads_cons (r : EpPortTblRec) (l : List EpPortTblRec) :
    payloads pDataRefTbl (r :: l) = portPayload pDataRefTbl r + payloads pDataRefTbl l :=
  List.sum_cons

theorem setSize_appendAll (l : List EpPortTblRec) (ref : RefTbl) :
    ntohll (ref.appendAll pDataRefTbl l).pRefDataset.setSize
      = ntohll ref.pRefDataset.setSize + payloads pDataRefTbl l := by
  induction l generalizing ref with
  | nil => rfl
  | cons r rest ih =>
      show ntohll ((ref.append pDataRefTbl r).appendAll pDataRefTbl rest).pRefDataset.setSize = _
      rw [ih, payloads_cons, setSize_append]
      omega

/-- What is below the cursor stays. -/
theorem cell_appendAll_of_lt (l : List EpPortTblRec) (ref : RefTbl) {j : Nat}
    (h : j < ref.pOffset) :
    (ref.appendAll pDataRefTbl l).pDataRefTbl.cell j = ref.pDataRefTbl.cell j := by
  induction l generalizing ref with
  | nil => rfl
  | cons r rest ih =>
      have hlt : j < (ref.append pDataRefTbl r).pOffset := Nat.lt_add_right _ h
      show ((ref.append pDataRefTbl r).appendAll pDataRefTbl rest).pDataRefTbl.cell j = _
      rw [ih _ hlt, pDataRefTbl_append, Buf.cell_copy_of_lt _ _ h]

/-- Every write was inside the block exactly when the last one ended there. -/
theorem fits_appendAll (l : List EpPortTblRec) (ref : RefTbl)
    (hle : ref.pOffset ≤ ref.pDataRefTbl.cap) :
    (ref.appendAll pDataRefTbl l).pDataRefTbl.fits = true ↔
      ref.pDataRefTbl.fits = true ∧
        ref.pOffset + payloads pDataRefTbl l ≤ ref.pDataRefTbl.cap := by
  induction l generalizing ref with
  | nil =>
      show ref.pDataRefTbl.fits = true ↔ _ ∧ ref.pOffset + 0 ≤ _
      rw [Nat.add_zero]
      exact ⟨fun hf => ⟨hf, hle⟩, And.left⟩
  | cons r rest ih =>
      show ((ref.append pDataRefTbl r).appendAll pDataRefTbl rest).pDataRefTbl.fits = true ↔ _
      have hcap : (ref.append pDataRefTbl r).pDataRefTbl.cap = ref.pDataRefTbl.cap := rfl
      have hoff := pOffset_append ref pDataRefTbl r
      have hfits : (ref.append pDataRefTbl r).pDataRefTbl.fits = true ↔ _ :=
        Buf.fits_copy ref.pDataRefTbl ref.pOffset (portPayload pDataRefTbl r) _
      rw [payloads_cons]
      by_cases hnext : ref.pOffset + portPayload pDataRefTbl r ≤ ref.pDataRefTbl.cap
      · rw [ih _ (by rw [hoff, hcap]; exact hnext), hfits, hcap, hoff, Nat.add_assoc]
        exact ⟨fun h => ⟨h.1.1, h.2⟩, fun h => ⟨⟨h.1, Or.inr hnext⟩, h.2⟩⟩
      · -- the copy of this port's pkeys already overran, and nothing mends that
        constructor
        · intro hfin
          have hsticky : ∀ (l : List EpPortTblRec) (ref' : RefTbl),
              (ref'.appendAll pDataRefTbl l).pDataRefTbl.fits = true →
              ref'.pDataRefTbl.fits = true := by
            intro l
            induction l with
            | nil => exact fun _ h => h
            | cons r' rest' ih' =>
                intro ref' h
                have h' := ih' (ref'.append pDataRefTbl r') h
                exact ((Buf.fits_copy _ _ _ _).mp h').1
          obtain ⟨_, hz | hin⟩ := hfits.mp (hsticky rest _ hfin)
          · omega
          · exact absurd hin hnext
        · rintro ⟨_, hin⟩
          omega

end AppendAll

section Ports

variable (cmp : VarCmp) (pMapOld pMapNew : EpMap) (pDataTblOld : Buf EpPortTblRec)
  (pDataRefTblOld : Buf UInt16) (pDataTblNew : Buf EpPortTblRec) (pDataRefTblNew : Buf UInt16)

/-- The comparison the walk makes, of two items. -/
def portItemCmp : EpMapRec → EpMapRec → Bool := fun o n =>
  cmp o pDataTblOld pDataRefTblOld n pDataTblNew pDataRefTblNew

/-- What the walk moves into the diff, with the cursor at `off` before it. -/
def portOps : Nat → List (WalkOp UInt64 Nat) → List (WalkOp UInt64 EpPortTblRec)
  | _, [] => []
  | off, .remove p :: ops => .remove (p.1, pDataTblOld.cell p.2) :: portOps off ops
  | off, .add p :: ops =>
      .add (p.1, rebasePort pDataRefTblNew off (pDataTblNew.cell p.2)) ::
        portOps (off + portPayload pDataRefTblNew (pDataTblNew.cell p.2)) ops

/-- The records that are added, as they lie in the new table. -/
def addedRecs (ops : List (WalkOp UInt64 Nat)) : List EpPortTblRec :=
  (addedOf ops).map fun p => pDataTblNew.cell p.2

variable {cmp pMapOld pMapNew pDataTblOld pDataRefTblOld pDataTblNew pDataRefTblNew}

theorem length_portOps (ops : List (WalkOp UInt64 Nat)) (off : Nat) :
    (portOps pDataTblOld pDataTblNew pDataRefTblNew off ops).length = ops.length := by
  induction ops generalizing off with
  | nil => rfl
  | cons op ops ih =>
      cases op with
      | remove p => rw [portOps, List.length_cons, List.length_cons, ih]
      | add p => rw [portOps, List.length_cons, List.length_cons, ih]

theorem filterMap_removeKey_portOps (ops : List (WalkOp UInt64 Nat)) (off : Nat) :
    (portOps pDataTblOld pDataTblNew pDataRefTblNew off ops).filterMap WalkOp.removeKey
      = ops.filterMap WalkOp.removeKey := by
  induction ops generalizing off with
  | nil => rfl
  | cons op ops ih =>
      cases op with
      | remove p => exact congrArg (p.1 :: ·) (ih off)
      | add p => exact ih _

theorem filterMap_addKey_portOps (ops : List (WalkOp UInt64 Nat)) (off : Nat) :
    (portOps pDataTblOld pDataTblNew pDataRefTblNew off ops).filterMap WalkOp.addKey
      = ops.filterMap WalkOp.addKey := by
  induction ops generalizing off with
  | nil => rfl
  | cons op ops ih =>
      cases op with
      | remove p => exact ih off
      | add p => exact congrArg (p.1 :: ·) (ih _)

theorem remove_mem_portOps {k : UInt64} {r : EpPortTblRec} {ops : List (WalkOp UInt64 Nat)}
    {off : Nat} :
    WalkOp.remove (k, r) ∈ portOps pDataTblOld pDataTblNew pDataRefTblNew off ops ↔
      ∃ o, WalkOp.remove (k, o) ∈ ops ∧ pDataTblOld.cell o = r := by
  induction ops generalizing off with
  | nil => simp [portOps]
  | cons op ops ih =>
      cases op with
      | remove p =>
          obtain ⟨k', o'⟩ := p
          simp only [portOps, List.mem_cons, WalkOp.remove.injEq, Prod.mk.injEq, ih]
          grind
      | add p => simp only [portOps, List.mem_cons, reduceCtorEq, false_or, ih]

/-- An added port in the list is one of the walk's, rebased at a cursor from
which there was room for its pkeys. -/
theorem add_mem_portOps {k : UInt64} {r : EpPortTblRec} {ops : List (WalkOp UInt64 Nat)}
    {off : Nat} (h : WalkOp.add (k, r) ∈ portOps pDataTblOld pDataTblNew pDataRefTblNew off ops) :
    ∃ o c, WalkOp.add (k, o) ∈ ops ∧ r = rebasePort pDataRefTblNew c (pDataTblNew.cell o) ∧
      c + portPayload pDataRefTblNew (pDataTblNew.cell o)
        ≤ off + payloads pDataRefTblNew (addedRecs pDataTblNew ops) := by
  induction ops generalizing off with
  | nil => cases h
  | cons op ops ih =>
      cases op with
      | remove p =>
          rcases List.mem_cons.mp h with heq | hmem
          · cases heq
          · obtain ⟨o, c, hop, hr, hle⟩ := ih hmem
            exact ⟨o, c, List.mem_cons_of_mem _ hop, hr, hle⟩
      | add p =>
          have hsum : payloads pDataRefTblNew (addedRecs pDataTblNew (.add p :: ops))
              = portPayload pDataRefTblNew (pDataTblNew.cell p.2)
                + payloads pDataRefTblNew (addedRecs pDataTblNew ops) := payloads_cons _ _
          rw [hsum]
          rcases List.mem_cons.mp h with heq | hmem
          · obtain ⟨rfl, rfl⟩ := Prod.mk.inj (WalkOp.add.inj heq)
            exact ⟨p.2, off, List.mem_cons_self, rfl, by omega⟩
          · obtain ⟨o, c, hop, hr, hle⟩ := ih hmem
            exact ⟨o, c, List.mem_cons_of_mem _ hop, hr, by omega⟩

/-- An added port is in the list with the cursor it met, and its pkeys lie in
the PKEY table from there on. -/
theorem exists_add_mem_portOps {k : UInt64} {o : Nat} {ops : List (WalkOp UInt64 Nat)}
    (h : WalkOp.add (k, o) ∈ ops) (ref : RefTbl) :
    ∃ c, WalkOp.add (k, rebasePort pDataRefTblNew c (pDataTblNew.cell o))
        ∈ portOps pDataTblOld pDataTblNew pDataRefTblNew ref.pOffset ops ∧
      ∀ j < portPayload pDataRefTblNew (pDataTblNew.cell o),
        (ref.appendAll pDataRefTblNew (addedRecs pDataTblNew ops)).pDataRefTbl.cell (c + j)
          = bytesOf pDataRefTblNew (ntohll (pDataTblNew.cell o).pkeyTblOffset + j) := by
  induction ops generalizing ref with
  | nil => cases h
  | cons op ops ih =>
      rcases List.mem_cons.mp h with rfl | hmem
      · refine ⟨ref.pOffset, List.mem_cons_self, ?_⟩
        intro j hj
        have hlt : ref.pOffset + j < (ref.append pDataRefTblNew (pDataTblNew.cell o)).pOffset :=
          Nat.add_lt_add_left hj _
        show ((ref.append pDataRefTblNew (pDataTblNew.cell o)).appendAll pDataRefTblNew
          (addedRecs pDataTblNew ops)).pDataRefTbl.cell (ref.pOffset + j) = _
        rw [cell_appendAll_of_lt _ _ hlt, pDataRefTbl_append, Buf.cell_copy_of_mem _ _ hj]
      · cases op with
        | remove p =>
            obtain ⟨c, hc, hbytes⟩ := ih hmem ref
            exact ⟨c, List.mem_cons_of_mem _ hc, hbytes⟩
        | add p =>
            obtain ⟨c, hc, hbytes⟩ := ih hmem (ref.append pDataRefTblNew (pDataTblNew.cell p.2))
            exact ⟨c, List.mem_cons_of_mem _ hc, hbytes⟩

/-- The list a walk over the ports moves into the diff. -/
abbrev portWalkOps (cmp : VarCmp) (pMapOld pMapNew : EpMap) (pDataTblOld : Buf EpPortTblRec)
    (pDataRefTblOld : Buf UInt16) (pDataTblNew : Buf EpPortTblRec)
    (pDataRefTblNew : Buf UInt16) : List (WalkOp UInt64 Nat) :=
  walkOps (portItemCmp cmp pDataTblOld pDataRefTblOld pDataTblNew pDataRefTblNew)
    pMapOld.items pMapNew.items

/-- Everything there is to know of a walk over the ports. -/
structure VarTblDiff.Spec (cmp : VarCmp) (pMapOld pMapNew : EpMap)
    (pDataTblOld : Buf EpPortTblRec) (pDataRefTblOld : Buf UInt16)
    (pDataTblNew : Buf EpPortTblRec) (pDataRefTblNew : Buf UInt16) (cap : Nat) (ref : RefTbl)
    (r : VarTblDiff) : Prop where
  filled : Filled SsaTableId.port.recSize cap
    (portOps pDataTblOld pDataTblNew pDataRefTblNew ref.pOffset
      (portWalkOps cmp pMapOld pMapNew pDataTblOld pDataRefTblOld pDataTblNew pDataRefTblNew))
    r.pMapAdded r.pMapRemoved r.pDest
  pRef : r.pRef = ref.appendAll pDataRefTblNew (addedRecs pDataTblNew
    (portWalkOps cmp pMapOld pMapNew pDataTblOld pDataRefTblOld pDataTblNew pDataRefTblNew))
  dirty : r.dirty = dirtyAfter
    (portWalkOps cmp pMapOld pMapNew pDataTblOld pDataRefTblOld pDataTblNew pDataRefTblNew)

private theorem varTblDiff_add (p : EpMapRec) (s : VarTblDiff) :
    VarTblDiff.add ssaDbPortInsert pDataTblNew pDataRefTblNew p s
      = ⟨s.pMapAdded.insert p.1 (ntohll s.pDest.pDataset.setCount), s.pMapRemoved,
          s.pDest.push SsaTableId.port.recSize
            (rebasePort pDataRefTblNew s.pRef.pOffset (pDataTblNew.cell p.2)),
          s.pRef.append pDataRefTblNew (pDataTblNew.cell p.2), 1⟩ := by
  rw [VarTblDiff.add, ssaDbPortInsert_some]
  rfl

private theorem varTblDiff_fold
    {P : List (WalkOp UInt64 EpPortTblRec) → EpMap → EpMap → DataTbl EpPortTblRec → Prop}
    (hP : KeptByPush SsaTableId.port.recSize P) (ops : List (WalkOp UInt64 Nat)) :
    ∀ {l : List (WalkOp UInt64 EpPortTblRec)} {s s' : VarTblDiff},
      P l s.pMapAdded s.pMapRemoved s.pDest →
      ops.foldl (WalkOp.apply (VarTblDiff.remove ssaDbPortInsert pDataTblOld)
        (VarTblDiff.add ssaDbPortInsert pDataTblNew pDataRefTblNew)) s = s' →
      P (l ++ portOps pDataTblOld pDataTblNew pDataRefTblNew s.pRef.pOffset ops) s'.pMapAdded
          s'.pMapRemoved s'.pDest ∧
        s'.pRef = s.pRef.appendAll pDataRefTblNew (addedRecs pDataTblNew ops) ∧
        s'.dirty = if ops.isEmpty then s.dirty else 1 := by
  induction ops with
  | nil =>
      rintro l s _ h rfl
      rw [portOps, List.append_nil]
      exact ⟨h, rfl, rfl⟩
  | cons op ops ih =>
      intro l s s' h hs'
      cases op with
      | remove p =>
          obtain ⟨hf, hr, hd⟩ := ih (s := VarTblDiff.remove ssaDbPortInsert pDataTblOld p s)
            (hP.remove h p.1 (pDataTblOld.cell p.2)) hs'
          rw [List.append_assoc] at hf
          refine ⟨hf, hr, ?_⟩
          rw [hd]
          cases ops <;> rfl
      | add p =>
          rw [List.foldl_cons, WalkOp.apply, varTblDiff_add] at hs'
          obtain ⟨hf, hr, hd⟩ := ih (hP.add h p.1 _) hs'
          rw [List.append_assoc] at hf
          refine ⟨hf, hr, ?_⟩
          rw [hd]
          cases ops <;> rfl

/-- `ssa_db_diff_var_size_table_cmp` with the port insert routine keeps what
one insertion keeps, and appends the added ports' pkeys. -/
theorem ssaDbDiffVarSizeTableCmp_keeps
    {P : List (WalkOp UInt64 EpPortTblRec) → EpMap → EpMap → DataTbl EpPortTblRec → Prop}
    (hP : KeptByPush SsaTableId.port.recSize P) {pDest : DataTbl EpPortTblRec}
    (h : P [] OrdMap.empty OrdMap.empty pDest) (pRefDataset : DbDataset)
    (pDataRefTbl : Buf UInt8) :
    let ops := portWalkOps cmp pMapOld pMapNew pDataTblOld pDataRefTblOld pDataTblNew
      pDataRefTblNew
    let r := ssaDbDiffVarSizeTableCmp pMapOld pMapNew pDataTblOld pDataRefTblOld pDataTblNew
      pDataRefTblNew ssaDbPortInsert cmp OrdMap.empty OrdMap.empty pDest pRefDataset pDataRefTbl
    P (portOps pDataTblOld pDataTblNew pDataRefTblNew 0 ops) r.pMapAdded r.pMapRemoved r.pDest ∧
      r.pRef = RefTbl.appendAll pDataRefTblNew ⟨pRefDataset, pDataRefTbl, 0⟩
        (addedRecs pDataTblNew ops) ∧
      r.dirty = dirtyAfter ops := by
  rw [ssaDbDiffVarSizeTableCmp, walk_eq]
  exact varTblDiff_fold hP
    (s := ⟨OrdMap.empty, OrdMap.empty, pDest, ⟨pRefDataset, pDataRefTbl, 0⟩, 0⟩)
    (portWalkOps cmp pMapOld pMapNew pDataTblOld pDataRefTblOld pDataTblNew pDataRefTblNew)
    h rfl

/-- On a fresh table. -/
theorem ssaDbDiffVarSizeTableCmp_spec {pDest : DataTbl EpPortTblRec} (h : Fresh pDest)
    (pRefDataset : DbDataset) (pDataRefTbl : Buf UInt8) :
    VarTblDiff.Spec cmp pMapOld pMapNew pDataTblOld pDataRefTblOld pDataTblNew pDataRefTblNew
      pDest.pDataTbl.cap ⟨pRefDataset, pDataRefTbl, 0⟩
      (ssaDbDiffVarSizeTableCmp pMapOld pMapNew pDataTblOld pDataRefTblOld pDataTblNew
        pDataRefTblNew ssaDbPortInsert cmp OrdMap.empty OrdMap.empty pDest pRefDataset
        pDataRefTbl) := by
  obtain ⟨hf, hr, hd⟩ := ssaDbDiffVarSizeTableCmp_keeps
    (filled_kept SsaTableId.port.recSize pDest.pDataTbl.cap) (h.filled SsaTableId.port.recSize)
    pRefDataset pDataRefTbl
  exact ⟨hf, hr, hd⟩

theorem oncePerKey_portOps (off : Nat) :
    OncePerKey (portOps pDataTblOld pDataTblNew pDataRefTblNew off
      (portWalkOps cmp pMapOld pMapNew pDataTblOld pDataRefTblOld pDataTblNew
        pDataRefTblNew)) := by
  constructor
  · rw [filterMap_addKey_portOps, filterMap_addKey]
    exact added_keys_nodup pMapOld.sorted pMapNew.sorted
  · rw [filterMap_removeKey_portOps, filterMap_removeKey]
    exact removed_keys_nodup pMapOld.sorted pMapNew.sorted

theorem length_portWalkOps_le :
    (portWalkOps cmp pMapOld pMapNew pDataTblOld pDataRefTblOld pDataTblNew
        pDataRefTblNew).length ≤ pMapNew.count + pMapOld.count := by
  rw [Nat.add_comm]
  exact length_walkOps_le pMapOld.sorted pMapNew.sorted

end Ports

end Ibssa
