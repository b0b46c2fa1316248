import Ibssa.Core.Create

/-!
# `ssa_db_create` is all or nothing

Each label of `ssa_db_create` frees one thing and falls through, so what a jump
to a label has to bring along is exactly what the labels from there on free.
`held2` to `held8` name that, and the lemmas on the labels say that whoever
arrives with it leaves with nothing. The body of the function then only has to
show, refusal by refusal, that it jumps to the label of what it holds. The two
loops clean up after themselves, so they jump with what they were entered with.

`ssa_db_destroy` goes down the same list on its own. The one difference is that
it passes over a field table that is null, where the cleanup of the second loop
hands it to `free`, which does nothing.
-/

namespace Ibssa.Alloc

open Lifetime Keyed

section Labels

variable {pDb : SsaDb} {len : UInt64} {owned : List (Block UInt64)} {l : Ledger UInt64}

/-! ## What is held at each label -/

def SsaDb.held2 (pDb : SsaDb) (owned : List (Block UInt64)) : List (Block UInt64) :=
  pDb.pSsaDb.toList ++ owned

def SsaDb.held3 (pDb : SsaDb) (owned : List (Block UInt64)) : List (Block UInt64) :=
  pDb.pDefTbl.toList ++ pDb.held2 owned

def SsaDb.held4 (pDb : SsaDb) (owned : List (Block UInt64)) : List (Block UInt64) :=
  pDb.pDbTables.toList ++ pDb.held3 owned

def SsaDb.held5 (pDb : SsaDb) (owned : List (Block UInt64)) : List (Block UInt64) :=
  pDb.pDbFieldTables.toList ++ pDb.held4 owned

def SsaDb.held6 (pDb : SsaDb) (owned : List (Block UInt64)) : List (Block UInt64) :=
  pDb.ppTables.toList ++ pDb.held5 owned

def SsaDb.held7 (pDb : SsaDb) (len : UInt64) (owned : List (Block UInt64)) :
    List (Block UInt64) :=
  Ledger.blocksOf pDb.ppTablesAt len.toNat ++ pDb.held6 owned

def SsaDb.held8 (pDb : SsaDb) (len : UInt64) (owned : List (Block UInt64)) :
    List (Block UInt64) :=
  pDb.ppFieldTables.toList ++ pDb.held7 len owned

/-- What a whole database holds. -/
def SsaDb.held (pDb : SsaDb) (len : UInt64) (owned : List (Block UInt64)) :
    List (Block UInt64) :=
  Ledger.blocksOf pDb.ppFieldTablesAt len.toNat ++ pDb.held8 len owned

/-- A call that came back with nothing has left what was owned before, and one
that came back with a database owns what it holds and has freed nothing. -/
def Outcome (len : UInt64) (owned : List (Block UInt64)) (l : Ledger UInt64)
    (r : Option SsaDb × Ledger UInt64) : Prop :=
  match r.1 with
  | none => r.2.Holds owned
  | some db => r.2.Holds (db.held len owned) ∧ r.2.freed = l.freed ∧ db.dataTblCnt = len

theorem err2_outcome {l₀ : Ledger UInt64} (h : l.Holds (pDb.held2 owned)) :
    Outcome len owned l₀ (err2 pDb l) := h.free

theorem err3_outcome {l₀ : Ledger UInt64} (h : l.Holds (pDb.held3 owned)) :
    Outcome len owned l₀ (err3 pDb l) := err2_outcome h.free

theorem err4_outcome {l₀ : Ledger UInt64} (h : l.Holds (pDb.held4 owned)) :
    Outcome len owned l₀ (err4 pDb l) := err3_outcome h.free

theorem err5_outcome {l₀ : Ledger UInt64} (h : l.Holds (pDb.held5 owned)) :
    Outcome len owned l₀ (err5 pDb l) := err4_outcome h.free

theorem err6_outcome {l₀ : Ledger UInt64} (h : l.Holds (pDb.held6 owned)) :
    Outcome len owned l₀ (err6 pDb l) := err5_outcome h.free

theorem err7_outcome {l₀ : Ledger UInt64} (h : l.Holds (pDb.held7 len owned)) :
    Outcome len owned l₀ (err7 pDb len l) := err6_outcome (h.freeDown len.toNat)

theorem err8_outcome {l₀ : Ledger UInt64} (h : l.Holds (pDb.held8 len owned)) :
    Outcome len owned l₀ (err8 pDb len l) := err7_outcome h.free

end Labels

/-! ## The body -/

variable {fails : Nat → UInt64 → Bool} {mem pDb : SsaDb}
  {pNumRecsArr pDataRecsSizeArr pNumFieldRecsArr : Nat → UInt64} {len : UInt64}
  {owned : List (Block UInt64)} {l : Ledger UInt64}

theorem createFieldTables_outcome {l₀ : Ledger UInt64} (h : l.Holds (pDb.held7 len owned))
    (hf : l.freed = l₀.freed) :
    Outcome len owned l₀ (createFieldTables fails pNumFieldRecsArr len pDb l) := by
  have hfill := Ledger.fill_spec fails (fieldTableSize pNumFieldRecsArr) len.toNat 0
    pDb.ppFieldTablesAt (h.malloc fails (sizeofPtr * len))
  rw [Nat.zero_add, Ledger.freed_malloc, hf] at hfill
  rw [createFieldTables]
  dsimp only
  split
  · next hnull => exact err7_outcome (h.refused hnull)
  · rw [fillFieldTables]
    split
    · next hfailed => exact err8_outcome (hfill.1 (by simpa using hfailed))
    · next hfilled =>
        obtain ⟨hheld, hfreed⟩ := hfill.2 (by simpa using hfilled)
        exact ⟨hheld, hfreed, rfl⟩

theorem createTables_outcome {l₀ : Ledger UInt64} (h : l.Holds (pDb.held5 owned))
    (hf : l.freed = l₀.freed) :
    Outcome len owned l₀
      (createTables fails pNumRecsArr pDataRecsSizeArr pNumFieldRecsArr len pDb l) := by
  have hfill := Ledger.fill_spec fails (fun i => some (pDataRecsSizeArr i * pNumRecsArr i))
    len.toNat 0 pDb.ppTablesAt (h.malloc fails (sizeofPtr * len))
  rw [Nat.zero_add, Ledger.freed_malloc, hf] at hfill
  rw [createTables]
  dsimp only
  split
  · next hnull => exact err5_outcome (h.refused hnull)
  · rw [fillTables]
    split
    · next hfailed => exact err6_outcome (hfill.1 (by simpa using hfailed))
    · next hfilled =>
        obtain ⟨hheld, hfreed⟩ := hfill.2 (by simpa using hfilled)
        exact createFieldTables_outcome hheld hfreed

theorem createDatasets_outcome {l₀ : Ledger UInt64} (h : l.Holds (pDb.held3 owned))
    (hf : l.freed = l₀.freed) :
    Outcome len owned l₀
      (createDatasets fails pNumRecsArr pDataRecsSizeArr pNumFieldRecsArr len pDb l) := by
  have h4 := h.malloc fails (sizeofDbDataset.toUInt64 * len)
  rw [createDatasets]
  dsimp only
  split
  · next hnull => exact err3_outcome (h.refused hnull)
  · split
    · next hnull => exact err4_outcome (h4.refused hnull)
    · refine createTables_outcome (h4.malloc fails _) ?_
      rw [Ledger.freed_malloc, Ledger.freed_malloc, hf]

/-- Whatever is refused, `ssa_db_create` ends with all or with nothing. -/
theorem ssaDbCreate_outcome (h : l.Holds owned) :
    Outcome len owned l
      (ssaDbCreate fails pNumRecsArr pDataRecsSizeArr pNumFieldRecsArr len mem l) := by
  have h2 := h.malloc fails sizeofSsaDb
  rw [ssaDbCreate]
  dsimp only
  split
  · next hnull => exact h.refused hnull
  · split
    · next hnull => exact err2_outcome (h2.refused hnull)
    · refine createDatasets_outcome (h2.malloc fails _) ?_
      rw [Ledger.freed_malloc, Ledger.freed_malloc]

/-! ## What comes back

The value of `ssaDbCreate` in the rest of the development is that of the run in
which nothing is refused. -/

/-- The blocks of a database are those of its value, of the right sizes, and the
null field tables are the same. -/
structure SsaDb.Represents {τ : Type} (db : SsaDb) (value : Ibssa.SsaDb τ) : Prop where
  dataTblCnt : db.dataTblCnt.toNat = value.dataTblCnt
  defTbl : db.pDefTbl.map Block.size
    = some (UInt64.ofNat sizeofDbTableDef * UInt64.ofNat value.pDefTbl.cap)
  dbTables : db.pDbTables.map Block.size
    = some (sizeofDbDataset.toUInt64 * UInt64.ofNat value.pDbTables.cap)
  dbFieldTables : db.pDbFieldTables.map Block.size
    = some (sizeofDbDataset.toUInt64 * UInt64.ofNat value.pDbFieldTables.cap)
  fieldTables : ∀ i < value.dataTblCnt, (db.ppFieldTablesAt i).map Block.size
    = if (value.ppFieldTables.cell i).isNull then none
      else some (UInt64.ofNat sizeofDbFieldDef * UInt64.ofNat (value.ppFieldTables.cell i).cap)

/-- What the two loops have done to a database when they come back with it. -/
structure SsaDb.CompletedFrom (db pDb : SsaDb) (pNumFieldRecsArr : Nat → UInt64)
    (len : UInt64) : Prop where
  defTbl : db.pDefTbl = pDb.pDefTbl
  dbTables : db.pDbTables = pDb.pDbTables
  dbFieldTables : db.pDbFieldTables = pDb.pDbFieldTables
  dataTblCnt : db.dataTblCnt = len
  fieldTables : ∀ i < len.toNat, (db.ppFieldTablesAt i).map Block.size
    = fieldTableSize pNumFieldRecsArr i

theorem createFieldTables_some {db : SsaDb}
    (h : (createFieldTables fails pNumFieldRecsArr len pDb l).1 = some db) :
    db.CompletedFrom pDb pNumFieldRecsArr len := by
  rw [createFieldTables, fillFieldTables] at h
  dsimp only at h
  split at h
  · cases h
  · split at h
    · cases h
    · next hfilled =>
        cases h
        have hsize := Ledger.size_of_fill len.toNat 0 (by simpa using hfilled)
        exact ⟨rfl, rfl, rfl, rfl, fun i hi => hsize.2 i (Nat.zero_le i) (by omega)⟩

theorem createTables_some {db : SsaDb}
    (h : (createTables fails pNumRecsArr pDataRecsSizeArr pNumFieldRecsArr len pDb l).1
      = some db) :
    db.CompletedFrom pDb pNumFieldRecsArr len := by
  rw [createTables] at h
  dsimp only at h
  split at h
  · cases h
  · split at h
    · cases h
    · obtain ⟨hdef, ht, hf, hcnt, hentries⟩ := createFieldTables_some h
      exact ⟨hdef, ht, hf, hcnt, hentries⟩

/-- A pointer that is not null after an allocation has a block of that size. -/
private theorem size_of_granted {size : UInt64}
    (h : ¬ (l.malloc fails size).1.isNone = true) :
    (l.malloc fails size).1.map Block.size = some size := by
  obtain ⟨b, hb⟩ := Option.ne_none_iff_exists'.mp (by simpa using h)
  rw [hb, Option.map_some, Ledger.size_of_malloc hb]

theorem createDatasets_some {db : SsaDb}
    (h : (createDatasets fails pNumRecsArr pDataRecsSizeArr pNumFieldRecsArr len pDb l).1
      = some db) :
    db.pDefTbl = pDb.pDefTbl ∧
      db.pDbTables.map Block.size = some (sizeofDbDataset.toUInt64 * len) ∧
      db.pDbFieldTables.map Block.size = some (sizeofDbDataset.toUInt64 * len) ∧
      db.dataTblCnt = len ∧
      ∀ i < len.toNat, (db.ppFieldTablesAt i).map Block.size
        = fieldTableSize pNumFieldRecsArr i := by
  rw [createDatasets] at h
  dsimp only at h
  split at h
  · cases h
  · next htables =>
      split at h
      · cases h
      · next hfields =>
          have hdone := createTables_some h
          rw [hdone.dbTables, hdone.dbFieldTables]
          exact ⟨hdone.defTbl, size_of_granted htables, size_of_granted hfields,
            hdone.dataTblCnt, hdone.fieldTables⟩

/-- A database that comes back is the one the rest of the development has. -/
theorem represents_ssaDbCreate {τ : Type} {db : SsaDb} (addrs : DbMem) (ppTables : τ)
    (h : (ssaDbCreate fails pNumRecsArr pDataRecsSizeArr pNumFieldRecsArr len mem l).1
      = some db) :
    db.Represents (Ibssa.ssaDbCreate addrs ppTables
      ((List.range len.toNat).map fun i => (pNumFieldRecsArr i).toNat) len.toNat) := by
  rw [ssaDbCreate] at h
  dsimp only at h
  split at h
  · cases h
  split at h
  · cases h
  next hdefs =>
  obtain ⟨hdef, htables, hfields, hcnt, hentries⟩ := createDatasets_some h
  have hlen : UInt64.ofNat len.toNat = len := UInt64.ofNat_toNat
  refine ⟨by rw [hcnt]; rfl, ?_, ?_, ?_, ?_⟩
  · show _ = some (UInt64.ofNat sizeofDbTableDef * UInt64.ofNat (len.toNat * 2))
    rw [hdef, size_of_granted hdefs, UInt64.ofNat_mul, hlen, ← UInt64.mul_assoc]
    rfl
  · show _ = some (sizeofDbDataset.toUInt64 * UInt64.ofNat len.toNat)
    rw [htables, hlen]
  · show _ = some (sizeofDbDataset.toUInt64 * UInt64.ofNat len.toNat)
    rw [hfields, hlen]
  · intro i hi
    have hlt : i < len.toNat := hi
    have hcount : ((List.range len.toNat).map fun i => (pNumFieldRecsArr i).toNat)[i]?
        = some (pNumFieldRecsArr i).toNat := by
      rw [List.getElem?_map, List.getElem?_range hlt, Option.map_some]
    have hvar : (pNumFieldRecsArr i).toNat = dbVariableSize.toNat ↔
        pNumFieldRecsArr i = dbVariableSize.toUInt64 := by
      rw [← UInt64.toNat_inj, UInt32.toNat_toUInt64]
    -- the field table of the value, whether it is there or not
    have hcell : (Ibssa.ssaDbCreate addrs ppTables
        ((List.range len.toNat).map fun i => (pNumFieldRecsArr i).toNat)
        len.toNat).ppFieldTables.cell i
          = if pNumFieldRecsArr i = dbVariableSize.toUInt64 then Buf.null
            else Buf.malloc addrs.addr (pNumFieldRecsArr i).toNat addrs.fieldTables := by
      simp only [Ibssa.ssaDbCreate, Buf.malloc, hcount, hvar]
    rw [hentries i hlt, fieldTableSize, hcell]
    by_cases hv : pNumFieldRecsArr i = dbVariableSize.toUInt64
    · rw [if_pos hv, if_pos hv]
      rfl
    · rw [if_neg hv, if_neg hv, if_neg (by rw [Buf.isNull_malloc]; decide)]
      simp only [Buf.malloc, UInt64.ofNat_toNat]

/-- And one comes back if nothing is refused. -/
theorem ssaDbCreate_granted (hgrant : ∀ n size, fails n size = false) :
    (ssaDbCreate fails pNumRecsArr pDataRecsSizeArr pNumFieldRecsArr len mem l).1.isSome := by
  simp [ssaDbCreate, createDatasets, createTables, createFieldTables, fillTables,
    fillFieldTables, Ledger.malloc_isNone, hgrant, Ledger.fill_granted hgrant]

/-! ## Destroying -/

/-- Passing over a null pointer is what `free` does to it. -/
theorem destroyFieldTables_eq (ppFieldTables : Nat → Ptr) (n : Nat) (l : Ledger UInt64) :
    destroyFieldTables ppFieldTables n l = l.freeDown ppFieldTables n := by
  induction n generalizing l with
  | zero => rfl
  | succ i ih =>
      rw [destroyFieldTables, Ledger.freeDown, ih, ih]
      split
      · next hnull =>
          rw [Option.isNone_iff_eq_none.mp hnull]
          rfl
      · rfl

theorem ssaDbDestroy_holds (h : l.Holds (pDb.held len owned)) (hlen : pDb.dataTblCnt = len) :
    (ssaDbDestroy (some pDb) l).Holds owned := by
  rw [ssaDbDestroy, hlen, destroyFieldTables_eq]
  have h7 := (h.freeDown len.toNat).free
  have h3 := (h7.freeDown len.toNat).free.free.free
  exact h3.free.free

theorem allocated_ssaDbDestroy (p : Option SsaDb) (l : Ledger UInt64) :
    (ssaDbDestroy p l).allocated = l.allocated := by
  cases p with
  | none => rfl
  | some p =>
      rw [ssaDbDestroy, destroyFieldTables_eq]
      simp only [Ledger.allocated_free, Ledger.allocated_freeDown]

/-- `ssa_db_create` is all or nothing, whichever allocations are refused. When
it returns null every block it got has been freed, once, and nothing else has.
When it returns a database nothing has been freed, and `ssa_db_destroy` frees
every block, once, and nothing else. -/
theorem ssaDbCreate_allOrNothing (fails : Nat → UInt64 → Bool)
    (pNumRecsArr pDataRecsSizeArr pNumFieldRecsArr : Nat → UInt64) (len : UInt64)
    (mem : SsaDb) :
    let r := ssaDbCreate fails pNumRecsArr pDataRecsSizeArr pNumFieldRecsArr len mem Ledger.empty
    (r.1 = none → r.2.freed.Perm r.2.allocated ∧ r.2.freed.Nodup) ∧
      ∀ db, r.1 = some db →
        r.2.freed = [] ∧ (ssaDbDestroy r.1 r.2).allocated = r.2.allocated ∧
          (ssaDbDestroy r.1 r.2).freed.Perm r.2.allocated ∧
          (ssaDbDestroy r.1 r.2).freed.Nodup := by
  intro r
  have hout : Outcome len [] Ledger.empty r := ssaDbCreate_outcome Ledger.holds_empty
  rw [Outcome] at hout
  constructor
  · intro hnull
    rw [hnull] at hout
    exact hout.settled
  · intro db hdb
    rw [hdb] at hout ⊢
    obtain ⟨hheld, hfreed, hlen⟩ := hout
    have hsettled := (ssaDbDestroy_holds hheld hlen).settled
    rw [allocated_ssaDbDestroy] at hsettled ⊢
    exact ⟨hfreed, rfl, hsettled⟩

end Ibssa.Alloc
