import Ibssa.Core.Layout

/-!
# What `ssa_db_init` loads

The field definitions of all tables come in one list, and `ssa_db_init` deals
them out: for each table definition that describes another table it goes
through the whole list and inserts the entries that carry its id. The place of
an entry is the counter in its table's header, so a field table and its header
only make sense together. Looked at from one table, a round of the inner loop
is an insert into that pair or nothing, and the two loops are one list of
inserts; what holds of the pair is proved of that list.

The data tables' headers and blocks are not touched by any of this, which is
what the rest of the development needs of it.
-/

namespace Ibssa

open Keyed ByteOrder

/-! ## What the loops leave alone -/

/-- A fold keeps what every round keeps. -/
theorem foldl_keeps {σ α β : Type} {f : σ → α → σ} {g : σ → β}
    (h : ∀ s a, g (f s a) = g s) (l : List α) (s : σ) : g (l.foldl f s) = g s := by
  induction l generalizing s with
  | nil => rfl
  | cons a rest ih => rw [List.foldl_cons, ih, h]

private theorem ppTables_addFieldDef {τ : Type} (pTblDef : DbTableDef) (db : SsaDb τ)
    (pFieldDef : DbFieldDef) :
    (addFieldDef pTblDef db pFieldDef).ppTables = db.ppTables ∧
      (addFieldDef pTblDef db pFieldDef).pDbTables = db.pDbTables := by
  simp only [addFieldDef]
  split
  · exact ⟨rfl, rfl⟩
  · exact ⟨rfl, rfl⟩

private theorem ppTables_addFieldDefs {τ : Type} (fieldTbl : List DbFieldDef) (db : SsaDb τ)
    (pTblDef : DbTableDef) :
    (addFieldDefs fieldTbl db pTblDef).ppTables = db.ppTables ∧
      (addFieldDefs fieldTbl db pTblDef).pDbTables = db.pDbTables := by
  rw [addFieldDefs]
  split
  · exact ⟨rfl, rfl⟩
  · exact ⟨foldl_keeps (fun s a => (ppTables_addFieldDef pTblDef s a).1) _ _,
      foldl_keeps (fun s a => (ppTables_addFieldDef pTblDef s a).2) _ _⟩

/-- `ssa_db_init` leaves the data tables alone. -/
theorem ppTables_ssaDbInit {τ : Type} (db : SsaDb τ) (name : List Char) (dbId : UInt8)
    (defTbl : List DbTableDef) (datasetTbl fieldDatasetTbl : List DbDataset)
    (fieldTbl : List DbFieldDef) :
    (ssaDbInit db name dbId defTbl datasetTbl fieldDatasetTbl fieldTbl).ppTables
      = db.ppTables := by
  rw [ssaDbInit, foldl_keeps (fun s a => (ppTables_addFieldDefs fieldTbl s a).1)]
  simp only []
  rw [foldl_keeps (g := SsaDb.ppTables) (f := addTableDef) (fun _ _ => rfl)]

/-- And initialises the headers of the data tables from the templates. -/
theorem pDbTables_ssaDbInit {τ : Type} (db : SsaDb τ) (name : List Char) (dbId : UInt8)
    (defTbl : List DbTableDef) (datasetTbl fieldDatasetTbl : List DbDataset)
    (fieldTbl : List DbFieldDef) :
    (ssaDbInit db name dbId defTbl datasetTbl fieldDatasetTbl fieldTbl).pDbTables
      = (untilInvalid DbDataset.version datasetTbl).foldl initDataset db.pDbTables := by
  rw [ssaDbInit, foldl_keeps (fun s a => (ppTables_addFieldDefs fieldTbl s a).2)]
  simp only []
  rw [foldl_keeps (g := SsaDb.pDbTables) (f := addTableDef) (fun _ _ => rfl)]

/-- The headers of a fresh SMDB count nothing. -/
theorem dataset_smdbInit (b : Buf DbDataset) (t : SsaTableId) :
    ((untilInvalid DbDataset.version datasetTbl).foldl initDataset b).cell t.num
      = zeroDataset t.num := by
  cases t <;> rfl

/-! ## Blocks that are counted by a header -/

/-- A block that began as `b` and its header hold the records of a list, each of
`size` bytes. -/
structure Counted {α : Type} (size : Nat) (l : List α) (b : Buf α) (p : Buf α × DbDataset) :
    Prop where
  count : ntohll p.2.setCount = l.length
  size : ntohll p.2.setSize = l.length * size
  cells : ∀ i (h : i < l.length), p.1.cell i = l[i]
  cap : p.1.cap = b.cap
  fits : b.fits = true → l.length ≤ b.cap → p.1.fits = true

theorem Counted.nil {α : Type} {size : Nat} {b : Buf α} {d : DbDataset}
    (hcount : ntohll d.setCount = 0) (hsize : ntohll d.setSize = 0) :
    Counted size ([] : List α) b (b, d) :=
  ⟨hcount, hsize.trans (Nat.zero_mul _).symm, fun i hi => absurd hi (Nat.not_lt_zero i), rfl,
    fun hfits _ => hfits⟩

/-- What both inserts of definitions do: the record goes where the header says,
and is counted. -/
theorem Counted.push {α : Type} {size : Nat} {l : List α} {b : Buf α} {p : Buf α × DbDataset}
    (h : Counted size l b p) (v : α) :
    Counted size (l ++ [v]) b (p.1.write (ntohll p.2.setCount) v, p.2.countRec size) := by
  rw [h.count]
  refine ⟨?_, ?_, Buf.cells_write id h.cells v, h.cap, ?_⟩
  · rw [List.length_append, List.length_singleton, ← h.count]
    rfl
  · rw [List.length_append, List.length_singleton, Nat.succ_mul, ← h.size]
    rfl
  · intro hfits hle
    rw [List.length_append, List.length_singleton] at hle
    rw [Buf.fits_write, h.cap]
    exact ⟨h.fits hfits (by omega), by omega⟩

theorem Counted.foldl {α β : Type} {size : Nat} (ins : Buf α × DbDataset → β → Buf α × DbDataset)
    (val : β → α)
    (hins : ∀ p x, ins p x = (p.1.write (ntohll p.2.setCount) (val x), p.2.countRec size))
    {l : List α} {b : Buf α} {p : Buf α × DbDataset} (h : Counted size l b p) (xs : List β) :
    Counted size (l ++ xs.map val) b (xs.foldl ins p) := by
  induction xs generalizing l p with
  | nil =>
      rw [List.map_nil, List.append_nil]
      exact h
  | cons x xs ih =>
      have hrest := ih (h.push (val x))
      rw [List.append_assoc, ← hins] at hrest
      exact hrest

/-! ## Dealing out the field definitions -/

/-- A field table and its header hold a list of definitions. -/
structure TableLoaded {τ : Type} (l : List DbFieldDef) (t : Nat) (db : SsaDb τ) : Prop where
  count : ntohll (db.pDbFieldTables.cell t).setCount = l.length
  size : ntohll (db.pDbFieldTables.cell t).setSize = l.length * sizeofDbFieldDef
  cells : ∀ i (h : i < l.length), (db.ppFieldTables.cell t).cell i = l[i]

/-- The table that a definition describes. -/
def DbTableDef.refTable (d : DbTableDef) : Nat := (ntohl d.refTableId).toUInt8.toNat

/-- A field definition as it is inserted. -/
def DbFieldDef.loaded (d : DbFieldDef) : DbFieldDef := { d with name := strncpyName d.name }

/-- What one table definition brings into the field table of `t`. -/
def fieldDefsFrom (fieldTbl : List DbFieldDef) (t : Nat) (d : DbTableDef) : List DbFieldDef :=
  if d.type = dbtTypeDef ∧ d.refTable = t then
    ((untilInvalid DbFieldDef.version fieldTbl).filter fun f => f.id.table == d.id.table).map
      DbFieldDef.loaded
  else []

/-- What all of them bring. -/
def loadedFieldDefs (defTbl : List DbTableDef) (fieldTbl : List DbFieldDef) (t : Nat) :
    List DbFieldDef :=
  (untilInvalid DbTableDef.version defTbl).flatMap (fieldDefsFrom fieldTbl t)

section Load

variable {τ : Type} {l : List DbFieldDef} {t : Nat} {db : SsaDb τ}

theorem TableLoaded.fieldDefs_eq {t : SsaTableId} (h : TableLoaded l t.num db) :
    db.fieldDefs t = l := by
  refine List.ext_getElem ?_ ?_
  · rw [SsaDb.fieldDefs, List.length_map, List.length_range, h.count]
  · intro i _ hi
    simp only [SsaDb.fieldDefs, List.getElem_map, List.getElem_range]
    exact h.cells i hi

/-- The field table of `t` and its header. -/
def SsaDb.fieldTableAt (db : SsaDb τ) (t : Nat) : Buf DbFieldDef × DbDataset :=
  (db.ppFieldTables.cell t, db.pDbFieldTables.cell t)

/-- `ssa_db_field_def_insert` of an entry of the schema. -/
def insertFieldDef (p : Buf DbFieldDef × DbDataset) (f : DbFieldDef) :
    Buf DbFieldDef × DbDataset :=
  ssaDbFieldDefInsert p.1 p.2 f.version f.type f.id.db f.id.table f.id.field f.name
    (ntohl f.fieldSize) (ntohl f.fieldOffset)

/-- The entries that one table definition has inserted into the field table of
`t`. -/
def schemaFieldDefs (fieldTbl : List DbFieldDef) (t : Nat) (d : DbTableDef) :
    List DbFieldDef :=
  if d.type = dbtTypeDef ∧ d.refTable = t then
    (untilInvalid DbFieldDef.version fieldTbl).filter fun f => f.id.table == d.id.table
  else []

theorem fieldDefsFrom_eq (fieldTbl : List DbFieldDef) (t : Nat) (d : DbTableDef) :
    fieldDefsFrom fieldTbl t d = (schemaFieldDefs fieldTbl t d).map DbFieldDef.loaded := by
  rw [fieldDefsFrom, schemaFieldDefs]
  split <;> rfl

/-- One round of the inner loop: an entry with the definition's id is inserted
into the table that is described, any other entry nowhere. -/
theorem fieldTableAt_addFieldDef (db : SsaDb τ) (d : DbTableDef) (f : DbFieldDef) :
    (addFieldDef d db f).fieldTableAt t
      = if f.id.table = d.id.table ∧ d.refTable = t then insertFieldDef (db.fieldTableAt t) f
        else db.fieldTableAt t := by
  simp only [addFieldDef, beq_iff_eq]
  by_cases hid : f.id.table = d.id.table
  swap
  · rw [if_neg hid, if_neg (fun hc => hid hc.1)]
  by_cases ht : d.refTable = t
  swap
  · -- some other table grows
    have hne : t ≠ (ntohl d.refTableId).toUInt8.toNat := fun hc => ht hc.symm
    rw [if_pos hid, if_neg (fun hc => ht hc.2)]
    simp only [SsaDb.fieldTableAt, Buf.cell_write, Function.update_of_ne hne]
  · subst ht
    rw [if_pos hid, if_pos ⟨hid, rfl⟩]
    show ((db.ppFieldTables.write d.refTable _).cell d.refTable,
      (db.pDbFieldTables.write d.refTable _).cell d.refTable) = _
    rw [Buf.cell_write, Buf.cell_write, Function.update_self, Function.update_self]
    rfl

/-- The inner loop. -/
theorem fieldTableAt_foldl_addFieldDef (db : SsaDb τ) (d : DbTableDef) (fs : List DbFieldDef) :
    (fs.foldl (addFieldDef d) db).fieldTableAt t
      = (if d.refTable = t then fs.filter fun f => f.id.table == d.id.table else []).foldl
          insertFieldDef (db.fieldTableAt t) := by
  induction fs generalizing db with
  | nil =>
      rw [List.filter_nil, ite_self]
      rfl
  | cons f fs ih =>
      rw [List.foldl_cons, ih, fieldTableAt_addFieldDef, List.filter_cons]
      by_cases ht : d.refTable = t <;> by_cases hid : f.id.table = d.id.table <;>
        simp [ht, hid]

/-- One round of the outer loop. -/
theorem fieldTableAt_addFieldDefs (fieldTbl : List DbFieldDef) (db : SsaDb τ)
    (d : DbTableDef) :
    (addFieldDefs fieldTbl db d).fieldTableAt t
      = (schemaFieldDefs fieldTbl t d).foldl insertFieldDef (db.fieldTableAt t) := by
  rw [addFieldDefs, schemaFieldDefs]
  by_cases htype : d.type = dbtTypeDef
  · rw [if_neg (by rw [htype]; decide), fieldTableAt_foldl_addFieldDef]
    simp only [htype, true_and]
  · rw [if_pos (by simpa using htype), if_neg (fun hc => htype hc.1)]
    rfl

/-- The outer loop. -/
theorem fieldTableAt_foldl_addFieldDefs (fieldTbl : List DbFieldDef) (db : SsaDb τ)
    (ds : List DbTableDef) :
    (ds.foldl (addFieldDefs fieldTbl) db).fieldTableAt t
      = (ds.flatMap (schemaFieldDefs fieldTbl t)).foldl insertFieldDef (db.fieldTableAt t) := by
  induction ds generalizing db with
  | nil => rfl
  | cons d ds ih =>
      rw [List.foldl_cons, ih, fieldTableAt_addFieldDefs, List.flatMap_cons, List.foldl_append]

/-- All of `ssa_db_init`, as one field table sees it. -/
theorem fieldTableAt_ssaDbInit (db : SsaDb τ) (name : List Char) (dbId : UInt8)
    (defTbl : List DbTableDef) (datasetTbl fieldDatasetTbl : List DbDataset)
    (fieldTbl : List DbFieldDef) (t : Nat) :
    (ssaDbInit db name dbId defTbl datasetTbl fieldDatasetTbl fieldTbl).fieldTableAt t
      = ((untilInvalid DbTableDef.version defTbl).flatMap (schemaFieldDefs fieldTbl t)).foldl
          insertFieldDef
          (db.ppFieldTables.cell t,
            ((untilInvalid DbDataset.version datasetTbl).foldl initDataset
              db.pDbFieldTables).cell t) := by
  rw [ssaDbInit, fieldTableAt_foldl_addFieldDefs, SsaDb.fieldTableAt]
  simp only []
  rw [foldl_keeps (g := SsaDb.pDbFieldTables) (f := addTableDef (τ := τ)) (fun _ _ => rfl),
    foldl_keeps (g := SsaDb.ppFieldTables) (f := addTableDef (τ := τ)) (fun _ _ => rfl)]

end Load

/-- `ssa_db_init` inserts into the field table of `t` the definitions whose ids
are those of a definition that describes `t`, if the templates leave its header
at zero. -/
theorem counted_fieldTableAt {τ : Type} (db : SsaDb τ) (name : List Char) (dbId : UInt8)
    (defTbl : List DbTableDef) (datasetTbl fieldDatasetTbl : List DbDataset)
    (fieldTbl : List DbFieldDef) (t : Nat)
    (hcount : ntohll (((untilInvalid DbDataset.version datasetTbl).foldl initDataset
      db.pDbFieldTables).cell t).setCount = 0)
    (hsize : ntohll (((untilInvalid DbDataset.version datasetTbl).foldl initDataset
      db.pDbFieldTables).cell t).setSize = 0) :
    Counted sizeofDbFieldDef (loadedFieldDefs defTbl fieldTbl t) (db.ppFieldTables.cell t)
      ((ssaDbInit db name dbId defTbl datasetTbl fieldDatasetTbl fieldTbl).fieldTableAt t) := by
  have hnil : Counted sizeofDbFieldDef [] (db.ppFieldTables.cell t) (_, _) :=
    Counted.nil hcount hsize
  have hall := Counted.foldl insertFieldDef DbFieldDef.loaded (fun _ _ => rfl) hnil
    ((untilInvalid DbTableDef.version defTbl).flatMap (schemaFieldDefs fieldTbl t))
  rw [List.nil_append, List.map_flatMap] at hall
  rw [fieldTableAt_ssaDbInit, loadedFieldDefs]
  simp only [funext (fieldDefsFrom_eq fieldTbl t)]
  exact hall

theorem tableLoaded_ssaDbInit {τ : Type} (db : SsaDb τ) (name : List Char) (dbId : UInt8)
    (defTbl : List DbTableDef) (datasetTbl fieldDatasetTbl : List DbDataset)
    (fieldTbl : List DbFieldDef) (t : Nat)
    (hcount : ntohll (((untilInvalid DbDataset.version datasetTbl).foldl initDataset
      db.pDbFieldTables).cell t).setCount = 0)
    (hsize : ntohll (((untilInvalid DbDataset.version datasetTbl).foldl initDataset
      db.pDbFieldTables).cell t).setSize = 0) :
    TableLoaded (loadedFieldDefs defTbl fieldTbl t) t
      (ssaDbInit db name dbId defTbl datasetTbl fieldDatasetTbl fieldTbl) := by
  have h := counted_fieldTableAt db name dbId defTbl datasetTbl fieldDatasetTbl fieldTbl t
    hcount hsize
  exact ⟨h.count, h.size, h.cells⟩

end Ibssa
