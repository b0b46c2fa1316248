import Ibssa.Proofs.Headers

/-!
# What `ssa_db_init` loads of an arbitrary schema

For the table definitions there is one block and one counter, and they arrive
as they are. The field definitions are looked up once for every definition that
describes a table, so what a field table holds is in the order of those
definitions first and in the order of the schema second, and an entry is loaded
as often as there are definitions with its id.

With one definition for each table the first order is no order, and that is
how `def_tbl` is written. Nothing in `ssa_db_init` asks for it: two definitions
that describe one table have their entries one behind the other, and if they
have the same id too, the same entries twice. So a field table is never short
of an entry, holds each once if the definitions that describe it go by different
ids, and is in the order of the schema if there is only one.
-/

namespace Ibssa

open Keyed ByteOrder

/-! ## What the field table of a table should hold -/

/-- The definition is one of the fields of table `t`. -/
def DbTableDef.describes (d : DbTableDef) (t : Nat) : Bool :=
  d.type == dbtTypeDef && (ntohl d.refTableId).toNat == t

/-- The definitions that describe table `t`. -/
def describingDefs (defTbl : List DbTableDef) (t : Nat) : List DbTableDef :=
  (untilInvalid DbTableDef.version defTbl).filter fun d => d.describes t

/-- The field definitions of the schema with the id of a table definition. -/
def fieldDefsWithIdOf (fieldTbl : List DbFieldDef) (d : DbTableDef) : List DbFieldDef :=
  (untilInvalid DbFieldDef.version fieldTbl).filter fun f => f.id.table == d.id.table

/-- The field definitions as they are dealt to table `t`: those of one definition
after those of the other. -/
def dealtFieldDefs (defTbl : List DbTableDef) (fieldTbl : List DbFieldDef) (t : Nat) :
    List DbFieldDef :=
  (describingDefs defTbl t).flatMap (fieldDefsWithIdOf fieldTbl)

/-- The field definitions of the schema with the id of any definition that
describes `t`. -/
def matchingFieldDefs (defTbl : List DbTableDef) (fieldTbl : List DbFieldDef) (t : Nat) :
    List DbFieldDef :=
  (untilInvalid DbFieldDef.version fieldTbl).filter fun f =>
    (describingDefs defTbl t).any fun d => f.id.table == d.id.table

/-- A schema that can be loaded into a database: templates without records for
every table that is described, names that fit, and room. -/
structure Loadable {τ : Type} (db : SsaDb τ) (defTbl : List DbTableDef)
    (datasetTbl : List DbDataset) (fieldTbl : List DbFieldDef) : Prop where
  zero : ∀ e ∈ untilInvalid DbDataset.version datasetTbl,
    ntohll e.setCount = 0 ∧ ntohll e.setSize = 0
  covered : ∀ d ∈ untilInvalid DbTableDef.version defTbl, d.type = dbtTypeDef →
    (templateFor datasetTbl (ntohl d.refTableId).toNat).isSome = true
  tableNames : ∀ d ∈ untilInvalid DbTableDef.version defTbl, d.name.length ≤ dbNameLen
  fieldNames : ∀ f ∈ untilInvalid DbFieldDef.version fieldTbl, f.name.length ≤ dbNameLen
  defRoom : db.pDefTbl.fits = true ∧
    (untilInvalid DbTableDef.version defTbl).length ≤ db.pDefTbl.cap
  headerRoom : (db.pDbTables.fits = true ∧ db.pDbFieldTables.fits = true) ∧
    ∀ e ∈ untilInvalid DbDataset.version datasetTbl,
      e.id.table.toNat < db.pDbTables.cap ∧ e.id.table.toNat < db.pDbFieldTables.cap
  fieldRoom : db.ppFieldTables.fits = true ∧
    ∀ e ∈ untilInvalid DbDataset.version datasetTbl, e.id.table.toNat < db.ppFieldTables.cap ∧
      (db.ppFieldTables.cell e.id.table.toNat).fits = true ∧
      (dealtFieldDefs defTbl fieldTbl e.id.table.toNat).length
        ≤ (db.ppFieldTables.cell e.id.table.toNat).cap

/-- The definition dataset holds a list. -/
structure TableDefsLoaded {τ : Type} (l : List DbTableDef) (db : SsaDb τ) : Prop where
  count : ntohll db.dbTableDef.setCount = l.length
  size : ntohll db.dbTableDef.setSize = l.length * sizeofDbTableDef
  cells : ∀ i (h : i < l.length), db.pDefTbl.cell i = l[i]

/-- The definitions are loaded: the table definitions in order, and every field
table with what is dealt to it. No write went past the end of a block. -/
structure DefinitionsLoaded {τ : Type} (db : SsaDb τ) (defTbl : List DbTableDef)
    (datasetTbl : List DbDataset) (fieldTbl : List DbFieldDef) : Prop where
  tables : TableDefsLoaded (untilInvalid DbTableDef.version defTbl) db
  fields : ∀ e ∈ untilInvalid DbDataset.version datasetTbl,
    TableLoaded (dealtFieldDefs defTbl fieldTbl e.id.table.toNat) e.id.table.toNat db
  room : (db.pDefTbl.fits = true ∧ db.pDbTables.fits = true) ∧
    (db.pDbFieldTables.fits = true ∧ db.ppFieldTables.fits = true) ∧
    ∀ e ∈ untilInvalid DbDataset.version datasetTbl,
      (db.ppFieldTables.cell e.id.table.toNat).fits = true

/-- What is dealt to table `t` against the schema: nothing is left out, nothing
is there twice if the definitions that describe `t` have different ids, and the
order is the schema's if there is one of them. -/
structure DealtFaithfully (defTbl : List DbTableDef) (fieldTbl : List DbFieldDef) (t : Nat) :
    Prop where
  complete : ∀ f, f ∈ dealtFieldDefs defTbl fieldTbl t ↔ f ∈ matchingFieldDefs defTbl fieldTbl t
  once : ((describingDefs defTbl t).map fun d => d.id.table).Nodup →
    (dealtFieldDefs defTbl fieldTbl t).Perm (matchingFieldDefs defTbl fieldTbl t)
  inOrder : (describingDefs defTbl t).length ≤ 1 →
    dealtFieldDefs defTbl fieldTbl t = matchingFieldDefs defTbl fieldTbl t

/-! ## The order and the number of entries -/

/-- Filtering by one of two exclusive conditions is filtering by each. -/
private theorem filter_or_perm {α : Type} {p q : α → Bool} (h : ∀ x, p x = true → q x = false)
    (l : List α) : (l.filter p ++ l.filter q).Perm (l.filter fun x => p x || q x) := by
  have hsplit := List.filter_append_perm p (l.filter fun x => p x || q x)
  rw [List.filter_filter, List.filter_filter] at hsplit
  convert hsplit using 2
  · refine congrFun (congrArg List.filter (funext fun x => ?_)) l
    cases p x <;> simp
  · refine congrFun (congrArg List.filter (funext fun x => ?_)) l
    cases hp : p x with
    | true => simp [h x hp]
    | false => simp

theorem dealtFaithfully (defTbl : List DbTableDef) (fieldTbl : List DbFieldDef) (t : Nat) :
    DealtFaithfully defTbl fieldTbl t := by
  refine ⟨?_, ?_, ?_⟩
  · intro f
    simp only [dealtFieldDefs, matchingFieldDefs, fieldDefsWithIdOf, List.mem_flatMap,
      List.mem_filter, List.any_eq_true]
    constructor
    · rintro ⟨d, hd, hf, hid⟩
      exact ⟨hf, d, hd, hid⟩
    · rintro ⟨hf, d, hd, hid⟩
      exact ⟨d, hd, hf, hid⟩
  · rw [dealtFieldDefs, matchingFieldDefs]
    induction describingDefs defTbl t with
    | nil => simp
    | cons d ds ih =>
        intro hnodup
        rw [List.map_cons, List.nodup_cons] at hnodup
        rw [List.flatMap_cons]
        refine ((ih hnodup.2).append_left _).trans (filter_or_perm ?_ _)
        -- an entry with the id of `d` has that of no other definition
        intro f hf
        rw [List.any_eq_false]
        intro d' hd' hf'
        have heq : d'.id.table = d.id.table := by
          rw [← beq_iff_eq.mp hf, ← beq_iff_eq.mp hf']
        exact hnodup.1 (heq ▸ List.mem_map_of_mem (f := fun d => d.id.table) hd')
  · rw [dealtFieldDefs, matchingFieldDefs]
    intro hone
    rcases hds : describingDefs defTbl t with _ | ⟨d, _ | ⟨d', ds⟩⟩
    · simp
    · simp [fieldDefsWithIdOf]
    · rw [hds] at hone
      exact absurd hone (by simp)

/-! ## Loading the table definitions -/

section Load

variable {τ : Type}

/-- The definition dataset and its block. -/
def SsaDb.tableDefs (db : SsaDb τ) : Buf DbTableDef × DbDataset := (db.pDefTbl, db.dbTableDef)

/-- A table definition as it is inserted. -/
def DbTableDef.loaded (d : DbTableDef) : DbTableDef := { d with name := strncpyName d.name }

/-- A name that fits is copied as it is. -/
theorem strncpyName_of_le {name : List Char} (h : name.length ≤ dbNameLen) :
    strncpyName name = name := List.take_of_length_le h

theorem tableDefs_foldl_addTableDef (db : SsaDb τ) (ds : List DbTableDef) :
    (ds.foldl addTableDef db).tableDefs
      = ds.foldl (fun p d => (p.1.write (ntohll p.2.setCount) d.loaded,
          p.2.countRec sizeofDbTableDef)) db.tableDefs := by
  induction ds generalizing db with
  | nil => rfl
  | cons d ds ih =>
      rw [List.foldl_cons, ih]
      rfl

private theorem tableDefs_addFieldDef (d : DbTableDef) (db : SsaDb τ) (f : DbFieldDef) :
    (addFieldDef d db f).tableDefs = db.tableDefs := by
  simp only [addFieldDef]
  split <;> rfl

private theorem tableDefs_addFieldDefs (fieldTbl : List DbFieldDef) (db : SsaDb τ)
    (d : DbTableDef) : (addFieldDefs fieldTbl db d).tableDefs = db.tableDefs := by
  rw [addFieldDefs]
  split
  · rfl
  · exact foldl_keeps (fun s f => tableDefs_addFieldDef d s f) _ _

theorem counted_tableDefs (db : SsaDb τ) (name : List Char) (dbId : UInt8)
    (defTbl : List DbTableDef) (datasetTbl fieldDatasetTbl : List DbDataset)
    (fieldTbl : List DbFieldDef) :
    Counted sizeofDbTableDef ((untilInvalid DbTableDef.version defTbl).map DbTableDef.loaded)
      db.pDefTbl
      (ssaDbInit db name dbId defTbl datasetTbl fieldDatasetTbl fieldTbl).tableDefs := by
  have hnil : Counted sizeofDbTableDef [] db.pDefTbl
      (db.pDefTbl, ssaDbDatasetInit dbDsVersion sizeofDbDataset dbtAccessNetOrder dbId
        dbtDefDsId 0 0 0 0 0) := Counted.nil rfl rfl
  have hall := Counted.foldl _ DbTableDef.loaded (fun _ _ => rfl) hnil
    (untilInvalid DbTableDef.version defTbl)
  rw [ssaDbInit, foldl_keeps (fun s d => tableDefs_addFieldDefs fieldTbl s d)]
  exact (tableDefs_foldl_addTableDef _ _).symm ▸ hall

/-! ## Loading the field definitions -/

variable {db : SsaDb τ} {defTbl : List DbTableDef} {datasetTbl : List DbDataset}
  {fieldTbl : List DbFieldDef}

/-- A table with a template has a number that a byte holds. -/
theorem Loadable.refTable_eq (h : Loadable db defTbl datasetTbl fieldTbl) {d : DbTableDef}
    (hd : d ∈ untilInvalid DbTableDef.version defTbl) (htype : d.type = dbtTypeDef) :
    d.refTable = (ntohl d.refTableId).toNat := by
  obtain ⟨e, he⟩ := Option.isSome_iff_exists.mp (h.covered d hd htype)
  have hlt : e.id.table.toNat < 2 ^ 8 := e.id.table.toNat_lt
  rw [(mem_of_templateFor he).2] at hlt
  rw [DbTableDef.refTable, UInt32.toNat_toUInt8]
  exact Nat.mod_eq_of_lt hlt

/-- What one definition brings, in the words of the schema. -/
theorem Loadable.fieldDefsFrom_eq (h : Loadable db defTbl datasetTbl fieldTbl) (t : Nat)
    {d : DbTableDef} (hd : d ∈ untilInvalid DbTableDef.version defTbl) :
    fieldDefsFrom fieldTbl t d
      = if d.describes t = true then fieldDefsWithIdOf fieldTbl d else [] := by
  have hnames : (fieldDefsWithIdOf fieldTbl d).map DbFieldDef.loaded
      = fieldDefsWithIdOf fieldTbl d := by
    refine (List.map_congr_left fun f hf => ?_).trans (List.map_id _)
    rw [DbFieldDef.loaded, strncpyName_of_le (h.fieldNames f (List.mem_filter.mp hf).1)]
    rfl
  have hcond : d.describes t = true ↔ d.type = dbtTypeDef ∧ d.refTable = t := by
    rw [DbTableDef.describes, Bool.and_eq_true, beq_iff_eq, beq_iff_eq]
    refine and_congr_right fun htype => ?_
    rw [h.refTable_eq hd htype]
  rw [fieldDefsFrom]
  simp only [← hcond]
  split
  · exact hnames
  · rfl

private theorem flatMap_ite {α β : Type} (p : α → Bool) (g : α → List β) (l : List α) :
    (l.flatMap fun a => if p a = true then g a else []) = (l.filter p).flatMap g := by
  induction l with
  | nil => rfl
  | cons a l ih =>
      rw [List.flatMap_cons, ih, List.filter_cons]
      split
      · rw [List.flatMap_cons]
      · rw [List.nil_append]

theorem Loadable.loadedFieldDefs_eq (h : Loadable db defTbl datasetTbl fieldTbl) (t : Nat) :
    loadedFieldDefs defTbl fieldTbl t = dealtFieldDefs defTbl fieldTbl t := by
  rw [loadedFieldDefs, dealtFieldDefs, describingDefs, ← flatMap_ite]
  exact List.flatMap_congr fun d hd => h.fieldDefsFrom_eq t hd

/-- The header of a table with a template starts without records. -/
theorem Loadable.counters_eq_zero (h : Loadable db defTbl datasetTbl fieldTbl) {e : DbDataset}
    (he : e ∈ untilInvalid DbDataset.version datasetTbl) (b : Buf DbDataset) :
    ntohll (((untilInvalid DbDataset.version datasetTbl).foldl initDataset b).cell
        e.id.table.toNat).setCount = 0 ∧
      ntohll (((untilInvalid DbDataset.version datasetTbl).foldl initDataset b).cell
        e.id.table.toNat).setSize = 0 := by
  obtain ⟨e', he'⟩ := Option.isSome_iff_exists.mp (templateFor_isSome he)
  obtain ⟨hcount, hsize⟩ := h.zero e' (mem_of_templateFor he').1
  have hraw : ∀ {f : Be64}, ntohll f = 0 → f.raw.toNat = 0 := by
    rintro ⟨n⟩ rfl
    rfl
  rw [cell_templates he']
  exact ⟨hraw hcount, hraw hsize⟩

/-! Every write to the two arrays of the field tables is to a table with a
template. -/

/-- The arrays have their room, and nothing was written past it. -/
structure FieldArraysFit (n m : Nat) (db : SsaDb τ) : Prop where
  tables : db.ppFieldTables.cap = n ∧ db.ppFieldTables.fits = true
  headers : db.pDbFieldTables.cap = m ∧ db.pDbFieldTables.fits = true

theorem FieldArraysFit.addFieldDef {n m : Nat} (h : FieldArraysFit n m db) {d : DbTableDef}
    (hn : d.refTable < n) (hm : d.refTable < m) (f : DbFieldDef) :
    FieldArraysFit n m (addFieldDef d db f) := by
  simp only [Ibssa.addFieldDef]
  split
  · refine ⟨⟨h.tables.1, ?_⟩, ⟨h.headers.1, ?_⟩⟩
    · exact (Buf.fits_write _ _ _).mpr ⟨h.tables.2, h.tables.1.symm ▸ hn⟩
    · exact (Buf.fits_write _ _ _).mpr ⟨h.headers.2, h.headers.1.symm ▸ hm⟩
  · exact h

theorem FieldArraysFit.addFieldDefs {n m : Nat} (h : FieldArraysFit n m db) {d : DbTableDef}
    (hd : d.type = dbtTypeDef → d.refTable < n ∧ d.refTable < m) (fieldTbl : List DbFieldDef) :
    FieldArraysFit n m (addFieldDefs fieldTbl db d) := by
  rw [Ibssa.addFieldDefs]
  split
  · exact h
  · next htype =>
      obtain ⟨hn, hm⟩ := hd (by simpa using htype)
      exact List.foldlRecOn _ _ h fun s hs f _ => FieldArraysFit.addFieldDef hs hn hm f

theorem fits_foldl_initDataset {l : List DbDataset} {b : Buf DbDataset} (hb : b.fits = true)
    (hl : ∀ e ∈ l, e.id.table.toNat < b.cap) :
    (l.foldl initDataset b).cap = b.cap ∧ (l.foldl initDataset b).fits = true := by
  induction l using List.reverseRecOn with
  | nil => exact ⟨rfl, hb⟩
  | append_singleton l e ih =>
      obtain ⟨hcap, hfits⟩ := ih fun e' he' => hl e' (List.mem_append_left _ he')
      have he := hl e (List.mem_append_right _ (List.mem_singleton_self e))
      rw [List.foldl_append]
      exact ⟨hcap, (Buf.fits_write _ _ _).mpr ⟨hfits, hcap.symm ▸ he⟩⟩

theorem Loadable.fieldArraysFit (h : Loadable db defTbl datasetTbl fieldTbl)
    (name : List Char) (dbId : UInt8) (fieldDatasetTbl : List DbDataset) :
    FieldArraysFit db.ppFieldTables.cap db.pDbFieldTables.cap
      (ssaDbInit db name dbId defTbl datasetTbl fieldDatasetTbl fieldTbl) := by
  have hroom : ∀ d ∈ untilInvalid DbTableDef.version defTbl, d.type = dbtTypeDef →
      d.refTable < db.ppFieldTables.cap ∧ d.refTable < db.pDbFieldTables.cap := by
    intro d hd htype
    obtain ⟨e, he⟩ := Option.isSome_iff_exists.mp (h.covered d hd htype)
    obtain ⟨hmem, hid⟩ := mem_of_templateFor he
    rw [h.refTable_eq hd htype, ← hid]
    exact ⟨(h.fieldRoom.2 e hmem).1, (h.headerRoom.2 e hmem).2⟩
  have htables := foldl_keeps (g := SsaDb.ppFieldTables) (f := addTableDef (τ := τ))
    (fun _ _ => rfl)
  have hheaders := foldl_keeps (g := SsaDb.pDbFieldTables) (f := addTableDef (τ := τ))
    (fun _ _ => rfl)
  rw [ssaDbInit]
  refine List.foldlRecOn _ _ ⟨?_, ?_⟩ fun s hs d hd => hs.addFieldDefs (hroom d hd) fieldTbl
  · simp only []
    rw [htables]
    exact ⟨rfl, h.fieldRoom.1⟩
  · simp only []
    rw [hheaders]
    exact fits_foldl_initDataset h.headerRoom.1.2 fun e he => (h.headerRoom.2 e he).2

/-! ## All of it -/

/-- `ssa_db_init` loads any schema that there is room for: the table definitions
as they are, and to each field table the entries of the definitions that
describe it, one definition after the other. -/
theorem definitionsLoaded_ssaDbInit (name : List Char) (dbId : UInt8)
    (fieldDatasetTbl : List DbDataset) (h : Loadable db defTbl datasetTbl fieldTbl) :
    DefinitionsLoaded
        (ssaDbInit db name dbId defTbl datasetTbl fieldDatasetTbl fieldTbl) defTbl datasetTbl
        fieldTbl ∧
      ∀ t, DealtFaithfully defTbl fieldTbl t := by
  have htables := counted_tableDefs db name dbId defTbl datasetTbl fieldDatasetTbl fieldTbl
  have hnames : (untilInvalid DbTableDef.version defTbl).map DbTableDef.loaded
      = untilInvalid DbTableDef.version defTbl := by
    refine (List.map_congr_left fun d hd => ?_).trans (List.map_id _)
    rw [DbTableDef.loaded, strncpyName_of_le (h.tableNames d hd)]
    rfl
  rw [hnames] at htables
  have hfields : ∀ e ∈ untilInvalid DbDataset.version datasetTbl, _ := fun e he =>
    counted_fieldTableAt db name dbId defTbl datasetTbl fieldDatasetTbl fieldTbl
      e.id.table.toNat (h.counters_eq_zero he _).1 (h.counters_eq_zero he _).2
  simp only [h.loadedFieldDefs_eq] at hfields
  have harrays := h.fieldArraysFit name dbId fieldDatasetTbl
  refine ⟨⟨⟨htables.count, htables.size, htables.cells⟩, ?_, ?_⟩, ?_⟩
  · intro e he
    exact ⟨(hfields e he).count, (hfields e he).size, (hfields e he).cells⟩
  · refine ⟨⟨htables.fits h.defRoom.1 h.defRoom.2, ?_⟩,
      ⟨harrays.headers.2, harrays.tables.2⟩, ?_⟩
    · rw [pDbTables_ssaDbInit]
      exact (fits_foldl_initDataset h.headerRoom.1.1 fun e he => (h.headerRoom.2 e he).1).2
    · intro e he
      obtain ⟨-, hfits, hroom⟩ := h.fieldRoom.2 e he
      exact (hfields e he).fits hfits hroom
  · exact dealtFaithfully defTbl fieldTbl

end Load

/-- The SMDB is such a schema, and `ssa_db_smdb_init` makes the room. -/
theorem definitionsLoaded_smdb :
    DefinitionsLoaded (ssaDbSmdbInit default 0 0 0 0 0 0 0) defTbl datasetTbl fieldTbl ∧
      ∀ t, DealtFaithfully defTbl fieldTbl t :=
  definitionsLoaded_ssaDbInit "SMDB".toList 12 fieldDatasetTbl
    ⟨by decide, by decide, by decide, by decide, by decide, by decide, by decide⟩

/-! ## Two definitions for one table -/

/-- Two definitions that describe table 0, and two entries of the schema. -/
def twiceDescribedTbl (id id' : Nat) : List DbTableDef :=
  [{ (default : DbTableDef) with type := dbtTypeDef, id := dbTableId id, refTableId := htonl 0 },
    { (default : DbTableDef) with type := dbtTypeDef, id := dbTableId id', refTableId := htonl 0 }]

def twoFieldsTbl (id id' : Nat) : List DbFieldDef :=
  [{ (default : DbFieldDef) with id := dbTableId id },
    { (default : DbFieldDef) with id := dbTableId id' }]

/-- Definitions with one id load its entries twice, and definitions with two load
the entries of the first one first, whatever their order in the schema. -/
theorem fieldsInOrder_fails_twiceDescribed :
    (Loadable (ssaDbCreate default () [4] 1) (twiceDescribedTbl 9 9) [zeroDataset 0]
        (twoFieldsTbl 9 8) ∧
      ¬ TableLoaded (matchingFieldDefs (twiceDescribedTbl 9 9) (twoFieldsTbl 9 8) 0) 0
        (ssaDbInit (ssaDbCreate default () [4] 1) [] 0 (twiceDescribedTbl 9 9) [zeroDataset 0]
          [zeroDataset 9] (twoFieldsTbl 9 8))) ∧
    (Loadable (ssaDbCreate default () [4] 1) (twiceDescribedTbl 9 8) [zeroDataset 0]
        (twoFieldsTbl 8 9) ∧
      ¬ TableLoaded (matchingFieldDefs (twiceDescribedTbl 9 8) (twoFieldsTbl 8 9) 0) 0
        (ssaDbInit (ssaDbCreate default () [4] 1) [] 0 (twiceDescribedTbl 9 8) [zeroDataset 0]
          [zeroDataset 9] (twoFieldsTbl 8 9))) := by
  refine ⟨⟨⟨by decide, by decide, by decide, by decide, by decide, by decide, by decide⟩, ?_⟩,
    ⟨⟨by decide, by decide, by decide, by decide, by decide, by decide, by decide⟩, ?_⟩⟩
  · intro h
    exact absurd h.count (by decide)
  · intro h
    exact absurd (h.cells 0 (by decide)) (by decide)

end Ibssa
