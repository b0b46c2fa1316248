import Mathlib.Data.List.Induction
import Ibssa.Proofs.Schema

/-!
# Which template a header comes from

`ssa_db_init` is handed two lists of templates, one for the data tables and one
for the field tables, and reads the first of them twice: the loop that
initialises the field tables' headers runs over `dataset_tbl` again, and
`field_dataset_tbl` is never looked at. On top of that both loops hand the four
64-bit fields of a template to `ssa_db_dataset_init` as they lie in memory,
where the loop over the table definitions converts what it reads first, and
`ssa_db_dataset_init` converts once more. A field in network order comes out
with its bytes reversed.

Neither shows in the epochs and counters of the SMDB, which are zero. The
wrong list shows in the ids: a header of a field table carries the id of the
data table.

A header is written once for each template with its number and the last one
stays, so `templateFor` is the last. After that only counters change, which
the field tables' headers count their records with.
-/

namespace Ibssa

open Keyed ByteOrder

/-- The template of table `t`. -/
def templateFor (tbl : List DbDataset) (t : Nat) : Option DbDataset :=
  ((untilInvalid DbDataset.version tbl).filter fun e => e.id.table.toNat == t).getLast?

/-- What the loops make of a template. -/
def DbDataset.initialised (e : DbDataset) : DbDataset :=
  ssaDbDatasetInit e.version e.size e.access e.id.db e.id.table e.id.field e.epoch.raw.toNat
    e.setSize.raw.toNat e.setOffset.raw.toNat e.setCount.raw.toNat

/-- The bytes of a field are the same in both orders. -/
def Palindromic (b : Be64) : Prop := b.raw.toNat = b.host

instance (b : Be64) : Decidable (Palindromic b) := inferInstanceAs (Decidable (_ = _))

/-- Headers that are alike but for what they count. -/
structure DbDataset.SameKind (h e : DbDataset) : Prop where
  version : h.version = e.version
  size : h.size = e.size
  access : h.access = e.access
  id : h.id = e.id
  epoch : h.epoch = e.epoch

/-- The headers follow their templates: those of the data tables are the entries
of `dataset_tbl`, and that of a field table is like the entry of
`field_dataset_tbl` for the definition that describes the table. -/
structure HeadersFollow {τ : Type} (db : SsaDb τ) (defTbl : List DbTableDef)
    (datasetTbl fieldDatasetTbl : List DbDataset) : Prop where
  data : ∀ t e, templateFor datasetTbl t = some e → db.pDbTables.cell t = e
  field : ∀ d ∈ untilInvalid DbTableDef.version defTbl, d.type = dbtTypeDef →
    ∀ e, templateFor fieldDatasetTbl d.id.table.toNat = some e →
      (db.pDbFieldTables.cell (ntohl d.refTableId).toNat).SameKind e

/-- There is a template for every table that is described and for every field
table. -/
structure TemplatesCover (defTbl : List DbTableDef)
    (datasetTbl fieldDatasetTbl : List DbDataset) : Prop where
  data : ∀ d ∈ untilInvalid DbTableDef.version defTbl, d.type = dbtTypeDef →
    (templateFor datasetTbl (ntohl d.refTableId).toNat).isSome = true
  field : ∀ d ∈ untilInvalid DbTableDef.version defTbl, d.type = dbtTypeDef →
    (templateFor fieldDatasetTbl d.id.table.toNat).isSome = true

/-- The templates hide both slips: the 64-bit fields of `dataset_tbl` read the
same from either end, and where a definition describes a table, the table's
template and the definition's own are alike. -/
structure TemplatesAgree (defTbl : List DbTableDef)
    (datasetTbl fieldDatasetTbl : List DbDataset) : Prop where
  palindromic : ∀ t e, templateFor datasetTbl t = some e →
    Palindromic e.epoch ∧ Palindromic e.setSize ∧ Palindromic e.setOffset ∧
      Palindromic e.setCount
  alike : ∀ d ∈ untilInvalid DbTableDef.version defTbl, d.type = dbtTypeDef →
    ∀ e e', templateFor datasetTbl (ntohl d.refTableId).toNat = some e →
      templateFor fieldDatasetTbl d.id.table.toNat = some e' → e.SameKind e'

/-! ## The headers after the loops over the templates -/

/-- Of the writes to one header the last one stays. -/
theorem cell_foldl_initDataset (l : List DbDataset) (b : Buf DbDataset) (t : Nat) :
    (l.foldl initDataset b).cell t
      = (((l.filter fun e => e.id.table.toNat == t).getLast?).map
          DbDataset.initialised).getD (b.cell t) := by
  induction l using List.reverseRecOn with
  | nil => rfl
  | append_singleton l e ih =>
      have hwrite : (l ++ [e]).foldl initDataset b
          = (l.foldl initDataset b).write e.id.table.toNat e.initialised := by
        rw [List.foldl_append]
        rfl
      rw [hwrite, Buf.cell_write, List.filter_append]
      by_cases ht : e.id.table.toNat = t
      · subst ht
        rw [Function.update_self, List.filter_cons_of_pos (by simp), List.filter_nil,
          List.getLast?_concat]
        rfl
      · rw [Function.update_of_ne (Ne.symm ht), ih, List.filter_cons_of_neg (by simpa using ht),
          List.filter_nil, List.append_nil]

theorem mem_of_templateFor {tbl : List DbDataset} {t : Nat} {e : DbDataset}
    (h : templateFor tbl t = some e) :
    e ∈ untilInvalid DbDataset.version tbl ∧ e.id.table.toNat = t := by
  obtain ⟨hmem, hid⟩ := List.mem_filter.mp (List.mem_of_getLast? h)
  exact ⟨hmem, beq_iff_eq.mp hid⟩

theorem templateFor_isSome {tbl : List DbDataset} {e : DbDataset}
    (h : e ∈ untilInvalid DbDataset.version tbl) :
    (templateFor tbl e.id.table.toNat).isSome = true := by
  rw [templateFor, List.getLast?_isSome]
  exact List.ne_nil_of_mem (List.mem_filter.mpr ⟨h, by simp⟩)

theorem cell_templates {tbl : List DbDataset} {t : Nat} {e : DbDataset}
    (h : templateFor tbl t = some e) (b : Buf DbDataset) :
    ((untilInvalid DbDataset.version tbl).foldl initDataset b).cell t = e.initialised := by
  rw [cell_foldl_initDataset]
  rw [templateFor] at h
  rw [h]
  rfl

/-- A template comes through unchanged if its fields do. -/
theorem initialised_eq_iff (e : DbDataset) :
    e.initialised = e ↔ Palindromic e.epoch ∧ Palindromic e.setSize ∧ Palindromic e.setOffset ∧
      Palindromic e.setCount := by
  have hfield : ∀ b : Be64, htonll b.raw.toNat = b ↔ Palindromic b := by
    intro b
    rw [htonll, Palindromic, ← Be64.mk.injEq]
  obtain ⟨version, size, access, id, epoch, setSize, setOffset, setCount⟩ := e
  rw [DbDataset.initialised, ssaDbDatasetInit, DbDataset.mk.injEq]
  simp only [hfield, true_and]

/-! ## What the field definitions leave of them -/

/-- What a header has besides its counters and its offset. -/
def DbDataset.kind (e : DbDataset) : UInt8 × UInt8 × UInt8 × DbId × Be64 :=
  (e.version, e.size, e.access, e.id, e.epoch)

theorem sameKind_iff {h e : DbDataset} : h.SameKind e ↔ h.kind = e.kind := by
  constructor
  · rintro ⟨hv, hs, ha, hi, he⟩
    rw [DbDataset.kind, DbDataset.kind, hv, hs, ha, hi, he]
  · intro hk
    simp only [DbDataset.kind, Prod.mk.injEq] at hk
    obtain ⟨hv, hs, ha, hi, he⟩ := hk
    exact ⟨hv, hs, ha, hi, he⟩

/-- A field table's header is still of the kind that the templates made it. -/
theorem kind_fieldHeader {τ : Type} (db : SsaDb τ) (name : List Char) (dbId : UInt8)
    (defTbl : List DbTableDef) {datasetTbl : List DbDataset} (fieldDatasetTbl : List DbDataset)
    (fieldTbl : List DbFieldDef) {t : Nat} {e : DbDataset}
    (h : templateFor datasetTbl t = some e) :
    ((ssaDbInit db name dbId defTbl datasetTbl fieldDatasetTbl fieldTbl).pDbFieldTables.cell
      t).kind = e.initialised.kind := by
  show (SsaDb.fieldTableAt _ t).2.kind = _
  rw [fieldTableAt_ssaDbInit,
    foldl_keeps (g := fun p => DbDataset.kind p.2) (f := insertFieldDef) fun _ _ => rfl,
    cell_templates h]

/-- Under templates for all tables, the headers follow them exactly when the
templates are such that neither slip can be seen. -/
theorem headersFollow_ssaDbInit_iff {τ : Type} (db : SsaDb τ) (name : List Char)
    (dbId : UInt8) {defTbl : List DbTableDef} {datasetTbl fieldDatasetTbl : List DbDataset}
    (fieldTbl : List DbFieldDef) (hcover : TemplatesCover defTbl datasetTbl fieldDatasetTbl) :
    HeadersFollow (ssaDbInit db name dbId defTbl datasetTbl fieldDatasetTbl fieldTbl) defTbl
        datasetTbl fieldDatasetTbl ↔
      TemplatesAgree defTbl datasetTbl fieldDatasetTbl := by
  have hdata : ∀ {t e}, templateFor datasetTbl t = some e →
      (ssaDbInit db name dbId defTbl datasetTbl fieldDatasetTbl fieldTbl).pDbTables.cell t
        = e.initialised := by
    intro t e ht
    rw [pDbTables_ssaDbInit, cell_templates ht]
  have hfield : ∀ {t e}, templateFor datasetTbl t = some e → _ :=
    fun ht => kind_fieldHeader db name dbId defTbl fieldDatasetTbl fieldTbl ht
  constructor
  · intro h
    have hpal : ∀ t e, templateFor datasetTbl t = some e → e.initialised = e :=
      fun t e ht => (hdata ht).symm.trans (h.data t e ht)
    refine ⟨fun t e ht => (initialised_eq_iff e).mp (hpal t e ht), ?_⟩
    intro d hd htype e e' he he'
    have hkind := sameKind_iff.mp (h.field d hd htype e' he')
    rw [hfield he, hpal _ _ he] at hkind
    exact sameKind_iff.mpr hkind
  · rintro ⟨hpal, halike⟩
    refine ⟨fun t e ht => (hdata ht).trans ((initialised_eq_iff e).mpr (hpal t e ht)), ?_⟩
    intro d hd htype e' he'
    obtain ⟨e, he⟩ := Option.isSome_iff_exists.mp (hcover.data d hd htype)
    rw [sameKind_iff, hfield he, (initialised_eq_iff e).mpr (hpal _ e he)]
    exact sameKind_iff.mp (halike d hd htype e e' he he')

/-- One table whose field definitions go by its own number, so that both lists
have the same template for it. -/
def selfDescribedTbl : List DbTableDef :=
  [{ (default : DbTableDef) with type := dbtTypeDef, id := dbTableId 1, refTableId := htonl 1 }]

theorem headersFollow_selfDescribed :
    TemplatesAgree selfDescribedTbl [zeroDataset 1] [zeroDataset 1] ∧
      HeadersFollow
        (ssaDbInit (ssaDbCreate default () [0, 1] 2) [] 0 selfDescribedTbl [zeroDataset 1]
          [zeroDataset 1] []) selfDescribedTbl [zeroDataset 1] [zeroDataset 1] := by
  have honly : ∀ {t e}, templateFor [zeroDataset 1] t = some e → e = zeroDataset 1 := by
    intro t e h
    exact List.mem_singleton.mp (mem_of_templateFor h).1
  have hagree : TemplatesAgree selfDescribedTbl [zeroDataset 1] [zeroDataset 1] := by
    refine ⟨fun t e h => ?_, fun d _ _ e e' h h' => ?_⟩
    · rw [honly h]
      decide
    · rw [honly h, honly h']
      exact ⟨rfl, rfl, rfl, rfl, rfl⟩
  exact ⟨hagree, (headersFollow_ssaDbInit_iff _ [] 0 [] ⟨by decide, by decide⟩).mpr hagree⟩

/-- In the shipped SMDB the header of the NODE table's definitions has the id of
the NODE table itself. And an epoch of 1 does not arrive, even where the lists
agree. -/
theorem headersFollow_fails_smdb :
    (TemplatesCover defTbl datasetTbl fieldDatasetTbl ∧
      ¬ HeadersFollow (ssaDbSmdbInit default 0 0 0 0 0 0 0) defTbl datasetTbl
        fieldDatasetTbl) ∧
      ¬ HeadersFollow
        (ssaDbInit (ssaDbCreate default () [0, 1] 2) [] 0 selfDescribedTbl
          [{ zeroDataset 1 with epoch := htonll 1 }] [{ zeroDataset 1 with epoch := htonll 1 }] [])
        selfDescribedTbl [{ zeroDataset 1 with epoch := htonll 1 }]
        [{ zeroDataset 1 with epoch := htonll 1 }] := by
  refine ⟨⟨⟨by decide, by decide⟩, fun h => ?_⟩, fun h => ?_⟩
  · have hnode : templateFor datasetTbl
        (ntohl (fieldTblDef .node "NODE fields").refTableId).toNat
          = some (zeroDataset SsaTableId.node.num) := by decide
    have hkind := sameKind_iff.mp (h.field (fieldTblDef .node "NODE fields") (by decide) rfl
      (zeroDataset SsaTableId.node.fieldDef) (by decide))
    rw [ssaDbSmdbInit, kind_fieldHeader _ _ _ _ _ _ hnode] at hkind
    exact absurd hkind (by decide)
  · have hdata := h.data 1 { zeroDataset 1 with epoch := htonll 1 } (by decide)
    rw [pDbTables_ssaDbInit] at hdata
    exact absurd (congrArg (fun e => e.epoch.host) hdata) (by decide)

end Ibssa
