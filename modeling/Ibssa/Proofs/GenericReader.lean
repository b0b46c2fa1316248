import Ibssa.Proofs.Schema

/-!
# Reading an SMDB by its field definitions

The definitions that an SMDB is loaded with, against the structures they
describe. Whether a definition is right for a field depends on three numbers
only, its type, its size and its offset, and on the widths of the structure's
members, never on a record; `Describes` is that check, and `read_of_describes`
turns it into a statement about every record of the table.

What is left are thirty checks on the schema itself, and two of them fail.
The entry for the node description carries the id of `is_enhanced_sp0`, so a
reader finds two definitions for the one field and none for the other.
-/

namespace Ibssa

open Keyed ByteOrder

/-- Width of an element and size of the whole, in bytes, for each member of a
table's structure. -/
def SsaTableId.shape : SsaTableId → List (Nat × Nat)
  | .subnetOpts => [(8, 8), (8, 8), (1, 1), (1, 1), (1, 1), (1, 1), (1, 4)]
  | .guidToLid => [(8, 8), (2, 2), (1, 1), (1, 1), (1, 4)]
  | .node => [(8, 8), (1, 1), (1, 1), (1, 64), (1, 6)]
  | .link => [(2, 2), (2, 2), (1, 1), (1, 1), (1, 2)]
  | .port => [(8, 8), (2, 2), (2, 2), (1, 1), (1, 1), (1, 1), (1, 1)]
  | .pkey => [(1, 2)]
  | .lftTop => [(2, 2), (2, 2), (1, 4)]
  | .lftBlock => [(2, 2), (2, 2), (1, 64)]

theorem members_shape (t : SsaTableId) (r : t.Rec) :
    (t.members r).map (fun m => (m.width, m.size)) = t.shape := by
  cases t <;>
    simp [SsaTableId.members, SsaTableId.shape, Member.size, Member.net16, Member.net64,
      Member.bytes]

/-- The structures have the sizes that the tables are allocated with. -/
theorem length_recBytes (t : SsaTableId) (r : t.Rec) : (t.recBytes r).length = t.recSize := by
  have hsizes : (t.members r).map Member.size = t.shape.map Prod.snd := by
    rw [← members_shape t r, List.map_map]
    rfl
  rw [SsaTableId.recBytes, length_encAll, hsizes]
  cases t <;> rfl

/-- A definition has the type, the offset and the size of member `i` of a
structure. -/
def DbFieldDef.Describes (d : DbFieldDef) (shape : List (Nat × Nat)) (i : Nat) : Prop :=
  shape[i]?.map (fun p => (some (8 * p.1), 8 * p.2))
      = some (elementBits d.type, (ntohl d.fieldSize).toNat) ∧
    (ntohl d.fieldOffset).toNat = 8 * ((shape.take i).map Prod.snd).sum

instance (d : DbFieldDef) (shape : List (Nat × Nat)) (i : Nat) :
    Decidable (d.Describes shape i) := inferInstanceAs (Decidable (_ ∧ _))

/-- What a reader finds by a definition that describes a member is the member,
in every record. -/
theorem read_of_describes {t : SsaTableId} {d : DbFieldDef} {i : Nat}
    (h : d.Describes t.shape i) (r : t.Rec) :
    d.read (t.recBytes r) = ((t.members r)[i]?).map Member.values := by
  obtain ⟨hmember, hoff⟩ := h
  rw [← members_shape t r] at hmember hoff
  rw [List.getElem?_map] at hmember
  cases hm : (t.members r)[i]? with
  | none =>
      rw [hm] at hmember
      cases hmember
  | some m =>
      obtain ⟨hi, rfl⟩ := List.getElem?_eq_some_iff.mp hm
      rw [hm] at hmember
      obtain ⟨htype, hsize⟩ := Prod.mk.inj (Option.some.inj hmember)
      have hplace : 8 * ((((t.members r).map fun m => (m.width, m.size)).take i).map
          Prod.snd).sum = 8 * memberOffset (t.members r) i := by
        rw [memberOffset, ← List.map_take, List.map_map]
        rfl
      rw [DbFieldDef.read, ← htype, ← hsize, hoff, hplace, Option.map_some, Option.map_some]
      exact congrArg some (numbers_members hi)

/-- The members are the fields, in the order of their ids. -/
theorem members_value (f : SsaFieldId) (r : f.table.Rec) :
    ((f.table.members r)[f.num.toNat]?).map Member.values = some (f.value r) := by
  cases f <;> rfl

/-- The field definitions that every SMDB is loaded with. -/
theorem fieldDefs_smdbInit (mem : Mem) (guidToLidNumRecs nodeNumRecs linkNumRecs portNumRecs
    pkeyNumRecs lftTopNumRecs lftBlockNumRecs : Nat) (t : SsaTableId) :
    (ssaDbSmdbInit mem guidToLidNumRecs nodeNumRecs linkNumRecs portNumRecs pkeyNumRecs
      lftTopNumRecs lftBlockNumRecs).fieldDefs t = loadedFieldDefs defTbl fieldTbl t.num := by
  rw [ssaDbSmdbInit]
  refine (tableLoaded_ssaDbInit _ "SMDB".toList 12 defTbl datasetTbl fieldDatasetTbl fieldTbl
    t.num ?_ ?_).fieldDefs_eq
  · rw [dataset_smdbInit]
    rfl
  · rw [dataset_smdbInit]
    rfl

/-- A reader with the definitions of a database gets at a field: one definition
has its id, and what is found by it in a record is the structure's member. -/
def ReadsBack {τ : Type} (db : SsaDb τ) (f : SsaFieldId) : Prop :=
  ∃ d, db.defsOf f = [d] ∧ ∀ r, d.read (f.table.recBytes r) = some (f.value r)

/-- The definitions of a table take different bits. -/
def FieldsApart (l : List DbFieldDef) : Prop :=
  l.Pairwise fun d d' =>
    (ntohl d.fieldOffset).toNat + (ntohl d.fieldSize).toNat ≤ (ntohl d'.fieldOffset).toNat ∨
      (ntohl d'.fieldOffset).toNat + (ntohl d'.fieldSize).toNat ≤ (ntohl d.fieldOffset).toNat

instance (l : List DbFieldDef) : Decidable (FieldsApart l) :=
  inferInstanceAs (Decidable (l.Pairwise _))

/-- The definitions of the schema with a field's id. -/
def schemaDefsOf (f : SsaFieldId) : List DbFieldDef :=
  (loadedFieldDefs defTbl fieldTbl f.table.num).filter fun d => d.id.field == f.num

/-- The two fields of a node that share an id. -/
def SsaFieldId.SharesId (f : SsaFieldId) : Prop := f = .nodeIsEnhancedSp0 ∨ f = .nodeDescription

instance (f : SsaFieldId) : Decidable f.SharesId := inferInstanceAs (Decidable (_ ∨ _))

/-- Every other field has one definition, and it describes the field's member. -/
theorem schema_describes {f : SsaFieldId} (h : ¬ f.SharesId) :
    ∃ d, schemaDefsOf f = [d] ∧ d.Describes f.table.shape f.num.toNat := by
  have hcheck : (match schemaDefsOf f with
      | [d] => decide (d.Describes f.table.shape f.num.toNat)
      | _ => decide f.SharesId) = true := by
    cases f <;> decide +kernel
  split at hcheck
  · next d hd => exact ⟨d, hd, of_decide_eq_true hcheck⟩
  · exact absurd (of_decide_eq_true hcheck) h

/-- These two have two definitions and none. -/
theorem length_schemaDefsOf {f : SsaFieldId} (h : f.SharesId) :
    (schemaDefsOf f).length = if f = .nodeIsEnhancedSp0 then 2 else 0 := by
  rcases h with rfl | rfl <;> decide +kernel

theorem schema_fieldsApart (t : SsaTableId) :
    FieldsApart (loadedFieldDefs defTbl fieldTbl t.num) := by
  cases t <;> decide +kernel

/-- A field can be read from every record of its table, and shares no bits with
another one. -/
structure FieldLaw {τ : Type} (db : SsaDb τ) (f : SsaFieldId) : Prop where
  readsBack : ReadsBack db f
  apart : FieldsApart (db.fieldDefs f.table)

/-- Of the fields that the schema declares, a generic reader gets at all but the
two of a node that share an id. -/
theorem fieldLaw_iff (mem : Mem) (guidToLidNumRecs nodeNumRecs linkNumRecs portNumRecs
    pkeyNumRecs lftTopNumRecs lftBlockNumRecs : Nat) (f : SsaFieldId) :
    FieldLaw (ssaDbSmdbInit mem guidToLidNumRecs nodeNumRecs linkNumRecs portNumRecs pkeyNumRecs
      lftTopNumRecs lftBlockNumRecs) f ↔ ¬ f.SharesId := by
  have hdefs := fieldDefs_smdbInit mem guidToLidNumRecs nodeNumRecs linkNumRecs portNumRecs
    pkeyNumRecs lftTopNumRecs lftBlockNumRecs f.table
  have hdefsOf : (ssaDbSmdbInit mem guidToLidNumRecs nodeNumRecs linkNumRecs portNumRecs
      pkeyNumRecs lftTopNumRecs lftBlockNumRecs).defsOf f = schemaDefsOf f := by
    rw [SsaDb.defsOf, hdefs, schemaDefsOf]
  constructor
  · rintro ⟨⟨d, hd, _⟩, _⟩ hshares
    have hlen := length_schemaDefsOf hshares
    rw [← hdefsOf, hd, List.length_singleton] at hlen
    split at hlen <;> cases hlen
  · intro h
    obtain ⟨d, hd, hdesc⟩ := schema_describes h
    refine ⟨⟨d, hdefsOf.trans hd, ?_⟩, ?_⟩
    · intro r
      rw [read_of_describes hdesc, members_value]
    · rw [hdefs]
      exact schema_fieldsApart f.table

/-- No definition has the id of the node description. -/
theorem fieldLaw_fails_nodeDescription :
    ¬ FieldLaw (ssaDbSmdbInit default 0 1 0 0 0 0 0) .nodeDescription := by
  rintro ⟨⟨d, hd, _⟩, _⟩
  rw [SsaDb.defsOf, fieldDefs_smdbInit] at hd
  have hnone : schemaDefsOf .nodeDescription = [] := by decide +kernel
  rw [schemaDefsOf] at hnone
  rw [hnone] at hd
  cases hd

end Ibssa
