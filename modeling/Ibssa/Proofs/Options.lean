import Ibssa.Proofs.Diff
import Ibssa.Proofs.GenericReader

/-!
# The subnet options of a diff, as a reader finds them

The record says which of the five options changed in `change_mask`, which the
field table publishes as a 64-bit number in network order. The code sets the
marks in the bytes as they lie in memory, so on a little-endian host a mark ends
up in the top byte of what a reader sees; and it or-s them into a block that
nobody has cleared, although the routine that fills this record from OpenSM
clears the mask first. The subnet prefix is stored without conversion too.

So any mark at all is read as one that is not defined, and what is left in the
memory is read as well. `optsPatchLaw_iff` says that the record is right exactly
when there is nothing to say and the memory said nothing either.
-/

namespace Ibssa

open Keyed ByteOrder

/-! ## The options -/

inductive SubnetOpt where
  | subnetPrefix
  | smState
  | lmc
  | subnetTimeout
  | allowBothPkeys
deriving DecidableEq, Inhabited, Repr

namespace SubnetOpt

/-- The mark of an option, `SSA_DB_CHANGEMASK_*`. -/
def mask : SubnetOpt → UInt64
  | .subnetPrefix => ssaDbChangemaskSubnetPrefix
  | .smState => ssaDbChangemaskSmState
  | .lmc => ssaDbChangemaskLmc
  | .subnetTimeout => ssaDbChangemaskSubnetTimeout
  | .allowBothPkeys => ssaDbChangemaskAllowBothPkeys

/-- The bit that is its mark. -/
def bit : SubnetOpt → Nat
  | .subnetPrefix => 0
  | .smState => 1
  | .lmc => 2
  | .subnetTimeout => 3
  | .allowBothPkeys => 4

/-- The field of the record that has its value. -/
def field : SubnetOpt → SsaFieldId
  | .subnetPrefix => .subnetOptsSubnetPrefix
  | .smState => .subnetOptsSmState
  | .lmc => .subnetOptsLmc
  | .subnetTimeout => .subnetOptsSubnetTimeout
  | .allowBothPkeys => .subnetOptsAllowBothPkeys

/-- Its value in a snapshot. -/
def val (db : SsaDbExtract) : SubnetOpt → Nat
  | .subnetPrefix => db.subnetPrefix.toNat
  | .smState => db.smState.toNat
  | .lmc => db.lmc.toNat
  | .subnetTimeout => db.subnetTimeout.toNat
  | .allowBothPkeys => db.allowBothPkeys.toNat

/-- It is news: it differs, or there is no previous snapshot. -/
def Changed (pPreviousDb pCurrentDb : SsaDbExtract) (o : SubnetOpt) : Prop :=
  pPreviousDb.initialized = false ∨ o.val pPreviousDb ≠ o.val pCurrentDb

instance (pPreviousDb pCurrentDb : SsaDbExtract) (o : SubnetOpt) :
    Decidable (o.Changed pPreviousDb pCurrentDb) := inferInstanceAs (Decidable (_ ∨ _))

theorem mask_testBit (o : SubnetOpt) : o.mask.toNat.testBit o.bit = true := by
  cases o <;> decide

theorem bit_lt (o : SubnetOpt) : o.bit < 5 := by
  cases o <;> decide

end SubnetOpt

/-- What a consumer of a diff finds in a field of the options record, by the
field definitions that come with it. -/
def SsaDbDiff.optField (d : SsaDbDiff) (f : SsaFieldId) : Option (List Nat) :=
  match d.pSmdb.defsOf f with
  | [p] => p.read (SsaTableId.subnetOpts.recBytes (d.tables.subnetOpts.cell 0))
  | _ => none

/-- The patch law of the options, for what a consumer decodes: a bit of the mask
is set exactly when it is the mark of an option that changed, overwriting the
marked options with their fields gives the current ones, and a record is
announced exactly when there is a mark. -/
def OptsPatchLaw (pPreviousDb pCurrentDb : SsaDbExtract) (d : SsaDbDiff) : Prop :=
  ∃ (mask : Nat) (v : SubnetOpt → Nat),
    d.optField .subnetOptsChangeMask = some [mask] ∧
    (∀ o : SubnetOpt, d.optField o.field = some [v o]) ∧
    (∀ i, mask.testBit i = true ↔
      ∃ o : SubnetOpt, o.bit = i ∧ o.Changed pPreviousDb pCurrentDb) ∧
    (∀ o : SubnetOpt, (if mask.testBit o.bit then v o else o.val pPreviousDb)
      = o.val pCurrentDb) ∧
    ((ntohll (d.dataset .subnetOpts).setCount = 1 ∧
        ntohll (d.dataset .subnetOpts).setSize = SsaTableId.subnetOpts.recSize) ↔
      ∃ i, mask.testBit i = true)

/-! ## What the comparison stores -/

section Store

variable {pPreviousDb pCurrentDb : SsaDbExtract}

theorem raw_orChangeMask (r : EpSubnetOptsTblRec) (mask : UInt64) :
    (r.orChangeMask mask).changeMask.raw = r.changeMask.raw ||| mask := by
  rw [EpSubnetOptsTblRec.orChangeMask, raw_ofRaw]

/-- The mark a comparison leaves for an option. -/
def marked (pPreviousDb pCurrentDb : SsaDbExtract) (o : SubnetOpt) : UInt64 :=
  if o.Changed pPreviousDb pCurrentDb then o.mask else 0

/-- One of the five comparisons. -/
theorem raw_optsCmp {α : Type} [DecidableEq α] {field : SsaDbExtract → α}
    (pCurrentDb : SsaDbExtract) (o : SubnetOpt)
    (store : EpSubnetOptsTblRec → α → EpSubnetOptsTblRec)
    (hinit : pPreviousDb.initialized = true)
    (hval : o.val pPreviousDb = o.val pCurrentDb ↔ field pPreviousDb = field pCurrentDb)
    (hstore : ∀ r v, (store r v).changeMask = r.changeMask) {s : OptsDiff} {x : UInt64}
    (hs : s.pSubnetOpts.changeMask.raw = x) :
    (optsCmp field store o.mask pPreviousDb pCurrentDb s).pSubnetOpts.changeMask.raw
      = x ||| marked pPreviousDb pCurrentDb o := by
  have hchanged : o.Changed pPreviousDb pCurrentDb ↔ field pPreviousDb ≠ field pCurrentDb := by
    simp only [SubnetOpt.Changed, hinit, Bool.true_eq_false, false_or, ne_eq, hval]
  rw [optsCmp, marked]
  by_cases h : field pPreviousDb = field pCurrentDb
  · rw [if_neg (not_not.mpr h), if_neg (fun hc => hchanged.mp hc h), UInt64.or_zero, hs]
  · rw [if_pos h, if_pos (hchanged.mpr h), raw_orChangeMask, hstore, hs]

/-- All marks, in the order they are or-ed in. -/
theorem raw_optsDiff (hcur : pCurrentDb.initialized = true) (r : EpSubnetOptsTblRec) :
    (optsDiff pPreviousDb pCurrentDb ⟨r, 0⟩).pSubnetOpts.changeMask.raw
      = r.changeMask.raw ||| marked pPreviousDb pCurrentDb .subnetPrefix
        ||| marked pPreviousDb pCurrentDb .smState ||| marked pPreviousDb pCurrentDb .lmc
        ||| marked pPreviousDb pCurrentDb .subnetTimeout
        ||| marked pPreviousDb pCurrentDb .allowBothPkeys := by
  rw [optsDiff, hcur]
  cases hinit : pPreviousDb.initialized with
  | false =>
      have hall : ∀ o : SubnetOpt, marked pPreviousDb pCurrentDb o = o.mask :=
        fun o => if_pos (Or.inl hinit)
      simp only [hall, Bool.not_false, Bool.and_self, if_true, optsAll, raw_orChangeMask]
      rfl
  | true =>
      simp only [Bool.not_true, Bool.false_and, Bool.false_eq_true, if_false]
      have hprefix : (OptsDiff.mk r 0).pSubnetOpts.changeMask.raw = r.changeMask.raw := rfl
      have hstate := raw_optsCmp pCurrentDb .subnetPrefix
        (fun r v => { r with subnetPrefix := Be64.ofRaw v }) hinit
        UInt64.toNat_inj (fun _ _ => rfl) hprefix
      have hlmc := raw_optsCmp pCurrentDb .smState (fun r v => { r with smState := v }) hinit
        UInt8.toNat_inj (fun _ _ => rfl) hstate
      have htimeout := raw_optsCmp pCurrentDb .lmc (fun r v => { r with lmc := v }) hinit
        UInt8.toNat_inj (fun _ _ => rfl) hlmc
      have hpkeys := raw_optsCmp pCurrentDb .subnetTimeout
        (fun r v => { r with subnetTimeout := v }) hinit UInt8.toNat_inj (fun _ _ => rfl) htimeout
      exact raw_optsCmp pCurrentDb .allowBothPkeys (fun r v => { r with allowBothPkeys := v }) hinit
        UInt8.toNat_inj (fun _ _ => rfl) hpkeys

/-- The mark of an option that changed is there, in the byte that lies first. -/
theorem raw_testBit {o : SubnetOpt} (hcur : pCurrentDb.initialized = true)
    (ho : o.Changed pPreviousDb pCurrentDb) (r : EpSubnetOptsTblRec) :
    (optsDiff pPreviousDb pCurrentDb ⟨r, 0⟩).pSubnetOpts.changeMask.raw.toNat.testBit o.bit
      = true := by
  have hmark : (marked pPreviousDb pCurrentDb o).toNat.testBit o.bit = true := by
    rw [marked, if_pos ho]
    exact o.mask_testBit
  rw [raw_optsDiff hcur]
  simp only [UInt64.toNat_or, Nat.testBit_or]
  cases o <;> simp only [hmark, Bool.or_true, Bool.true_or]

/-- With nothing changed the record is left as it was found. -/
theorem optsDiff_of_unchanged (h : ∀ o : SubnetOpt, ¬ o.Changed pPreviousDb pCurrentDb)
    (r : EpSubnetOptsTblRec) : optsDiff pPreviousDb pCurrentDb ⟨r, 0⟩ = ⟨r, 0⟩ := by
  have hinit : pPreviousDb.initialized = true := by
    simpa using fun hc => h .subnetPrefix (Or.inl hc)
  have heq : ∀ o : SubnetOpt, o.val pPreviousDb = o.val pCurrentDb := by
    intro o
    by_contra hne
    exact h o (Or.inr hne)
  have hprefix := UInt64.toNat_inj.mp (heq .subnetPrefix)
  have hstate := UInt8.toNat_inj.mp (heq .smState)
  have hlmc := UInt8.toNat_inj.mp (heq .lmc)
  have htimeout := UInt8.toNat_inj.mp (heq .subnetTimeout)
  have hpkeys := UInt8.toNat_inj.mp (heq .allowBothPkeys)
  simp [optsDiff, optsCmp, hinit, hprefix, hstate, hlmc, htimeout, hpkeys]

end Store

/-! ## What is read -/

theorem be64Val_eq (b : Be64) : be64Val b = bswap64 b.raw := by
  rw [Be64.raw, bswap64_bswap64, be64Val]

/-- A 64-bit number below 256 has nothing in the byte that lies last. -/
theorem raw_mod_eq_zero {b : Be64} (h : (be64Val b).toNat < 256) : b.raw.toNat % 256 = 0 := by
  have hle := low_byte_le_bswap64 b.raw
  rw [← be64Val_eq] at hle
  omega

/-- A diff as far as its options go, before they are compared: the definitions
are loaded, nothing is announced, and the record is what the memory held. -/
structure OptsBlank (junk : EpSubnetOptsTblRec) (d : SsaDbDiff) : Prop where
  fieldDefs : d.pSmdb.fieldDefs .subnetOpts
    = loadedFieldDefs defTbl fieldTbl SsaTableId.subnetOpts.num
  dirty : d.dirty = 0
  setCount : ntohll (d.dataset .subnetOpts).setCount = 0
  record : d.tables.subnetOpts.cell 0 = junk

theorem optsBlank_diffInit (mem : Mem) (guidToLidNumRecs nodeNumRecs linkNumRecs portNumRecs
    pkeyNumRecs lftTopNumRecs lftBlockNumRecs : Nat) :
    OptsBlank mem.subnetOpts (ssaDbDiffInit mem guidToLidNumRecs nodeNumRecs linkNumRecs
      portNumRecs pkeyNumRecs lftTopNumRecs lftBlockNumRecs) where
  fieldDefs := fieldDefs_smdbInit mem _ _ _ _ _ _ _ _
  dirty := rfl
  setCount := by
    show ntohll ((ssaDbSmdbInit mem _ _ _ _ _ _ _).pDbTables.cell
      SsaTableId.subnetOpts.num).setCount = 0
    rw [ssaDbSmdbInit, pDbTables_ssaDbInit, dataset_smdbInit]
    rfl
  record := by
    show (ssaDbSmdbInit mem _ _ _ _ _ _ _).ppTables.subnetOpts.cell 0 = _
    rw [ssaDbSmdbInit, ppTables_ssaDbInit]
    rfl

section Read

variable {junk : EpSubnetOptsTblRec} {d : SsaDbDiff} {pPreviousDb pCurrentDb : SsaDbExtract}

/-- A field of the record is read from the member that has its id. -/
theorem OptsBlank.optField_eq (h : OptsBlank junk d) {f : SsaFieldId}
    (hf : f.table = .subnetOpts) :
    (ssaDbDiffCompareSubnetOpts pPreviousDb pCurrentDb d).optField f
      = ((SsaTableId.subnetOpts.members
          (optsDiff pPreviousDb pCurrentDb ⟨junk, 0⟩).pSubnetOpts)[f.num.toNat]?).map
            Member.values := by
  have hrecord : (ssaDbDiffCompareSubnetOpts pPreviousDb pCurrentDb d).tables.subnetOpts.cell 0
      = (optsDiff pPreviousDb pCurrentDb ⟨junk, 0⟩).pSubnetOpts := by
    have htable : (ssaDbDiffCompareSubnetOpts pPreviousDb pCurrentDb d).tables.subnetOpts
        = d.tables.subnetOpts.write 0 (optsDiff pPreviousDb pCurrentDb
            ⟨d.tables.subnetOpts.cell 0, d.dirty⟩).pSubnetOpts := by
      simp only [ssaDbDiffCompareSubnetOpts]
      split <;> rfl
    rw [htable, Buf.cell_write, Function.update_self, h.record, h.dirty]
  have hdefs : (ssaDbDiffCompareSubnetOpts pPreviousDb pCurrentDb d).pSmdb.defsOf f
      = schemaDefsOf f := by
    rw [SsaDb.defsOf, schemaDefsOf, hf, ← h.fieldDefs]
    simp only [ssaDbDiffCompareSubnetOpts]
    split <;> rfl
  have hshares : ¬ f.SharesId := by
    rintro (rfl | rfl) <;> cases hf
  obtain ⟨p, hp, hdesc⟩ := schema_describes hshares
  rw [hf] at hdesc
  rw [SsaDbDiff.optField, hdefs, hp, hrecord]
  exact read_of_describes hdesc _

/-- A record is announced when an option changed. -/
theorem OptsBlank.announced_iff (h : OptsBlank junk d) :
    ntohll ((ssaDbDiffCompareSubnetOpts pPreviousDb pCurrentDb d).dataset .subnetOpts).setCount
        = 1 ↔ (optsDiff pPreviousDb pCurrentDb ⟨junk, 0⟩).dirty ≠ 0 := by
  simp only [ssaDbDiffCompareSubnetOpts, h.record, h.dirty]
  split
  · next hzero =>
      have hcount : ∀ ts, ntohll ((d.setTables ts).dataset .subnetOpts).setCount = 0 :=
        fun _ => h.setCount
      rw [hcount]
      exact ⟨fun hc => absurd hc (by decide), fun hc => absurd hzero hc⟩
  · next hne => exact ⟨fun _ => hne, fun _ => rfl⟩

/-- The law, for a diff that is blank up to its record: no mark may be due, and
none may be there already. -/
theorem OptsBlank.patchLaw_iff (h : OptsBlank junk d)
    (hcur : pCurrentDb.initialized = true) :
    OptsPatchLaw pPreviousDb pCurrentDb (ssaDbDiffCompareSubnetOpts pPreviousDb pCurrentDb d) ↔
      (∀ o : SubnetOpt, ¬ o.Changed pPreviousDb pCurrentDb) ∧ junk.changeMask.raw = 0 := by
  constructor
  · rintro ⟨mask, v, hmask, _, hbits, _, _⟩
    rw [h.optField_eq rfl] at hmask
    obtain rfl : (be64Val (optsDiff pPreviousDb pCurrentDb ⟨junk, 0⟩).pSubnetOpts.changeMask).toNat
        = mask := List.head_eq_of_cons_eq (Option.some.inj hmask)
    have hsmall : (be64Val
        (optsDiff pPreviousDb pCurrentDb ⟨junk, 0⟩).pSubnetOpts.changeMask).toNat < 2 ^ 5 := by
      refine Nat.lt_pow_two_of_testBit _ fun i hi => ?_
      rw [← Bool.not_eq_true, hbits]
      rintro ⟨o, rfl, _⟩
      exact absurd o.bit_lt (by omega)
    have hnone : ∀ o : SubnetOpt, ¬ o.Changed pPreviousDb pCurrentDb := by
      intro o ho
      have hset := raw_testBit hcur ho junk
      have hlow := raw_mod_eq_zero (lt_trans hsmall (by decide))
      have hbit := Nat.testBit_mod_two_pow
        (optsDiff pPreviousDb pCurrentDb ⟨junk, 0⟩).pSubnetOpts.changeMask.raw.toNat 8 o.bit
      have hlt := o.bit_lt
      rw [hlow, hset, Nat.zero_testBit] at hbit
      simp at hbit
      omega
    refine ⟨hnone, ?_⟩
    rw [optsDiff_of_unchanged hnone] at hbits
    have hzero : (be64Val junk.changeMask).toNat = 0 := by
      refine Nat.eq_of_testBit_eq fun i => ?_
      rw [Nat.zero_testBit, ← Bool.not_eq_true, hbits]
      rintro ⟨o, _, ho⟩
      exact hnone o ho
    have hval : be64Val junk.changeMask = 0 := UInt64.toNat_inj.mp hzero
    rw [Be64.raw, ← be64Val, hval]
    decide
  · rintro ⟨hnone, hraw⟩
    have hread : ∀ o : SubnetOpt, ∃ n, (ssaDbDiffCompareSubnetOpts pPreviousDb pCurrentDb
        d).optField o.field = some [n] := by
      intro o
      cases o <;> exact ⟨_, h.optField_eq rfl⟩
    choose v hv using hread
    refine ⟨0, v, ?_, hv, ?_, ?_, ?_⟩
    · rw [h.optField_eq rfl, optsDiff_of_unchanged hnone]
      have hval : be64Val junk.changeMask = 0 := by
        rw [be64Val_eq, hraw]
        decide
      show some [(be64Val junk.changeMask).toNat] = some [0]
      rw [hval]
      rfl
    · intro i
      rw [Nat.zero_testBit]
      refine ⟨fun hc => absurd hc (by decide), fun hc => ?_⟩
      obtain ⟨o, _, ho⟩ := hc
      exact absurd ho (hnone o)
    · intro o
      rw [Nat.zero_testBit, if_neg (by decide)]
      by_contra hne
      exact hnone o (Or.inr hne)
    · simp only [Nat.zero_testBit, Bool.false_eq_true, exists_const, iff_false, not_and]
      intro hcount
      have hdirty := h.announced_iff.mp hcount
      rw [optsDiff_of_unchanged hnone] at hdirty
      exact absurd rfl hdirty

end Read

/-- The options record of a fresh diff is what its readers take it for exactly
when there was a previous snapshot, no option has changed since, and the memory
of `change_mask` happened to be clear. -/
theorem optsPatchLaw_iff (mem : Mem) (guidToLidNumRecs nodeNumRecs linkNumRecs portNumRecs
    pkeyNumRecs lftTopNumRecs lftBlockNumRecs : Nat) {pPreviousDb pCurrentDb : SsaDbExtract}
    (hcur : pCurrentDb.initialized = true) :
    OptsPatchLaw pPreviousDb pCurrentDb
        (ssaDbDiffCompareSubnetOpts pPreviousDb pCurrentDb
          (ssaDbDiffInit mem guidToLidNumRecs nodeNumRecs linkNumRecs portNumRecs pkeyNumRecs
            lftTopNumRecs lftBlockNumRecs)) ↔
      pPreviousDb.initialized = true ∧
        (∀ o : SubnetOpt, o.val pPreviousDb = o.val pCurrentDb) ∧
        mem.subnetOpts.changeMask.raw = 0 := by
  rw [(optsBlank_diffInit mem guidToLidNumRecs nodeNumRecs linkNumRecs portNumRecs pkeyNumRecs
    lftTopNumRecs lftBlockNumRecs).patchLaw_iff hcur]
  have hnone : (∀ o : SubnetOpt, ¬ o.Changed pPreviousDb pCurrentDb) ↔
      pPreviousDb.initialized = true ∧
        ∀ o : SubnetOpt, o.val pPreviousDb = o.val pCurrentDb := by
    simp only [SubnetOpt.Changed, not_or, Bool.not_eq_false, ne_eq, not_not, forall_and,
      forall_const]
  rw [hnone, and_assoc]

/-- A snapshot of a subnet with the default prefix. -/
def defaultPrefixDb : SsaDbExtract :=
  { ssaDbExtractInit with subnetPrefix := 0xfe80000000000000, initialized := true }

theorem optsPatchLaw_iff_defaultPrefix :
    OptsPatchLaw defaultPrefixDb defaultPrefixDb
        (ssaDbDiffCompareSubnetOpts defaultPrefixDb defaultPrefixDb
          (ssaDbDiffInit default 0 0 0 0 0 0 0)) ↔
      defaultPrefixDb.initialized = true ∧
        (∀ o : SubnetOpt, o.val defaultPrefixDb = o.val defaultPrefixDb) ∧
        (default : Mem).subnetOpts.changeMask.raw = 0 :=
  optsPatchLaw_iff default 0 0 0 0 0 0 0 rfl

/-- The first diff marks all five options, and a reader finds the marks in the
bits 56 to 60. -/
theorem optsPatchLaw_fails_firstSnapshot :
    ¬ OptsPatchLaw ssaDbExtractInit defaultPrefixDb
      (ssaDbDiffCompareSubnetOpts ssaDbExtractInit defaultPrefixDb
        (ssaDbDiffInit default 0 0 0 0 0 0 0)) := by
  rintro ⟨mask, v, hmask, _, hbits, _, _⟩
  have hread : (ssaDbDiffCompareSubnetOpts ssaDbExtractInit defaultPrefixDb
      (ssaDbDiffInit default 0 0 0 0 0 0 0)).optField .subnetOptsChangeMask
        = some [0x1f00000000000000] := by
    decide +kernel
  obtain rfl : 0x1f00000000000000 = mask :=
    List.head_eq_of_cons_eq (Option.some.inj (hread.symm.trans hmask))
  obtain ⟨o, ho, _⟩ := (hbits 56).mp (by decide)
  exact absurd o.bit_lt (by omega)

end Ibssa
