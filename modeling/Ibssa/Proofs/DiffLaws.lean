import Ibssa.Proofs.Diff

/-!
# The laws of one diff

Everything here is about the diff that `ssa_db_compare` has built when it
comes to its dirty check, for any two snapshots and any LFT database.

Headers and maps always agree. What the maps hold is right when the
comparators are, and two of the four are not: the link and the port comparator
read the old table at the sum of the two offsets and the new one at zero. For
these tables the law is given as an equivalence, with the condition on the two
records that happen to be read. The pkeys of an added port are copied from the
byte whose number is the port's entry offset, half way to where they lie, and
that law is an equivalence for the same reason.
-/

namespace Ibssa

open Keyed ByteOrder

/-! ## Headers and maps -/

/-- A header agrees with the maps of its table, the slots in use are those
below the count, and the block has room for them. -/
structure Coherent {α : Type} (p : DiffPart α) (recSize room : Nat) : Prop where
  setCount : ntohll p.tbl.pDataset.setCount = p.pMapAdded.count + p.pMapRemoved.count
  setSize : ntohll p.tbl.pDataset.setSize = ntohll p.tbl.pDataset.setCount * recSize
  slots : (slotsOf p.pMapAdded ++ slotsOf p.pMapRemoved).Perm
    (List.range (ntohll p.tbl.pDataset.setCount))
  allocated : p.tbl.pDataTbl.cap = room
  room : ntohll p.tbl.pDataset.setCount ≤ room
  fits : p.tbl.pDataTbl.fits = true

theorem DiffPart.FilledWith.coherent {α : Type} {p : DiffPart α} {recSize cap : Nat}
    {l : List (WalkOp UInt64 α)} (h : p.FilledWith recSize cap l) (hk : OncePerKey l)
    (hle : l.length ≤ cap) : Coherent p recSize cap where
  setCount := by rw [h.count, h.placed.count_add_count hk]
  setSize := by rw [h.size, h.count]
  slots := by
    rw [h.count]
    exact h.placed.slots_perm hk
  allocated := h.cap_eq
  room := by
    rw [h.count]
    exact hle
  fits := h.fits hle

/-- A snapshot without a pkey table has no port with pkeys. -/
def PkeyTblPresent (db : SsaDbExtract) : Prop :=
  db.pPkeyTbl.isNull = true → ∀ k o, db.epPortTbl.get? k = some o →
    ntohs (db.pPortTbl.cell o).pkeyTblSize = 0

theorem portPayload_eq {db : SsaDbExtract} (hpk : PkeyTblPresent db) {k : UInt64} {o : Nat}
    (ho : db.epPortTbl.get? k = some o) :
    portPayload db.pPkeyTbl (db.pPortTbl.cell o)
      = (ntohs (db.pPortTbl.cell o).pkeyTblSize).toNat := by
  rw [portPayload]
  by_cases hnull : db.pPkeyTbl.isNull = true
  · rw [if_pos hnull, hpk hnull k o ho]
    rfl
  · rw [if_neg hnull]

theorem pkeyTblSize_rebasePort (pDataRefTbl : Buf UInt16) (off : Nat) (r : EpPortTblRec) :
    (rebasePort pDataRefTbl off r).pkeyTblSize = r.pkeyTblSize := by
  rw [rebasePort]
  split <;> rfl

/-- The keys and pkey sizes of the added ports, as the walk takes them. -/
private theorem addedOf_portOps_sizes (pDataTblOld pDataTblNew : Buf EpPortTblRec)
    (pDataRefTblNew : Buf UInt16) (ops : List (WalkOp UInt64 Nat)) (off : Nat) :
    (addedOf (portOps pDataTblOld pDataTblNew pDataRefTblNew off ops)).map
        (fun p => (ntohs p.2.pkeyTblSize).toNat)
      = (addedRecs pDataTblNew ops).map fun r => (ntohs r.pkeyTblSize).toNat := by
  induction ops generalizing off with
  | nil => rfl
  | cons op ops ih =>
      cases op with
      | remove p => exact ih off
      | add p =>
          simp only [portOps, addedOf, addedRecs, List.map_cons, pkeyTblSize_rebasePort]
          exact congrArg _ (ih _)

/-- The entries of the added map are the added records, in key order. -/
theorem Filled.entries_added {α : Type} {recSize cap : Nat} {l : List (WalkOp UInt64 α)}
    {pMapAdded pMapRemoved : EpMap} {t : DataTbl α}
    (h : Filled recSize cap l pMapAdded pMapRemoved t) (hk : OncePerKey l)
    (hs : (addedOf l).Pairwise fun a b => a.1 < b.1) :
    entries pMapAdded t.pDataTbl = addedOf l := by
  refine OrdMap.eq_of_sorted (entries_sorted pMapAdded t.pDataTbl) hs ?_
  rintro ⟨k, v⟩
  rw [mem_addedOf, ← h.placed.view_added hk, ← find_entries]
  constructor
  · exact OrdMap.find_of_mem (entries_sorted pMapAdded t.pDataTbl)
  · exact OrdMap.mem_of_find

/-- The ports that are added come in key order. -/
private theorem addedOf_portDiffOps_sorted (mem : Mem) (pPreviousDb pCurrentDb : SsaDbExtract) :
    (addedOf (portDiffOps mem pPreviousDb pCurrentDb)).Pairwise fun a b => a.1 < b.1 := by
  have hkeys : (addedOf (portDiffOps mem pPreviousDb pCurrentDb)).map Prod.fst
      = (addedOf (portWalk mem pPreviousDb pCurrentDb)).map Prod.fst := by
    rw [← filterMap_addKey, ← filterMap_addKey]
    exact filterMap_addKey_portOps _ _
  have hwalk : ((addedOf (portWalk mem pPreviousDb pCurrentDb)).map Prod.fst).Pairwise
      (· < ·) := by
    rw [portWalk, added_walkOps pPreviousDb.epPortTbl.sorted pCurrentDb.epPortTbl.sorted]
    exact List.pairwise_map.mpr (pCurrentDb.epPortTbl.sorted.filter _)
  rw [← hkeys] at hwalk
  exact List.pairwise_map.mp hwalk

/-- The sum of the pkey sizes of the ports a diff adds. -/
def addedPkeyBytes (d : SsaDbDiff) : Nat :=
  (d.epPortTblAdded.items.map fun p => (ntohs (d.tables.port.cell p.2).pkeyTblSize).toNat).sum

/-- The ports of the current snapshot that a comparison adds: the key is new,
or the comparator calls the port changed. -/
def addedItems (mem : Mem) (pPreviousDb pCurrentDb : SsaDbExtract) : List EpMapRec :=
  pCurrentDb.epPortTbl.items.filter
    (comes (portChanged mem pPreviousDb pCurrentDb) pPreviousDb.epPortTbl.items)

theorem addedPorts_eq (mem : Mem) (pPreviousDb pCurrentDb : SsaDbExtract) :
    addedPorts mem pPreviousDb pCurrentDb
      = (addedItems mem pPreviousDb pCurrentDb).map fun p => pCurrentDb.pPortTbl.cell p.2 := by
  rw [addedPorts, addedRecs, portWalk,
    added_walkOps pPreviousDb.epPortTbl.sorted pCurrentDb.epPortTbl.sorted, addedItems]

theorem payloads_addedPorts {mem : Mem} {pPreviousDb pCurrentDb : SsaDbExtract}
    (hpk : PkeyTblPresent pCurrentDb) :
    payloads pCurrentDb.pPkeyTbl (addedPorts mem pPreviousDb pCurrentDb)
      = ((addedPorts mem pPreviousDb pCurrentDb).map
          fun r => (ntohs r.pkeyTblSize).toNat).sum := by
  rw [payloads]
  refine congrArg List.sum (List.map_congr_left ?_)
  intro r hr
  obtain ⟨p, hp, rfl⟩ := List.mem_map.mp hr
  have hadd : WalkOp.add (p.1, p.2) ∈ walkOps (portChanged mem pPreviousDb pCurrentDb)
      pPreviousDb.epPortTbl.items pCurrentDb.epPortTbl.items := mem_addedOf.mp hp
  exact portPayload_eq hpk (add_mem_walkOps.mp hadd).1

/-- The LFT tables of a diff have room for the database and the dump. -/
theorem DiffSpec.lftTop_coherent {mem : Mem} {firstTimeSubnetUp : Bool} {ssaDb : SsaDatabase}
    {d : SsaDbDiff} (h : DiffSpec mem firstTimeSubnetUp ssaDb d) :
    Coherent d.lftTopPart SsaTableId.lftTop.recSize
      (ssaDb.pLftDb.epDbLftTopTbl.count + ssaDb.pLftDb.epDumpLftTopTbl.count) := by
  refine h.lftTop.coherent (oncePerKey_storeOps _ _) ?_
  rw [length_storeOps, pushedTopMap]
  split <;> omega

theorem DiffSpec.lftBlock_coherent {mem : Mem} {firstTimeSubnetUp : Bool} {ssaDb : SsaDatabase}
    {d : SsaDbDiff} (h : DiffSpec mem firstTimeSubnetUp ssaDb d) :
    Coherent d.lftBlockPart SsaTableId.lftBlock.recSize
      (ssaDb.pLftDb.epDbLftBlockTbl.count + ssaDb.pLftDb.epDumpLftBlockTbl.count) := by
  refine h.lftBlock.coherent (oncePerKey_storeOps _ _) ?_
  rw [length_storeOps, pushedBlockMap]
  split <;> omega

/-- The datasets of a diff agree with its maps. -/
structure DiffCoherent (ssaDb : SsaDatabase) (d : SsaDbDiff) : Prop where
  guidToLid : Coherent d.guidToLidPart SsaTableId.guidToLid.recSize
    (ssaDb.pCurrentDb.epGuidToLidTbl.count + ssaDb.pPreviousDb.epGuidToLidTbl.count)
  node : Coherent d.nodePart SsaTableId.node.recSize
    (ssaDb.pCurrentDb.epNodeTbl.count + ssaDb.pPreviousDb.epNodeTbl.count)
  link : Coherent d.linkPart SsaTableId.link.recSize
    (ssaDb.pCurrentDb.epLinkTbl.count + ssaDb.pPreviousDb.epLinkTbl.count)
  port : Coherent d.portPart SsaTableId.port.recSize
    (ssaDb.pCurrentDb.epPortTbl.count + ssaDb.pPreviousDb.epPortTbl.count)
  lftTop : Coherent d.lftTopPart SsaTableId.lftTop.recSize
    (ssaDb.pLftDb.epDbLftTopTbl.count + ssaDb.pLftDb.epDumpLftTopTbl.count)
  lftBlock : Coherent d.lftBlockPart SsaTableId.lftBlock.recSize
    (ssaDb.pLftDb.epDbLftBlockTbl.count + ssaDb.pLftDb.epDumpLftBlockTbl.count)
  pkeySize : PkeyTblPresent ssaDb.pCurrentDb →
    ntohll (d.dataset .pkey).setSize = addedPkeyBytes d

/-- Dataset coherence of every diff, whatever the snapshots and the LFT
database, and whether or not it is the first. -/
theorem buildDiff_coherent (mem : Mem) (firstTimeSubnetUp : Bool) (ssaDb : SsaDatabase) :
    DiffCoherent ssaDb (buildDiff mem firstTimeSubnetUp ssaDb).1 := by
  have h := buildDiff_spec mem firstTimeSubnetUp ssaDb
  generalize (buildDiff mem firstTimeSubnetUp ssaDb).1 = d at h ⊢
  refine ⟨h.guidToLid.coherent oncePerKey_recOps length_recOps_le,
    h.node.coherent oncePerKey_recOps length_recOps_le,
    h.link.coherent oncePerKey_recOps length_recOps_le, ?_, h.lftTop_coherent,
    h.lftBlock_coherent, fun hpk => ?_⟩
  · refine h.port.coherent (oncePerKey_portOps 0) ?_
    rw [portDiffOps, length_portOps]
    exact length_portWalkOps_le
  · have hentries : entries d.epPortTblAdded d.tables.port
        = addedOf (portDiffOps mem ssaDb.pPreviousDb ssaDb.pCurrentDb) :=
      h.port.entries_added (oncePerKey_portOps 0) (addedOf_portDiffOps_sorted mem _ _)
    have hsum : addedPkeyBytes d
        = ((addedOf (portDiffOps mem ssaDb.pPreviousDb ssaDb.pCurrentDb)).map
            fun p => (ntohs p.2.pkeyTblSize).toNat).sum := by
      rw [← hentries, entries, List.map_map]
      rfl
    rw [h.pkeyDataset, setSize_appendAll, hsum, portDiffOps, addedOf_portOps_sizes,
      payloads_addedPorts hpk]
    exact Nat.zero_add _

/-- Port records under the keys 1, 2, ..., with their pkeys laid out one behind
the other: a snapshot as far as its ports go. -/
def portsDb (ports : List EpPortTblRec) (pkeys : List UInt16) : SsaDbExtract :=
  { ssaDbExtractInit with
    pPortTbl := Buf.ofList default ports
    epPortTbl :=
      OrdMap.ofList ((List.range ports.length).map fun i => (UInt64.ofNat (i + 1), i))
    pPkeyTbl := Buf.ofList default pkeys
    pkeyTblRecNum := pkeys.length
    initialized := true }

/-- A port record with one pkey, the one at an index. -/
def portWithPkey (lid : UInt16) (index : Nat) : EpPortTblRec :=
  { (default : EpPortTblRec) with
    portLid := htons lid
    pkeyTblOffset := htonll index
    pkeyTblSize := htons 2 }

/-- Two new ports. -/
def twoNewPorts : SsaDatabase :=
  { ssaDatabaseInit with
    pCurrentDb := portsDb [portWithPkey 1 0, portWithPkey 2 1] [0x7fff, 0x8001] }

theorem pkeyTblPresent_twoNewPorts : PkeyTblPresent twoNewPorts.pCurrentDb := by
  intro hnull
  cases hnull

theorem buildDiff_coherent_twoNewPorts :
    ntohll ((buildDiff default true twoNewPorts).1.dataset .pkey).setSize
      = addedPkeyBytes (buildDiff default true twoNewPorts).1 :=
  (buildDiff_coherent default true twoNewPorts).pkeySize pkeyTblPresent_twoNewPorts

/-! ## Links -/

/-- The four fields of a link. -/
def linkFields (r : EpLinkTblRec) : Be16 × Be16 × UInt8 × UInt8 :=
  (r.fromLid, r.toLid, r.fromPortNum, r.toPortNum)

theorem linkFieldsDiffer_eq_false {a b : EpLinkTblRec} :
    linkFieldsDiffer a b = false ↔ linkFields a = linkFields b := by
  simp only [linkFieldsDiffer, linkFields, Bool.or_eq_false_iff, bne_eq_false_iff_eq,
    Prod.mk.injEq, and_assoc]

/-- The link law: deleting the removed keys from the previous links and
inserting the added ones gives the current links, a link that did not change
is in neither map, and the comparison reads only records that are in use. -/
structure LinkLaw (pPreviousDb pCurrentDb : SsaDbExtract) (d : SsaDbDiff) : Prop where
  patch : patch
      (fun k => (view pPreviousDb.epLinkTbl pPreviousDb.pLinkTbl k).map linkFields)
      (fun k => (d.epLinkTblRemoved.get? k).isSome)
      (fun k => (view d.epLinkTblAdded d.tables.link k).map linkFields)
    = fun k => (view pCurrentDb.epLinkTbl pCurrentDb.pLinkTbl k).map linkFields
  unchanged : ∀ k a b, view pPreviousDb.epLinkTbl pPreviousDb.pLinkTbl k = some a →
    view pCurrentDb.epLinkTbl pCurrentDb.pLinkTbl k = some b → linkFields a = linkFields b →
    d.epLinkTblRemoved.get? k = none ∧ d.epLinkTblAdded.get? k = none
  reads : ∀ k o o', pPreviousDb.epLinkTbl.get? k = some o →
    pCurrentDb.epLinkTbl.get? k = some o' →
    oldRecIdx (k, o) (k, o') ∈ slotsOf pPreviousDb.epLinkTbl ∧
      newRecIdx (k, o) (k, o') ∈ slotsOf pCurrentDb.epLinkTbl

/-- For every key of both snapshots, the two records the comparator reads are
in use, and they agree exactly when the key's own two records do. -/
def LinkReadsAgree (pPreviousDb pCurrentDb : SsaDbExtract) : Prop :=
  ∀ k o o', pPreviousDb.epLinkTbl.get? k = some o → pCurrentDb.epLinkTbl.get? k = some o' →
    o + o' ∈ slotsOf pPreviousDb.epLinkTbl ∧ 0 ∈ slotsOf pCurrentDb.epLinkTbl ∧
      (linkFields (pPreviousDb.pLinkTbl.cell (o + o')) = linkFields (pCurrentDb.pLinkTbl.cell 0) ↔
        linkFields (pPreviousDb.pLinkTbl.cell o) = linkFields (pCurrentDb.pLinkTbl.cell o'))

private theorem addedVal_map {α β : Type} (changed : EpMapRec → EpMapRec → Bool)
    (old new : EpMap) (val : Nat → α) (f : α → β) :
    (fun k => (addedVal changed old new val k).map f)
      = addedVal changed old new fun o => f (val o) := by
  funext k
  unfold addedVal
  cases new.get? k with
  | none => rfl
  | some o =>
      simp only []
      split <;> rfl

private theorem view_map {α β : Type} (m : EpMap) (b : Buf α) (f : α → β) :
    (fun k => (view m b k).map f) = fun k => (m.get? k).map fun o => f (b.cell o) := by
  funext k
  unfold view
  rw [Option.map_map]
  rfl

/-- A common key is in neither map exactly when the comparator calls it
unchanged. -/
theorem DiffPart.FilledWith.untouched {α : Type} {p : DiffPart α} {recSize cap : Nat}
    {cmp : EpMapRec → Buf α → EpMapRec → Buf α → Bool} {old new : EpMap} {tOld tNew : Buf α}
    (h : p.FilledWith recSize cap (recOps cmp old new tOld tNew)) {k : UInt64} {o o' : Nat}
    (ho : old.get? k = some o) (ho' : new.get? k = some o') :
    (p.pMapRemoved.get? k = none ↔ cmp (k, o) tOld (k, o') tNew = false) ∧
      (p.pMapAdded.get? k = none ↔ cmp (k, o) tOld (k, o') tNew = false) := by
  have hremoved : (p.pMapRemoved.get? k).isSome = cmp (k, o) tOld (k, o') tNew := by
    have hkey := congrFun h.removed_recOps k
    rw [removedKey_of_common ho ho'] at hkey
    exact hkey
  have hadded : view p.pMapAdded p.tbl.pDataTbl k = _ := congrFun h.view_recOps k
  rw [addedVal_of_common ho ho'] at hadded
  constructor
  · rw [← hremoved, Option.isSome_eq_false_iff, Option.isNone_iff_eq_none]
  · rw [← view_eq_none, hadded]
    show (if cmp (k, o) tOld (k, o') tNew then _ else _) = none ↔ _
    cases cmp (k, o) tOld (k, o') tNew <;> simp

theorem ssaDbLinkCmp_eq_false {p c : SsaDbExtract} {k : UInt64} {o o' : Nat} :
    ssaDbLinkCmp (k, o) p.pLinkTbl (k, o') c.pLinkTbl = false ↔
      linkFields (p.pLinkTbl.cell (o + o')) = linkFields (c.pLinkTbl.cell 0) :=
  linkFieldsDiffer_eq_false

/-- The patched links are the current ones exactly when no link whose own
records differ is called unchanged. -/
theorem DiffSpec.patch_link_iff {mem : Mem} {firstTimeSubnetUp : Bool} {ssaDb : SsaDatabase}
    {d : SsaDbDiff} (h : DiffSpec mem firstTimeSubnetUp ssaDb d) :
    patch
        (fun k =>
          (view ssaDb.pPreviousDb.epLinkTbl ssaDb.pPreviousDb.pLinkTbl k).map linkFields)
        (fun k => (d.epLinkTblRemoved.get? k).isSome)
        (fun k => (view d.epLinkTblAdded d.tables.link k).map linkFields)
      = (fun k => (view ssaDb.pCurrentDb.epLinkTbl ssaDb.pCurrentDb.pLinkTbl k).map linkFields) ↔
      ∀ k o o', ssaDb.pPreviousDb.epLinkTbl.get? k = some o →
        ssaDb.pCurrentDb.epLinkTbl.get? k = some o' →
        ssaDbLinkCmp (k, o) ssaDb.pPreviousDb.pLinkTbl (k, o') ssaDb.pCurrentDb.pLinkTbl
          = false →
        linkFields (ssaDb.pPreviousDb.pLinkTbl.cell o)
          = linkFields (ssaDb.pCurrentDb.pLinkTbl.cell o') := by
  have hadd := h.link.view_recOps
  have hrem := h.link.removed_recOps
  simp only [SsaDbDiff.linkPart] at hadd hrem
  rw [hadd, hrem, view_map, view_map, addedVal_map]
  exact patch_walk_iff

/-- The link law holds of a diff exactly when, for every common key, the two
records that the comparator reads are in use and agree if the key's own do. -/
theorem linkLaw_iff (mem : Mem) (firstTimeSubnetUp : Bool) (ssaDb : SsaDatabase) :
    LinkLaw ssaDb.pPreviousDb ssaDb.pCurrentDb (buildDiff mem firstTimeSubnetUp ssaDb).1 ↔
      LinkReadsAgree ssaDb.pPreviousDb ssaDb.pCurrentDb := by
  have h := buildDiff_spec mem firstTimeSubnetUp ssaDb
  generalize (buildDiff mem firstTimeSubnetUp ssaDb).1 = d at h ⊢
  constructor
  · intro hlaw k o o' ho ho'
    obtain ⟨hold, hnew⟩ := hlaw.reads k o o' ho ho'
    refine ⟨hold, hnew, ?_⟩
    constructor
    · intro heq
      exact h.patch_link_iff.mp hlaw.patch k o o' ho ho' (ssaDbLinkCmp_eq_false.mpr heq)
    · intro heq
      obtain ⟨hnone, _⟩ := hlaw.unchanged k _ _ (view_eq_some.mpr ⟨o, ho, rfl⟩)
        (view_eq_some.mpr ⟨o', ho', rfl⟩) heq
      exact ssaDbLinkCmp_eq_false.mp ((h.link.untouched ho ho').1.mp hnone)
  · intro hagree
    refine ⟨h.patch_link_iff.mpr ?_, ?_, ?_⟩
    · intro k o o' ho ho' hsame
      exact (hagree k o o' ho ho').2.2.mp (ssaDbLinkCmp_eq_false.mp hsame)
    · intro k a b ha hb heq
      obtain ⟨o, ho, rfl⟩ := view_eq_some.mp ha
      obtain ⟨o', ho', rfl⟩ := view_eq_some.mp hb
      have hsame : ssaDbLinkCmp (k, o) ssaDb.pPreviousDb.pLinkTbl (k, o')
          ssaDb.pCurrentDb.pLinkTbl = false :=
        ssaDbLinkCmp_eq_false.mpr ((hagree k o o' ho ho').2.2.mpr heq)
      obtain ⟨hremoved, hadded⟩ := h.link.untouched ho ho'
      exact ⟨hremoved.mpr hsame, hadded.mpr hsame⟩
    · intro k o o' ho ho'
      obtain ⟨hold, hnew, _⟩ := hagree k o o' ho ho'
      exact ⟨hold, hnew⟩

/-- Links under the keys 1, 2, ...: a snapshot as far as its links go. -/
def linksDb (links : List EpLinkTblRec) : SsaDbExtract :=
  { ssaDbExtractInit with
    pLinkTbl := Buf.ofList default links
    epLinkTbl :=
      OrdMap.ofList ((List.range links.length).map fun i => (UInt64.ofNat (i + 1), i))
    initialized := true }

def linkBetween (fromLid toLid : UInt16) : EpLinkTblRec :=
  { (default : EpLinkTblRec) with fromLid := htons fromLid, toLid := htons toLid }

/-- Three links, of which the last one goes. -/
def thirdLinkGone : SsaDatabase :=
  { ssaDatabaseInit with
    pPreviousDb := linksDb [linkBetween 1 2, linkBetween 3 4, linkBetween 5 6]
    pCurrentDb := linksDb [linkBetween 1 2, linkBetween 3 4] }

/-- The second link has not changed, at offset 1 on both sides, and the
comparator looks at the third link of the one and the first of the other. -/
theorem linkLaw_thirdLinkGone :
    Dense thirdLinkGone.pPreviousDb.epLinkTbl ∧ Dense thirdLinkGone.pCurrentDb.epLinkTbl ∧
      ¬ LinkLaw thirdLinkGone.pPreviousDb thirdLinkGone.pCurrentDb
        (buildDiff default true thirdLinkGone).1 := by
  refine ⟨by decide +kernel, by decide +kernel, ?_⟩
  intro hlaw
  have hold : view thirdLinkGone.pPreviousDb.epLinkTbl thirdLinkGone.pPreviousDb.pLinkTbl 2
      = some (linkBetween 3 4) := by decide +kernel
  have hnew : view thirdLinkGone.pCurrentDb.epLinkTbl thirdLinkGone.pCurrentDb.pLinkTbl 2
      = some (linkBetween 3 4) := by decide +kernel
  have hremoved : (buildDiff default true thirdLinkGone).1.epLinkTblRemoved.get? 2 ≠ none := by
    decide +kernel
  exact hremoved (hlaw.unchanged 2 _ _ hold hnew rfl).1

/-! ## Ports -/

/-- The pkeys a port record designates: `pkey_tbl_size / 2` entries from entry
`pkey_tbl_offset` on. -/
def designatedPkeys (pPkeyTbl : Buf UInt16) (r : EpPortTblRec) : List UInt16 :=
  (List.range ((ntohs r.pkeyTblSize).toNat / SsaTableId.pkey.recSize)).map fun i =>
    pPkeyTbl.cell (ntohll r.pkeyTblOffset + i)

/-- Two versions of a port are different: in a field, or in their pkeys. -/
def PortDiffers (pPreviousDb pCurrentDb : SsaDbExtract) (a b : EpPortTblRec) : Prop :=
  a.portLid ≠ b.portLid ∨ a.neighborMtu ≠ b.neighborMtu ∨ a.rate ≠ b.rate ∨
    a.vlEnforce ≠ b.vlEnforce ∨ a.pkeyTblSize ≠ b.pkeyTblSize ∨
    designatedPkeys pPreviousDb.pPkeyTbl a ≠ designatedPkeys pCurrentDb.pPkeyTbl b

/-- Port changes are detected exactly: a port of both snapshots is in both
maps when its two versions differ and in neither when they do not, and the
comparison reads only records that are in use. -/
structure PortsExact (pPreviousDb pCurrentDb : SsaDbExtract) (d : SsaDbDiff) : Prop where
  changed : ∀ k a b, view pPreviousDb.epPortTbl pPreviousDb.pPortTbl k = some a →
    view pCurrentDb.epPortTbl pCurrentDb.pPortTbl k = some b →
    PortDiffers pPreviousDb pCurrentDb a b →
    (d.epPortTblRemoved.get? k).isSome ∧ (d.epPortTblAdded.get? k).isSome
  unchanged : ∀ k a b, view pPreviousDb.epPortTbl pPreviousDb.pPortTbl k = some a →
    view pCurrentDb.epPortTbl pCurrentDb.pPortTbl k = some b →
    ¬ PortDiffers pPreviousDb pCurrentDb a b →
    d.epPortTblRemoved.get? k = none ∧ d.epPortTblAdded.get? k = none
  reads : ∀ k o o', pPreviousDb.epPortTbl.get? k = some o →
    pCurrentDb.epPortTbl.get? k = some o' →
    oldRecIdx (k, o) (k, o') ∈ slotsOf pPreviousDb.epPortTbl ∧
      newRecIdx (k, o) (k, o') ∈ slotsOf pCurrentDb.epPortTbl

/-- The bytes that the `memcmp` of the port comparator sees for two records
differ: the first `pkey_tbl_size` bytes from the addresses of the two local
pointers on. -/
def PointersDiffer (mem : Mem) (pPreviousDb pCurrentDb : SsaDbExtract) (a b : EpPortTblRec) :
    Prop :=
  pPreviousDb.pPkeyTbl.isNull = false ∧ pCurrentDb.pPkeyTbl.isNull = false ∧
    ∃ i < (ntohs a.pkeyTblSize).toNat,
      bytesOfVar (refRecPtr pPreviousDb.pPkeyTbl a) mem.stackOld i
        ≠ bytesOfVar (refRecPtr pCurrentDb.pPkeyTbl b) mem.stackNew i

/-- For every key of both snapshots, the two records the comparator reads are
in use, and they differ in a field, or have pointers that differ, exactly when
the key's own two versions are different. -/
def PortReadsAgree (mem : Mem) (pPreviousDb pCurrentDb : SsaDbExtract) : Prop :=
  ∀ k o o', pPreviousDb.epPortTbl.get? k = some o → pCurrentDb.epPortTbl.get? k = some o' →
    o + o' ∈ slotsOf pPreviousDb.epPortTbl ∧ 0 ∈ slotsOf pCurrentDb.epPortTbl ∧
      (portFieldsDiffer (pPreviousDb.pPortTbl.cell (o + o')) (pCurrentDb.pPortTbl.cell 0) = true ∨
          PointersDiffer mem pPreviousDb pCurrentDb (pPreviousDb.pPortTbl.cell (o + o'))
            (pCurrentDb.pPortTbl.cell 0) ↔
        PortDiffers pPreviousDb pCurrentDb (pPreviousDb.pPortTbl.cell o)
          (pCurrentDb.pPortTbl.cell o'))

theorem memcmpDiffers_eq_true {a b : Nat → UInt8} {n : Nat} :
    memcmpDiffers a b n = true ↔ ∃ i < n, a i ≠ b i := by
  simp only [memcmpDiffers, List.any_eq_true, List.mem_range, bne_iff_ne]

theorem portChanged_eq_true {mem : Mem} {pPreviousDb pCurrentDb : SsaDbExtract}
    {k : UInt64} {o o' : Nat} :
    portChanged mem pPreviousDb pCurrentDb (k, o) (k, o') = true ↔
      portFieldsDiffer (pPreviousDb.pPortTbl.cell (o + o')) (pCurrentDb.pPortTbl.cell 0) = true ∨
        PointersDiffer mem pPreviousDb pCurrentDb (pPreviousDb.pPortTbl.cell (o + o'))
          (pCurrentDb.pPortTbl.cell 0) := by
  simp only [portChanged, portItemCmp, ssaDbPortCmp, PointersDiffer, Bool.or_eq_true,
    Bool.and_eq_true, Bool.not_eq_true', memcmpDiffers_eq_true, and_assoc]
  rfl

section PortMaps

variable {mem : Mem} {firstTimeSubnetUp : Bool} {ssaDb : SsaDatabase} {d : SsaDbDiff}

/-- The ports that a diff removes, and those it adds. -/
theorem DiffSpec.port_removed (h : DiffSpec mem firstTimeSubnetUp ssaDb d) {k : UInt64} :
    (d.epPortTblRemoved.get? k).isSome = true ↔
      ∃ o, WalkOp.remove (k, o) ∈ portWalk mem ssaDb.pPreviousDb ssaDb.pCurrentDb := by
  have hrem := h.port.placed.removed_isSome (oncePerKey_portOps 0) (k := k)
  rw [← mem_filterMap_removeKey, portDiffOps, filterMap_removeKey_portOps,
    mem_filterMap_removeKey] at hrem
  exact hrem

theorem DiffSpec.port_added (h : DiffSpec mem firstTimeSubnetUp ssaDb d) {k : UInt64} :
    (d.epPortTblAdded.get? k).isSome = true ↔
      ∃ o, WalkOp.add (k, o) ∈ portWalk mem ssaDb.pPreviousDb ssaDb.pCurrentDb := by
  have hadd := h.port.placed.added_isSome (oncePerKey_portOps 0) (k := k)
  rw [← mem_filterMap_addKey, portDiffOps, filterMap_addKey_portOps,
    mem_filterMap_addKey] at hadd
  exact hadd

/-- A port of both snapshots is in a map exactly when the comparator says so. -/
theorem DiffSpec.port_common (h : DiffSpec mem firstTimeSubnetUp ssaDb d) {k : UInt64}
    {o o' : Nat} (ho : ssaDb.pPreviousDb.epPortTbl.get? k = some o)
    (ho' : ssaDb.pCurrentDb.epPortTbl.get? k = some o') :
    ((d.epPortTblRemoved.get? k).isSome = true ↔
        portChanged mem ssaDb.pPreviousDb ssaDb.pCurrentDb (k, o) (k, o') = true) ∧
      ((d.epPortTblAdded.get? k).isSome = true ↔
        portChanged mem ssaDb.pPreviousDb ssaDb.pCurrentDb (k, o) (k, o') = true) := by
  rw [h.port_removed, h.port_added]
  simp only [portWalk, remove_mem_walkOps, add_mem_walkOps, goes_eq, comes_eq, ho, ho',
    Option.some.injEq, exists_eq_left', forall_eq', and_self]

end PortMaps

private theorem isSome_eq_false {α : Type} {o : Option α} :
    ¬ (o.isSome = true) ↔ o = none := by
  cases o <;> simp

/-- Port changes are detected exactly if and only if, for every common key, the
records and pointers that the comparator looks at agree with the key's own. -/
theorem portsExact_iff (mem : Mem) (firstTimeSubnetUp : Bool) (ssaDb : SsaDatabase) :
    PortsExact ssaDb.pPreviousDb ssaDb.pCurrentDb (buildDiff mem firstTimeSubnetUp ssaDb).1 ↔
      PortReadsAgree mem ssaDb.pPreviousDb ssaDb.pCurrentDb := by
  have h := buildDiff_spec mem firstTimeSubnetUp ssaDb
  generalize (buildDiff mem firstTimeSubnetUp ssaDb).1 = d at h ⊢
  constructor
  · intro hexact k o o' ho ho'
    obtain ⟨hold, hnew⟩ := hexact.reads k o o' ho ho'
    refine ⟨hold, hnew, ?_⟩
    have ha : view ssaDb.pPreviousDb.epPortTbl ssaDb.pPreviousDb.pPortTbl k = some _ :=
      view_eq_some.mpr ⟨o, ho, rfl⟩
    have hb : view ssaDb.pCurrentDb.epPortTbl ssaDb.pCurrentDb.pPortTbl k = some _ :=
      view_eq_some.mpr ⟨o', ho', rfl⟩
    rw [← portChanged_eq_true (k := k), ← (h.port_common ho ho').1]
    constructor
    · intro hsome
      by_contra hsame
      rw [(hexact.unchanged k _ _ ha hb hsame).1] at hsome
      cases hsome
    · intro hdiff
      exact (hexact.changed k _ _ ha hb hdiff).1
  · intro hagree
    have hverdict : ∀ k o o', ssaDb.pPreviousDb.epPortTbl.get? k = some o →
        ssaDb.pCurrentDb.epPortTbl.get? k = some o' →
        (portChanged mem ssaDb.pPreviousDb ssaDb.pCurrentDb (k, o) (k, o') = true ↔
          PortDiffers ssaDb.pPreviousDb ssaDb.pCurrentDb (ssaDb.pPreviousDb.pPortTbl.cell o)
            (ssaDb.pCurrentDb.pPortTbl.cell o')) := by
      intro k o o' ho ho'
      rw [portChanged_eq_true]
      exact (hagree k o o' ho ho').2.2
    refine ⟨?_, ?_, ?_⟩
    · intro k a b ha hb hdiff
      obtain ⟨o, ho, rfl⟩ := view_eq_some.mp ha
      obtain ⟨o', ho', rfl⟩ := view_eq_some.mp hb
      have hch := (hverdict k o o' ho ho').mpr hdiff
      exact ⟨(h.port_common ho ho').1.mpr hch, (h.port_common ho ho').2.mpr hch⟩
    · intro k a b ha hb hsame
      obtain ⟨o, ho, rfl⟩ := view_eq_some.mp ha
      obtain ⟨o', ho', rfl⟩ := view_eq_some.mp hb
      have hch := fun hc => hsame ((hverdict k o o' ho ho').mp hc)
      refine ⟨isSome_eq_false.mp ?_, isSome_eq_false.mp ?_⟩
      · rw [(h.port_common ho ho').1]
        exact hch
      · rw [(h.port_common ho ho').2]
        exact hch
    · intro k o o' ho ho'
      obtain ⟨hold, hnew, _⟩ := hagree k o o' ho ho'
      exact ⟨hold, hnew⟩

/-- Three ports with a pkey each, of which the last one goes. -/
def thirdPortGone : SsaDatabase :=
  { ssaDatabaseInit with
    pPreviousDb :=
      portsDb [portWithPkey 1 0, portWithPkey 2 1, portWithPkey 3 2] [0x7fff, 0x8001, 0x8002]
    pCurrentDb := portsDb [portWithPkey 1 0, portWithPkey 2 1] [0x7fff, 0x8001] }

/-- The second port has not changed, and is in the removed map. -/
theorem portsExact_thirdPortGone :
    Dense thirdPortGone.pPreviousDb.epPortTbl ∧ Dense thirdPortGone.pCurrentDb.epPortTbl ∧
      ¬ PortsExact thirdPortGone.pPreviousDb thirdPortGone.pCurrentDb
        (buildDiff default true thirdPortGone).1 := by
  refine ⟨by decide +kernel, by decide +kernel, ?_⟩
  intro hexact
  have hold : view thirdPortGone.pPreviousDb.epPortTbl thirdPortGone.pPreviousDb.pPortTbl 2
      = some (portWithPkey 2 1) := by decide +kernel
  have hnew : view thirdPortGone.pCurrentDb.epPortTbl thirdPortGone.pCurrentDb.pPortTbl 2
      = some (portWithPkey 2 1) := by decide +kernel
  have hsame : ¬ PortDiffers thirdPortGone.pPreviousDb thirdPortGone.pCurrentDb
      (portWithPkey 2 1) (portWithPkey 2 1) := by
    unfold PortDiffers
    decide +kernel
  have hremoved : (buildDiff default true thirdPortGone).1.epPortTblRemoved.get? 2 ≠ none := by
    decide +kernel
  exact hremoved (hexact.unchanged 2 _ _ hold hnew hsame).1

/-! ## The pkeys of an added port -/

/-- Every port of the diff's added map carries its pkeys: at the place its
record in the diff designates, in bytes, lie the bytes its record in the
current snapshot designates, in entries. -/
def PkeysCarried (pCurrentDb : SsaDbExtract) (d : SsaDbDiff) : Prop :=
  ∀ k r, view d.epPortTblAdded d.tables.port k = some r →
    ∃ o, pCurrentDb.epPortTbl.get? k = some o ∧
      r.pkeyTblSize = (pCurrentDb.pPortTbl.cell o).pkeyTblSize ∧
      ∀ j < (ntohs r.pkeyTblSize).toNat,
        d.tables.pkey.cell (ntohll r.pkeyTblOffset + j)
          = bytesOf pCurrentDb.pPkeyTbl
              (SsaTableId.pkey.recSize
                * ntohll (pCurrentDb.pPortTbl.cell o).pkeyTblOffset + j)

/-- A port of the current snapshot that the comparison adds: its key is new,
or the comparator calls it changed. -/
def PortAdded (mem : Mem) (pPreviousDb pCurrentDb : SsaDbExtract) (k : UInt64) (o : Nat) :
    Prop :=
  pCurrentDb.epPortTbl.get? k = some o ∧
    ∀ o₀, pPreviousDb.epPortTbl.get? k = some o₀ →
      ssaDbPortCmp mem (k, o₀) pPreviousDb.pPortTbl pPreviousDb.pPkeyTbl (k, o)
        pCurrentDb.pPortTbl pCurrentDb.pPkeyTbl = true

theorem portAdded_iff {mem : Mem} {pPreviousDb pCurrentDb : SsaDbExtract} {k : UInt64}
    {o : Nat} :
    PortAdded mem pPreviousDb pCurrentDb k o ↔
      WalkOp.add (k, o) ∈ portWalk mem pPreviousDb pCurrentDb := by
  rw [portWalk, add_mem_walkOps, comes_eq]
  rfl

/-- The bytes from byte `off` on, as many as a port has, are those from entry
`off` on. -/
def PkeyUnitsAgree (pPkeyTbl : Buf UInt16) (r : EpPortTblRec) : Prop :=
  ∀ j < (ntohs r.pkeyTblSize).toNat,
    bytesOf pPkeyTbl (ntohll r.pkeyTblOffset + j)
      = bytesOf pPkeyTbl (SsaTableId.pkey.recSize * ntohll r.pkeyTblOffset + j)

/-- What a diff holds for an added port: the record with its place in the PKEY
table, and there the bytes from the byte its entry offset counts. -/
theorem DiffSpec.added_port {mem : Mem} {firstTimeSubnetUp : Bool} {ssaDb : SsaDatabase}
    {d : SsaDbDiff} (h : DiffSpec mem firstTimeSubnetUp ssaDb d)
    (hpk : PkeyTblPresent ssaDb.pCurrentDb) {k : UInt64} {o : Nat}
    (hadd : PortAdded mem ssaDb.pPreviousDb ssaDb.pCurrentDb k o) :
    ∃ r, view d.epPortTblAdded d.tables.port k = some r ∧
      r.pkeyTblSize = (ssaDb.pCurrentDb.pPortTbl.cell o).pkeyTblSize ∧
      ∀ j < (ntohs r.pkeyTblSize).toNat,
        d.tables.pkey.cell (ntohll r.pkeyTblOffset + j)
          = bytesOf ssaDb.pCurrentDb.pPkeyTbl
              (ntohll (ssaDb.pCurrentDb.pPortTbl.cell o).pkeyTblOffset + j) := by
  obtain ⟨c, hmem, hbytes⟩ :
      ∃ c, WalkOp.add (k, rebasePort ssaDb.pCurrentDb.pPkeyTbl c
          (ssaDb.pCurrentDb.pPortTbl.cell o))
        ∈ portDiffOps mem ssaDb.pPreviousDb ssaDb.pCurrentDb ∧ _ :=
    exists_add_mem_portOps (portAdded_iff.mp hadd) (emptyRef mem ssaDb)
  have hpay := portPayload_eq hpk hadd.1
  refine ⟨_, (h.port.placed.view_added (oncePerKey_portOps 0)).mpr hmem,
    pkeyTblSize_rebasePort _ _ _, ?_⟩
  intro j hj
  rw [pkeyTblSize_rebasePort, ← hpay] at hj
  have hoff : ntohll (rebasePort ssaDb.pCurrentDb.pPkeyTbl c
      (ssaDb.pCurrentDb.pPortTbl.cell o)).pkeyTblOffset = c := by
    rw [rebasePort, if_neg (by omega)]
    rfl
  rw [hoff, h.pkeyTable]
  exact hbytes j hj

/-- The added ports carry their pkeys exactly when, for each of them, reading
from the byte that its offset counts is reading from the entry. -/
theorem pkeysCarried_iff (mem : Mem) (firstTimeSubnetUp : Bool) (ssaDb : SsaDatabase)
    (hpk : PkeyTblPresent ssaDb.pCurrentDb) :
    PkeysCarried ssaDb.pCurrentDb (buildDiff mem firstTimeSubnetUp ssaDb).1 ↔
      ∀ k o, PortAdded mem ssaDb.pPreviousDb ssaDb.pCurrentDb k o →
        PkeyUnitsAgree ssaDb.pCurrentDb.pPkeyTbl (ssaDb.pCurrentDb.pPortTbl.cell o) := by
  have h := buildDiff_spec mem firstTimeSubnetUp ssaDb
  generalize (buildDiff mem firstTimeSubnetUp ssaDb).1 = d at h ⊢
  constructor
  · intro hcar k o hadd j hj
    obtain ⟨r, hr, hsize, hbytes⟩ := h.added_port hpk hadd
    obtain ⟨o', ho', _, hright⟩ := hcar k r hr
    obtain rfl : o' = o := Option.some.inj (ho'.symm.trans hadd.1)
    rw [← hsize] at hj
    rw [← hbytes j hj, hright j hj]
  · intro hunits k r hr
    have hsome : (d.epPortTblAdded.get? k).isSome = true := by
      obtain ⟨i, hi, _⟩ := view_eq_some.mp hr
      rw [hi]
      rfl
    obtain ⟨o, hop⟩ := h.port_added.mp hsome
    have hadd := portAdded_iff.mpr hop
    obtain ⟨r', hr', hsize, hbytes⟩ := h.added_port hpk hadd
    obtain rfl : r' = r := Option.some.inj (hr'.symm.trans hr)
    refine ⟨o, hadd.1, hsize, ?_⟩
    intro j hj
    rw [hbytes j hj]
    rw [hsize] at hj
    exact hunits k o hadd j hj

theorem pkeysCarried_iff_twoNewPorts :
    PkeysCarried twoNewPorts.pCurrentDb (buildDiff default true twoNewPorts).1 ↔
      ∀ k o, PortAdded default twoNewPorts.pPreviousDb twoNewPorts.pCurrentDb k o →
        PkeyUnitsAgree twoNewPorts.pCurrentDb.pPkeyTbl (twoNewPorts.pCurrentDb.pPortTbl.cell o) :=
  pkeysCarried_iff default true twoNewPorts pkeyTblPresent_twoNewPorts

/-- The second port's pkey is copied from byte 1, where the first one ends. -/
theorem pkeysCarried_fails_twoNewPorts :
    ¬ PkeysCarried twoNewPorts.pCurrentDb (buildDiff default true twoNewPorts).1 := by
  intro hcarried
  have hadded : view (buildDiff default true twoNewPorts).1.epPortTblAdded
      (buildDiff default true twoNewPorts).1.tables.port 2
        = some { portWithPkey 2 1 with pkeyTblOffset := htonll 2 } := by
    decide +kernel
  obtain ⟨o, ho, _, hbytes⟩ := hcarried 2 _ hadded
  have hplace : twoNewPorts.pCurrentDb.epPortTbl.get? 2 = some 1 := by decide +kernel
  obtain rfl : o = 1 := Option.some.inj (ho.symm.trans hplace)
  have hfirst := hbytes 0 (by decide)
  revert hfirst
  decide +kernel

end Ibssa
