import MVisor.Vfio.Capabilities

/-! `SetupVfioDevice`'s region table. For each region index below `num_regions` the device
returns a `vfio_region_info`; a region of nonzero size whose reported index lies below
`MAX_VFIO_REGIONS` is recorded in `regions_` at that index, and its capability chain walked.
With a device that reports each index it is asked about and chains that end, the table is,
index by index, the region its info describes: the fields the info gives, the sparse areas of
every sparse-mmap capability on its chain in chain order, and the type and subtype of the last
type capability.
-/

namespace MVisor.Vfio

/-- The loop of `SetupVfioDevice` over region indices from `VFIO_PCI_BAR0_REGION_INDEX` (0);
`infos index` is the buffer `VFIO_DEVICE_GET_REGION_INFO` returned for `index`, after the
`argsz` retry. A region of size 0, or whose reported index is not below `MAX_VFIO_REGIONS`,
is passed over.
-/
def setupRegions (maxVfioRegions fuel : Nat) (infos : Nat → Nat → BitVec 8)
    : (Nat → VfioRegion) → List Nat → Option (Except String (Nat → VfioRegion))
  | regions, [] => some (pure regions)
  | regions, index :: rest =>
    let buffer := infos index
    let reported := readLe buffer 8 4
    if readLe buffer 16 8 = 0 ∨ maxVfioRegions ≤ reported then
      setupRegions maxVfioRegions fuel infos regions rest
    else match fillRegion (regions reported) buffer fuel with
      | some (.ok scan) =>
        setupRegions maxVfioRegions fuel infos (Function.update regions reported scan.region) rest
      | some (.error message) => some (.error message)
      | none => none

/-- `SetupVfioDevice`'s region table: `bzero(&regions_)`, then the loop up to `num_regions`. -/
def setupVfioDeviceRegions (maxVfioRegions numRegions fuel : Nat) (infos : Nat → Nat → BitVec 8)
    : Option (Except String (Nat → VfioRegion)) :=
  setupRegions maxVfioRegions fuel infos (fun _ => {}) (List.range numRegions)

-----------------------------------------------------------------------------------------------
-- What a region's info describes

/-- The info lists capabilities and the walk runs: `VFIO_REGION_INFO_FLAG_CAPS` is set and
`cap_offset` is not 0.
-/
def CapsListed (buffer : Nat → BitVec 8) : Prop :=
  readLe buffer 4 4 &&& vfioRegionInfoFlagCaps ≠ 0 ∧ readLe buffer 12 4 ≠ 0

instance (buffer : Nat → BitVec 8) : Decidable (CapsListed buffer) :=
  inferInstanceAs (Decidable (_ ∧ _))

/-- The capabilities of an info whose chain ends after `n`, in chain order. -/
def regionCapabilityChain (buffer : Nat → BitVec 8) (n : Nat) : List Nat :=
  if CapsListed buffer then chainPositions (vfioCapabilityNext buffer) (readLe buffer 12 4) n
  else []

/-- The areas the capability at `offset` adds: those of a sparse-mmap capability. -/
def capabilityAreas (buffer : Nat → BitVec 8) (offset : Nat) : List VfioMmapArea :=
  if readLe buffer offset 2 = vfioRegionInfoCapSparseMmap then
    sparseMmapAreas buffer offset (readLe buffer (offset + 8) 4)
  else []

/-- The type and subtype the capability at `offset` sets: those of a type capability. -/
def capabilityType (buffer : Nat → BitVec 8) (offset : Nat) : Option (Int × Int) :=
  if readLe buffer offset 2 = vfioRegionInfoCapType then
    some ((BitVec.ofNat 32 (readLe buffer (offset + 8) 4)).toInt,
      (BitVec.ofNat 32 (readLe buffer (offset + 12) 4)).toInt)
  else none

/-- `region` after the capabilities of `chain`: their areas appended in chain order, and the
type and subtype of the last type capability, if any.
-/
def walkedRegion (buffer : Nat → BitVec 8) (region : VfioRegion) (chain : List Nat)
    : VfioRegion :=
  let typed := (chain.filterMap (capabilityType buffer)).getLast?
  { region with
    mmapAreas := region.mmapAreas ++ chain.flatMap (capabilityAreas buffer)
    type := typed.elim region.type Prod.fst
    subtype := typed.elim region.subtype Prod.snd }

/-- The region an info describes, recorded over `start`, its chain ending after `n`. -/
def parsedRegion (start : VfioRegion) (buffer : Nat → BitVec 8) (n : Nat) : VfioRegion :=
  walkedRegion buffer
    { start with
      index := readLe buffer 8 4, flags := BitVec.ofNat 32 (readLe buffer 4 4)
      offset := BitVec.ofNat 64 (readLe buffer 24 8), size := BitVec.ofNat 64 (readLe buffer 16 8) }
    (regionCapabilityChain buffer n)

@[simp] theorem walkedRegion_nil (buffer : Nat → BitVec 8) (region : VfioRegion)
    : walkedRegion buffer region [] = region := by
  simp [walkedRegion]

theorem walkedRegion_singleton (buffer : Nat → BitVec 8) (region : VfioRegion) (offset : Nat)
    : walkedRegion buffer region [offset]
      = { region with
          mmapAreas := region.mmapAreas ++ capabilityAreas buffer offset
          type := (capabilityType buffer offset).elim region.type Prod.fst
          subtype := (capabilityType buffer offset).elim region.subtype Prod.snd } := by
  cases typed : capabilityType buffer offset
    <;> simp only [walkedRegion, List.filterMap_cons, List.filterMap_nil, typed,
      List.flatMap_cons, List.flatMap_nil, List.append_nil, List.getLast?_nil,
      List.getLast?_singleton]

/-- The capabilities of a chain one after the other. -/
theorem walkedRegion_cons (buffer : Nat → BitVec 8) (region : VfioRegion) (offset : Nat)
    (rest : List Nat)
    : walkedRegion buffer region (offset :: rest)
      = walkedRegion buffer (walkedRegion buffer region [offset]) rest := by
  rw [walkedRegion_singleton]
  cases typed : capabilityType buffer offset
    <;> cases last : (rest.filterMap (capabilityType buffer)).getLast?
    <;> simp only [walkedRegion, List.filterMap_cons, typed, last, List.flatMap_cons,
      List.append_assoc, List.getLast?_cons, Option.getD_none, Option.getD_some, Option.elim]

/-- One capability of the walk: its areas appended, its type and subtype taken if it has
them.
-/
theorem regionCapabilityVisit_region (buffer : Nat → BitVec 8) (scan : RegionCapabilityScan)
    (offset : Nat)
    : ∃ reads, regionCapabilityVisit buffer scan offset
      = .ok ⟨walkedRegion buffer scan.region [offset], reads⟩ := by
  rw [walkedRegion_singleton]
  unfold regionCapabilityVisit capabilityAreas capabilityType
  by_cases sparse : readLe buffer offset 2 = vfioRegionInfoCapSparseMmap
  · have untyped : readLe buffer offset 2 ≠ vfioRegionInfoCapType := by rw [sparse]; decide
    simp only [if_pos sparse, if_neg untyped, Option.elim]
    exact ⟨_, rfl⟩
  · by_cases typed : readLe buffer offset 2 = vfioRegionInfoCapType
    · simp only [if_neg sparse, if_pos typed, Option.elim, List.append_nil]
      exact ⟨_, rfl⟩
    · simp only [if_neg sparse, if_neg typed, Option.elim, List.append_nil]
      exact ⟨_, rfl⟩

/-- The walk over a chain leaves the region `walkedRegion` describes; no region capability
panics.
-/
theorem regionCapabilityVisit_foldlM (buffer : Nat → BitVec 8)
    : ∀ (chain : List Nat) (scan : RegionCapabilityScan), ∃ reads,
      chain.foldlM (regionCapabilityVisit buffer) scan
        = .ok ⟨walkedRegion buffer scan.region chain, reads⟩
  | [], scan => ⟨scan.reads, by simp⟩
  | offset :: rest, scan => by
    obtain ⟨reads, visited⟩ := regionCapabilityVisit_region buffer scan offset
    obtain ⟨reads', walked⟩ := regionCapabilityVisit_foldlM buffer rest
      ⟨walkedRegion buffer scan.region [offset], reads⟩
    refine ⟨reads', ?_⟩
    rw [List.foldlM_cons, visited, walkedRegion_cons buffer scan.region offset rest]
    exact walked

/-- An info whose chain ends within the fuel is recorded as the region it describes. -/
theorem fillRegion_parsed {region : VfioRegion} {buffer : Nat → BitVec 8} {n fuel : Nat}
    (ends : CapsListed buffer
      → ChainEnds (vfioCapabilityNext buffer) (readLe buffer 12 4) n ∧ n < fuel)
    : ∃ scan, fillRegion region buffer fuel = some (.ok scan)
      ∧ scan.region = parsedRegion region buffer n := by
  simp only [fillRegion, parsedRegion, regionCapabilityChain]
  by_cases listed : CapsListed buffer
  · obtain ⟨chain, enough⟩ := ends listed
    rw [if_pos (show readLe buffer 4 4 &&& vfioRegionInfoFlagCaps ≠ 0 ∧ readLe buffer 12 4 ≠ 0
      from listed), if_pos listed, walkChain_ends chain enough]
    obtain ⟨reads, walked⟩ := regionCapabilityVisit_foldlM buffer
      (chainPositions (vfioCapabilityNext buffer) (readLe buffer 12 4) n) ⟨_, []⟩
    exact ⟨_, by rw [walked], rfl⟩
  · rw [if_neg (show ¬(readLe buffer 4 4 &&& vfioRegionInfoFlagCaps ≠ 0
      ∧ readLe buffer 12 4 ≠ 0) from listed), if_neg listed]
    exact ⟨_, rfl, (walkedRegion_nil ..).symm⟩

-----------------------------------------------------------------------------------------------
-- The table

/-- The loop over distinct indices, each reported as itself and with a chain that ends within
the fuel, records each region of nonzero size below `MAX_VFIO_REGIONS` over the entry it finds,
and leaves every other entry as it was.
-/
theorem setupRegions_parsed {maxVfioRegions fuel : Nat} {infos : Nat → Nat → BitVec 8}
    {lengths : Nat → Nat}
    : ∀ {indices : List Nat} {regions : Nat → VfioRegion}, indices.Nodup
      → (∀ k ∈ indices, readLe (infos k) 8 4 = k)
      → (∀ k ∈ indices, CapsListed (infos k)
        → ChainEnds (vfioCapabilityNext (infos k)) (readLe (infos k) 12 4) (lengths k)
          ∧ lengths k < fuel)
      → setupRegions maxVfioRegions fuel infos regions indices
        = some (.ok fun k =>
            if k ∈ indices ∧ k < maxVfioRegions ∧ readLe (infos k) 16 8 ≠ 0 then
              parsedRegion (regions k) (infos k) (lengths k)
            else regions k)
  | [], regions, _, _, _ => by simp [setupRegions]
  | index :: rest, regions, nodup, reported, ends => by
    obtain ⟨fresh, distinct⟩ := List.nodup_cons.mp nodup
    have later : ∀ {P : Nat → Prop}, (∀ k ∈ index :: rest, P k) → ∀ k ∈ rest, P k :=
      fun all k mem => all k (List.mem_cons_of_mem _ mem)
    have here := reported index (List.mem_cons_self _ _)
    simp only [setupRegions, here]
    by_cases skipped : readLe (infos index) 16 8 = 0 ∨ maxVfioRegions ≤ index
    · rw [if_pos skipped, setupRegions_parsed distinct (later reported) (later ends)]
      refine congrArg (fun table => some (Except.ok table)) (funext fun k => ?_)
      by_cases same : k = index
      · subst same
        simp only [fresh, false_and, if_false, List.mem_cons_self, true_and]
        exact (if_neg fun ⟨below, nonzero⟩ => skipped.elim nonzero (Nat.not_le.mpr below)).symm
      · simp [same]
    · obtain ⟨scan, filled, region⟩ := @fillRegion_parsed (regions index) (infos index)
        (lengths index) fuel (ends index (List.mem_cons_self _ _))
      rw [if_neg skipped, filled]
      simp only
      rw [setupRegions_parsed distinct (later reported) (later ends)]
      refine congrArg (fun table => some (Except.ok table)) (funext fun k => ?_)
      by_cases same : k = index
      · subst same
        simp only [fresh, false_and, if_false, Function.update_same, region]
        have ⟨nonzero, below⟩ := not_or.mp skipped
        exact (if_pos ⟨List.mem_cons_self _ _, Nat.lt_of_not_le below, nonzero⟩).symm
      · simp [same, Function.update_noteq same]

/-- For every device that reports each region index it is asked about, and whose regions'
capability chains end within the fuel, `SetupVfioDevice` builds the region table index by
index: an index below `num_regions` and `MAX_VFIO_REGIONS` whose region has nonzero size holds
the region its info describes, with the sparse areas of every sparse-mmap capability on its
chain in chain order and the type and subtype of the last type capability; every other entry
stays zeroed. Witness: the loop records each index once (`setupRegions_parsed`), and each walk
is the fold of its visits (`walkChain_ends`).
-/
theorem region_table_parsed {maxVfioRegions numRegions fuel : Nat}
    {infos : Nat → Nat → BitVec 8} {lengths : Nat → Nat}
    (reported : ∀ k < numRegions, readLe (infos k) 8 4 = k)
    (ends : ∀ k < numRegions, CapsListed (infos k)
      → ChainEnds (vfioCapabilityNext (infos k)) (readLe (infos k) 12 4) (lengths k)
        ∧ lengths k < fuel)
    : setupVfioDeviceRegions maxVfioRegions numRegions fuel infos
      = some (.ok fun k =>
          if k < numRegions ∧ k < maxVfioRegions ∧ readLe (infos k) 16 8 ≠ 0 then
            parsedRegion {} (infos k) (lengths k)
          else {}) := by
  rw [setupVfioDeviceRegions, setupRegions_parsed (List.nodup_range _)
    (fun k mem => reported k (List.mem_range.mp mem)) (fun k mem => ends k (List.mem_range.mp mem))]
  simp only [List.mem_range]

/-- Region 0 (flags READ, WRITE, MMAP and CAPS, size 0x1000000, `cap_offset` 32) lists a
sparse-mmap capability at 32 with one area (offset 0, size 0x100000), then a type capability
at 64 (type 1, subtype 2); region 1 has size 0.
-/
def sparseBarInfos : Nat → Nat → BitVec 8 := fun index k =>
  if index = 0 then
    if k = 0 then 80 else if k = 4 then 0x0f else if k = 12 then 32 else if k = 19 then 0x01
    else if k = 32 then 1 else if k = 36 then 64 else if k = 40 then 1 else if k = 58 then 0x10
    else if k = 64 then 2 else if k = 72 then 1 else if k = 76 then 2 else 0
  else if k = 8 then 1 else 0

/-- Over `sparseBarInfos`, region 0 is recorded with its area and its type, region 1 left
zeroed.
-/
theorem sparse_bar_region_parsed
    : setupVfioDeviceRegions 9 2 3 sparseBarInfos
        = some (.ok fun k =>
            if k < 2 ∧ k < 9 ∧ readLe (sparseBarInfos k) 16 8 ≠ 0 then
              parsedRegion {} (sparseBarInfos k) (if k = 0 then 2 else 0)
            else {})
      ∧ parsedRegion {} (sparseBarInfos 0) 2
        = { flags := 0x0f, size := 0x1000000, type := 1, subtype := 2,
            mmapAreas := [⟨0, 0x100000, none⟩] } :=
  ⟨@region_table_parsed 9 2 3 sparseBarInfos (fun k => if k = 0 then 2 else 0) (by decide)
    (by decide), by decide⟩

end MVisor.Vfio
