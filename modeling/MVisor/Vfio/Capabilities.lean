import MVisor.Vfio.ConfigSpace

/-! The capability walks: the PCI capability list of `SetupPciConfiguration`, and the VFIO
info capability chains of `SetupVfioContainer` and `SetupVfioDevice`. Each follows `next`
offsets from a start until one is 0; none bounds the offsets it follows against its buffer,
nor the number of steps. A walk is run with fuel, and `none` is a walk still going when its
fuel ran out. The layouts of `linux/pci_regs.h` and `linux/vfio.h` are those of the kernel
headers the source includes.
-/

namespace MVisor.Vfio

/-- `PCI_STATUS`, the status register's offset. -/
def pciStatus : Nat := 0x06
/-- `PCI_STATUS_CAP_LIST`, in the status register's low byte. -/
def pciStatusCapList : BitVec 8 := 0x10
/-- `PCI_CAPABILITY_LIST`: the byte holding the first capability's position. -/
def pciCapabilityList : Nat := 0x34
def pciCapIdMsi : BitVec 8 := 0x05
def pciCapIdMsix : BitVec 8 := 0x11
/-- `PCI_MSI_FLAGS_64BIT`, of the MSI control word. -/
def pciMsiFlags64bit : Nat := 0x0080
/-- `PCI_MSI_FLAGS_MASKBIT`, of the MSI control word. -/
def pciMsiFlagsMaskbit : Nat := 0x0100
/-- `sizeof(MsiCapability64)`, whose declaration is not in the repository: a 64-bit MSI
capability without per-vector masking (which the walk asserts) is its header, control word,
two address words and data word, 14 bytes.
-/
def msiCapability64Size : Nat := 14

/-- `sizeof(vfio_info_cap_header)`: `id` (2 bytes), `version` (2), `next` (4). -/
def vfioInfoCapHeaderSize : Nat := 8
def vfioRegionInfoFlagCaps : Nat := 0x8
def vfioRegionInfoCapSparseMmap : Nat := 1
def vfioRegionInfoCapType : Nat := 2
def vfioIommuInfoCaps : Nat := 0x2
def vfioIommuType1InfoCapMigration : Nat := 2
def pageSize : Nat := 4096

/-- The little-endian value of the `n` bytes at `offset`. -/
def readLe (bytes : Nat → BitVec 8) (offset : Nat) : Nat → Nat
  | 0 => 0
  | n + 1 => (bytes offset).toNat + 256 * readLe bytes (offset + 1) n

-----------------------------------------------------------------------------------------------
-- The iterator the three walks share

/-- From `pos`, visit each nonzero position and go on to the one `next` names there, until it
is 0. `fuel` bounds the visits; a panicking visit ends the walk.
-/
def walkChain {σ : Type} (next : Nat → Nat) (visit : σ → Nat → Except String σ)
    : Nat → Nat → σ → Option (Except String σ)
  | 0, _, _ => none
  | fuel + 1, pos, acc =>
    if pos = 0 then some (pure acc)
    else match visit acc pos with
      | .error message => some (.error message)
      | .ok acc => walkChain next visit fuel (next pos) acc

/-- A position that names itself as next, and whose visit does not panic, is visited for
ever: no fuel ends the walk. Witness: each visit leaves the walk where it was.
-/
theorem walkChain_self_loop {σ : Type} {next : Nat → Nat} {visit : σ → Nat → Except String σ}
    {pos : Nat} (nonzero : pos ≠ 0) (loops : next pos = pos)
    (passes : ∀ acc, ∃ acc', visit acc pos = .ok acc')
    : ∀ fuel acc, walkChain next visit fuel pos acc = none
  | 0, _ => rfl
  | fuel + 1, acc => by
    obtain ⟨acc', visited⟩ := passes acc
    simp only [walkChain, nonzero, if_false, visited, loops]
    exact walkChain_self_loop nonzero loops passes fuel acc'

/-- The positions a chain visits from `pos`: `pos`, `next pos`, ..., `n` of them. -/
def chainPositions (next : Nat → Nat) (pos n : Nat) : List Nat :=
  (List.range n).map fun m => next^[m] pos

/-- The chain from `pos` reaches 0 after `n` nonzero positions. -/
def ChainEnds (next : Nat → Nat) (pos n : Nat) : Prop :=
  next^[n] pos = 0 ∧ ∀ m < n, next^[m] pos ≠ 0

instance (next : Nat → Nat) (pos n : Nat) : Decidable (ChainEnds next pos n) :=
  inferInstanceAs (Decidable (_ ∧ _))

theorem chainPositions_succ (next : Nat → Nat) (pos n : Nat)
    : chainPositions next pos (n + 1) = pos :: chainPositions next (next pos) n := by
  simp only [chainPositions, List.range_succ_eq_map, List.map_cons, List.map_map,
    Function.iterate_zero, id, Function.comp_def, Function.iterate_succ_apply]

/-- A chain that ends is walked in full by any fuel above its length: the walk is the visits
of its positions in order, stopping at the first that panics.
-/
theorem walkChain_ends {σ : Type} {next : Nat → Nat} {visit : σ → Nat → Except String σ}
    : ∀ {n fuel pos : Nat} {acc : σ}, ChainEnds next pos n → n < fuel
      → walkChain next visit fuel pos acc = some ((chainPositions next pos n).foldlM visit acc)
  | _, 0, _, _, _, enough => absurd enough (Nat.not_lt_zero _)
  | 0, fuel + 1, pos, acc, ⟨ends, _⟩, _ => by
    simp only [Function.iterate_zero, id] at ends
    simp [walkChain, ends, chainPositions]
  | n + 1, fuel + 1, pos, acc, ⟨ends, before⟩, enough => by
    have nonzero : pos ≠ 0 := before 0 (by omega)
    rw [chainPositions_succ, List.foldlM_cons, walkChain, if_neg nonzero]
    cases visit acc pos with
    | error message => rfl
    | ok acc' =>
      have rest : ChainEnds next (next pos) n := by
        refine ⟨by rwa [← Function.iterate_succ_apply], fun m lt => ?_⟩
        rw [← Function.iterate_succ_apply]
        exact before (m + 1) (by omega)
      exact walkChain_ends rest (by omega)

-----------------------------------------------------------------------------------------------
-- The PCI capability list

/-- What the PCI walk records: `msi_config_.offset` once an MSI capability is found, and the
byte ranges of the header it read, as (offset, length).
-/
structure PciCapabilityScan where
  msiOffset : Option Nat
  reads : List (Nat × Nat)
  deriving DecidableEq, Repr

/-- One iteration at `pos`: the two bytes of `PciCapabilityHeader` are read; an MSI capability
must have no per-vector masking and a 64-bit address, and is recorded with its whole
structure; MSI-X panics; vendor-specific (`PCI_CAP_ID_VNDR`) and other capabilities are passed over.
-/
def pciCapabilityVisit (header : Nat → BitVec 8) (scan : PciCapabilityScan) (pos : Nat)
    : Except String PciCapabilityScan :=
  let reads := scan.reads ++ [(pos, 2)]
  if header pos = pciCapIdMsi then
    let control := readLe header (pos + pciMsiFlags) 2
    if control &&& pciMsiFlagsMaskbit ≠ 0 then throw "!(msi_cap->control & PCI_MSI_FLAGS_MASKBIT)"
    else if control &&& pciMsiFlags64bit = 0 then throw "msi_cap->control & PCI_MSI_FLAGS_64BIT"
    else pure ⟨some pos, reads ++ [(pos, msiCapability64Size)]⟩
  else if header pos = pciCapIdMsix then throw "FIXME: not implemented vfio msix"
  else pure { scan with reads := reads }

/-- `cap->next`. -/
def pciCapabilityNext (header : Nat → BitVec 8) (pos : Nat) : Nat :=
  (header (pos + 1)).toNat

/-- The capability walk of `SetupPciConfiguration` over the config-space image `header`: from
`capability & ~3` when the status register has `PCI_STATUS_CAP_LIST`.
-/
def setupCapabilities (header : Nat → BitVec 8) (fuel : Nat)
    : Option (Except String PciCapabilityScan) :=
  if header pciStatus &&& pciStatusCapList = 0 then some (pure ⟨none, []⟩)
  else
    walkChain (pciCapabilityNext header) (pciCapabilityVisit header) fuel
      (header pciCapabilityList &&& ~~~3).toNat ⟨none, []⟩

-----------------------------------------------------------------------------------------------
-- The VFIO info capability chains

/-- `cap_header->next`: the next header's offset from the start of the info buffer. -/
def vfioCapabilityNext (buffer : Nat → BitVec 8) (offset : Nat) : Nat :=
  readLe buffer (offset + 4) 4

/-- What the region-info walk records: the region it fills in, and the byte ranges of the
buffer it read.
-/
structure RegionCapabilityScan where
  region : VfioRegion
  reads : List (Nat × Nat)

/-- `areas[0 .. nr_areas)` of the sparse-mmap capability at `offset`: 16 bytes each, `offset`
then `size`, from byte 16 of the capability.
-/
def sparseMmapAreas (buffer : Nat → BitVec 8) (offset nrAreas : Nat) : List VfioMmapArea :=
  (List.range nrAreas).map fun j =>
    ⟨BitVec.ofNat 64 (readLe buffer (offset + 16 + 16 * j) 8),
      BitVec.ofNat 64 (readLe buffer (offset + 24 + 16 * j) 8), none⟩

/-- One iteration of `SetupVfioDevice`'s walk at `offset`: a sparse-mmap capability pushes its
`nr_areas` areas, a type capability sets the region's type and subtype (`int` members), and
others are passed over.
-/
def regionCapabilityVisit (buffer : Nat → BitVec 8) (scan : RegionCapabilityScan)
    (offset : Nat) : Except String RegionCapabilityScan :=
  let reads := scan.reads ++ [(offset, vfioInfoCapHeaderSize)]
  let id := readLe buffer offset 2
  if id = vfioRegionInfoCapSparseMmap then
    let nrAreas := readLe buffer (offset + 8) 4
    pure ⟨{ scan.region with
        mmapAreas := scan.region.mmapAreas ++ sparseMmapAreas buffer offset nrAreas },
      reads ++ [(offset + 8, 4)] ++ (List.range nrAreas).map fun j => (offset + 16 + 16 * j, 16)⟩
  else if id = vfioRegionInfoCapType then
    pure ⟨{ scan.region with
        type := (BitVec.ofNat 32 (readLe buffer (offset + 8) 4)).toInt
        subtype := (BitVec.ofNat 32 (readLe buffer (offset + 12) 4)).toInt },
      reads ++ [(offset + 8, 8)]⟩
  else pure { scan with reads := reads }

/-- `SetupVfioDevice`'s filling of `regions_[region_info->index]` from the `vfio_region_info`
buffer the second `VFIO_DEVICE_GET_REGION_INFO` returned: the four fields it assigns (`flags`
at 4, `index` at 8, `size` at 16, `offset` at 24), then, when `VFIO_REGION_INFO_FLAG_CAPS` is
set and `cap_offset` (at 12) is not 0, the capability walk, which pushes onto the region's
areas and overwrites its type.
-/
def fillRegion (region : VfioRegion) (buffer : Nat → BitVec 8) (fuel : Nat)
    : Option (Except String RegionCapabilityScan) :=
  let flags := readLe buffer 4 4
  let capOffset := readLe buffer 12 4
  let region : VfioRegion :=
    { region with
      index := readLe buffer 8 4, flags := BitVec.ofNat 32 flags
      offset := BitVec.ofNat 64 (readLe buffer 24 8), size := BitVec.ofNat 64 (readLe buffer 16 8) }
  if flags &&& vfioRegionInfoFlagCaps ≠ 0 ∧ capOffset ≠ 0 then
    walkChain (vfioCapabilityNext buffer) (regionCapabilityVisit buffer) fuel capOffset
      ⟨region, []⟩
  else some (pure ⟨region, []⟩)

/-- The filling of an entry of `regions_`, which `SetupVfioDevice` zeroes before its loop, from
one info buffer.
-/
def setupRegion (buffer : Nat → BitVec 8) (fuel : Nat)
    : Option (Except String RegionCapabilityScan) :=
  fillRegion {} buffer fuel

/-- One iteration of `SetupVfioContainer`'s walk at `offset`: a migration capability must
support 4 KiB pages (`pgsize_bitmap`, 8 bytes at 16).
-/
def iommuCapabilityVisit (buffer : Nat → BitVec 8) (reads : List (Nat × Nat)) (offset : Nat)
    : Except String (List (Nat × Nat)) :=
  let reads := reads ++ [(offset, vfioInfoCapHeaderSize)]
  if readLe buffer offset 2 = vfioIommuType1InfoCapMigration then
    if readLe buffer (offset + 16) 8 &&& pageSize = 0 then
      throw "cap_migration->pgsize_bitmap & PAGE_SIZE"
    else pure (reads ++ [(offset + 16, 8)])
  else pure reads

/-- The capability walk of `SetupVfioContainer` over the `vfio_iommu_type1_info` buffer
(`flags` at 4, `cap_offset` at 16), when `VFIO_IOMMU_INFO_CAPS` is set and `cap_offset` is
not 0; it records the byte ranges read.
-/
def iommuInfoCapabilities (buffer : Nat → BitVec 8) (fuel : Nat)
    : Option (Except String (List (Nat × Nat))) :=
  let flags := readLe buffer 4 4
  let capOffset := readLe buffer 16 4
  if flags &&& vfioIommuInfoCaps ≠ 0 ∧ capOffset ≠ 0 then
    walkChain (vfioCapabilityNext buffer) (iommuCapabilityVisit buffer) fuel capOffset []
  else some (pure [])

-----------------------------------------------------------------------------------------------
-- Chains that loop or run off their buffer

/-- A config-space image with a capability list (status 0x10) starting at 0x40, where a
vendor-specific capability names itself as next.
-/
def loopingHeader : Nat → BitVec 8 := fun k =>
  if k = pciStatus then 0x10 else if k = pciCapabilityList then 0x40
  else if k = 0x40 then 0x09 else if k = 0x41 then 0x40 else 0

/-- Vendor-specific capabilities at 0x40 and at 0xff, the header's last byte, whose `next` is
then byte 0x100.
-/
def edgeHeader : Nat → BitVec 8 := fun k =>
  if k = pciStatus then 0x10 else if k = pciCapabilityList then 0x40
  else if k = 0x40 ∨ k = 0xff then 0x09 else if k = 0x41 then 0xff else 0

/-- A 40-byte `vfio_region_info` buffer (argsz 40, flags READ, WRITE, MMAP and CAPS, size
0x1000, `cap_offset` 32) whose capability at 32, of an unknown id, names itself as next.
-/
def loopingInfo : Nat → BitVec 8 := fun k =>
  if k = 0 then 40 else if k = 4 then 0x0f else if k = 12 then 32 else if k = 17 then 0x10
  else if k = 32 then 3 else if k = 36 then 32 else 0

/-- A 48-byte `vfio_region_info` buffer (argsz 48, flags READ, WRITE, MMAP and CAPS, size
0x1000, `cap_offset` 32) holding at 32 a sparse-mmap capability with no next and `nr_areas` 1:
its one area would start at byte 48.
-/
def sparseInfo : Nat → BitVec 8 := fun k =>
  if k = 0 then 48 else if k = 4 then 0x0f else if k = 12 then 32 else if k = 17 then 0x10
  else if k = 32 then 1 else if k = 40 then 1 else 0

/-- The PCI walk over `loopingHeader` never ends, the one over `edgeHeader` reads byte 0x100
past the 256-byte header, the region walk over `loopingInfo` never ends, and the one over
`sparseInfo` reads the area array past the buffer's 48 bytes.
-/
theorem capability_walks_loop_and_overrun
    : (∀ fuel, setupCapabilities loopingHeader fuel = none)
      ∧ setupCapabilities edgeHeader 3 = some (.ok ⟨none, [(0x40, 2), (0xff, 2)]⟩)
      ∧ (∀ fuel, setupRegion loopingInfo fuel = none)
      ∧ ∃ scan, setupRegion sparseInfo 2 = some (.ok scan) ∧ readLe sparseInfo 0 4 = 48
        ∧ (48, 16) ∈ scan.reads := by
  refine ⟨fun fuel => ?_, rfl, fun fuel => ?_, _, rfl, rfl, by decide⟩
  · rw [setupCapabilities, if_neg (by decide)]
    refine walkChain_self_loop ?_ ?_ ?_ fuel _
    exacts [by decide, by decide, fun _ => ⟨_, rfl⟩]
  · rw [setupRegion, fillRegion, if_pos (by decide)]
    refine walkChain_self_loop ?_ ?_ ?_ fuel _
    exacts [by decide, by decide, fun _ => ⟨_, rfl⟩]

-----------------------------------------------------------------------------------------------
-- Capability lists that end

/-- The positions of the capability list of `SetupPciConfiguration`, from `capability & ~3`. -/
def pciCapabilityChain (header : Nat → BitVec 8) (n : Nat) : List Nat :=
  chainPositions (pciCapabilityNext header) (header pciCapabilityList &&& ~~~3).toNat n

/-- The walk passes the capability at `pos` without a panic: it is not MSI-X, and an MSI
capability has no per-vector masking and a 64-bit address.
-/
def PciCapabilityAccepted (header : Nat → BitVec 8) (pos : Nat) : Prop :=
  header pos ≠ pciCapIdMsix
    ∧ (header pos = pciCapIdMsi
      → readLe header (pos + pciMsiFlags) 2 &&& pciMsiFlagsMaskbit = 0
        ∧ readLe header (pos + pciMsiFlags) 2 &&& pciMsiFlags64bit ≠ 0)

instance (header : Nat → BitVec 8) (pos : Nat) : Decidable (PciCapabilityAccepted header pos) :=
  inferInstanceAs (Decidable (_ ∧ _))

/-- The byte ranges the walk reads at `pos`: the capability's header, and a whole MSI
capability.
-/
def pciCapabilityReads (header : Nat → BitVec 8) (pos : Nat) : List (Nat × Nat) :=
  (pos, 2) :: if header pos = pciCapIdMsi then [(pos, msiCapability64Size)] else []

theorem pciCapabilityVisit_accepted {header : Nat → BitVec 8} {scan : PciCapabilityScan}
    {pos : Nat} (accepted : PciCapabilityAccepted header pos)
    : pciCapabilityVisit header scan pos
      = .ok ⟨if header pos = pciCapIdMsi then some pos else scan.msiOffset,
          scan.reads ++ pciCapabilityReads header pos⟩ := by
  obtain ⟨notMsix, msiChecked⟩ := accepted
  unfold pciCapabilityVisit pciCapabilityReads
  by_cases msi : header pos = pciCapIdMsi
  · obtain ⟨unmasked, wide⟩ := msiChecked msi
    simp [msi, unmasked, wide]
  · simp [msi, notMsix]

theorem pciCapabilityVisit_rejected {header : Nat → BitVec 8} {scan : PciCapabilityScan}
    {pos : Nat} (rejected : ¬ PciCapabilityAccepted header pos)
    : ∃ message, pciCapabilityVisit header scan pos = .error message := by
  simp only [pciCapabilityVisit]
  by_cases msi : header pos = pciCapIdMsi
  · rw [if_pos msi]
    by_cases masked : readLe header (pos + pciMsiFlags) 2 &&& pciMsiFlagsMaskbit = 0
    · by_cases narrow : readLe header (pos + pciMsiFlags) 2 &&& pciMsiFlags64bit = 0
      · rw [if_neg (not_not.mpr masked), if_pos narrow]
        exact ⟨_, rfl⟩
      · exact absurd ⟨by rw [msi]; decide, fun _ => ⟨masked, narrow⟩⟩ rejected
    · rw [if_pos masked]
      exact ⟨_, rfl⟩
  · by_cases msix : header pos = pciCapIdMsix
    · rw [if_neg msi, if_pos msix]
      exact ⟨_, rfl⟩
    · exact absurd ⟨msix, fun same => absurd same msi⟩ rejected

/-- Over a list of capabilities the walk accepts, it keeps the last MSI capability and reads
each capability's bytes in turn.
-/
theorem pciCapabilityVisit_foldlM_ok {header : Nat → BitVec 8}
    : ∀ {chain : List Nat} {scan : PciCapabilityScan},
      (∀ pos ∈ chain, PciCapabilityAccepted header pos)
      → chain.foldlM (pciCapabilityVisit header) scan
        = .ok ⟨((chain.filter fun pos => header pos = pciCapIdMsi).getLast?).or scan.msiOffset,
            scan.reads ++ chain.flatMap (pciCapabilityReads header)⟩
  | [], scan, _ => by simp
  | pos :: rest, scan, accepted => by
    rw [List.foldlM_cons, pciCapabilityVisit_accepted (accepted pos (List.mem_cons_self _ _))]
    simp only [bind, Except.bind]
    rw [pciCapabilityVisit_foldlM_ok fun other mem => accepted other (List.mem_cons_of_mem _ mem)]
    by_cases msi : header pos = pciCapIdMsi
      <;> cases last : (rest.filter fun pos => header pos = pciCapIdMsi).getLast?
      <;> simp [msi, last, List.filter_cons, List.getLast?_cons]

/-- A capability the walk does not accept on the list makes it panic. -/
theorem pciCapabilityVisit_foldlM_error {header : Nat → BitVec 8}
    : ∀ {chain : List Nat} {scan : PciCapabilityScan},
      (∃ pos ∈ chain, ¬ PciCapabilityAccepted header pos)
      → ∃ message, chain.foldlM (pciCapabilityVisit header) scan = .error message
  | [], _, ⟨_, mem, _⟩ => by cases mem
  | pos :: rest, scan, ⟨bad, mem, rejected⟩ => by
    rw [List.foldlM_cons]
    by_cases first : PciCapabilityAccepted header pos
    · rw [pciCapabilityVisit_accepted first]
      rcases List.mem_cons.mp mem with rfl | later
      · exact absurd first rejected
      · exact pciCapabilityVisit_foldlM_error ⟨bad, later, rejected⟩
    · obtain ⟨message, panics⟩ := @pciCapabilityVisit_rejected header scan pos first
      exact ⟨message, by rw [panics]; rfl⟩

/-- For every config-space image with a capability list that ends after `n` capabilities, the
walk of `SetupPciConfiguration` returns for any fuel above `n`. It panics exactly when a
capability on the list is MSI-X, or MSI with per-vector masking or a 32-bit address;
otherwise `msi_config_.offset` is the last MSI capability on the list, if any, and the walk
reads each capability's header and each MSI capability's 14 bytes, in list order, and nothing
else. Witness: `walkChain_ends`, then the visits one by one.
-/
theorem capability_list_walked {header : Nat → BitVec 8} {n fuel : Nat}
    (listed : header pciStatus &&& pciStatusCapList ≠ 0)
    (ends : ChainEnds (pciCapabilityNext header) (header pciCapabilityList &&& ~~~3).toNat n)
    (enough : n < fuel)
    : ((∀ pos ∈ pciCapabilityChain header n, PciCapabilityAccepted header pos)
        → setupCapabilities header fuel
          = some (.ok ⟨((pciCapabilityChain header n).filter
                fun pos => header pos = pciCapIdMsi).getLast?,
              (pciCapabilityChain header n).flatMap (pciCapabilityReads header)⟩))
      ∧ ((∃ pos ∈ pciCapabilityChain header n, ¬ PciCapabilityAccepted header pos)
        → ∃ message, setupCapabilities header fuel = some (.error message)) := by
  have walked : setupCapabilities header fuel = some ((pciCapabilityChain header n).foldlM
      (pciCapabilityVisit header) ⟨none, []⟩) := by
    rw [setupCapabilities, if_neg listed, walkChain_ends ends enough, pciCapabilityChain]
  rw [walked]
  refine ⟨fun accepted => ?_, fun rejected => ?_⟩
  · rw [pciCapabilityVisit_foldlM_ok accepted]
    simp
  · obtain ⟨message, panics⟩ := @pciCapabilityVisit_foldlM_error header _ ⟨none, []⟩ rejected
    exact ⟨message, by rw [panics]⟩

/-- A config-space image listing a vendor-specific capability at 0x40, then a 64-bit MSI
capability at 0x50 (control 0x0080), then the end of the list.
-/
def msiHeader : Nat → BitVec 8 := fun k =>
  if k = pciStatus then 0x10 else if k = pciCapabilityList then 0x40
  else if k = 0x40 then 0x09 else if k = 0x41 then 0x50
  else if k = 0x50 then 0x05 else if k = 0x52 then 0x80 else 0

/-- The walk over `msiHeader` with fuel 3 records the MSI capability at 0x50. -/
theorem msi_header_walked
    : ((∀ pos ∈ pciCapabilityChain msiHeader 2, PciCapabilityAccepted msiHeader pos)
        → setupCapabilities msiHeader 3
          = some (.ok ⟨((pciCapabilityChain msiHeader 2).filter
                fun pos => msiHeader pos = pciCapIdMsi).getLast?,
              (pciCapabilityChain msiHeader 2).flatMap (pciCapabilityReads msiHeader)⟩))
      ∧ ((∃ pos ∈ pciCapabilityChain msiHeader 2, ¬ PciCapabilityAccepted msiHeader pos)
        → ∃ message, setupCapabilities msiHeader 3 = some (.error message)) :=
  @capability_list_walked msiHeader 2 3 (by decide) (by decide) (by decide)

end MVisor.Vfio
