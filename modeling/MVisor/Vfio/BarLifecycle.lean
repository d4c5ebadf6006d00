import MVisor.Vfio.BarMapper

/-! What an activation's RAM resources are backed by, and what a deactivation withdraws
compared with what the activation before it published. `MapBarRegion` tests each sparse
area's mmap against `MAP_FAILED` but not the whole region's, and `UnmapBarRegion` looks a
sparse area's RAM resource up at `region.offset + area.offset` while `MapBarRegion` published
it at `bar.address + area.offset`.
-/

namespace MVisor.Vfio.BarState

/-- The published resources, by the identity `RemoveIoResource` looks them up by. -/
def resourceKeys (state : BarState) : List (IoResourceType × BitVec 64) :=
  state.ioResources.map IoResource.key

/-- In the sparse scenario, with every mmap succeeding, `ActivatePciBar(0)` publishes the MMIO
window and two RAM areas, and the `DeactivatePciBar(0)` after it leaves both RAM areas
published: it looked them up at host offsets 0x0 and 0x800000.
-/
theorem sparse_deactivate_keeps_ram
    : ∃ active, sparseScenario.activatePciBar 0 (fun _ => true) = .ok active
      ∧ resourceKeys active = [(.mmio, 0xfd000000), (.ram, 0xfd000000), (.ram, 0xfd800000)]
      ∧ resourceKeys (active.deactivatePciBar 0) = [(.ram, 0xfd000000), (.ram, 0xfd800000)]
      ∧ resourceKeys sparseScenario = [] :=
  ⟨_, rfl, by decide, by decide, rfl⟩

-----------------------------------------------------------------------------------------------
-- The mappings behind the published RAM

/-- `resource` is backed by the successful mmap of one of `region`'s sparse areas, of exactly
the published length, at device-file offset `region.offset + area.offset`, and published
`area.offset` bytes into `bar`.
-/
def BackedByArea (bar : PciBar) (region : VfioRegion) (resource : IoResource) : Prop :=
  ∃ area ∈ region.mmapAreas, ∃ protect, resource.base = bar.address + area.offset
    ∧ resource.length = area.size
    ∧ resource.hostMemory = some (.mapping area.size (region.offset + area.offset) protect)

/-- An activation that returns on a BAR whose region has sparse areas backs every RAM resource
it published by its area's own mapping. Witness: the per-area loop panics on `MAP_FAILED`,
and `mapAreas_ok` gives the resources it published.
-/
theorem sparse_ram_backed_by_area_mapping {state active : BarState} {index : Nat}
    {mmapOk : Nat → Bool} (sparse : (state.regions index).mmapAreas ≠ [])
    (h : state.activatePciBar index mmapOk = .ok active)
    : ∃ published, active.ioResources = state.ioResources ++ published
      ∧ ∀ resource ∈ published, resource.type = .ram
        → BackedByArea (state.pciBars index) (state.regions index) resource := by
  simp only [activatePciBar] at h
  split at h
  · simp only [mapBarRegion, List.isEmpty_iff, sparse, if_false] at h
    obtain ⟨⟨_, middle⟩, hloop, hpure⟩ := bind_eq_ok h
    cases hpure
    obtain ⟨resources, -, -⟩ := mapAreas_ok hloop
    refine ⟨_, by simpa using resources, ?_⟩
    simp only [List.mem_cons, areaResources, List.mem_map]
    rintro _ (rfl | ⟨area, mem, rfl⟩) ram
    · cases ram
    · exact ⟨area, mem, _, rfl, rfl, rfl⟩
  · cases h
    refine ⟨_, rfl, ?_⟩
    simp only [List.mem_singleton]
    rintro _ rfl ram
    exact absurd ram (BarType.resourceType_ne_ram _)

/-- With every mmap succeeding, the sparse scenario's activation backs its two RAM areas by
their own mappings.
-/
theorem sparse_scenario_ram_backed
    : ∃ active, sparseScenario.activatePciBar 0 (fun _ => true) = .ok active
      ∧ ∃ published, active.ioResources = sparseScenario.ioResources ++ published
        ∧ ∀ resource ∈ published, resource.type = .ram
          → BackedByArea (sparseScenario.pciBars 0) (sparseScenario.regions 0) resource :=
  ⟨_, rfl, @sparse_ram_backed_by_area_mapping sparseScenario _ 0 (fun _ => true) (by decide)
    (by rfl)⟩

/-- A whole-region BAR whose mmap fails is published all the same: `MapBarRegion` does not
test `bar.host_memory` against `MAP_FAILED`, so `ActivatePciBar` returns with a RAM resource at
the BAR address backed by the failed mapping.
-/
theorem whole_region_map_failure_published {state : BarState} {index : Nat}
    {mmapOk : Nat → Bool} (capable : state.mmapCapable index)
    (whole : (state.regions index).mmapAreas = []) (failed : mmapOk 0 = false)
    : ∃ active, state.activatePciBar index mmapOk = .ok active
      ∧ active.ioResources = state.ioResources
          ++ [⟨.ram, (state.pciBars index).address, (state.pciBars index).size, some .mapFailed⟩] := by
  simp [activatePciBar, capable, mapBarRegion, whole, failed]

/-- Region 2 (READ, WRITE, MMAP, host offset 0x20000, size 0x4000) with no sparse areas, and
BAR2 programmed at guest address 0xfe000000.
-/
def wholeRegionScenario : BarState where
  regions := fun index =>
    if index = 2 then { flags := 0x7, offset := 0x20000, size := 0x4000 } else {}
  pciBars := fun index => if index = 2 then { address := 0xfe000000, size := 0x4000 } else {}
  ioResources := []
  syscalls := []

/-- The host refusing every mmap, `ActivatePciBar(2)` returns and publishes 0x4000 bytes of RAM
at 0xfe000000 backed by `MAP_FAILED`.
-/
theorem failed_whole_bar_published
    : ∃ active, wholeRegionScenario.activatePciBar 2 (fun _ => false) = .ok active
      ∧ active.ioResources = [⟨.ram, 0xfe000000, 0x4000, some .mapFailed⟩] :=
  @whole_region_map_failure_published wholeRegionScenario 2 (fun _ => false) (by decide) rfl rfl

end MVisor.Vfio.BarState
