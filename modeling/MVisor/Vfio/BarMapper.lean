import MVisor.Vfio.Regions

/-! BAR activation and deactivation: `MapBarRegion`, `UnmapBarRegion` and the
`ActivatePciBar`/`DeactivatePciBar` dispatch on the region's MMAP flag.
A panic (`MV_PANIC`) is an `Except.error` carrying the source's format string.
-/

namespace MVisor.Vfio.BarState

/-- The mmap protection `MapBarRegion` derives from the region's READ and WRITE flags. -/
def barProtect (flags : BitVec 32) : BitVec 32 :=
  (if flags &&& vfioRegionInfoFlagRead = 0 then 0 else protRead)
    ||| (if flags &&& vfioRegionInfoFlagWrite = 0 then 0 else protWrite)

/-- The sparse-area loop of `MapBarRegion`: area `n` is mmap'd at `region.offset +
area.offset` and published as RAM at `bar.address + area.offset`; a failed mmap panics.
`mmapOk n` is the host's answer to the `n`-th mmap call of the activation.
-/
def mapAreas (bar : PciBar) (region : VfioRegion) (protect : BitVec 32)
    (mmapOk : Nat → Bool)
    : Nat → List VfioMmapArea → BarState → Except String (List VfioMmapArea × BarState)
  | _, [], state => pure ([], state)
  | n, area :: rest, state =>
      let (state, host) := state.mmap (mmapOk n) area.size (region.offset + area.offset) protect
      if host = .mapFailed then
        throw "failed to map region %d, area offset=0x%lx size=0x%lx"
      else do
        let state := state.addIoResource .ram (bar.address + area.offset) area.size (some host)
        let (areas, state) ← mapAreas bar region protect mmapOk (n + 1) rest state
        pure ({ area with mmap := some host } :: areas, state)

/-- `VfioPci::MapBarRegion`: a region without sparse areas is mmap'd whole and published as
RAM at the BAR address; otherwise the BAR window is published as MMIO and each area is
mapped over it. The source returns `true` on every path that returns.
-/
def mapBarRegion (state : BarState) (index : Nat) (mmapOk : Nat → Bool)
    : Except String BarState :=
  let bar := state.pciBars index
  let region := state.regions index
  let protect := barProtect region.flags
  if region.mmapAreas.isEmpty then
    let (state, host) := state.mmap (mmapOk 0) region.size region.offset protect
    let state := state.setBar index { bar with hostMemory := some host }
    pure (state.addIoResource .ram bar.address bar.size (some host))
  else do
    let state := state.addIoResource .mmio bar.address bar.size none
    let (areas, state) ← mapAreas bar region protect mmapOk 0 region.mmapAreas state
    pure (state.setRegion index { region with mmapAreas := areas })

/-- The loop of `UnmapBarRegion` over the sparse areas: each step removes the RAM resource
at `region.offset + area.offset` and munmaps the area.
-/
def unmapAreas (region : VfioRegion) (state : BarState) : List VfioMmapArea → BarState
  | [] => state
  | area :: rest =>
      unmapAreas region
        ((state.removeIoResource .ram (region.offset + area.offset)).munmap area.mmap area.size)
        rest

/-- `VfioPci::UnmapBarRegion`. -/
def unmapBarRegion (state : BarState) (index : Nat) : BarState :=
  let bar := state.pciBars index
  let region := state.regions index
  if region.mmapAreas.isEmpty then
    (state.removeIoResource .ram bar.address).munmap bar.hostMemory region.size
  else
    (unmapAreas region state region.mmapAreas).removeIoResource .mmio bar.address

/-- Modelled from the spec: the base model's `PciDevice::ActivatePciBar` is not in the
repository; it publishes the BAR window for trap-and-dispatch ("fall back to the base PCI
model (pure MMIO trap-and-dispatch)").
-/
def pciDeviceActivatePciBar (state : BarState) (index : Nat) : BarState :=
  let bar := state.pciBars index
  state.addIoResource bar.type.resourceType bar.address bar.size none

/-- Modelled from the spec: the base model's `PciDevice::DeactivatePciBar` withdraws the
window its activation published.
-/
def pciDeviceDeactivatePciBar (state : BarState) (index : Nat) : BarState :=
  let bar := state.pciBars index
  state.removeIoResource bar.type.resourceType bar.address

def mmapCapable (state : BarState) (index : Nat) : Prop :=
  (state.regions index).flags &&& vfioRegionInfoFlagMmap ≠ 0

instance (state : BarState) (index : Nat) : Decidable (state.mmapCapable index) :=
  inferInstanceAs (Decidable (_ ≠ _))

/-- `VfioPci::ActivatePciBar`. -/
def activatePciBar (state : BarState) (index : Nat) (mmapOk : Nat → Bool)
    : Except String BarState :=
  if state.mmapCapable index then state.mapBarRegion index mmapOk
  else pure (state.pciDeviceActivatePciBar index)

/-- `VfioPci::DeactivatePciBar`. -/
def deactivatePciBar (state : BarState) (index : Nat) : BarState :=
  if state.mmapCapable index then state.unmapBarRegion index
  else state.pciDeviceDeactivatePciBar index

/-- The RAM resources the sparse loop publishes when every area maps: one per area, at
`bar.address + area.offset`, backed by the mapping at `region.offset + area.offset`.
-/
def areaResources (bar : PciBar) (region : VfioRegion) (protect : BitVec 32)
    (areas : List VfioMmapArea) : List IoResource :=
  areas.map fun area =>
    ⟨.ram, bar.address + area.offset, area.size,
      some (.mapping area.size (region.offset + area.offset) protect)⟩

/-- A sparse loop that returns mapped every area and published exactly `areaResources`,
by induction over the areas; a failed mmap is the panic branch.
-/
theorem mapAreas_ok {bar : PciBar} {region : VfioRegion} {protect : BitVec 32}
    {mmapOk : Nat → Bool}
    : ∀ {n : Nat} {areas : List VfioMmapArea} {state after : BarState}
        {mapped : List VfioMmapArea},
      mapAreas bar region protect mmapOk n areas state = .ok (mapped, after)
      → after.ioResources = state.ioResources ++ areaResources bar region protect areas
        ∧ after.pciBars = state.pciBars ∧ after.regions = state.regions := by
  intro n areas
  induction areas generalizing n with
  | nil =>
      intro state after mapped h
      cases h
      simp [areaResources]
  | cons area rest ih =>
      intro state after mapped h
      cases hok : mmapOk n with
      | false => simp [mapAreas, mmap, hok] at h
      | true =>
          simp only [mapAreas, mmap, hok, if_true, reduceCtorEq, if_false] at h
          obtain ⟨⟨_, middle⟩, hrest, hpure⟩ := bind_eq_ok h
          cases hpure
          obtain ⟨resources, bars, regions⟩ := ih hrest
          refine ⟨?_, bars, regions⟩
          simp [resources, areaResources]

/-- The resources an activation of `bar` over `region` can publish: the trap window at the BAR
address, a RAM window `offset` bytes into the BAR backed by the mapping `offset` bytes into
the region, or a RAM window whose whole-region mmap failed.
-/
inductive Publishes (bar : PciBar) (region : VfioRegion) : IoResource → Prop
  | window {resource : IoResource} (base : resource.base = bar.address)
      (trapped : resource.type ≠ .ram) (unbacked : resource.hostMemory = none)
      : Publishes bar region resource
  | mapped {resource : IoResource} (offset : BitVec 64) {length fileOffset : BitVec 64}
      {protect : BitVec 32} (ram : resource.type = .ram)
      (base : resource.base = bar.address + offset)
      (backed : resource.hostMemory = some (.mapping length fileOffset protect))
      (file : fileOffset = region.offset + offset)
      : Publishes bar region resource
  | failed {resource : IoResource} (ram : resource.type = .ram)
      (backed : resource.hostMemory = some .mapFailed)
      : Publishes bar region resource

/-- What a returning activation did: it appended resources of the kinds `Publishes` allows,
one of which spans the whole BAR, and changed no BAR address and no region offset. Witness:
`mapAreas_ok` for the sparse loop, the single RAM or trap window otherwise.
-/
theorem activatePciBar_ok {state active : BarState} {index : Nat} {mmapOk : Nat → Bool}
    (h : state.activatePciBar index mmapOk = .ok active)
    : ∃ published, active.ioResources = state.ioResources ++ published
      ∧ (∀ resource ∈ published,
          Publishes (state.pciBars index) (state.regions index) resource)
      ∧ (∀ j, (active.pciBars j).address = (state.pciBars j).address)
      ∧ (∀ j, (active.regions j).offset = (state.regions j).offset)
      ∧ ∃ window ∈ published, window.base = (state.pciBars index).address
        ∧ window.length = (state.pciBars index).size := by
  simp only [activatePciBar] at h
  split at h
  · simp only [mapBarRegion] at h
    split at h
    · cases h
      refine ⟨_, rfl, ?_, ?_, fun _ => rfl, _, List.mem_singleton_self _, rfl, rfl⟩
      · simp only [List.mem_singleton]
        rintro _ rfl
        cases mmapOk 0
        · exact .failed rfl rfl
        · exact .mapped 0 rfl (by simp) rfl (by simp)
      · intro j
        by_cases same : j = index
        · subst same; simp
        · simp [Function.update_noteq same]
    · obtain ⟨⟨_, middle⟩, hloop, hpure⟩ := bind_eq_ok h
      cases hpure
      obtain ⟨resources, bars, regions⟩ := mapAreas_ok hloop
      refine ⟨_, by simpa using resources, ?_, by simp [bars], ?_, _, List.mem_cons_self _ _,
        rfl, rfl⟩
      · simp only [List.mem_cons, areaResources, List.mem_map]
        rintro _ (rfl | ⟨area, -, rfl⟩)
        · exact .window rfl (by simp) rfl
        · exact .mapped area.offset rfl rfl rfl rfl
      · intro j
        by_cases same : j = index
        · subst same; simp [regions]
        · simp [Function.update_noteq same, regions]
  · cases h
    refine ⟨_, rfl, ?_, fun _ => rfl, fun _ => rfl, _, List.mem_singleton_self _, rfl, rfl⟩
    simp only [List.mem_singleton]
    rintro _ rfl
    exact .window rfl (BarType.resourceType_ne_ram _) rfl

/-- The spec's sparse scenario: region 0 (READ, WRITE, MMAP, host offset 0, size 0x1000000)
with sparse areas at 0x0 and 0x800000, and BAR0 programmed at guest address 0xfd000000.
-/
def sparseScenario : BarState where
  regions := fun index =>
    if index = 0 then
      { flags := 0x7, size := 0x1000000,
        mmapAreas := [⟨0x0, 0x100000, none⟩, ⟨0x800000, 0x200000, none⟩] }
    else {}
  pciBars := fun index => if index = 0 then { address := 0xfd000000, size := 0x1000000 } else {}
  ioResources := []
  syscalls := []

end MVisor.Vfio.BarState
