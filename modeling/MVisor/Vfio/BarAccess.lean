import MVisor.Vfio.BarLifecycle
import Mathlib.Tactic.Ring

/-! The two paths a guest access to an activated BAR can take: directly through a RAM
resource's host mapping, or trapped into `VfioPci::Read`/`Write`, which forward it to the
device descriptor by `ReadRegion`/`WriteRegion`. Both reach the same device-file byte, except
through the RAM window of a whole region whose mmap failed, which `MapBarRegion` publishes
without checking for `MAP_FAILED` and which reaches no device byte at all.
-/

namespace MVisor.Vfio.BarState

inductive Direction where
  | read
  | write
  deriving DecidableEq, Repr

/-- A trapped access as the device forwards it: a positioned read or write of the device
descriptor, or the base model's `PciDevice::Read`/`Write` when no BAR matched.
-/
inductive RegionAccess where
  | pread (position : BitVec 64) (length : BitVec 32)
  | pwrite (position : BitVec 64) (length : BitVec 32)
  | pciDevice
  deriving DecidableEq, Repr

def RegionAccess.position : RegionAccess → Option (BitVec 64)
  | .pread position _ => some position
  | .pwrite position _ => some position
  | .pciDevice => none

/-- `ReadRegion` and `WriteRegion`: a positioned access at `regions_[index].offset + offset`
after `MV_ASSERT(index < MAX_VFIO_REGIONS)`. The header holding `MAX_VFIO_REGIONS` is not in
the repository, so the bound is a parameter.
-/
def regionAccess (maxVfioRegions : Nat) (direction : Direction) (state : BarState)
    (index : Nat) (offset : BitVec 64) (length : BitVec 32) : Except String RegionAccess :=
  if index < maxVfioRegions then
    let position := (state.regions index).offset + offset
    pure (match direction with
      | .read => .pread position length
      | .write => .pwrite position length)
  else throw "index < MAX_VFIO_REGIONS"

/-- `VfioPci::ReadRegion`. -/
def readRegion (maxVfioRegions : Nat) : BarState → Nat → BitVec 64 → BitVec 32
    → Except String RegionAccess :=
  regionAccess maxVfioRegions .read

/-- `VfioPci::WriteRegion`. -/
def writeRegion (maxVfioRegions : Nat) : BarState → Nat → BitVec 64 → BitVec 32
    → Except String RegionAccess :=
  regionAccess maxVfioRegions .write

/-- The first BAR, in index order, whose guest address is the resource's base. -/
def findBar (state : BarState) (base : BitVec 64) : Option Nat :=
  (List.range pciBarNums).find? fun i => (state.pciBars i).address = base

/-- `VfioPci::Read` and `VfioPci::Write`: forward to the first BAR at the resource's base,
else to the base model.
-/
def dispatch (maxVfioRegions : Nat) (direction : Direction) (state : BarState)
    (resource : IoResource) (offset : BitVec 64) (size : BitVec 32)
    : Except String RegionAccess :=
  match state.findBar resource.base with
  | some i => regionAccess maxVfioRegions direction state i offset size
  | none => pure .pciDevice

/-- `VfioPci::Read`. -/
def read (maxVfioRegions : Nat) : BarState → IoResource → BitVec 64 → BitVec 32
    → Except String RegionAccess :=
  dispatch maxVfioRegions .read

/-- `VfioPci::Write`. -/
def write (maxVfioRegions : Nat) : BarState → IoResource → BitVec 64 → BitVec 32
    → Except String RegionAccess :=
  dispatch maxVfioRegions .write

/-- Modelled from the spec: the device manager serves a guest access at `address` in a
published resource either through the host mapping of a RAM resource ("direct guest
access, no trap") or by trapping into the device with the offset inside the resource.
The result is the device-file offset the access reaches, if any.
-/
def serve (maxVfioRegions : Nat) (direction : Direction) (state : BarState)
    (resource : IoResource) (address : BitVec 64) (size : BitVec 32) : Option (BitVec 64) :=
  match resource.type, resource.hostMemory with
  | .ram, some (.mapping _ fileOffset _) => some (fileOffset + (address - resource.base))
  | .ram, _ => none
  | _, _ =>
      match dispatch maxVfioRegions direction state resource (address - resource.base) size with
      | .ok access => access.position
      | .error _ => none

/-- With the BAR's address distinct from every other BAR's, the first-match search finds it.
-/
theorem findBar_eq {state : BarState} {index : Nat} (hi : index < pciBarNums)
    (distinct : ∀ j < pciBarNums, j ≠ index
      → (state.pciBars j).address ≠ (state.pciBars index).address)
    : state.findBar (state.pciBars index).address = some index := by
  have split : List.range pciBarNums
      = List.range index ++ index :: List.range' (index + 1) (pciBarNums - (index + 1)) := by
    have remaining : pciBarNums - index = pciBarNums - (index + 1) + 1 := by omega
    rw [List.range_eq_range', List.range_eq_range', List.range'_eq_append_iff]
    exact ⟨index, by omega, rfl, by rw [remaining, List.range'_succ, Nat.zero_add]⟩
  have earlier : (List.range index).find?
      (fun i => decide ((state.pciBars i).address = (state.pciBars index).address)) = none := by
    rw [List.find?_eq_none]
    intro j member
    simpa using distinct j (by simp at member; omega) (by simp at member; omega)
  simp [findBar, split, earlier]

/-- A trapped access to the window of `index` is forwarded at the region offset plus the
offset inside the window, for both directions.
-/
theorem dispatch_window {maxVfioRegions : Nat} {state : BarState} {index : Nat}
    (hi : index < pciBarNums) (enough : pciBarNums ≤ maxVfioRegions)
    (distinct : ∀ j < pciBarNums, j ≠ index
      → (state.pciBars j).address ≠ (state.pciBars index).address)
    (direction : Direction) (offset : BitVec 64) (size : BitVec 32)
    (resource : IoResource) (base : resource.base = (state.pciBars index).address)
    : (dispatch maxVfioRegions direction state resource offset size).map RegionAccess.position
      = .ok (some ((state.regions index).offset + offset)) := by
  have inRange : index < maxVfioRegions := by omega
  cases direction <;>
    simp [dispatch, base, findBar_eq hi distinct, regionAccess, inRange, RegionAccess.position,
      Except.map]

/-- A resource that is not RAM is served by trapping into the device. -/
theorem serve_trapped {maxVfioRegions : Nat} {direction : Direction} {state : BarState}
    {resource : IoResource} (trapped : resource.type ≠ .ram) (address : BitVec 64)
    (size : BitVec 32)
    : state.serve maxVfioRegions direction resource address size
      = match dispatch maxVfioRegions direction state resource (address - resource.base) size with
        | .ok access => access.position
        | .error _ => none := by
  obtain ⟨type, _, _, _⟩ := resource
  cases type <;> first | exact absurd rfl trapped | rfl

/-- A trap window of `index` is served by forwarding to `regions_[index]`. -/
theorem serve_window {maxVfioRegions : Nat} {state : BarState} {index : Nat}
    (hi : index < pciBarNums) (enough : pciBarNums ≤ maxVfioRegions)
    (distinct : ∀ j < pciBarNums, j ≠ index
      → (state.pciBars j).address ≠ (state.pciBars index).address)
    {resource : IoResource} (base : resource.base = (state.pciBars index).address)
    (trapped : resource.type ≠ .ram) (direction : Direction) (address : BitVec 64)
    (size : BitVec 32)
    : state.serve maxVfioRegions direction resource address size
      = some ((state.regions index).offset + (address - resource.base)) := by
  have forwarded := dispatch_window hi enough distinct direction (address - resource.base) size
    resource base
  rw [serve_trapped trapped]
  cases h : dispatch maxVfioRegions direction state resource (address - resource.base) size <;>
    simp_all [Except.map]

/-- Every activation publishes a resource spanning the BAR, and every access through a
resource it published, read or write and at any guest address, reaches device-file offset
`regions_[index].offset + (address - bar.address)`, except through a whole region's RAM window
whose mmap failed: that one reaches no device byte.
Witness: `activatePciBar_ok` names the published kinds; the trap window is served through
the first-match search, a mapped window by ring arithmetic on its two offsets.
-/
theorem bar_paths_agree_unless_map_failed {maxVfioRegions : Nat}
    (enough : pciBarNums ≤ maxVfioRegions)
    {state active : BarState} {index : Nat} {mmapOk : Nat → Bool} (hi : index < pciBarNums)
    (distinct : ∀ j < pciBarNums, j ≠ index
      → (state.pciBars j).address ≠ (state.pciBars index).address)
    (activated : state.activatePciBar index mmapOk = .ok active)
    : ∃ published, active.ioResources = state.ioResources ++ published
      ∧ (∃ window ∈ published, window.base = (state.pciBars index).address
        ∧ window.length = (state.pciBars index).size)
      ∧ ∀ resource ∈ published, ∀ direction address size,
        (resource.hostMemory = some .mapFailed
          ∧ active.serve maxVfioRegions direction resource address size = none)
        ∨ active.serve maxVfioRegions direction resource address size
          = some ((state.regions index).offset + (address - (state.pciBars index).address)) := by
  obtain ⟨published, resources, kinds, addresses, offsets, spanning⟩ :=
    activatePciBar_ok activated
  refine ⟨published, resources, spanning, fun resource member direction address size => ?_⟩
  cases kinds resource member with
  | window base trapped _ =>
    have distinct' : ∀ j < pciBarNums, j ≠ index
        → (active.pciBars j).address ≠ (active.pciBars index).address := by
      simpa only [addresses] using distinct
    refine .inr ?_
    rw [serve_window hi enough distinct' (by rw [base, addresses]) trapped, offsets, base]
  | mapped offset ram base backed file =>
    obtain ⟨type, _, _, _⟩ := resource
    subst ram
    simp only at backed base
    refine .inr ?_
    simp only [serve, backed, base, file, Option.some.injEq]
    ring
  | failed ram backed =>
    obtain ⟨type, _, _, _⟩ := resource
    subst ram
    simp only at backed
    exact .inl ⟨backed, by simp only [serve, backed]⟩

/-- The host refusing the mmap of `wholeRegionScenario`'s region 2: the one resource published
spans BAR2 as RAM backed by `MAP_FAILED`, and an access through it at 0xfe000010 reaches no
device byte, where the trapped path for the same BAR reaches device-file offset 0x20010.
-/
theorem whole_bar_map_failure_reaches_nothing
    : ∃ active, wholeRegionScenario.activatePciBar 2 (fun _ => false) = .ok active
      ∧ (∃ published, active.ioResources = wholeRegionScenario.ioResources ++ published
        ∧ (∃ window ∈ published, window.base = (wholeRegionScenario.pciBars 2).address
          ∧ window.length = (wholeRegionScenario.pciBars 2).size)
        ∧ ∀ resource ∈ published, ∀ direction address size,
          (resource.hostMemory = some .mapFailed
            ∧ active.serve 8 direction resource address size = none)
          ∨ active.serve 8 direction resource address size
            = some ((wholeRegionScenario.regions 2).offset
              + (address - (wholeRegionScenario.pciBars 2).address)))
      ∧ active.ioResources = [⟨.ram, 0xfe000000, 0x4000, some .mapFailed⟩]
      ∧ active.serve 8 .read ⟨.ram, 0xfe000000, 0x4000, some .mapFailed⟩ 0xfe000010 4 = none
      ∧ active.read 8 ⟨.mmio, 0xfe000000, 0x4000, none⟩ 0x10 4 = .ok (.pread 0x20010 4) :=
  ⟨_, rfl, @bar_paths_agree_unless_map_failed 8 (by decide) wholeRegionScenario _ 2
    (fun _ => false) (by decide) (by decide) rfl, rfl, rfl, rfl⟩

end MVisor.Vfio.BarState
