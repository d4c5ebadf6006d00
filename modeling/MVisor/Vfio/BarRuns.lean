import MVisor.Vfio.BarAccess

/-! BAR activation over whole runs. The base PCI model (not in the repository) activates a
BAR when the guest enables it, deactivates it before the guest moves it, and activates it
again at its new address. For BARs whose regions have no sparse areas, the resources the
device publishes then stay exactly the windows of the BARs active at the time, in activation
order, each RAM window backed by the mmap of its own whole region: `DeactivatePciBar`
withdraws what the matching `ActivatePciBar` published and nothing else, under any
interleaving, and an access through a published window reaches its own BAR's region. Sparse
regions are left out: there `UnmapBarRegion` looks the RAM areas up at the wrong base.
-/

namespace MVisor.Vfio

namespace BarState

/-- The window `ActivatePciBar` publishes for a BAR whose region has no sparse areas: the
whole region, published as RAM and backed by the host memory `MapBarRegion` stored in the
BAR, when the region is mmap-capable; the base model's trap window otherwise.
-/
def window (state : BarState) (index : Nat) : IoResource :=
  let bar := state.pciBars index
  if state.mmapCapable index then ⟨.ram, bar.address, bar.size, bar.hostMemory⟩
  else ⟨bar.type.resourceType, bar.address, bar.size, none⟩

/-- No mmap-capable region has sparse areas: each is mapped whole. -/
def Whole (state : BarState) : Prop :=
  ∀ index, state.mmapCapable index → (state.regions index).mmapAreas = []

/-- Whether every region is mapped whole depends on the regions alone. -/
theorem Whole.of_regions {state state' : BarState} (whole : state.Whole)
    (regions : state'.regions = state.regions)
    : state'.Whole := by
  unfold BarState.Whole BarState.mmapCapable at *
  rwa [regions]

/-- What `MapBarRegion` stores in a BAR mapped whole: the mapping of its whole region from the
region's host offset, or `MAP_FAILED`, which it does not test.
-/
def WholeMapping (region : VfioRegion) (host : Option HostMemory) : Prop :=
  host = some (.mapping region.size region.offset (barProtect region.flags))
    ∨ host = some .mapFailed

/-- A window is the same in two states that agree on the regions and on the BAR. -/
theorem window_congr {state state' : BarState} {index : Nat}
    (regions : state'.regions = state.regions) (bar : state'.pciBars index = state.pciBars index)
    : state'.window index = state.window index := by
  simp only [window, mmapCapable, regions, bar]

/-- A window's identity, what `RemoveIoResource` looks it up by, does not depend on the host
memory behind it.
-/
theorem window_key_congr {state state' : BarState} {index : Nat}
    (regions : state'.regions = state.regions)
    (address : (state'.pciBars index).address = (state.pciBars index).address)
    (type : (state'.pciBars index).type = (state.pciBars index).type)
    : (state'.window index).key = (state.window index).key := by
  simp only [window, mmapCapable, regions, address, type]
  split <;> rfl

/-- `ActivatePciBar` on a region mapped whole returns, whatever the mmap answers: it changes no
region, stores host memory in this BAR alone, and publishes the BAR's window after the
resources already published. Witness: the whole-region branch of `MapBarRegion` has no
panic, and the base model's activation stores nothing.
-/
theorem activatePciBar_window {state : BarState} {index : Nat} {mmapOk : Nat → Bool}
    (whole : state.Whole)
    : ∃ active, state.activatePciBar index mmapOk = .ok active
      ∧ active.regions = state.regions
      ∧ (∃ host, active.pciBars
          = Function.update state.pciBars index { state.pciBars index with hostMemory := host }
        ∧ (state.mmapCapable index → WholeMapping (state.regions index) host))
      ∧ active.ioResources = state.ioResources ++ [active.window index] := by
  by_cases capable : state.mmapCapable index
  · simp only [activatePciBar, if_pos capable, mapBarRegion, whole index capable,
      List.isEmpty_nil, if_true]
    refine ⟨_, rfl, rfl, ⟨_, rfl, fun _ => ?_⟩, ?_⟩
    · cases mmapOk 0 <;> simp [WholeMapping]
    · simp [mmapCapable] at capable
      simp [window, mmapCapable, capable]
  · simp only [activatePciBar, if_neg capable]
    refine ⟨_, rfl, rfl, ⟨(state.pciBars index).hostMemory,
      (Function.update_eq_self index state.pciBars).symm, fun cap => absurd cap capable⟩, ?_⟩
    simp [mmapCapable] at capable
    simp [pciDeviceActivatePciBar, window, mmapCapable, capable]

/-- `DeactivatePciBar` on a region mapped whole changes no region and no BAR, and withdraws the
first published resource with the identity of the BAR's window.
-/
theorem deactivatePciBar_window {state : BarState} {index : Nat} (whole : state.Whole)
    : (state.deactivatePciBar index).regions = state.regions
      ∧ (state.deactivatePciBar index).pciBars = state.pciBars
      ∧ (state.deactivatePciBar index).ioResources
          = state.ioResources.eraseP fun r => r.key == (state.window index).key := by
  by_cases capable : state.mmapCapable index
  · simp only [deactivatePciBar, if_pos capable, unmapBarRegion, whole index capable,
      List.isEmpty_nil, if_true]
    exact ⟨rfl, rfl, by simp [window, capable, IoResource.key]⟩
  · simp only [deactivatePciBar, if_neg capable, pciDeviceDeactivatePciBar]
    exact ⟨rfl, rfl, by simp [window, capable, IoResource.key]⟩

end BarState

/-- Withdrawing by identity from the windows of BARs whose identities are pairwise distinct
withdraws exactly the window of the BAR named.
-/
theorem eraseP_window {windows : Nat → IoResource}
    : ∀ {active : List Nat} {index : Nat}, index ∈ active
      → (active.map fun j => (windows j).key).Nodup
      → (active.map windows).eraseP (fun r => r.key == (windows index).key)
        = (active.erase index).map windows
  | j :: rest, index, mem, apart => by
    have ⟨fresh, apartRest⟩ := List.nodup_cons.mp apart
    by_cases same : j = index
    · subst same
      simp
    · have later : index ∈ rest := (List.mem_cons.mp mem).resolve_left (Ne.symm same)
      have other : (windows j).key ≠ (windows index).key :=
        fun eq => fresh (by
          simpa only [eq] using List.mem_map_of_mem (fun j => (windows j).key) later)
      simp [List.erase_cons, same, other, eraseP_window later apartRest]

-----------------------------------------------------------------------------------------------
-- Runs of activations, deactivations and moves

/-- What the base PCI model (not in the repository) asks of the device's BARs as the guest
programs them: activate a BAR, with the host's answers to its mmap calls; deactivate it; or
move it to a new guest address.
-/
inductive BarEvent where
  | activate (index : Nat) (mmapOk : Nat → Bool)
  | deactivate (index : Nat)
  | program (index : Nat) (address : BitVec 64)

/-- The device's BAR state, and the BARs the base model has active, in activation order. -/
structure BarSystem where
  state : BarState
  active : List Nat

namespace BarSystem

/-- The identities of the active BARs' windows. -/
def activeKeys (s : BarSystem) : List (IoResourceType × BitVec 64) :=
  s.active.map fun index => (s.state.window index).key

/-- When an event can happen: the base model activates only an inactive BAR, deactivates only
an active one, and lets the guest move only an inactive one; and the runs considered are those
in which the guest never activates a BAR on the type and address of an active one.
-/
def Allows (s : BarSystem) : BarEvent → Prop
  | .activate index _ => index ∉ s.active ∧ (s.state.window index).key ∉ s.activeKeys
  | .deactivate index => index ∈ s.active
  | .program index _ => index ∉ s.active

instance (s : BarSystem) (event : BarEvent) : Decidable (s.Allows event) :=
  match event with
  | .activate _ _ => inferInstanceAs (Decidable (_ ∧ _))
  | .deactivate _ => inferInstanceAs (Decidable (_ ∈ _))
  | .program _ _ => inferInstanceAs (Decidable (_ ∉ _))

/-- One event; a panic of `ActivatePciBar` has no next state. -/
def step (s : BarSystem) (event : BarEvent) : Option BarSystem :=
  if s.Allows event then
    match event with
    | .activate index mmapOk =>
      (s.state.activatePciBar index mmapOk).toOption.map
        fun state => ⟨state, s.active ++ [index]⟩
    | .deactivate index => some ⟨s.state.deactivatePciBar index, s.active.erase index⟩
    | .program index address =>
      some ⟨s.state.setBar index { s.state.pciBars index with address := address }, s.active⟩
  else none

/-- A run of events, stopping at the first that cannot happen. -/
def run (s : BarSystem) : List BarEvent → Option BarSystem
  | [] => some s
  | event :: rest => (s.step event).bind (·.run rest)

/-- The abstraction the device refines: it publishes exactly the windows of the active BARs,
in activation order and with pairwise distinct identities, and each active mmap-capable BAR
holds the mapping of its own whole region.
-/
structure Published (s : BarSystem) : Prop where
  whole : s.state.Whole
  resources : s.state.ioResources = s.active.map s.state.window
  apart : s.activeKeys.Nodup
  backed : ∀ index ∈ s.active, s.state.mmapCapable index
    → BarState.WholeMapping (s.state.regions index) (s.state.pciBars index).hostMemory

/-- A change to BAR `index` and to nothing else, with `index` inactive, leaves the active
BARs' windows and what backs them as they were.
-/
theorem Published.frame {s : BarSystem} {state : BarState} {index : Nat}
    (inv : s.Published) (inactive : index ∉ s.active) (regions : state.regions = s.state.regions)
    (bars : ∀ j, j ≠ index → state.pciBars j = s.state.pciBars j)
    : s.active.map state.window = s.active.map s.state.window
      ∧ ∀ j ∈ s.active, state.mmapCapable j
        → BarState.WholeMapping (state.regions j) (state.pciBars j).hostMemory := by
  have kept : ∀ j ∈ s.active, state.pciBars j = s.state.pciBars j :=
    fun j mem => bars j (ne_of_mem_of_not_mem mem inactive)
  refine ⟨List.map_congr_left fun j mem => BarState.window_congr regions (kept j mem),
    fun j mem capable => ?_⟩
  rw [regions, kept j mem]
  exact inv.backed j mem (by simpa only [BarState.mmapCapable, regions] using capable)

/-- The identities of the active BARs' windows follow the windows. -/
theorem activeKeys_eq {s : BarSystem} {state : BarState}
    (windows : s.active.map state.window = s.active.map s.state.window)
    : (⟨state, s.active⟩ : BarSystem).activeKeys = s.activeKeys := by
  simpa only [activeKeys, List.map_map, Function.comp_def]
    using congrArg (List.map IoResource.key) windows

/-- An activation keeps the abstraction, the BAR appended to the active ones. -/
theorem Published.activate {s : BarSystem} {index : Nat} {mmapOk : Nat → Bool}
    (inv : s.Published) (allowed : s.Allows (.activate index mmapOk))
    : ∃ active, s.step (.activate index mmapOk) = some ⟨active, s.active ++ [index]⟩
      ∧ (⟨active, s.active ++ [index]⟩ : BarSystem).Published := by
  obtain ⟨inactive, fresh⟩ := allowed
  obtain ⟨active, ok, regions, ⟨host, bars, mapping⟩, resources⟩ :=
    @BarState.activatePciBar_window s.state index mmapOk inv.whole
  have others : ∀ j, j ≠ index → active.pciBars j = s.state.pciBars j := fun j ne => by
    rw [bars, Function.update_noteq ne]
  obtain ⟨windows, backed⟩ := inv.frame inactive regions others
  have key : (active.window index).key = (s.state.window index).key :=
    BarState.window_key_congr regions (by simp [bars]) (by simp [bars])
  refine ⟨active, by simp [step, Allows, inactive, fresh, ok, Except.toOption], ?_⟩
  refine ⟨inv.whole.of_regions regions, by simp [resources, inv.resources, windows], ?_, ?_⟩
  · have keys := activeKeys_eq windows
    simp only [activeKeys] at keys
    simp only [activeKeys, List.map_append, keys, List.map_singleton, key]
    exact List.nodup_append.mpr
      ⟨inv.apart, List.nodup_singleton _, List.disjoint_singleton.mpr fresh⟩
  · simp only [List.mem_append, List.mem_singleton]
    rintro j (mem | rfl) capable
    · exact backed j mem capable
    · simpa [bars, regions]
        using mapping (by simpa only [BarState.mmapCapable, regions] using capable)

/-- A deactivation keeps the abstraction, the BAR erased from the active ones. -/
theorem Published.deactivate {s : BarSystem} {index : Nat} (inv : s.Published)
    (mem : index ∈ s.active)
    : (⟨s.state.deactivatePciBar index, s.active.erase index⟩ : BarSystem).Published := by
  obtain ⟨regions, bars, resources⟩ := @BarState.deactivatePciBar_window s.state index inv.whole
  have same : (s.state.deactivatePciBar index).window = s.state.window :=
    funext fun j => BarState.window_congr regions (congrFun bars j)
  refine ⟨inv.whole.of_regions regions, ?_, ?_, fun j kept capable => ?_⟩
  · rw [resources, same, inv.resources]
    exact eraseP_window mem inv.apart
  · simpa only [activeKeys, same] using inv.apart.sublist ((List.erase_sublist _ _).map _)
  · rw [regions, bars]
    exact inv.backed j (List.mem_of_mem_erase kept)
      (by simpa only [BarState.mmapCapable, regions] using capable)

/-- Moving an inactive BAR keeps the abstraction. -/
theorem Published.program {s : BarSystem} {index : Nat} {address : BitVec 64}
    (inv : s.Published) (inactive : index ∉ s.active)
    : (⟨s.state.setBar index { s.state.pciBars index with address := address }, s.active⟩
        : BarSystem).Published := by
  obtain ⟨windows, backed⟩ :=
    @Published.frame s (s.state.setBar index { s.state.pciBars index with address := address })
      index inv inactive rfl fun j ne => Function.update_noteq ne _ _
  exact ⟨inv.whole.of_regions rfl, inv.resources.trans windows.symm,
    (activeKeys_eq windows).symm ▸ inv.apart, backed⟩

/-- Every event the base model makes keeps the abstraction. -/
theorem Published.step {s s' : BarSystem} {event : BarEvent} (inv : s.Published)
    (h : s.step event = some s')
    : s'.Published := by
  by_cases allowed : s.Allows event
  · cases event with
    | activate index mmapOk =>
      obtain ⟨_, ok, next⟩ := inv.activate allowed
      rw [ok] at h
      cases h
      exact next
    | deactivate index =>
      simp only [BarSystem.step, if_pos allowed, Option.some.injEq] at h
      exact h ▸ inv.deactivate allowed
    | program index address =>
      simp only [BarSystem.step, if_pos allowed, Option.some.injEq] at h
      exact h ▸ inv.program allowed
  · simp [BarSystem.step, allowed] at h

/-- Every run keeps the abstraction, by induction over the events. -/
theorem Published.run {s s' : BarSystem} {events : List BarEvent} (inv : s.Published)
    (h : s.run events = some s')
    : s'.Published := by
  induction events generalizing s with
  | nil => exact Option.some.inj h ▸ inv
  | cons event rest ih =>
    obtain ⟨next, first, later⟩ := Option.bind_eq_some.mp h
    exact ih (inv.step first) later

/-- The device before any activation keeps the abstraction. -/
theorem Published.idle {state : BarState} (whole : state.Whole) (idle : state.ioResources = [])
    : (⟨state, []⟩ : BarSystem).Published :=
  ⟨whole, idle, List.nodup_nil, fun _ absent => absurd absent (List.not_mem_nil _)⟩

/-- For every BAR state whose mmap-capable regions have no sparse areas and that publishes
nothing yet, and every run of activations, deactivations and moves the base model can make,
the device publishes exactly the windows of the BARs active at the end, in activation order and
no two with one identity; and each active mmap-capable BAR holds the mmap of its own whole
region, or the `MAP_FAILED` that `MapBarRegion` does not test. Witness: `Published` holds of
the idle device, and each event keeps it.
-/
theorem whole_bars_publish_active_windows {state : BarState} {events : List BarEvent}
    {s : BarSystem} (whole : state.Whole) (idle : state.ioResources = [])
    (h : BarSystem.run ⟨state, []⟩ events = some s)
    : s.state.ioResources = s.active.map s.state.window
      ∧ (s.state.ioResources.map IoResource.key).Nodup
      ∧ ∀ index ∈ s.active, s.state.mmapCapable index
        → BarState.WholeMapping (s.state.regions index) (s.state.pciBars index).hostMemory := by
  have inv := (Published.idle whole idle).run h
  refine ⟨inv.resources, ?_, inv.backed⟩
  simpa only [inv.resources, List.map_map, Function.comp_def] using inv.apart

/-- Region 0 mmap-capable (READ, WRITE, MMAP) at host offset 0x10000, size 0x1000000; region 1
without MMAP. BAR0 is a memory BAR at 0xfd000000, BAR1 an I/O BAR at 0xc000.
-/
def twoBarDevice : BarState where
  regions := fun index =>
    if index = 0 then { flags := 0x7, offset := 0x10000, size := 0x1000000 }
    else if index = 1 then { flags := 0x3, size := 0x100 } else {}
  pciBars := fun index =>
    if index = 0 then { address := 0xfd000000, size := 0x1000000 }
    else if index = 1 then { address := 0xc000, size := 0x100, type := .pio } else {}
  ioResources := []
  syscalls := []

/-- Both BARs enabled, BAR0 moved to 0xe0000000 and enabled again, then BAR1 disabled. -/
def moveBar0 : List BarEvent :=
  [.activate 0 (fun _ => true), .activate 1 (fun _ => true), .deactivate 0,
    .program 0 0xe0000000, .activate 0 (fun _ => true), .deactivate 1]

/-- After moving BAR0, only its RAM window at the new address is published. -/
theorem moved_bar_published_once
    : ∃ s, BarSystem.run ⟨twoBarDevice, []⟩ moveBar0 = some s
      ∧ (s.state.ioResources = s.active.map s.state.window
        ∧ (s.state.ioResources.map IoResource.key).Nodup
        ∧ ∀ index ∈ s.active, s.state.mmapCapable index
          → BarState.WholeMapping (s.state.regions index) (s.state.pciBars index).hostMemory)
      ∧ s.state.ioResources
        = [⟨.ram, 0xe0000000, 0x1000000, some (.mapping 0x1000000 0x10000 3)⟩] :=
  ⟨_, rfl, @whole_bars_publish_active_windows twoBarDevice moveBar0 _
    (fun index _ => by simp only [twoBarDevice]; split_ifs <;> rfl) rfl rfl, rfl⟩

/-- After every run of activations, deactivations and moves from a device that publishes
nothing and maps its mmap-capable regions whole, with the active BARs at addresses no other BAR
shares, each published resource is the window of an active BAR, and every access through it,
read or write at any guest address, reaches device-file offset `regions_[i].offset + (address
- bar.address)` of that BAR's region, by the mapping or by the trap, unless its mmap failed.
Witness: `Published` gives the windows and their mappings, and `serve_window` the trap.
-/
theorem active_windows_reach_own_region {maxVfioRegions : Nat} {state : BarState}
    {events : List BarEvent} {s : BarSystem} (whole : state.Whole) (idle : state.ioResources = [])
    (h : BarSystem.run ⟨state, []⟩ events = some s) (enough : pciBarNums ≤ maxVfioRegions)
    (apart : ∀ i ∈ s.active, i < pciBarNums ∧ ∀ j < pciBarNums, j ≠ i
      → (s.state.pciBars j).address ≠ (s.state.pciBars i).address)
    : ∀ resource ∈ s.state.ioResources, ∃ i ∈ s.active, resource = s.state.window i
      ∧ ∀ direction address size, resource.hostMemory = some .mapFailed
        ∨ s.state.serve maxVfioRegions direction resource address size
          = some ((s.state.regions i).offset + (address - (s.state.pciBars i).address)) := by
  have inv := (Published.idle whole idle).run h
  intro resource mem
  rw [inv.resources] at mem
  obtain ⟨i, active, rfl⟩ := List.mem_map.mp mem
  refine ⟨i, active, rfl, fun direction address size => ?_⟩
  obtain ⟨index, distinct⟩ := apart i active
  by_cases capable : s.state.mmapCapable i
  · rcases inv.backed i active capable with mapped | failed
    · exact .inr (by simp [BarState.window, capable, mapped, BarState.serve])
    · exact .inl (by simp [BarState.window, capable, failed])
  · refine .inr ?_
    rw [BarState.serve_window index enough distinct (by simp [BarState.window, capable])
      (by simp [BarState.window, capable, BarType.resourceType_ne_ram])]
    simp [BarState.window, capable]

/-- After `moveBar0`, the RAM window of BAR0 at 0xe0000000 is served from region 0. -/
theorem moved_bar_reaches_region
    : ∃ s, BarSystem.run ⟨twoBarDevice, []⟩ moveBar0 = some s
      ∧ ∀ resource ∈ s.state.ioResources, ∃ i ∈ s.active, resource = s.state.window i
        ∧ ∀ direction address size, resource.hostMemory = some .mapFailed
          ∨ s.state.serve 9 direction resource address size
            = some ((s.state.regions i).offset + (address - (s.state.pciBars i).address)) :=
  ⟨_, rfl, @active_windows_reach_own_region 9 twoBarDevice moveBar0 _
    (fun index _ => by simp only [twoBarDevice]; split_ifs <;> rfl) rfl rfl (by decide)
    (by decide)⟩

end BarSystem

end MVisor.Vfio
