/-
# `Context::launch`

`launch` gets a ray generation program and a miss program, but what it hands to
`vkCmdTraceRays` are the regions that `buildSBT` left in the context: all slots of
the ray generation programs, and all slots of the miss programs.  So a launch runs
the programs it was given exactly if there is one slot for ray generation programs
and the miss program is in slot 0 (`launch_runs_iff`).
-/
import Vulkanite.SBTLayout

namespace Vulkanite

/-- The arguments of `vkCmdTraceRays`. -/
structure TraceRays where
  raygenShaderBindingTable : Region
  missShaderBindingTable : Region
  hitShaderBindingTable : Region
  callableShaderBindingTable : Region
  width : ℤ
  height : ℤ
  depth : ℤ
  deriving DecidableEq, Repr

/-- What `Context::launch` traces, with the `sbt` of the context. -/
def SBT.launch (sbt : SBT) (_rg _mp : Ptr) (dims_x dims_y dims_z : ℤ) : TraceRays where
  raygenShaderBindingTable := sbt.rayGens.region
  missShaderBindingTable := sbt.missProgs.region
  hitShaderBindingTable := sbt.hitGroups.region
  callableShaderBindingTable := sbt.callablesTable
  width := dims_x
  height := dims_y
  depth := dims_z

/-- `vknRayGenLaunch2D`. -/
def vknRayGenLaunch2D (sbt : SBT) (rg mp : Ptr) (nx ny : ℤ) : TraceRays := sbt.launch rg mp nx ny 1

/-- The index of the miss program that `vkn::traceRay` passes. -/
def traceMissType : ℕ := 0

/-- The address of an entry of a region. -/
def Region.entry (r : Region) (i : ℕ) : UInt64 := r.deviceAddress + sizeOfInt i * r.stride

/-- The call runs the ray generation program `rg` and the miss program `mp`: the first
region is the record of `rg` alone, and the entry of the second region that a miss
selects is the record of `mp`. -/
structure TraceRays.Runs (call : TraceRays) (rayGens missProgs : Region) (rg mp : Prog) : Prop where
  size_eq : call.raygenShaderBindingTable.size = call.raygenShaderBindingTable.stride
  address_eq : call.raygenShaderBindingTable.deviceAddress = rayGens.entry rg.sbtIndex
  miss_eq : call.missShaderBindingTable.entry traceMissType = missProgs.entry mp.sbtIndex

namespace Context

variable {c : Context} {mem : DeviceMemory} {sbt : SBT}

theorem region_of_buildTable {t : SBTTable} {table : Table}
    (h : c.buildTable mem t = some table) : ∃ m, c.maxDataSize t = some m ∧
      table.region = ⟨mem.address t, c.rtPipeline.properties.recordSize m,
        sizeOfInt (c.numRecords t) * c.rtPipeline.properties.recordSize m⟩ := by
  obtain ⟨m, hm, h⟩ := Option.bind_eq_some_iff.mp h
  obtain ⟨bytes, -, h⟩ := Option.bind_eq_some_iff.mp h
  exact ⟨m, hm, by rw [← Option.some.inj h]⟩

/-- The regions that `buildSBT` leaves behind. -/
theorem region_of_buildSBT (h : c.buildSBT mem = some sbt) (t : SBTTable) :
    ∃ m, c.maxDataSize t = some m ∧
      (sbt.table t).region = ⟨mem.address t, c.rtPipeline.properties.recordSize m,
        sizeOfInt (c.numRecords t) * c.rtPipeline.properties.recordSize m⟩ := by
  simp only [buildSBT, Option.bind_eq_bind, Option.bind_eq_some_iff] at h
  obtain ⟨-, -, -, -, -, -, t₁, h₁, t₂, h₂, t₃, h₃, -, -, h⟩ := h
  obtain rfl := Option.some.inj h
  rcases t with (_ | _) | _
  · exact region_of_buildTable h₁
  · exact region_of_buildTable h₂
  · exact region_of_buildTable h₃

/-- Without overflow an entry is at the start of its region only if it is the first. -/
theorem entry_eq_address_iff {r : Region} {i : ℕ} (hpos : 0 < r.stride.toNat)
    (hfit : i * r.stride.toNat < 2 ^ 64) : r.deviceAddress = r.entry i ↔ i = 0 := by
  rw [Region.entry, UInt64.left_eq_add, ← UInt64.toNat_inj, toNat_sizeOfInt_mul hfit,
    UInt64.toNat_zero]
  exact ⟨fun h => (Nat.mul_eq_zero.mp h).resolve_right (by omega), fun h => by rw [h, Nat.zero_mul]⟩

/-- The live programs have slots of their table. -/
theorem Invariant.sbtIndex_lt (h : c.Invariant) {k : ProgKind} {p : Ptr} {o : Prog}
    (ho : c.heap (.prog k) p = some o) :
    o.sbtIndex < (c.rtPipeline.progs k).elements.length :=
  (List.getElem?_eq_some_iff.mp (h.getElem?_elements.mpr ⟨o, ho, rfl⟩)).1

/-- **A launch runs the programs it was given exactly if** there is one slot for ray
generation programs and the miss program is in slot 0.  In the other direction sizes
must not overflow. -/
theorem launch_runs_iff (hc : c.Reachable) (hsbt : c.buildSBT mem = some sbt) {rg mp : Ptr}
    {o o' : Prog} (hrg : c.heap (.prog .rayGen) rg = some o)
    (hmp : c.heap (.prog .missProg) mp = some o') (nx ny : ℤ) :
    ((c.rtPipeline.progs .rayGen).elements.length = 1 ∧ o'.sbtIndex = 0 →
        (vknRayGenLaunch2D sbt rg mp nx ny).Runs sbt.rayGens.region sbt.missProgs.region o o') ∧
      (c.SBTSizesFit →
        (vknRayGenLaunch2D sbt rg mp nx ny).Runs sbt.rayGens.region sbt.missProgs.region o o' →
        (c.rtPipeline.progs .rayGen).elements.length = 1 ∧ o'.sbtIndex = 0) := by
  have h := hc.invariant
  have hlt := h.sbtIndex_lt hrg
  have hlt' := h.sbtIndex_lt hmp
  obtain ⟨m, hm, hregion⟩ := region_of_buildSBT hsbt (.progs .rayGen)
  obtain ⟨m', hm', hregion'⟩ := region_of_buildSBT hsbt (.progs .missProg)
  have hrayGens : sbt.rayGens.region = _ := hregion
  have hmissProgs : sbt.missProgs.region = _ := hregion'
  have hfirst : ∀ r : Region, r.entry traceMissType = r.deviceAddress := fun r => by
    simp [Region.entry, traceMissType, sizeOfInt]
  constructor
  · rintro ⟨hone, hzero⟩
    refine ⟨?_, ?_, ?_⟩
    -- the region of all ray generation records has one record
    · have hnum : sizeOfInt ((1 : ℕ) : ℤ) = 1 := by decide
      simp only [vknRayGenLaunch2D, SBT.launch, hrayGens, numRecords_progs, hone, hnum,
        UInt64.one_mul]
    · rw [show o.sbtIndex = traceMissType from by rw [traceMissType]; omega, hfirst]
      rfl
    · rw [hzero]
      rfl
  · rintro hf ⟨hsize, haddress, hmiss⟩
    obtain ⟨hstride, hroom⟩ := PipelineProperties.toNat_recordSize (hf.record _ m hm)
    obtain ⟨hstride', hroom'⟩ := PipelineProperties.toNat_recordSize (hf.record _ m' hm')
    have hpos := c.rtPipeline.properties.handleSize_pos
    have htable := hf.table _ m hm
    have htable' := hf.table _ m' hm'
    rw [← hstride, numRecords_progs, Int.toNat_natCast] at htable
    rw [← hstride', numRecords_progs, Int.toNat_natCast] at htable'
    constructor
    · simp only [vknRayGenLaunch2D, SBT.launch, hrayGens, numRecords_progs, ← UInt64.toNat_inj,
        toNat_sizeOfInt_mul htable] at hsize
      exact Nat.eq_of_mul_eq_mul_right (by omega) (hsize.trans (Nat.one_mul _).symm)
    · rw [hfirst] at hmiss
      -- a miss selects entry 0, whatever the program
      have hmiss' : sbt.missProgs.region.deviceAddress = sbt.missProgs.region.entry o'.sbtIndex :=
        hmiss
      rw [hmissProgs] at hmiss'
      refine (entry_eq_address_iff (by dsimp only; omega) ?_).mp hmiss'
      exact lt_of_le_of_lt (Nat.mul_le_mul_right _ hlt'.le) htable'

/-- The sample scene has one ray generation program and one miss program. -/
theorem launch_runs_iff_sampleBuilt : ∃ sbt o o', sampleBuilt.buildSBT sampleMemory = some sbt ∧
    sampleBuilt.heap (.prog .rayGen) 4 = some o ∧ sampleBuilt.heap (.prog .missProg) 7 = some o' ∧
    (vknRayGenLaunch2D sbt 4 7 640 480).Runs sbt.rayGens.region sbt.missProgs.region o o' := by
  have hsome : (sampleBuilt.buildSBT sampleMemory).isSome := by decide +kernel
  obtain ⟨sbt, hsbt⟩ := Option.isSome_iff_exists.mp hsome
  exact ⟨sbt, _, _, hsbt, rfl, rfl, (launch_runs_iff (sampleScene_reachable.step sampleBuilt_step)
    hsbt rfl rfl 640 480).1 (by decide)⟩

/-! ## Two ray generation programs -/

/-- The sample scene with a second ray generation program. -/
def sampleTwoRayGens : Context :=
  match sampleBuilt.heap (.progType .rayGen) 2 with
  | some type => sampleBuilt.newProg .rayGen 2 type 15
  | none => sampleBuilt

theorem sampleTwoRayGens_run : Run KeepsHandles sampleBuilt sampleTwoRayGens :=
  .single ⟨.newProg, by decide, .newProg _ .rayGen 2 _ 15 rfl rfl⟩

/-- Launching the second program traces a region of both records. -/
theorem launch_second_rayGen : sampleScene.Reachable ∧ Step .build sampleScene sampleBuilt ∧
    Run KeepsHandles sampleBuilt sampleTwoRayGens ∧
    ∃ sbt o o', sampleTwoRayGens.buildSBT sampleMemory = some sbt ∧
      sampleTwoRayGens.heap (.prog .rayGen) 15 = some o ∧
      sampleTwoRayGens.heap (.prog .missProg) 7 = some o' ∧
      ¬ (vknRayGenLaunch2D sbt 15 7 640 480).Runs sbt.rayGens.region sbt.missProgs.region o o' := by
  have hregion : (sampleTwoRayGens.buildSBT sampleMemory).map (·.rayGens.region) =
      some ⟨4096, 64, 128⟩ := by decide +kernel
  obtain ⟨sbt, hsbt, hregion⟩ := Option.map_eq_some_iff.mp hregion
  refine ⟨sampleScene_reachable, sampleBuilt_step, sampleTwoRayGens_run, sbt, _, _, hsbt, rfl, rfl,
    fun h => ?_⟩
  have hsize : sbt.rayGens.region.size = sbt.rayGens.region.stride := h.size_eq
  rw [hregion] at hsize
  exact absurd hsize (by decide)

end Context

end Vulkanite
