/-
# The alignment of the shader binding table

Vulkan wants the addresses and the strides of the tables to be multiples of
`shaderGroupBaseAlignment`.  `buildSBT` rounds the strides up to that, but it leaves the
alignment of the three buffers to `DeviceBuffer`, whose default is 16 bytes.

So all that is certain of an address is that it is a multiple of 16.  Hence the tables of a
context are aligned, whatever addresses they get, exactly if the device asks for 16 bytes
or less and the record sizes do not overflow (`buildSBT_aligned_iff`).
-/
import Vulkanite.Launch
import Vulkanite.Lib.Alignment

namespace Vulkanite

/-- `DeviceBuffer::alignment`, for the alignment that the constructor gets. -/
def deviceBufferAlignment (align : UInt64) : UInt64 := max 16 align

/-- The alignment of the buffers that `buildSBT` makes. -/
def sbtBufferAlignment : UInt64 := deviceBufferAlignment 0

/-- The buffers have addresses of this alignment. -/
def DeviceMemory.AlignedTo (mem : DeviceMemory) (a : ℕ) : Prop :=
  ∀ t, a ∣ (mem.address t).toNat

/-- The same memory at other addresses. -/
def DeviceMemory.withAddress (mem : DeviceMemory) (address : SBTTable → UInt64) : DeviceMemory :=
  { mem with address }

/-! ## Strides -/

namespace PipelineProperties

variable {p : PipelineProperties}

/-- A power of two that fits 32 bits divides `2 ^ 64`. -/
theorem alignment_dvd (hpow : ∃ e, p.shaderGroupBaseAlignment.toNat = 2 ^ e) :
    p.shaderGroupBaseAlignment.toNat ∣ 2 ^ 64 :=
  (Alignment.dvd_two_pow (a := p.shaderGroupBaseAlignment.toBitVec) hpow).trans
    (Nat.pow_dvd_pow 2 (by decide))

/-- Record sizes are multiples of the alignment, even if they overflow. -/
theorem alignment_dvd_recordSize (hpow : ∃ e, p.shaderGroupBaseAlignment.toNat = 2 ^ e)
    (maxDataSize : UInt64) :
    p.shaderGroupBaseAlignment.toNat ∣ (p.recordSize maxDataSize).toNat := by
  rw [recordSize, nextMultipleOf]
  refine dvd_toNat_mul (alignment_dvd hpow) ?_
  rw [toNat_alignment]
  exact Nat.dvd_mul_right _ _

theorem RecordFits.mono {m n : UInt64} (hle : m.toNat ≤ n.toNat) (h : p.RecordFits n) :
    p.RecordFits m := by
  unfold RecordFits at *
  omega

/-- **A record has room for header and data exactly if** its size does not overflow. -/
theorem le_toNat_recordSize_iff {maxDataSize : UInt64} :
    p.shaderGroupHandleSize.toNat + maxDataSize.toNat ≤ (p.recordSize maxDataSize).toNat ↔
      p.RecordFits maxDataSize := by
  refine ⟨fun hle => ?_, fun h => (toNat_recordSize h).2⟩
  by_contra hover
  unfold RecordFits at hover
  have halign := p.toNat_alignment
  have hpos := p.handleSize_pos
  have hsmall := p.shaderGroupBaseAlignment.toNat_lt
  have hrecord := (p.recordSize maxDataSize).toNat_lt
  have hsum : _ = p.shaderGroupHandleSize.toNat + maxDataSize.toNat :=
    toNat_headerSize_add (by omega)
  -- the dividend wraps to less than one multiple
  have hdividend : (p.headerSize + maxDataSize + p.alignment - 1).toNat <
      p.alignment.toNat := by
    rw [UInt64.toNat_sub, UInt64.toNat_add, UInt64.toNat_one, hsum, halign]
    omega
  have hzero : (p.recordSize maxDataSize).toNat = 0 := by
    rw [recordSize, nextMultipleOf, divRoundUp, UInt64.toNat_mul, UInt64.toNat_div,
      Nat.div_eq_of_lt hdividend, Nat.mul_zero, Nat.zero_mod]
  omega

end PipelineProperties

/-! ## The data of records -/

/-- A loop that takes maxima ends with what it started from, or with what one of the
elements asks for. -/
theorem foldlM_max_attained {β : Type} {f : UInt64 → β → Option UInt64} {P : UInt64 → Prop}
    (hstep : ∀ e s s', f s e = some s' → s' = s ∨ P s') {es : List β} {s m : UInt64}
    (hm : es.foldlM f s = some m) : m = s ∨ P m := by
  induction es generalizing s with
  | nil => exact .inl (Option.some.inj hm).symm
  | cons e es ih =>
    rw [List.foldlM_cons] at hm
    obtain ⟨s', hs', hm⟩ := Option.bind_eq_some_iff.mp hm
    rcases ih hm with rfl | hP
    · exact hstep e s m hs'
    · exact .inr hP

theorem max_eq_or (a b : UInt64) : max a b = a ∨ max a b = b := by
  show (if a ≤ b then b else a) = a ∨ (if a ≤ b then b else a) = b
  split_ifs
  · exact .inr rfl
  · exact .inl rfl

namespace Context

variable {c : Context}

/-- A record of the table has data of this size: an object has it, or for hit groups a
type of objects. -/
def HasDataSize (c : Context) : SBTTable → UInt64 → Prop
  | .progs k, n => ∃ p o type, c.heap (.prog k) p = some o ∧
      c.heap (.progType k) o.type = some type ∧ type.dataSize = n
  | .hitGroups, n => ∃ t gt, c.heap .geomType t = some gt ∧ gt.dataSize = n

/-- The records of a table are those of objects. -/
theorem Invariant.hasDataSize_recordOf (h : c.Invariant) {x : RecordOwner} {y : ℤ × Record}
    (hy : c.recordOf x = some y) : ∃ n, c.HasDataSize x.table n ∧ y.2.data.length = n.toNat := by
  cases x with
  | prog k p =>
    obtain ⟨o, type, ho, htype, rfl⟩ := recordOf_prog.mp hy
    obtain ⟨type', htype', hlength⟩ := h.progData k p o ho
    obtain rfl := Option.some.inj (htype.symm.trans htype')
    exact ⟨type.dataSize, ⟨p, o, type, ho, htype, rfl⟩, hlength⟩
  | geom a j =>
    obtain ⟨accel, g, o, gt, -, -, ho, hgt, rfl⟩ := recordOf_geom.mp hy
    obtain ⟨gt', hgt', hlength⟩ := h.geomData g o ho
    obtain rfl := Option.some.inj (hgt.symm.trans hgt')
    exact ⟨gt.dataSize, ⟨o.type, gt, hgt, rfl⟩, hlength⟩

/-- The maximum is at least each data size. -/
theorem Invariant.le_maxDataSize (h : c.Invariant) {t : SBTTable} {m n : UInt64}
    (hm : c.maxDataSize t = some m) (hn : c.HasDataSize t n) : n.toNat ≤ m.toNat := by
  cases t with
  | progs k =>
    obtain ⟨p, o, type, ho, htype, rfl⟩ := hn
    obtain ⟨type', htype', hlength⟩ := h.progData k p o ho
    obtain rfl := Option.some.inj (htype.symm.trans htype')
    obtain ⟨m', hm', hbound⟩ := h.maxDataSize_spec (.progs k)
    obtain rfl := Option.some.inj (hm.symm.trans hm')
    rw [← hlength]
    exact hbound (.prog k p) _ rfl (recordOf_prog.mpr ⟨o, type, ho, htype, rfl⟩)
  | hitGroups =>
    obtain ⟨t, gt, hgt, rfl⟩ := hn
    obtain ⟨m', hm', -, hbound⟩ := foldlM_max (fun t ht s => h.maxWithGeomType_spec ht s) 0
    have hmem := (h.geomTypes t).mpr (Option.isSome_of_eq_some hgt)
    have hle : gt.dataSize.toNat ≤ m'.toNat := by simpa [hgt] using hbound t hmem
    have hm'' : m = if m' = 0 then 1 else m' := by
      simp only [maxDataSize, hm'] at hm
      exact (Option.some.inj hm).symm
    rw [hm'']
    split_ifs with hzero
    · rw [hzero, UInt64.toNat_zero] at hle
      omega
    · exact hle

/-- The maximum is a data size, unless it is at most 1. -/
theorem maxDataSize_attained {t : SBTTable} {m : UInt64} (hm : c.maxDataSize t = some m) :
    m.toNat ≤ 1 ∨ c.HasDataSize t m := by
  cases t with
  | progs k =>
    have hstep : ∀ e s s', c.maxWithProg k s e = some s' →
        s' = s ∨ c.HasDataSize (.progs k) s' := by
      intro e s s' hs'
      cases e with
      | none => exact .inl (Option.some.inj hs').symm
      | some p =>
        simp only [maxWithProg, Option.bind_eq_bind, Option.pure_def, Option.bind_eq_some_iff,
          Option.some.injEq] at hs'
        obtain ⟨o, ho, type, htype, rfl⟩ := hs'
        rcases max_eq_or s type.dataSize with heq | heq
        · exact .inl heq
        · exact .inr ⟨p, o, type, ho, htype, heq.symm⟩
    rcases foldlM_max_attained hstep hm with rfl | hattained
    · exact .inl (by decide)
    · exact .inr hattained
  | hitGroups =>
    have hstep : ∀ t s s', c.maxWithGeomType s t = some s' →
        s' = s ∨ c.HasDataSize .hitGroups s' := by
      intro t s s' hs'
      simp only [maxWithGeomType, Option.bind_eq_bind, Option.pure_def, Option.bind_eq_some_iff,
        Option.some.injEq] at hs'
      obtain ⟨gt, hgt, rfl⟩ := hs'
      rcases max_eq_or s gt.dataSize with heq | heq
      · exact .inl heq
      · exact .inr ⟨t, gt, hgt, heq.symm⟩
    obtain ⟨m', hm', hm⟩ := Option.bind_eq_some_iff.mp hm
    obtain rfl := Option.some.inj hm
    split_ifs with hzero
    · exact .inl le_rfl
    · rcases foldlM_max_attained hstep hm' with rfl | hattained
      · exact absurd rfl hzero
      · exact .inr hattained

/-! ## Addresses do not matter to a build -/

variable {mem : DeviceMemory}

/-- A table gets the same records at another address. -/
theorem buildTable_withAddress (c : Context) (mem : DeviceMemory) (address : SBTTable → UInt64)
    (t : SBTTable) : c.buildTable (mem.withAddress address) t =
      (c.buildTable mem t).map fun table =>
        { table with region := { table.region with deviceAddress := address t } } := by
  simp only [buildTable, Option.bind_eq_bind, Option.pure_def, Option.map_bind,
    Function.comp_def, Option.map_some]
  rfl

theorem isSome_buildSBT_withAddress (h : (c.buildSBT mem).isSome)
    (address : SBTTable → UInt64) : (c.buildSBT (mem.withAddress address)).isSome := by
  obtain ⟨sbt, hsbt⟩ := Option.isSome_iff_exists.mp h
  simp only [buildSBT, Option.bind_eq_bind, Option.pure_def, Option.bind_eq_some_iff,
    Option.some.injEq, Option.guard_eq_some'] at hsbt
  obtain ⟨m, hm, -, hpos, -, hmiss, t₁, h₁, t₂, h₂, t₃, h₃, -, hstride, -⟩ := hsbt
  simp only [buildSBT, buildTable_withAddress, hm, h₁, h₂, h₃, Option.bind_eq_bind,
    Option.pure_def, Option.map_some, Option.bind_some, Option.isSome_iff_exists,
    Option.bind_eq_some_iff, Option.guard_eq_some', Option.some.injEq]
  exact ⟨_, (), hpos, (), hmiss, (), hstride, rfl⟩

/-! ## When the tables are aligned -/

/-- What Vulkan wants of the tables. -/
structure SBTAligned (c : Context) (sbt : SBT) : Prop where
  address : ∀ t, c.rtPipeline.properties.shaderGroupBaseAlignment.toNat ∣
    (sbt.table t).region.deviceAddress.toNat
  stride : ∀ t, c.rtPipeline.properties.shaderGroupBaseAlignment.toNat ∣
    (sbt.table t).region.stride.toNat
  room : ∀ t n, c.HasDataSize t n →
    c.rtPipeline.properties.shaderGroupHandleSize.toNat + n.toNat ≤
      (sbt.table t).region.stride.toNat
  entry : ∀ t i, c.rtPipeline.properties.shaderGroupBaseAlignment.toNat ∣
    ((sbt.table t).region.entry i).toNat

/-- The data of a record stays within the stride. -/
theorem SBTAligned.recordOf_le (h : c.Invariant) {sbt : SBT} (haligned : c.SBTAligned sbt)
    {x : RecordOwner} {y : ℤ × Record} (hy : c.recordOf x = some y) :
    c.rtPipeline.properties.shaderGroupHandleSize.toNat + y.2.data.length ≤
      (sbt.table x.table).region.stride.toNat := by
  obtain ⟨n, hn, hlength⟩ := h.hasDataSize_recordOf hy
  rw [hlength]
  exact haligned.room x.table n hn

/-- What holds of the smaller of two sizes if it does of the larger one holds of all data
sizes exactly if it does of the maximum. -/
theorem Invariant.forall_hasDataSize_iff (h : c.Invariant) {t : SBTTable} {m : UInt64}
    (hm : c.maxDataSize t = some m) {P : UInt64 → Prop}
    (hmono : ∀ a b : UInt64, a.toNat ≤ b.toNat → P b → P a) (hone : m.toNat ≤ 1 → P m) :
    (∀ n, c.HasDataSize t n → P n) ↔ P m := by
  constructor
  · intro hall
    rcases maxDataSize_attained hm with hle | hattained
    · exact hone hle
    · exact hall m hattained
  · intro hmax n hn
    exact hmono _ _ (h.le_maxDataSize hm hn) hmax

/-- The records have room exactly if no record size overflows. -/
theorem room_iff (h : c.Invariant) {sbt : SBT} (hsbt : c.buildSBT mem = some sbt) :
    (∀ t n, c.HasDataSize t n → c.rtPipeline.properties.shaderGroupHandleSize.toNat + n.toNat ≤
        (sbt.table t).region.stride.toNat) ↔
      ∀ t n, c.HasDataSize t n → c.rtPipeline.properties.RecordFits n := by
  refine forall_congr' fun t => ?_
  obtain ⟨m, hm, hregion⟩ := region_of_buildSBT hsbt t
  have hroom : _ ≤ (c.rtPipeline.properties.recordSize m).toNat ↔ _ :=
    PipelineProperties.le_toNat_recordSize_iff
  have hone : m.toNat ≤ 1 → c.rtPipeline.properties.RecordFits m := by
    have hsmall := c.rtPipeline.properties.shaderGroupBaseAlignment.toNat_lt
    have hsmall' := c.rtPipeline.properties.shaderGroupHandleSize.toNat_lt
    unfold PipelineProperties.RecordFits
    omega
  rw [hregion]
  -- both sides are about the maximum
  calc (∀ n, c.HasDataSize t n → c.rtPipeline.properties.shaderGroupHandleSize.toNat + n.toNat ≤
          (c.rtPipeline.properties.recordSize m).toNat)
      ↔ c.rtPipeline.properties.shaderGroupHandleSize.toNat + m.toNat ≤
          (c.rtPipeline.properties.recordSize m).toNat :=
        h.forall_hasDataSize_iff hm (fun _ _ hle => (Nat.add_le_add_left hle _).trans)
          fun hle => hroom.mpr (hone hle)
    _ ↔ c.rtPipeline.properties.RecordFits m := hroom
    _ ↔ ∀ n, c.HasDataSize t n → c.rtPipeline.properties.RecordFits n :=
        (h.forall_hasDataSize_iff hm (fun _ _ => PipelineProperties.RecordFits.mono) hone).symm

/-- **The tables are aligned at all addresses that they can get exactly if** the device
wants no more than 16 bytes and no record size overflows. -/
theorem buildSBT_aligned_iff (hc : c.Reachable)
    (hpow : ∃ e, c.rtPipeline.properties.shaderGroupBaseAlignment.toNat = 2 ^ e)
    (hbuilt : (c.buildSBT mem).isSome) :
    (∀ (mem : DeviceMemory) (sbt : SBT), mem.AlignedTo sbtBufferAlignment.toNat →
        c.buildSBT mem = some sbt → c.SBTAligned sbt) ↔
      c.rtPipeline.properties.shaderGroupBaseAlignment.toNat ≤ 16 ∧
        ∀ t n, c.HasDataSize t n → c.rtPipeline.properties.RecordFits n := by
  have halignment : sbtBufferAlignment.toNat = 2 ^ 4 := rfl
  constructor
  · intro hall
    -- all tables at the address 16
    obtain ⟨sbt, hsbt⟩ := Option.isSome_iff_exists.mp
      (isSome_buildSBT_withAddress hbuilt fun _ => 16)
    have haligned := hall _ sbt (fun _ => ⟨1, rfl⟩) hsbt
    refine ⟨?_, (room_iff hc.invariant hsbt).mp haligned.room⟩
    have haddress := haligned.address .hitGroups
    obtain ⟨m, -, hregion⟩ := region_of_buildSBT hsbt .hitGroups
    rw [hregion] at haddress
    exact Nat.le_of_dvd (by decide) haddress
  · rintro ⟨hle, hfits⟩ mem sbt hmem hsbt
    have hdvd : c.rtPipeline.properties.shaderGroupBaseAlignment.toNat ∣ 2 ^ 4 := by
      obtain ⟨e, he⟩ := hpow
      rw [he] at hle ⊢
      exact Nat.pow_dvd_pow 2 ((Nat.pow_le_pow_iff_right (by decide)).mp (hle : 2 ^ e ≤ 2 ^ 4))
    have haddress : ∀ t, c.rtPipeline.properties.shaderGroupBaseAlignment.toNat ∣
        (sbt.table t).region.deviceAddress.toNat := by
      intro t
      obtain ⟨m, -, hregion⟩ := region_of_buildSBT hsbt t
      rw [hregion]
      exact (halignment ▸ hdvd : _ ∣ sbtBufferAlignment.toNat).trans (hmem t)
    have hstride : ∀ t, c.rtPipeline.properties.shaderGroupBaseAlignment.toNat ∣
        (sbt.table t).region.stride.toNat := by
      intro t
      obtain ⟨m, -, hregion⟩ := region_of_buildSBT hsbt t
      rw [hregion]
      exact PipelineProperties.alignment_dvd_recordSize hpow m
    refine ⟨haddress, hstride, (room_iff hc.invariant hsbt).mpr hfits, fun t i => ?_⟩
    have hwrap := PipelineProperties.alignment_dvd hpow
    exact dvd_toNat_add hwrap (haddress t)
      (dvd_toNat_mul hwrap (Nat.dvd_mul_left_of_dvd (hstride t) _))

/-- The device of the sample scene wants 64 bytes. -/
theorem buildSBT_aligned_iff_sampleBuilt :
    ¬ ∀ (mem : DeviceMemory) (sbt : SBT), mem.AlignedTo sbtBufferAlignment.toNat →
      sampleBuilt.buildSBT mem = some sbt → sampleBuilt.SBTAligned sbt := by
  intro hall
  have hbuilt : (sampleBuilt.buildSBT sampleMemory).isSome := by decide +kernel
  have hle := ((buildSBT_aligned_iff (sampleScene_reachable.step sampleBuilt_step)
    ⟨6, by decide⟩ hbuilt).mp hall).1
  exact absurd hle (by decide)

/-- The tables of the sample scene at the address 16. -/
theorem buildSBT_unaligned :
    ¬ ∀ c : Context, c.Reachable →
      (∃ e, c.rtPipeline.properties.shaderGroupBaseAlignment.toNat = 2 ^ e) →
      ∀ (mem : DeviceMemory) (sbt : SBT), mem.AlignedTo sbtBufferAlignment.toNat →
        c.buildSBT mem = some sbt → c.SBTAligned sbt := by
  intro hall
  have hsome : (sampleBuilt.buildSBT (sampleMemory.withAddress fun _ => 16)).isSome := by
    decide +kernel
  obtain ⟨sbt, hsbt⟩ := Option.isSome_iff_exists.mp hsome
  have haddress := (hall sampleBuilt (sampleScene_reachable.step sampleBuilt_step) ⟨6, by decide⟩
    _ sbt (fun _ => ⟨1, rfl⟩) hsbt).address .hitGroups
  obtain ⟨m, -, hregion⟩ := region_of_buildSBT hsbt .hitGroups
  rw [hregion] at haddress
  have hdvd : 64 ∣ 16 := haddress
  exact absurd hdvd (by decide)

end Context

end Vulkanite
