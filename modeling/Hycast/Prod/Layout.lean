import Hycast.Prod.ChunkInfo

/-! The chunk layout of a product as `ChunkInfo` computes it.

`getSize` accepts exactly the chunks of a product and its sizes tile the product. The
constructor's 32-bit chunk count agrees with the exact one until `prodSize + canonSize - 1`
passes `2^32`. Both take the chunk size from the process-wide `canonSize`, never from the
product's own `ProdInfo`.
-/

set_option autoImplicit false

namespace Hycast.ChunkInfo

/-- The chunk count of the specification, `⌈size / chunkSize⌉`, in exact arithmetic. -/
def chunkCount (size chunkSize : Nat) : Nat := (size + chunkSize - 1) / chunkSize

theorem lt_chunkCount_iff {size chunkSize index : Nat} (positive : 0 < chunkSize) :
    index < chunkCount size chunkSize ↔ index * chunkSize < size := by
  rw [chunkCount, ← Nat.succ_le, Nat.le_div_iff_mul_le positive, Nat.succ_mul]
  omega

theorem le_chunkCount_mul (size : Nat) {chunkSize : Nat} (positive : 0 < chunkSize) :
    size ≤ chunkCount size chunkSize * chunkSize := by
  have split := Nat.mod_add_div (size + chunkSize - 1) chunkSize
  have := Nat.mod_lt (size + chunkSize - 1) positive
  rw [chunkCount, Nat.mul_comm]
  omega

theorem chunkCount_le (size : Nat) {chunkSize : Nat} (positive : 0 < chunkSize) :
    chunkCount size chunkSize ≤ size := by
  have := Nat.le_mul_of_pos_left size positive
  rw [chunkCount, Nat.div_le_iff_le_mul_add_pred positive]
  omega

variable {canonSize : CanonSize} {prodSize : ProdSize} {chunkIndex : ChunkIndex}

/-! ## `getSize` -/

theorem getOffset_lt_iff :
    getOffset canonSize chunkIndex < prodSize.toNat ↔
      chunkIndex.toNat < chunkCount prodSize.toNat canonSize.size.toNat :=
  (lt_chunkCount_iff canonSize.size_pos).symm

theorem getSize_ok_iff :
    (∃ size, getSize canonSize prodSize chunkIndex = .ok size) ↔
      chunkIndex.toNat < chunkCount prodSize.toNat canonSize.size.toNat := by
  simp only [getSize_eq_ok, ← getOffset_lt_iff, exists_and_left, and_iff_left_iff_imp]
  intro _
  have := canonSize.size.toNat_lt
  exact ⟨_, toNat_toUInt16
    (min canonSize.size.toNat (prodSize.toNat - getOffset canonSize chunkIndex)) (by omega)⟩

theorem getSize_of_lt (inside : chunkIndex.toNat < chunkCount prodSize.toNat canonSize.size.toNat) :
    ∃ size, getSize canonSize prodSize chunkIndex = .ok size ∧
      size.toNat = min canonSize.size.toNat (prodSize.toNat - chunkIndex.toNat * canonSize.size.toNat) := by
  obtain ⟨size, found⟩ := getSize_ok_iff.mpr inside
  exact ⟨size, found, (getSize_eq_ok.mp found).2⟩

theorem toNat_ofNat_of_lt_chunkCount {index : Nat}
    (inside : index < chunkCount prodSize.toNat canonSize.size.toNat) :
    (UInt32.ofNat index).toNat = index :=
  have := chunkCount_le prodSize.toNat canonSize.size_pos
  have := prodSize.toNat_lt
  UInt32.toNat_ofNat_of_lt (by simp only [UInt32.size]; omega)

theorem getSize_ofNat {index : Nat}
    (inside : index < chunkCount prodSize.toNat canonSize.size.toNat) :
    ∃ size, getSize canonSize prodSize (UInt32.ofNat index) = .ok size ∧
      size.toNat = min canonSize.size.toNat (prodSize.toNat - index * canonSize.size.toNat) := by
  have same := toNat_ofNat_of_lt_chunkCount inside
  obtain ⟨size, found, value⟩ := @getSize_of_lt canonSize prodSize _ (same.symm ▸ inside)
  exact ⟨size, found, same ▸ value⟩

/-! ## The sizes tile the product -/

theorem sum_min_sizes (size chunkSize count : Nat) :
    ((List.range count).map fun index => min chunkSize (size - index * chunkSize)).sum =
      min size (count * chunkSize) := by
  induction count with
  | zero => simp
  | succ count ih =>
    rw [List.range_succ, List.map_append, List.sum_append, ih, Nat.succ_mul]
    simp only [List.map_cons, List.map_nil, List.sum_cons, List.sum_nil, Nat.add_zero]
    omega

theorem mapM_getSize :
    (List.range (chunkCount prodSize.toNat canonSize.size.toNat)).mapM
        (fun index => getSize canonSize prodSize (UInt32.ofNat index)) =
      .ok ((List.range (chunkCount prodSize.toNat canonSize.size.toNat)).map fun index =>
        (min canonSize.size.toNat (prodSize.toNat - index * canonSize.size.toNat)).toUInt16) := by
  suffices all : ∀ indices : List Nat,
      (∀ index ∈ indices, index < chunkCount prodSize.toNat canonSize.size.toNat) →
      indices.mapM (fun index => getSize canonSize prodSize (UInt32.ofNat index)) =
        .ok (indices.map fun index =>
          (min canonSize.size.toNat (prodSize.toNat - index * canonSize.size.toNat)).toUInt16) from
    all _ fun _ member => List.mem_range.mp member
  intro indices inside
  induction indices with
  | nil => rfl
  | cons index rest ih =>
    obtain ⟨size, found, value⟩ := getSize_ofNat (inside index (List.mem_cons_self _ _))
    have small := canonSize.size.toNat_lt
    have same : size = (min canonSize.size.toNat (prodSize.toNat - index * canonSize.size.toNat)).toUInt16 :=
      UInt16.toNat.inj (value.trans (toNat_toUInt16 _ (by omega)).symm)
    simp only [List.mapM_cons, found, ih fun other member => inside other (List.mem_cons_of_mem _ member),
      same, List.map_cons]
    rfl

theorem mem_chunk_iff {size chunkSize byte index : Nat} (positive : 0 < chunkSize) (byte_lt : byte < size) :
    (index * chunkSize ≤ byte ∧ byte < index * chunkSize + min chunkSize (size - index * chunkSize)) ↔
      index = byte / chunkSize := by
  constructor
  · rintro ⟨low, high⟩
    exact (Nat.div_eq_of_lt_le low (by rw [Nat.succ_mul]; omega)).symm
  · rintro rfl
    have : byte < byte / chunkSize * chunkSize + chunkSize := Nat.lt_div_mul_add positive
    have := Nat.div_mul_le_self byte chunkSize
    omega

/-- Every chunk of a product has a size in `[1, canonSize]`, all but the last have the full
size, the sizes sum to the product's size, and the chunks placed at `index * canonSize`
cover each byte of the product exactly once. -/
theorem getSize_tiles_product :
    (∀ chunkIndex : ChunkIndex,
      chunkIndex.toNat < chunkCount prodSize.toNat canonSize.size.toNat → ∃ size : ChunkSize,
        getSize canonSize prodSize chunkIndex = .ok size ∧ 1 ≤ size.toNat ∧
          size.toNat ≤ canonSize.size.toNat ∧
          (chunkIndex.toNat + 1 < chunkCount prodSize.toNat canonSize.size.toNat →
            size.toNat = canonSize.size.toNat)) ∧
    (∃ sizes : List ChunkSize,
      (List.range (chunkCount prodSize.toNat canonSize.size.toNat)).mapM
          (fun index => getSize canonSize prodSize (UInt32.ofNat index)) = .ok sizes ∧
        (sizes.map UInt16.toNat).sum = prodSize.toNat) ∧
    ∀ byte < prodSize.toNat, ∃! index, index < chunkCount prodSize.toNat canonSize.size.toNat ∧
      ∃ size : ChunkSize, getSize canonSize prodSize (UInt32.ofNat index) = .ok size ∧
        index * canonSize.size.toNat ≤ byte ∧ byte < index * canonSize.size.toNat + size.toNat := by
  have positive := canonSize.size_pos
  have small := canonSize.size.toNat_lt
  refine ⟨fun chunkIndex inside => ?_, ⟨_, mapM_getSize, ?_⟩, fun byte byte_lt => ?_⟩
  · obtain ⟨size, found, value⟩ := getSize_of_lt inside
    have within := (lt_chunkCount_iff positive).mp inside
    refine ⟨size, found, by omega, by omega, fun notLast => ?_⟩
    have := (lt_chunkCount_iff positive).mp notLast
    rw [Nat.succ_mul] at this
    omega
  · have := le_chunkCount_mul prodSize.toNat positive
    have sizes : ∀ index ∈ List.range (chunkCount prodSize.toNat canonSize.size.toNat),
        (UInt16.toNat ∘ fun index =>
          (min canonSize.size.toNat (prodSize.toNat - index * canonSize.size.toNat)).toUInt16) index =
        min canonSize.size.toNat (prodSize.toNat - index * canonSize.size.toNat) :=
      fun index _ => toNat_toUInt16 _ (by omega)
    rw [List.map_map, List.map_congr_left sizes, sum_min_sizes]
    omega
  · have chunkOf : ∀ index, index < chunkCount prodSize.toNat canonSize.size.toNat →
        ((∃ size : ChunkSize, getSize canonSize prodSize (UInt32.ofNat index) = .ok size ∧
          index * canonSize.size.toNat ≤ byte ∧ byte < index * canonSize.size.toNat + size.toNat) ↔
        index = byte / canonSize.size.toNat) := by
      intro index inside
      obtain ⟨size, found, value⟩ := getSize_ofNat inside
      rw [← mem_chunk_iff positive byte_lt, ← value]
      refine ⟨fun ⟨other, again, bounds⟩ => ?_, fun bounds => ⟨size, found, bounds⟩⟩
      rw [found, Except.ok.injEq] at again
      exact again ▸ bounds
    have first : byte / canonSize.size.toNat < chunkCount prodSize.toNat canonSize.size.toNat :=
      (lt_chunkCount_iff positive).mpr ((Nat.div_mul_le_self _ _).trans_lt byte_lt)
    refine ⟨byte / canonSize.size.toNat, ⟨first, (chunkOf _ first).mpr rfl⟩, ?_⟩
    rintro index ⟨inside, covers⟩
    exact (chunkOf index inside).mp covers

/-! ## The constructor's chunk count -/

theorem accepted_iff_of_noWrap (noWrap : prodSize.toNat + canonSize.size.toNat - 1 < 2 ^ 32) :
    Accepted canonSize prodSize chunkIndex ↔
      chunkIndex = 0 ∨ chunkIndex.toNat < chunkCount prodSize.toNat canonSize.size.toNat := by
  rw [Accepted, numChunks_toNat, Nat.mod_eq_of_lt noWrap]
  rfl

/-- Below the wrap, the constructor and `getSize` accept the same chunks of a nonempty
product. -/
theorem accepted_iff_getSize_ok (nonempty : 0 < prodSize.toNat)
    (noWrap : prodSize.toNat + canonSize.size.toNat - 1 < 2 ^ 32) :
    Accepted canonSize prodSize chunkIndex ↔ ∃ size, getSize canonSize prodSize chunkIndex = .ok size := by
  rw [accepted_iff_of_noWrap noWrap, getSize_ok_iff, or_iff_right_iff_imp]
  rintro rfl
  exact (lt_chunkCount_iff canonSize.size_pos).mpr (by simpa using nonempty)

theorem accepted_iff_getSize_ok_of_chunk_three :
    Accepted CanonSize.initial 100000 3 ↔ ∃ size, getSize CanonSize.initial 100000 3 = .ok size :=
  accepted_iff_getSize_ok (by decide) (by decide)

/-- `operator bool` of a `ChunkInfo` that the constructor returned says whether `getSize`
accepts its chunk, for every product size: the constructor accepts chunk 0 of an empty product,
which `getSize` refuses, and every other chunk it accepts lies inside the product, the wrapped
count being too small rather than too large. -/
theorem getSize_ok_iff_toBool {prodIndex : ProdIndex} {chunkInfo : ChunkInfo}
    (constructed : construct canonSize prodIndex prodSize chunkIndex = .ok chunkInfo) :
    (∃ size, getSize canonSize chunkInfo.prodSize chunkInfo.chunkIndex = .ok size) ↔
      chunkInfo.toBool canonSize = true := by
  obtain ⟨accepted, rfl⟩ := construct_eq_ok.mp constructed
  have positive := canonSize.size_pos
  have empty : prodSize = 0 ↔ prodSize.toNat = 0 := ⟨fun zero => zero ▸ rfl, fun zero => UInt32.toNat.inj zero⟩
  have canon : (canonSize.size != 0) = true := bne_iff_ne.mpr canonSize.nonzero
  simp only [getSize_ok_iff, lt_chunkCount_iff positive, toBool, canon, Bool.and_true, bne_iff_ne, ne_eq, empty]
  rcases accepted with rfl | below
  · simp [Nat.pos_iff_ne_zero]
  · rw [numChunks_toNat, ← Nat.succ_le, Nat.le_div_iff_mul_le positive, Nat.succ_mul] at below
    have := Nat.mod_le (prodSize.toNat + canonSize.size.toNat - 1) (2 ^ 32)
    omega

theorem getSize_refuses_chunk_of_empty_product :
    (∃ size, getSize CanonSize.initial 0 0 = .ok size) ↔ toBool CanonSize.initial ⟨⟨0⟩, 0, 0⟩ = true :=
  @getSize_ok_iff_toBool CanonSize.initial 0 0 ⟨0⟩ ⟨⟨0⟩, 0, 0⟩ (construct_eq_ok.mpr ⟨.inl rfl, rfl⟩)

/-- The largest product size wraps the constructor's count to zero: the constructor refuses
chunk 1, which `getSize` and the exact count accept. -/
theorem construct_refuses_chunk_of_largest_product :
    (1 : ChunkIndex).toNat < chunkCount (4294967295 : ProdSize).toNat CanonSize.initial.size.toNat ∧
    getSize CanonSize.initial 4294967295 1 = .ok 32760 ∧
    construct CanonSize.initial ⟨0⟩ 4294967295 1 = .error (.invalidArgument
      "Chunk-index is greater than or equal to number of chunks: index=1, numChunks=0") :=
  ⟨by decide, rfl, rfl⟩

/-! ## The product's own chunk size -/

/-- The test fixture's `ProdInfo{"product", 1, 100000, 1400}`: its chunk 4 exists with the
product's chunk size 1400, but the process-wide 32760 gives it four chunks, and its first
chunk is 32760 bytes, not 1400. -/
theorem ofProdInfo_ignores_product_chunk_size :
    let prodInfo : ProdInfo :=
      ⟨"product".toList.map fun ch => ch.toNat.toUInt8, ⟨1⟩, 100000, 1400, by decide⟩
    0 < prodInfo.size.toNat ∧ 0 < prodInfo.chunkSize.toNat ∧
    4 < chunkCount prodInfo.size.toNat prodInfo.chunkSize.toNat ∧
    ofProdInfo CanonSize.initial prodInfo 4 = .error (.invalidArgument
      "Chunk-index is greater than or equal to number of chunks: index=4, numChunks=4") ∧
    getSize CanonSize.initial prodInfo.size 0 = .ok 32760 ∧
    (32760 : Nat) ≠ min prodInfo.chunkSize.toNat prodInfo.size.toNat :=
  ⟨by decide, by decide, by decide, rfl, rfl, by decide⟩

/-- When a product's chunk size is the process-wide `canonSize`, and below the wrap of the
constructor's count, `ChunkInfo(prodInfo, index)` accepts every chunk of the product and
`getSize` gives it the product's own layout. -/
theorem ofProdInfo_layout_of_canonSize (canonSize : CanonSize) (prodInfo : ProdInfo)
    (chunkIndex : ChunkIndex) (own : prodInfo.chunkSize = canonSize.size)
    (inside : chunkIndex.toNat < chunkCount prodInfo.size.toNat prodInfo.chunkSize.toNat)
    (noWrap : prodInfo.size.toNat + prodInfo.chunkSize.toNat - 1 < 2 ^ 32) :
    ofProdInfo canonSize prodInfo chunkIndex = .ok ⟨prodInfo.index, prodInfo.size, chunkIndex⟩ ∧
    ∃ size, getSize canonSize prodInfo.size chunkIndex = .ok size ∧ size.toNat =
      min prodInfo.chunkSize.toNat (prodInfo.size.toNat - chunkIndex.toNat * prodInfo.chunkSize.toNat) := by
  rw [own] at inside noWrap ⊢
  exact ⟨construct_eq_ok.mpr ⟨(accepted_iff_of_noWrap noWrap).mpr (.inr inside), rfl⟩,
    getSize_of_lt inside⟩

theorem ofProdInfo_layout_of_canonSize_initial :
    let prodInfo : ProdInfo := ⟨[], ⟨7⟩, 100000, 32760, by decide⟩
    prodInfo.chunkSize = CanonSize.initial.size ∧
    (3 : ChunkIndex).toNat < chunkCount prodInfo.size.toNat prodInfo.chunkSize.toNat ∧
    prodInfo.size.toNat + prodInfo.chunkSize.toNat - 1 < 2 ^ 32 ∧
    ofProdInfo CanonSize.initial prodInfo 3 = .ok ⟨prodInfo.index, prodInfo.size, 3⟩ :=
  ⟨rfl, by decide, by decide,
    (ofProdInfo_layout_of_canonSize CanonSize.initial _ 3 rfl (by decide) (by decide)).1⟩

end Hycast.ChunkInfo
