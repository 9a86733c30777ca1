import Hycast.Codec.Bytes

/-! The serial forms of `ProdIndex`, `ChunkInfo`, `ProdInfo`, `VersionMsg` and chunks.

`ChunkInfo::serialize` and `ChunkInfo::deserialize` are in `ChunkInfo.cpp`; the others
follow the codec section of the specification. `ChunkInfo::deserialize` hands what it read
to the validating constructor, under the `canonSize` of the process that reads.
-/

set_option autoImplicit false

namespace Hycast

namespace ProdIndex

/-- Modelled from the spec: `ProdIndex.cpp` is not among the sources. Four bytes. -/
def serialize (prodIndex : ProdIndex) : Bytes := encodeU32 prodIndex.index

/-- Modelled from the spec: `ProdIndex::deserialize`. -/
def deserialize : Decoding ProdIndex := do return ⟨← decodeU32⟩

@[simp] theorem length_serialize (prodIndex : ProdIndex) : prodIndex.serialize.length = 4 :=
  length_encodeBE _ _

@[simp] theorem deserialize_serialize (prodIndex : ProdIndex) (rest : Bytes) :
    deserialize.run (prodIndex.serialize ++ rest) = .ok (prodIndex, rest) := by
  simp only [deserialize, serialize, StateT.run_bind, decodeU32_encodeU32]
  rfl

end ProdIndex

namespace ChunkInfo

/-- `ChunkInfo::serialize`. -/
def serialize (chunkInfo : ChunkInfo) : Bytes :=
  chunkInfo.prodIndex.serialize ++ encodeU32 chunkInfo.prodSize ++ encodeU32 chunkInfo.chunkIndex

/-- `ChunkInfo(Decoder&, unsigned)`: the fields in the order `serialize` writes them,
unchecked. -/
def ofDecoder : Decoding ChunkInfo := do
  let prodIndex ← ProdIndex.deserialize
  let prodSize ← decodeU32
  let chunkIndex ← decodeU32
  return ⟨prodIndex, prodSize, chunkIndex⟩

/-- `ChunkInfo::deserialize`: what `ofDecoder` reads, through the validating constructor. -/
def deserialize (canonSize : CanonSize) : Decoding ChunkInfo := do
  let chunkInfo ← ofDecoder
  StateT.lift (construct canonSize chunkInfo.prodIndex chunkInfo.prodSize chunkInfo.chunkIndex)

@[simp] theorem length_serialize (chunkInfo : ChunkInfo) : chunkInfo.serialize.length = 12 := by
  simp [serialize, encodeU32]

@[simp] theorem ofDecoder_serialize (chunkInfo : ChunkInfo) (rest : Bytes) :
    ofDecoder.run (chunkInfo.serialize ++ rest) = .ok (chunkInfo, rest) := by
  simp only [ofDecoder, serialize, List.append_assoc, StateT.run_bind,
    ProdIndex.deserialize_serialize, decodeU32_encodeU32, ok_bind]
  rfl

theorem serialize_injective {first second : ChunkInfo} (same : first.serialize = second.serialize) :
    first = second := by
  have := ofDecoder_serialize first []
  rw [same, ofDecoder_serialize] at this
  cases this
  rfl

theorem deserialize_run (canonSize : CanonSize) (bytes : Bytes) :
    (deserialize canonSize).run bytes = (ofDecoder.run bytes).bind fun (chunkInfo, rest) =>
      (construct canonSize chunkInfo.prodIndex chunkInfo.prodSize chunkInfo.chunkIndex).map
        fun accepted => (accepted, rest) := by
  simp only [deserialize, StateT.run_bind, StateT.run_lift]
  rcases ofDecoder.run bytes with _ | ⟨_, _⟩ <;> rfl

theorem encodeU32_valueBE (bytes : Bytes) (four : bytes.length = 4) :
    encodeU32 (valueBE bytes).toUInt32 = bytes := by
  have := valueBE_lt bytes
  rw [four] at this
  rw [encodeU32, toNat_toUInt32, Nat.mod_eq_of_lt (by omega), ← four, encodeBE_valueBE]

theorem exists_serialize_eq (bytes : Bytes) (twelve : bytes.length = 12) :
    ∃ chunkInfo : ChunkInfo, chunkInfo.serialize = bytes := by
  refine ⟨⟨⟨(valueBE (bytes.take 4)).toUInt32⟩, (valueBE ((bytes.drop 4).take 4)).toUInt32,
    (valueBE (bytes.drop 8)).toUInt32⟩, ?_⟩
  simp only [serialize, ProdIndex.serialize]
  have eight : bytes.drop 8 = (bytes.drop 4).drop 4 := by rw [List.drop_drop]
  rw [encodeU32_valueBE _ (by simp [twelve]), encodeU32_valueBE _ (by simp [twelve]),
    encodeU32_valueBE _ (by simp [twelve]), eight, List.append_assoc, List.take_append_drop,
    List.take_append_drop]

theorem deserialize_of_construct {canonSize : CanonSize} {prodIndex : ProdIndex} {prodSize : ProdSize}
    {chunkIndex : ChunkIndex} {chunkInfo : ChunkInfo}
    (accepted : construct canonSize prodIndex prodSize chunkIndex = .ok chunkInfo) (rest : Bytes) :
    (deserialize canonSize).run (chunkInfo.serialize ++ rest) = .ok (chunkInfo, rest) := by
  obtain ⟨valid, rfl⟩ := construct_eq_ok.mp accepted
  rw [deserialize_run, ofDecoder_serialize]
  simp only [Except.bind, construct_eq_ok.mpr ⟨valid, rfl⟩]
  rfl

/-- A `ChunkInfo` the constructor accepted reads back, in a process with the same
`canonSize`, as itself, consuming exactly its twelve bytes. Twelve bytes read back exactly
when they encode a triple the constructor accepts, and then the result writes them again. -/
theorem deserialize_serialize_exact (canonSize : CanonSize) :
    (∀ (prodIndex : ProdIndex) (prodSize : ProdSize) (chunkIndex : ChunkIndex)
        (chunkInfo : ChunkInfo) (rest : Bytes),
      construct canonSize prodIndex prodSize chunkIndex = .ok chunkInfo →
      (deserialize canonSize).run (chunkInfo.serialize ++ rest) = .ok (chunkInfo, rest)) ∧
    ∀ bytes : Bytes, bytes.length = 12 →
      ((∃ chunkInfo, (deserialize canonSize).run bytes = .ok (chunkInfo, [])) ↔
        ∃ (prodIndex : ProdIndex) (prodSize : ProdSize) (chunkIndex : ChunkIndex),
          (⟨prodIndex, prodSize, chunkIndex⟩ : ChunkInfo).serialize = bytes ∧
          ∃ chunkInfo, construct canonSize prodIndex prodSize chunkIndex = .ok chunkInfo) ∧
      ∀ chunkInfo rest, (deserialize canonSize).run bytes = .ok (chunkInfo, rest) →
        rest = [] ∧ chunkInfo.serialize = bytes := by
  refine ⟨fun _ _ _ _ rest accepted => deserialize_of_construct accepted rest, fun bytes twelve => ?_⟩
  obtain ⟨⟨prodIndex, prodSize, chunkIndex⟩, written⟩ := exists_serialize_eq bytes twelve
  have read : (deserialize canonSize).run bytes =
      (construct canonSize prodIndex prodSize chunkIndex).map fun accepted => (accepted, []) := by
    rw [deserialize_run, ← written, ← List.append_nil (serialize _), ofDecoder_serialize]
    rfl
  rw [read]
  refine ⟨⟨fun ⟨chunkInfo, found⟩ => ⟨prodIndex, prodSize, chunkIndex, written, ?_⟩, ?_⟩, ?_⟩
  · cases result : construct canonSize prodIndex prodSize chunkIndex <;>
      simp_all [Except.map]
  · rintro ⟨prodIndex', prodSize', chunkIndex', same, chunkInfo, accepted⟩
    cases serialize_injective (same.trans written.symm)
    exact ⟨chunkInfo, by simp [accepted, Except.map]⟩
  · intro chunkInfo rest found
    cases result : construct canonSize prodIndex prodSize chunkIndex with
    | error _ => simp [result, Except.map] at found
    | ok accepted =>
      simp only [result, Except.map, Except.ok.injEq, Prod.mk.injEq] at found
      obtain ⟨rfl, rfl⟩ := found
      obtain ⟨-, rfl⟩ := construct_eq_ok.mp result
      exact ⟨rfl, written⟩

end ChunkInfo

namespace ProdInfo

/-- Modelled from the spec: `ProdInfo.cpp` is not among the sources. The name as a 16-bit
length and its bytes, then the index, the size and the chunk size. -/
def serialize (prodInfo : ProdInfo) : Bytes :=
  encodeU16 prodInfo.name.length.toUInt16 ++ prodInfo.name ++ prodInfo.index.serialize ++
    encodeU32 prodInfo.size ++ encodeU16 prodInfo.chunkSize

/-- Modelled from the spec: `ProdInfo::deserialize`. -/
def deserialize : Decoding ProdInfo := do
  let length ← decodeU16
  let name ← decodeBytes length.toNat
  let index ← ProdIndex.deserialize
  let size ← decodeU32
  let chunkSize ← decodeU16
  return ⟨name.val, index, size, chunkSize, name.property.trans_lt length.toNat_lt⟩

@[simp] theorem deserialize_serialize (prodInfo : ProdInfo) (rest : Bytes) :
    deserialize.run (prodInfo.serialize ++ rest) = .ok (prodInfo, rest) := by
  have length := toNat_toUInt16 _ prodInfo.nameShort
  simp only [deserialize, serialize, List.append_assoc, StateT.run_bind, decodeU16_encodeU16,
    ok_bind, decodeBytes_append prodInfo.name _ length.symm, ProdIndex.deserialize_serialize,
    decodeU32_encodeU32]
  rfl

end ProdInfo

/-- Modelled from the spec: `VersionMsg.h` is not among the sources. The protocol version,
as four bytes. -/
structure VersionMsg where
  version : UInt32
  deriving DecidableEq, Repr

namespace VersionMsg

def serialize (msg : VersionMsg) : Bytes := encodeU32 msg.version

def deserialize : Decoding VersionMsg := do return ⟨← decodeU32⟩

@[simp] theorem deserialize_serialize (msg : VersionMsg) (rest : Bytes) :
    deserialize.run (msg.serialize ++ rest) = .ok (msg, rest) := by
  simp only [deserialize, serialize, StateT.run_bind, decodeU32_encodeU32]
  rfl

end VersionMsg

/-- Modelled from the spec: `Chunk.h` is not among the sources. A chunk whose data is in
memory. -/
structure ActualChunk where
  info : ChunkInfo
  data : Bytes
  deriving DecidableEq, Repr

/-- The message that sends a chunk: its information, then its data. -/
def ActualChunk.serialize (chunk : ActualChunk) : Bytes := chunk.info.serialize ++ chunk.data

/-- Modelled from the spec: a chunk whose data is still in the transport, with the bytes
that `drainData` would read. -/
structure LatentChunk where
  info : ChunkInfo
  data : Bytes
  deriving DecidableEq, Repr

/-- Modelled from the spec: `LatentChunk::deserialize` reads the chunk's information and
leaves its data unread. -/
def LatentChunk.deserialize (canonSize : CanonSize) : Decoding LatentChunk := do
  let info ← ChunkInfo.deserialize canonSize
  let data ← get
  return ⟨info, data⟩

theorem LatentChunk.deserialize_run (canonSize : CanonSize) (bytes : Bytes) :
    (deserialize canonSize).run bytes = ((ChunkInfo.deserialize canonSize).run bytes).map
      fun (info, data) => (⟨info, data⟩, data) := by
  simp only [deserialize, StateT.run_bind]
  rcases (ChunkInfo.deserialize canonSize).run bytes with _ | ⟨_, _⟩ <;> rfl

theorem LatentChunk.deserialize_serialize (canonSize : CanonSize) (chunk : ActualChunk)
    (accepted : ChunkInfo.Accepted canonSize chunk.info.prodSize chunk.info.chunkIndex) :
    (deserialize canonSize).run chunk.serialize = .ok (⟨chunk.info, chunk.data⟩, chunk.data) := by
  rw [deserialize_run, ActualChunk.serialize,
    ChunkInfo.deserialize_of_construct (ChunkInfo.construct_eq_ok.mpr ⟨accepted, rfl⟩) chunk.data]
  rfl

end Hycast
