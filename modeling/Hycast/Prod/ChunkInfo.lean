import Mathlib

/-! Chunk information and the process-wide canonical chunk size (`ChunkInfo.cpp`).

`ChunkInfo.h`, `ProdIndex.h`, `ProdInfo.h` and `HycastTypes.h` are not among the
sources. The widths of `ProdSize`, `ChunkIndex` and `ChunkSize`, the fields of
`ProdInfo` and `getOffset` follow the data model of the specification.
-/

set_option autoImplicit false

namespace Hycast

/-- The exceptions the sources throw, by kind, with their messages. -/
inductive Error where
  | invalidArgument (msg : String)
  | logicError (msg : String)
  | stdLogicError (msg : String)
  | runtimeError (msg : String)
  | systemError (msg : String)
  | shortMessage
  deriving DecidableEq, Repr

abbrev ProdSize := UInt32
abbrev ChunkIndex := UInt32
abbrev ChunkSize := UInt16

theorem toNat_toUInt16 (n : Nat) (small : n < 2 ^ 16) : n.toUInt16.toNat = n :=
  UInt16.toNat_ofNat_of_lt small

/-- A product's index; its wraparound order is in `Hycast.Prod.Order`. -/
structure ProdIndex where
  index : UInt32
  deriving DecidableEq, Repr

/-- A value of the static `canonSize`. `setCanonSize` refuses zero and the initial
value is not zero, so no value the process can hold is zero. -/
structure CanonSize where
  size : ChunkSize
  nonzero : size ≠ 0
  deriving DecidableEq, Repr

namespace CanonSize

/-- `static ChunkSize canonSize = 32768 - 8`. -/
def initial : CanonSize := ⟨32768 - 8, by decide⟩

/-- `ChunkInfo::setCanonSize`: the new value of `canonSize`, or the exception. -/
def setCanonSize (size : ChunkSize) : Except Error CanonSize :=
  if h : size = 0 then .error (.invalidArgument "Cannot set canonical chunk size to zero")
  else .ok ⟨size, h⟩

theorem size_pos (canonSize : CanonSize) : 0 < canonSize.size.toNat :=
  Nat.pos_of_ne_zero fun zero => canonSize.nonzero (UInt16.toNat.inj zero)

theorem setCanonSize_eq_ok {size : ChunkSize} {canonSize : CanonSize} :
    setCanonSize size = .ok canonSize ↔ canonSize.size = size := by
  unfold setCanonSize
  split
  · subst size
    exact ⟨nofun, fun same => (canonSize.nonzero same).elim⟩
  · constructor
    · rintro ⟨⟩; rfl
    · intro same; cases canonSize; subst same; rfl

theorem setCanonSize_zero :
    setCanonSize 0 = .error (.invalidArgument "Cannot set canonical chunk size to zero") := rfl

end CanonSize

/-- Modelled from the spec: `ProdInfo.h` is not among the sources. A product's name of
at most `2^16 - 1` bytes, index, size and canonical chunk size, in the order of the test
fixture `ProdInfo{"product", 1, 100000, 1400}`. -/
structure ProdInfo where
  name : List UInt8
  index : ProdIndex
  size : ProdSize
  chunkSize : ChunkSize
  nameShort : name.length < 2 ^ 16
  deriving DecidableEq, Repr

/-- The fields of a `ChunkInfo`. `operator==` compares exactly these three; the cached
`hashCode` is left out. -/
structure ChunkInfo where
  prodIndex : ProdIndex
  prodSize : ProdSize
  chunkIndex : ChunkIndex
  deriving DecidableEq, Repr

namespace ChunkInfo

/-- `(prodSize+getCanonSize()-1)/getCanonSize()`, in the unsigned 32-bit arithmetic of
`ProdSize`. -/
def numChunks (canonSize : CanonSize) (prodSize : ProdSize) : UInt32 :=
  (prodSize + canonSize.size.toUInt32 - 1) / canonSize.size.toUInt32

/-- The validating constructor `ChunkInfo(prodIndex, prodSize, chunkIndex)`. -/
def construct (canonSize : CanonSize) (prodIndex : ProdIndex) (prodSize : ProdSize)
    (chunkIndex : ChunkIndex) : Except Error ChunkInfo :=
  let numChunks := numChunks canonSize prodSize
  if chunkIndex ≠ 0 ∧ chunkIndex ≥ numChunks then
    .error (.invalidArgument ("Chunk-index is greater than or equal to number of chunks: index=" ++
      toString chunkIndex ++ ", numChunks=" ++ toString numChunks))
  else
    .ok ⟨prodIndex, prodSize, chunkIndex⟩

/-- `ChunkInfo(const ProdInfo&, ChunkIndex) noexcept`. The constructor is `noexcept`, so
an exception here ends the process. -/
def ofProdInfo (canonSize : CanonSize) (prodInfo : ProdInfo) (chunkIndex : ChunkIndex) :
    Except Error ChunkInfo :=
  construct canonSize prodInfo.index prodInfo.size chunkIndex

/-- Modelled from the spec: `ChunkInfo::getOffset` is declared in `ChunkInfo.h`, which is
not among the sources. The byte offset is `ChunkIndex × canonicalChunkSize`. -/
def getOffset (canonSize : CanonSize) (chunkIndex : ChunkIndex) : Nat :=
  chunkIndex.toNat * canonSize.size.toNat

/-- `ChunkInfo::getSize(prodSize, chunkIndex)`. -/
def getSize (canonSize : CanonSize) (prodSize : ProdSize) (chunkIndex : ChunkIndex) :
    Except Error ChunkSize :=
  let offset := getOffset canonSize chunkIndex
  if offset ≥ prodSize.toNat then
    .error (.invalidArgument ("Chunk-offset is greater than or equal to product-size: offset=" ++
      toString offset ++ ", size=" ++ toString prodSize ++ ", chunkIndex=" ++ toString chunkIndex))
  else
    let remaining := prodSize.toNat - offset
    .ok (if canonSize.size.toNat < remaining then canonSize.size else remaining.toUInt16)

/-- `ChunkInfo::operator bool`. -/
def toBool (canonSize : CanonSize) (chunkInfo : ChunkInfo) : Bool :=
  chunkInfo.prodSize != 0 && canonSize.size != 0

/-! ## What the constructor and `getSize` accept -/

/-- The constructor's test, with the chunk count as `numChunks` computes it. -/
def Accepted (canonSize : CanonSize) (prodSize : ProdSize) (chunkIndex : ChunkIndex) : Prop :=
  chunkIndex = 0 ∨ chunkIndex.toNat < (numChunks canonSize prodSize).toNat

instance (canonSize : CanonSize) (prodSize : ProdSize) (chunkIndex : ChunkIndex) :
    Decidable (Accepted canonSize prodSize chunkIndex) :=
  inferInstanceAs (Decidable (_ ∨ _))

theorem numChunks_toNat (canonSize : CanonSize) (prodSize : ProdSize) :
    (numChunks canonSize prodSize).toNat =
      (prodSize.toNat + canonSize.size.toNat - 1) % 2 ^ 32 / canonSize.size.toNat := by
  have positive := canonSize.size_pos
  have small : canonSize.size.toNat < 2 ^ 16 := canonSize.size.toNat_lt
  have : prodSize.toNat < 2 ^ 32 := prodSize.toNat_lt
  simp only [numChunks, UInt32.toNat_div, UInt32.toNat_sub, UInt32.toNat_add, UInt32.size]
  rw [show (canonSize.size.toUInt32).toNat = canonSize.size.toNat from rfl,
    show (1 : UInt32).toNat = 1 from rfl]
  congr 1
  omega

theorem rejected_iff {canonSize : CanonSize} {prodSize : ProdSize} {chunkIndex : ChunkIndex} :
    (chunkIndex ≠ 0 ∧ chunkIndex ≥ numChunks canonSize prodSize) ↔
      ¬ Accepted canonSize prodSize chunkIndex := by
  simp only [Accepted, not_or, Nat.not_lt]
  exact Iff.rfl

@[simp] theorem construct_eq_ok {canonSize : CanonSize} {prodIndex : ProdIndex}
    {prodSize : ProdSize} {chunkIndex : ChunkIndex} {chunkInfo : ChunkInfo} :
    construct canonSize prodIndex prodSize chunkIndex = .ok chunkInfo ↔
      Accepted canonSize prodSize chunkIndex ∧ chunkInfo = ⟨prodIndex, prodSize, chunkIndex⟩ := by
  simp only [construct, rejected_iff, ite_not]
  split
  · simp_all [eq_comm]
  · simp_all

theorem getSize_eq_ok {canonSize : CanonSize} {prodSize : ProdSize} {chunkIndex : ChunkIndex}
    {size : ChunkSize} :
    getSize canonSize prodSize chunkIndex = .ok size ↔
      getOffset canonSize chunkIndex < prodSize.toNat ∧
        size.toNat = min canonSize.size.toNat (prodSize.toNat - getOffset canonSize chunkIndex) := by
  have small : canonSize.size.toNat < 2 ^ 16 := canonSize.size.toNat_lt
  simp only [getSize, ge_iff_le]
  split
  · simp_all
  · rename_i inside
    have value : (if canonSize.size.toNat < prodSize.toNat - getOffset canonSize chunkIndex
        then canonSize.size else (prodSize.toNat - getOffset canonSize chunkIndex).toUInt16).toNat =
        min canonSize.size.toNat (prodSize.toNat - getOffset canonSize chunkIndex) := by
      split
      · omega
      · rw [toNat_toUInt16 _ (by omega)]; omega
    simp only [Except.ok.injEq, Nat.not_le.mp inside, true_and]
    exact ⟨fun same => same ▸ value, fun same => UInt16.toNat.inj (value.trans same.symm)⟩

end ChunkInfo

end Hycast
