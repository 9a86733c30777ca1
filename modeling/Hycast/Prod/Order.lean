import Hycast.Prod.ChunkInfo

/-! The wraparound order of product indices and `ChunkInfo::isEarlierThan`.

Inside any window of at most `2^31` consecutive indices, counted modulo `2^32`, the
wraparound order is the order of the positions in the window, so `isEarlierThan` is the
lexicographic order of (position, chunk index) there.
-/

set_option autoImplicit false

namespace Hycast

namespace ProdIndex

/-- Modelled from the spec: `ProdIndex.h` is not among the sources. `a < b` iff `b - a`,
taken modulo `2^32`, is not zero and fits in `2^31`. -/
def lessThan (a b : ProdIndex) : Bool :=
  b.index - a.index != 0 && (b.index - a.index).toNat < 2 ^ 31

/-- `index` lies among the `length` consecutive values from `start`, modulo `2^32`. -/
def InWindow (start : UInt32) (length : Nat) (index : ProdIndex) : Prop :=
  (index.index - start).toNat < length

instance (start : UInt32) (length : Nat) (index : ProdIndex) :
    Decidable (InWindow start length index) :=
  inferInstanceAs (Decidable (_ < _))

def position (start : UInt32) (index : ProdIndex) : Nat := (index.index - start).toNat

theorem toNat_sub (a b : UInt32) : (a - b).toNat = (2 ^ 32 - b.toNat + a.toNat) % 2 ^ 32 := by
  rw [UInt32.toNat_sub]; rfl

theorem position_inj {start : UInt32} {a b : ProdIndex} (same : position start a = position start b) :
    a = b := by
  obtain ⟨a⟩ := a
  obtain ⟨b⟩ := b
  have := a.toNat_lt
  have := b.toNat_lt
  simp only [position, toNat_sub] at same
  exact congrArg mk (UInt32.toNat.inj (by omega))

theorem lessThan_iff_position_lt {start : UInt32} {length : Nat} (short : length ≤ 2 ^ 31)
    {a b : ProdIndex} (inA : InWindow start length a) (inB : InWindow start length b) :
    lessThan a b = true ↔ position start a < position start b := by
  have difference : (b.index - a.index).toNat =
      (2 ^ 32 - position start a + position start b) % 2 ^ 32 := by
    have := a.index.toNat_lt
    have := b.index.toNat_lt
    have := start.toNat_lt
    simp only [position, toNat_sub]; omega
  have zero : b.index - a.index = 0 ↔ (b.index - a.index).toNat = 0 :=
    ⟨fun zero => by rw [zero]; rfl, fun zero => UInt32.toNat.inj zero⟩
  have : position start a < length := inA
  have : position start b < length := inB
  simp only [lessThan, Bool.and_eq_true, bne_iff_ne, ne_eq, decide_eq_true_eq, zero, difference]
  omega

end ProdIndex

namespace ChunkInfo

/-- `ChunkInfo::isEarlierThan`. -/
def isEarlierThan (self rhs : ChunkInfo) : Bool :=
  self.prodIndex.lessThan rhs.prodIndex ||
    (self.prodIndex == rhs.prodIndex && decide (self.chunkIndex < rhs.chunkIndex))

open ProdIndex in
theorem isEarlierThan_iff_lex {start : UInt32} {length : Nat} (short : length ≤ 2 ^ 31)
    {x y : ChunkInfo} (inX : InWindow start length x.prodIndex)
    (inY : InWindow start length y.prodIndex) :
    isEarlierThan x y = true ↔ position start x.prodIndex < position start y.prodIndex ∨
      (position start x.prodIndex = position start y.prodIndex ∧
        x.chunkIndex.toNat < y.chunkIndex.toNat) := by
  simp only [isEarlierThan, Bool.or_eq_true, Bool.and_eq_true, beq_iff_eq, decide_eq_true_eq,
    lessThan_iff_position_lt short inX inY]
  exact or_congr_right ⟨fun ⟨same, lt⟩ => ⟨congrArg _ same, lt⟩,
    fun ⟨same, lt⟩ => ⟨position_inj same, lt⟩⟩

@[simp] theorem isEarlierThan_self (x : ChunkInfo) : isEarlierThan x x = false := by
  simp [isEarlierThan, ProdIndex.lessThan]

open ProdIndex in
/-- Inside a window of at most `2^31` product indices, `isEarlierThan` is a strict total order
on (product index, chunk index), and an index issued later in the window, also past the wrap
from `2^32 - 1` to `0`, is never earlier than one issued before it. -/
theorem isEarlierThan_strict_total_order (start : UInt32) (length : Nat) (short : length ≤ 2 ^ 31) :
    (∀ x : ChunkInfo, isEarlierThan x x = false) ∧
    (∀ x y z : ChunkInfo, InWindow start length x.prodIndex → InWindow start length y.prodIndex →
      InWindow start length z.prodIndex →
      isEarlierThan x y = true → isEarlierThan y z = true → isEarlierThan x z = true) ∧
    (∀ x y : ChunkInfo, InWindow start length x.prodIndex → InWindow start length y.prodIndex →
      (x.prodIndex, x.chunkIndex) ≠ (y.prodIndex, y.chunkIndex) →
      isEarlierThan x y = true ∨ isEarlierThan y x = true) ∧
    (∀ x y : ChunkInfo, InWindow start length x.prodIndex → InWindow start length y.prodIndex →
      position start x.prodIndex < position start y.prodIndex →
      isEarlierThan x y = true ∧ isEarlierThan y x = false) := by
  refine ⟨isEarlierThan_self, fun x y z inX inY inZ => ?_, fun x y inX inY distinct => ?_,
    fun x y inX inY later => ?_⟩
  · simp only [isEarlierThan_iff_lex short inX inY, isEarlierThan_iff_lex short inY inZ,
      isEarlierThan_iff_lex short inX inZ]
    omega
  · simp only [isEarlierThan_iff_lex short inX inY, isEarlierThan_iff_lex short inY inX]
    by_cases same : position start x.prodIndex = position start y.prodIndex
    · have chunks : x.chunkIndex.toNat ≠ y.chunkIndex.toNat := fun chunks =>
        distinct (by rw [position_inj same, UInt32.toNat.inj chunks])
      omega
    · omega
  · rw [← Bool.not_eq_true, isEarlierThan_iff_lex short inX inY, isEarlierThan_iff_lex short inY inX]
    omega

theorem isEarlierThan_across_wrap :
    (1000 : Nat) ≤ 2 ^ 31 ∧ isEarlierThan ⟨⟨4294967293⟩, 0, 0⟩ ⟨⟨5⟩, 0, 0⟩ = true ∧
      isEarlierThan ⟨⟨5⟩, 0, 0⟩ ⟨⟨4294967293⟩, 0, 0⟩ = false :=
  ⟨by decide, (isEarlierThan_strict_total_order 4294967000 1000 (by decide)).2.2.2 _ _
    (by decide) (by decide) (by decide)⟩

end ChunkInfo

end Hycast
