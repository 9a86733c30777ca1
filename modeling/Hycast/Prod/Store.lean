import Mathlib.Data.Nat.Bitwise

/-! The status of an addition to the product store, `ProdStore::AddStatus`: an `unsigned` of
flags, one bit each, that the store's `add` sets as it learns the chunk is new, completes its
product, or duplicates one it holds.

The three setters never touch each other's bits, so after any sequence of them each query says
whether its own setter ran.
-/

set_option autoImplicit false

namespace Hycast.ProdStore

/-- A flag of `AddStatus`. -/
inductive Flag where
  | complete
  | new
  | duplicate
  deriving DecidableEq, Repr

/-- The flag's bit: `IS_COMPLETE`, `IS_NEW` and `IS_DUPLICATE`. -/
def Flag.bit : Flag → UInt32
  | .complete => 1
  | .new => 2
  | .duplicate => 4

def Flag.index : Flag → Nat
  | .complete => 0
  | .new => 1
  | .duplicate => 2

theorem Flag.toNat_bit (flag : Flag) : flag.bit.toNat = 2 ^ flag.index := by
  cases flag <;> rfl

theorem Flag.index_injective : Function.Injective Flag.index := by
  intro flag other same
  cases flag <;> cases other <;> first | rfl | cases same

/-- `ProdStore::AddStatus`. -/
structure AddStatus where
  status : UInt32
  deriving DecidableEq, Repr

namespace AddStatus

/-- `AddStatus()`. -/
def initial : AddStatus := ⟨0⟩

/-- The setters: `status |= flag`. -/
def set (flag : Flag) (addStatus : AddStatus) : AddStatus := ⟨addStatus.status ||| flag.bit⟩

/-- The queries: `status & flag`, as a `bool`. -/
def has (flag : Flag) (addStatus : AddStatus) : Bool := addStatus.status &&& flag.bit != 0

theorem has_initial (flag : Flag) : initial.has flag = false := by
  cases flag <;> rfl

def setNew : AddStatus → AddStatus := set .new
def setComplete : AddStatus → AddStatus := set .complete
def setDuplicate : AddStatus → AddStatus := set .duplicate
def isNew : AddStatus → Bool := has .new
def isComplete : AddStatus → Bool := has .complete
def isDuplicate : AddStatus → Bool := has .duplicate

theorem has_iff_testBit (flag : Flag) (addStatus : AddStatus) :
    addStatus.has flag = addStatus.status.toNat.testBit flag.index := by
  have masked : (addStatus.status &&& flag.bit).toNat = addStatus.status.toNat &&& flag.bit.toNat :=
    BitVec.toNat_and _ _
  have zero : addStatus.status &&& flag.bit = 0 ↔ (addStatus.status &&& flag.bit).toNat = 0 :=
    ⟨congrArg UInt32.toNat, fun zero => UInt32.toNat.inj zero⟩
  rw [has, Bool.eq_iff_iff, bne_iff_ne, ne_eq, zero, masked, Flag.toNat_bit, Nat.and_two_pow]
  cases addStatus.status.toNat.testBit flag.index <;> simp

theorem has_set (flag other : Flag) (addStatus : AddStatus) :
    (addStatus.set flag).has other = (decide (flag = other) || addStatus.has other) := by
  have joined : (addStatus.status ||| flag.bit).toNat = addStatus.status.toNat ||| flag.bit.toNat :=
    BitVec.toNat_or _ _
  rw [has_iff_testBit, has_iff_testBit, set, joined, Nat.testBit_or, Flag.toNat_bit,
    Nat.testBit_two_pow, Bool.or_comm]
  simp only [Flag.index_injective.eq_iff]

/-- After any sequence of setters, each query says whether its setter was among them. -/
theorem has_foldl_set (flags : List Flag) (addStatus : AddStatus) (other : Flag) :
    (flags.foldl (fun status flag => status.set flag) addStatus).has other =
      (addStatus.has other || other ∈ flags) := by
  induction flags generalizing addStatus with
  | nil => simp
  | cons flag flags more =>
    rw [List.foldl_cons, more, has_set]
    rcases eq_or_ne flag other with rfl | differ
    · simp
    · simp [differ, differ.symm]

example : initial.setNew.setDuplicate.isNew ∧ initial.setNew.setDuplicate.isComplete = false := by
  decide

end AddStatus

end Hycast.ProdStore
