import Mathlib.Data.Prod.Lex
import Mathlib.Data.Nat.Digits
import Mathlib.Tactic.IntervalCases

/-! Internet socket addresses, as `InetSockAddr::Impl` holds them: an Internet address and a
port number, with the class's `operator<`, `operator==` and `to_string`.

`InetAddr` is not among the sources: its addresses are a linearly ordered type here, and its
`to_string` a parameter. The port's text is its decimal numeral, `std::to_string` of the
`in_port_t` that the older `InetSockAddrImpl` keeps.
-/

set_option autoImplicit false

namespace Hycast

/-- `in_port_t`: a port number in host byte order. -/
abbrev PortNumber := UInt16

/-- `InetSockAddr::Impl`. -/
structure InetSockAddr (InetAddr : Type) where
  inetAddr : InetAddr
  port : PortNumber
  deriving DecidableEq, Repr

/-! ## Lists split at a separator -/

theorem eq_of_append_cons_eq_of_not_mem_left {α : Type} {c : α} :
    ∀ {a a' b b' : List α}, c ∉ a → c ∉ a' → a ++ c :: b = a' ++ c :: b' → a = a' ∧ b = b'
  | [], [], _, _, _, _, same => ⟨rfl, (List.cons.inj same).2⟩
  | [], _ :: _, _, _, _, out', same => absurd (List.mem_cons.mpr (.inl (List.cons.inj same).1)) out'
  | _ :: _, [], _, _, out, _, same => absurd (List.mem_cons.mpr (.inl (List.cons.inj same).1.symm)) out
  | _ :: _, _ :: _, _, _, out, out', same => by
    obtain ⟨rfl, rest⟩ := List.cons.inj same
    obtain ⟨rfl, rfl⟩ := eq_of_append_cons_eq_of_not_mem_left (fun mem => out (List.mem_cons_of_mem _ mem))
      (fun mem => out' (List.mem_cons_of_mem _ mem)) rest
    exact ⟨rfl, rfl⟩

theorem eq_of_append_cons_eq_of_not_mem {α : Type} {c : α} {a a' b b' : List α} (out : c ∉ b)
    (out' : c ∉ b') (same : a ++ c :: b = a' ++ c :: b') : a = a' ∧ b = b' := by
  have reversed := congrArg List.reverse same
  simp only [List.reverse_append, List.reverse_cons, List.append_assoc, List.singleton_append] at reversed
  obtain ⟨suffixes, prefixes⟩ :=
    eq_of_append_cons_eq_of_not_mem_left (by simpa using out) (by simpa using out') reversed
  exact ⟨List.reverse_inj.mp prefixes, List.reverse_inj.mp suffixes⟩

/-! ## Decimal numerals -/

theorem digitChar_toNat {d : Nat} (digit : d < 10) : (Nat.digitChar d).toNat = 48 + d := by
  interval_cases d <;> rfl

theorem isDigit_digitChar {d : Nat} (digit : d < 10) : (Nat.digitChar d).isDigit := by
  interval_cases d <;> rfl

theorem isDigit_toDigitsCore (fuel n : Nat) {ds : List Char} (digits : ∀ c ∈ ds, c.isDigit) :
    ∀ c ∈ Nat.toDigitsCore 10 fuel n ds, c.isDigit := by
  induction fuel generalizing n ds with
  | zero => exact digits
  | succ fuel more =>
    have next : ∀ c ∈ Nat.digitChar (n % 10) :: ds, c.isDigit :=
      List.forall_mem_cons.mpr ⟨isDigit_digitChar (Nat.mod_lt n (by decide)), digits⟩
    simp only [Nat.toDigitsCore]
    split_ifs
    · exact next
    · exact more _ next

theorem colon_not_mem_repr (n : Nat) : ':' ∉ (Nat.repr n).data := fun mem =>
  absurd (isDigit_toDigitsCore (n + 1) n (fun _ none => absurd none (List.not_mem_nil _)) _ mem)
    (by decide)

def decimalStep (value : Nat) (digit : Char) : Nat := 10 * value + (digit.toNat - 48)

theorem foldl_toDigitsCore (fuel n : Nat) (ds : List Char) (enough : n < fuel) :
    (Nat.toDigitsCore 10 fuel n ds).foldl decimalStep 0 = ds.foldl decimalStep n := by
  induction fuel generalizing n ds with
  | zero => omega
  | succ fuel more =>
    have last : decimalStep (n / 10) (Nat.digitChar (n % 10)) = n := by
      rw [decimalStep, digitChar_toNat (Nat.mod_lt n (by decide))]
      omega
    simp only [Nat.toDigitsCore]
    split_ifs with small
    · rw [small] at last
      rw [List.foldl_cons, last]
    · rw [more _ _ (by omega), List.foldl_cons, last]

theorem foldl_repr (n : Nat) : (Nat.repr n).data.foldl decimalStep 0 = n :=
  foldl_toDigitsCore (n + 1) n [] (Nat.lt_succ_self n)

theorem repr_injective : Function.Injective Nat.repr := fun a b same => by
  rw [← foldl_repr a, ← foldl_repr b, same]

namespace InetSockAddr

variable {InetAddr : Type}

/-! ## Order -/

/-- What `operator<` compares: the Internet address first, then the port. -/
def key (sockAddr : InetSockAddr InetAddr) : Lex (InetAddr × Nat) :=
  toLex (sockAddr.inetAddr, sockAddr.port.toNat)

theorem key_injective : Function.Injective (key : InetSockAddr InetAddr → Lex (InetAddr × Nat)) := by
  rintro ⟨addr, port⟩ ⟨addr', port'⟩ same
  simp only [key, toLex_inj, Prod.mk.injEq] at same
  obtain ⟨rfl, ports⟩ := same
  rw [UInt16.toNat.inj ports]

section Order

variable [LinearOrder InetAddr]

/-- `InetSockAddr::Impl::operator<`. -/
def lessThan (self that : InetSockAddr InetAddr) : Bool :=
  if self.inetAddr < that.inetAddr then true
  else self.inetAddr == that.inetAddr && self.port < that.port

/-- `InetSockAddr::Impl::operator==`. -/
def equals (self rhs : InetSockAddr InetAddr) : Bool :=
  self.inetAddr == rhs.inetAddr && self.port == rhs.port

theorem lessThan_iff_key {self that : InetSockAddr InetAddr} :
    self.lessThan that = true ↔ key self < key that := by
  rw [key, key, Prod.Lex.lt_iff]
  by_cases below : self.inetAddr < that.inetAddr
  · simp [lessThan, below]
  · have ports : self.port < that.port ↔ self.port.toNat < that.port.toNat := Iff.rfl
    simp [lessThan, below, ports]

theorem equals_iff {self rhs : InetSockAddr InetAddr} : self.equals rhs = true ↔ self = rhs := by
  cases self
  cases rhs
  simp [equals]

/-- `operator<` is a strict total order, and two addresses neither of which is less than the
other are `operator==`: the order that `std::set` and `std::map` ask of their keys. -/
theorem lessThan_strict_total_order :
    IsStrictTotalOrder (InetSockAddr InetAddr) (fun self that => self.lessThan that = true) ∧
      ∀ self that : InetSockAddr InetAddr,
        self.lessThan that = false ∧ that.lessThan self = false ↔ self.equals that = true where
  left :=
    { trichotomous := fun self that => by
        simp only [lessThan_iff_key, ← key_injective.eq_iff]
        exact lt_trichotomy _ _
      irrefl := fun self => by simp [lessThan_iff_key]
      trans := fun _ _ _ first second => lessThan_iff_key.mpr
        (lt_trans (lessThan_iff_key.mp first) (lessThan_iff_key.mp second)) }
  right self that := by
    simp only [equals_iff, ← Bool.not_eq_true, lessThan_iff_key, not_lt, ← key_injective.eq_iff]
    exact ⟨fun ⟨above, below⟩ => le_antisymm below above, fun same => ⟨same.ge, same.le⟩⟩

end Order

/-! ## Text -/

/-- `InetSockAddr::Impl::to_string`, given `InetAddr::to_string`: the port's colon and decimal
numeral follow the address, which goes in brackets when it has a colon (IPv6). -/
def toString (addrText : InetAddr → String) (sockAddr : InetSockAddr InetAddr) : String :=
  let addr := addrText sockAddr.inetAddr
  if ':' ∉ addr.data then addr ++ ":" ++ Nat.repr sockAddr.port.toNat
  else "[" ++ addr ++ "]:" ++ Nat.repr sockAddr.port.toNat

example : toString id (⟨"::1", 38800⟩ : InetSockAddr String) = "[::1]:38800" := by decide

def hostText (addr : String) : List Char :=
  if ':' ∉ addr.data then addr.data else '[' :: addr.data ++ [']']

theorem hostText_injective : Function.Injective hostText := by
  intro addr addr' same
  apply String.ext
  by_cases plain : ':' ∈ addr.data <;> by_cases plain' : ':' ∈ addr'.data <;>
    simp only [hostText, plain, plain', not_true_eq_false, not_false_eq_true, if_true, if_false] at same
  · simpa using same
  · exact (plain' (by rw [← same]; simp [plain])).elim
  · exact (plain (by rw [same]; simp [plain'])).elim
  · exact same

theorem data_toString (addrText : InetAddr → String) (sockAddr : InetSockAddr InetAddr) :
    (toString addrText sockAddr).data =
      hostText (addrText sockAddr.inetAddr) ++ ':' :: (Nat.repr sockAddr.port.toNat).data := by
  unfold toString hostText
  split_ifs <;> simp [*]

/-- The text determines the socket address, when `InetAddr::to_string` determines the address. -/
theorem toString_injective (addrText : InetAddr → String) (addrInjective : Function.Injective addrText) :
    Function.Injective (toString addrText) := by
  rintro ⟨addr, port⟩ ⟨addr', port'⟩ same
  have split := congrArg String.data same
  rw [data_toString, data_toString] at split
  obtain ⟨hosts, ports⟩ := eq_of_append_cons_eq_of_not_mem (colon_not_mem_repr _) (colon_not_mem_repr _) split
  have addrs : addr = addr' := addrInjective (hostText_injective hosts)
  have ports : port = port' := UInt16.toNat.inj (repr_injective (String.ext ports))
  rw [addrs, ports]

theorem toString_injective_of_text : Function.Injective (toString (id : String → String)) :=
  toString_injective id Function.injective_id

end InetSockAddr

end Hycast
