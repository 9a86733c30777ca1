import Hycast.Comms.Delivery

/-! The cancellation state of the receiving thread.

`runReceiver` saves the state it was entered with and sets it back after the loop, which it
leaves normally only by `break`. An exception leaves the loop, and `runReceiver`, with the state
of the pass that threw: enabled when `getSize` threw, disabled otherwise.
-/

set_option autoImplicit false

namespace Hycast.Peer

variable {σ α β : Type}

/-- Each recorded operation ran with cancellation enabled exactly when it was `getSize`. -/
def Bracketed (events : List (Op × CancelState)) : Prop :=
  ∀ event ∈ events, event.2 = .enable ↔ event.1 = .getSize

theorem bracketed_append_singleton {events : List (Op × CancelState)} {op : Op} {state : CancelState} :
    Bracketed (events ++ [(op, state)]) ↔ Bracketed events ∧ (state = .enable ↔ op = .getSize) := by
  simp [Bracketed, or_imp, forall_and]

def after : EStateM.Result Error (Receiver σ) α → Receiver σ
  | .ok _ r => r
  | .error _ r => r

/-- Between `getSize` calls: cancellation disabled, and every operation so far bracketed. -/
def Disabled (r : Receiver σ) : Prop := r.cancelState = .disable ∧ Bracketed r.events

/-- Thrown by `getSize`, the one operation that runs with cancellation enabled. -/
def ThrownInGetSize (r : Receiver σ) : Prop :=
  r.cancelState = .enable ∧ Bracketed r.events ∧ r.events.getLast? = some (.getSize, .enable)

def KeepsDisabled (x : ReceiverM σ α) : Prop := ∀ r, Disabled r → Disabled (after (x.run r))

section Keeps

theorem Disabled.record {r r' : Receiver σ} (disabled : Disabled r) {op : Op} (other : op ≠ .getSize)
    (state : r'.cancelState = r.cancelState) (events : r'.events = r.events ++ [(op, r.cancelState)]) :
    Disabled r' := by
  refine ⟨state.trans disabled.1, ?_⟩
  rw [events, bracketed_append_singleton, disabled.1]
  exact ⟨disabled.2, by simp [other]⟩

theorem KeepsDisabled.bind {x : ReceiverM σ α} {f : α → ReceiverM σ β} (first : KeepsDisabled x)
    (next : ∀ a, KeepsDisabled (f a)) : KeepsDisabled (x >>= f) := by
  intro r disabled
  have kept := first r disabled
  rw [run_bind]
  cases result : x.run r with
  | ok a r' => rw [result] at kept; exact next a r' kept
  | error e r' => rw [result] at kept; exact kept

theorem keepsDisabled_pure (a : α) : KeepsDisabled (pure a : ReceiverM σ α) := fun _ => id

theorem keepsDisabled_throw (e : Error) : KeepsDisabled (throw e : ReceiverM σ α) := fun _ => id

theorem keepsDisabled_perform {op : Op} (other : op ≠ .getSize) :
    KeepsDisabled (perform op : ReceiverM σ Unit) := fun _ disabled =>
  disabled.record other rfl rfl

theorem keepsDisabled_getStreamId : KeepsDisabled (getStreamId : ReceiverM σ Nat) := fun _ disabled =>
  disabled.record (by decide) rfl rfl

theorem keepsDisabled_recv (decode : Decoding α) : KeepsDisabled (recv decode : ReceiverM σ α) := by
  intro r disabled
  rw [run_recv]
  split <;> exact disabled.record (by decide) rfl rfl

theorem keepsDisabled_recvChunk (canonSize : CanonSize) :
    KeepsDisabled (recvChunk canonSize : ReceiverM σ LatentChunk) := by
  intro r disabled
  rw [run_recvChunk]
  split <;> exact disabled.record (by decide) rfl rfl

theorem keepsDisabled_upcall (call : σ → α → Except Error σ) (record : α → Upcall) (value : α) :
    KeepsDisabled (upcall call record value) := by
  intro r disabled
  rw [run_upcall]
  split <;> exact disabled.record (by decide) rfl rfl

theorem keepsDisabled_recvData (msgRcvr : PeerMsgRcvr σ) (chunk : LatentChunk) :
    KeepsDisabled (recvData msgRcvr chunk) := by
  intro r disabled
  rw [run_recvData]
  split <;> exact disabled.record (by decide) rfl rfl

theorem keepsDisabled_discard : KeepsDisabled (discard : ReceiverM σ Unit) := fun _ disabled =>
  disabled.record (by decide) rfl rfl

theorem keepsDisabled_dispatch (canonSize : CanonSize) (msgRcvr : PeerMsgRcvr σ)
    (streamId : Option SctpStreamId) : KeepsDisabled (dispatch canonSize msgRcvr streamId) := by
  rcases streamId with _ | ⟨_ | _ | _ | _ | _ | _⟩
  case some.chunk =>
    refine (keepsDisabled_recvChunk canonSize).bind fun chunk =>
      (keepsDisabled_recvData msgRcvr chunk).bind fun use =>
        (keepsDisabled_perform (by decide)).bind fun _ => ?_
    split
    · exact keepsDisabled_throw _
    · exact keepsDisabled_pure _
  all_goals first
    | exact keepsDisabled_discard
    | exact (keepsDisabled_recv _).bind fun _ => keepsDisabled_upcall _ _ _

end Keeps

/-! ## Whole runs -/

def PassEnded : EStateM.Result Error (Receiver σ) α → Prop
  | .ok _ r => Disabled r
  | .error _ r => Disabled r ∨ ThrownInGetSize r

/-- How `runReceiver` can end, entered with cancellation state `entry`: returned with the entry
state back, or threw, from `getSize` or with cancellation disabled. -/
def Exited (entry : CancelState) : EStateM.Result Error (Receiver σ) α → Prop
  | .ok _ r => Bracketed r.events ∧ r.cancelState = entry
  | .error _ r => Disabled r ∨ ThrownInGetSize r

theorem after_getSize (r : Receiver σ) :
    after (getSize.run r) = { r with events := r.events ++ [(.getSize, r.cancelState)] } := by
  rw [run_getSize]
  split <;> rfl

theorem passEnded_of_disabled {result : EStateM.Result Error (Receiver σ) α}
    (disabled : Disabled (after result)) : PassEnded result := by
  cases result with
  | ok _ r => exact disabled
  | error _ r => exact .inl disabled

theorem iteration_passEnded (canonSize : CanonSize) (msgRcvr : PeerMsgRcvr σ) (r : Receiver σ)
    (bracketed : Bracketed r.events) : PassEnded ((iteration canonSize msgRcvr).run r) := by
  have sized := after_getSize { r with cancelState := .enable }
  have entered : Bracketed (r.events ++ [(.getSize, .enable)]) :=
    bracketed_append_singleton.mpr ⟨bracketed, iff_of_true rfl rfl⟩
  rw [run_iteration]
  split
  next size r' result =>
    rw [result] at sized
    subst sized
    have disabled : Disabled { r with cancelState := .disable, events := r.events ++ [(.getSize, .enable)] } :=
      ⟨rfl, entered⟩
    split
    · exact disabled
    · exact passEnded_of_disabled ((keepsDisabled_getStreamId.bind fun streamId =>
        (keepsDisabled_dispatch canonSize msgRcvr (SctpStreamId.ofNat? streamId)).bind fun _ =>
          keepsDisabled_pure false) _ disabled)
  next error r' result =>
    rw [result] at sized
    subst sized
    exact .inr ⟨rfl, entered, by simp⟩

theorem loop_ended (canonSize : CanonSize) (msgRcvr : PeerMsgRcvr σ) (fuel : Nat) (r : Receiver σ)
    (bracketed : Bracketed r.events) :
    match (loop canonSize msgRcvr fuel).run r with
    | .ok _ r' => Bracketed r'.events
    | .error _ r' => Disabled r' ∨ ThrownInGetSize r' := by
  induction fuel generalizing r with
  | zero => exact bracketed
  | succ fuel more =>
    have pass := iteration_passEnded canonSize msgRcvr r bracketed
    rw [run_loop_succ]
    rcases result : (iteration canonSize msgRcvr).run r with ⟨_ | _, r'⟩ | ⟨_, r'⟩ <;>
      rw [result] at pass
    case ok.false => exact more r' pass.2
    case ok.true => exact pass.2
    case error => exact pass

/-- Entered with its operations bracketed, `runReceiver` returns with the cancellation state
it was entered with, or throws from `getSize` or with cancellation disabled, for any receiver
of messages and any input. -/
theorem runReceiver_exited (canonSize : CanonSize) (msgRcvr : PeerMsgRcvr σ) (fuel : Nat)
    (r : Receiver σ) (bracketed : Bracketed r.events) :
    Exited r.cancelState ((runReceiver canonSize msgRcvr fuel).run r) := by
  have ended := loop_ended canonSize msgRcvr fuel { r with cancelState := .enable } bracketed
  rw [run_runReceiver]
  rcases result : (loop canonSize msgRcvr fuel).run { r with cancelState := .enable } with
    ⟨_, r'⟩ | ⟨_, r'⟩ <;> rw [result] at ended
  case ok => exact ⟨ended, rfl⟩
  case error => exact ended

theorem runReceiver_exited_over_chunk :
    Exited .enable ((runReceiver CanonSize.initial defaultMsgRcvr 1).run
      (.initial ⟨[sendData ⟨⟨⟨1⟩, 100, 0⟩, [7]⟩], .closed⟩ .enable ())) :=
  runReceiver_exited CanonSize.initial defaultMsgRcvr 1 (.initial ⟨[sendData ⟨⟨⟨1⟩, 100, 0⟩, [7]⟩], .closed⟩ .enable ())
    fun _ none => absurd none (List.not_mem_nil _)

/-- The default receiver leaves a chunk's data in the socket, and the `LogicError` that follows
leaves `runReceiver` with cancellation disabled although it was entered enabled. -/
theorem runReceiver_keeps_cancel_disabled_after_logic_error :
    (runReceiver CanonSize.initial defaultMsgRcvr 1).run
      (.initial ⟨[sendData ⟨⟨⟨1⟩, 100, 0⟩, [7]⟩], .closed⟩ .enable ()) =
      .error (.logicError "Latent chunk-of-data still has data")
        ⟨⟨[sendData ⟨⟨⟨1⟩, 100, 0⟩, [7]⟩], .closed⟩, .disable, (), [.recvData ⟨⟨⟨1⟩, 100, 0⟩, [7]⟩],
          [(.getSize, .enable), (.getStreamId, .disable), (.recv, .disable), (.upcall, .disable),
            (.hasData, .disable)]⟩ := rfl

end Hycast.Peer
