import Hycast.Comms.Cancel

/-! What any run of `runReceiver` does with the messages it reads.

Whatever the input, the receiver object and the number of passes, the run consumes a leading part
of its input and makes exactly the upcalls those messages warrant, in the order of receipt: each
carries the value its stream's decoder reads from one consumed message, so the loop never drops,
invents, repeats or reorders an upcall. A run that throws may also stop at a chunk-stream message
it leaves in the socket, after the upcall its decoding warrants.
-/

set_option autoImplicit false

namespace Hycast.Peer

variable {σ : Type}

def decoded {α : Type} (decode : Decoding α) (record : α → Upcall) (payload : Bytes) : Option Upcall :=
  match decode.run payload with
  | .ok (value, _) => some (record value)
  | .error _ => none

/-- The upcall a message warrants: the value its stream's decoder reads from its payload; none
for a payload the decoder rejects and for a stream without a `case`. -/
def decodeUpcall (canonSize : CanonSize) (msg : SctpMsg) : Option Upcall :=
  match SctpStreamId.ofNat? msg.streamId with
  | some .prodNotice => decoded ProdInfo.deserialize .recvProdNotice msg.payload
  | some .chunkNotice => decoded (ChunkInfo.deserialize canonSize) .recvChunkNotice msg.payload
  | some .prodReq => decoded ProdIndex.deserialize .recvProdRequest msg.payload
  | some .chunkReq => decoded (ChunkInfo.deserialize canonSize) .recvChunkRequest msg.payload
  | some .chunk => decoded (LatentChunk.deserialize canonSize) .recvData msg.payload
  | _ => none

/-- A run from `r` to `r'` consumed a leading part of the input and made, in order, the upcalls
its messages warrant. -/
def Decodes (canonSize : CanonSize) (r r' : Receiver σ) : Prop :=
  ∃ consumed, r.sock.input = consumed ++ r'.sock.input ∧
    r'.upcalls = r.upcalls ++ consumed.filterMap (decodeUpcall canonSize)

/-- As `Decodes`, and the run also made the upcall its decoding warrants for the chunk-stream
message it stopped at and left in the socket. -/
def HeldChunk (canonSize : CanonSize) (r r' : Receiver σ) : Prop :=
  ∃ consumed msg rest, r.sock.input = consumed ++ r'.sock.input ∧ r'.sock.input = msg :: rest ∧
    msg.streamId = SctpStreamId.chunk.toNat ∧
    r'.upcalls = r.upcalls ++ (consumed ++ [msg]).filterMap (decodeUpcall canonSize)

/-- What a run from `r` that ends in `result` did with its input: a run that returns decoded what
it consumed; one that throws may also have stopped at a chunk. -/
def DecodedRun (canonSize : CanonSize) (r : Receiver σ) {α : Type} : EStateM.Result Error (Receiver σ) α → Prop
  | .ok _ r' => Decodes canonSize r r'
  | .error _ r' => Decodes canonSize r r' ∨ HeldChunk canonSize r r'

section Compose

variable {canonSize : CanonSize} {r r' r'' : Receiver σ}

theorem filterMap_decodeUpcall_singleton (msg : SctpMsg) :
    [msg].filterMap (decodeUpcall canonSize) = (decodeUpcall canonSize msg).toList := by
  cases decoding : decodeUpcall canonSize msg <;> simp [decoding]

theorem Decodes.refl (canonSize : CanonSize) (r : Receiver σ) : Decodes canonSize r r :=
  ⟨[], rfl, by simp⟩

theorem Decodes.of_same (input : r'.sock.input = r.sock.input) (same : r'.upcalls = r.upcalls) :
    Decodes canonSize r r' :=
  ⟨[], input.symm, by simp [same]⟩

theorem Decodes.of_consumed (msg : SctpMsg) (current : r.sock.input = msg :: r'.sock.input)
    (made : r'.upcalls = r.upcalls ++ (decodeUpcall canonSize msg).toList) : Decodes canonSize r r' :=
  ⟨[msg], current, by rw [made, filterMap_decodeUpcall_singleton]⟩

theorem Decodes.trans (first : Decodes canonSize r r') (second : Decodes canonSize r' r'') :
    Decodes canonSize r r'' := by
  obtain ⟨consumed, input, made⟩ := first
  obtain ⟨consumed', input', made'⟩ := second
  exact ⟨consumed ++ consumed', by rw [input, input', List.append_assoc],
    by rw [made', made, List.filterMap_append, List.append_assoc]⟩

theorem HeldChunk.of_decodes (first : Decodes canonSize r r') (second : HeldChunk canonSize r' r'') :
    HeldChunk canonSize r r'' := by
  obtain ⟨consumed, input, made⟩ := first
  obtain ⟨consumed', msg, rest, input', current, chunk, made'⟩ := second
  exact ⟨consumed ++ consumed', msg, rest, by rw [input, input', List.append_assoc], current, chunk,
    by simp only [made', made, List.filterMap_append, List.append_assoc]⟩

theorem DecodedRun.of_decodes {α : Type} (first : Decodes canonSize r r')
    {result : EStateM.Result Error (Receiver σ) α} (second : DecodedRun canonSize r' result) :
    DecodedRun canonSize r result := by
  cases result with
  | ok _ _ => exact first.trans second
  | error _ _ => exact second.imp first.trans (HeldChunk.of_decodes first)

end Compose

section Pass

variable (canonSize : CanonSize) (msgRcvr : PeerMsgRcvr σ) {r : Receiver σ} {msg : SctpMsg}
  {rest : List SctpMsg}

theorem currentPayload_of_input (current : r.sock.input = msg :: rest) : currentPayload r = msg.payload := by
  simp [currentPayload, current]

theorem decodedRun_of_consumed {α : Type} {result : EStateM.Result Error (Receiver σ) α}
    (current : r.sock.input = msg :: rest) (input : (after result).sock.input = rest)
    (made : (after result).upcalls = r.upcalls ++ (decodeUpcall canonSize msg).toList) :
    DecodedRun canonSize r result := by
  cases result with
  | ok _ _ => exact Decodes.of_consumed msg (input ▸ current) made
  | error _ _ => exact .inl (Decodes.of_consumed msg (input ▸ current) made)

theorem recv_upcall_decoded {α : Type} (decode : Decoding α) (call : σ → α → Except Error σ)
    (record : α → Upcall) (current : r.sock.input = msg :: rest)
    (warranted : decodeUpcall canonSize msg = decoded decode record msg.payload) :
    DecodedRun canonSize r ((recv decode >>= upcall call record).run r) := by
  simp only [run_bind, run_recv, currentPayload_of_input current]
  rcases read : decode.run msg.payload with error | ⟨value, _⟩
  · exact decodedRun_of_consumed canonSize current (by simp [after, SctpSock.advance, current])
      (by simp [after, warranted, decoded, read])
  · simp only [run_upcall]
    rcases call r.msgRcvr value with error | next <;>
      exact decodedRun_of_consumed canonSize current (by simp [after, SctpSock.advance, current])
        (by simp [after, warranted, decoded, read])

theorem discard_decoded (current : r.sock.input = msg :: rest) (none : decodeUpcall canonSize msg = none) :
    DecodedRun canonSize r ((discard : ReceiverM σ Unit).run r) := by
  simp only [run_discard, DecodedRun]
  exact Decodes.of_consumed msg (by simp [SctpSock.advance, current]) (by simp [none])

theorem dispatch_decoded (current : r.sock.input = msg :: rest) :
    DecodedRun canonSize r ((dispatch canonSize msgRcvr (SctpStreamId.ofNat? msg.streamId)).run r) := by
  rcases stream : SctpStreamId.ofNat? msg.streamId with _ | streamId
  · exact discard_decoded canonSize current (by simp [decodeUpcall, stream])
  cases streamId with
  | version => exact discard_decoded canonSize current (by simp [decodeUpcall, stream])
  | prodNotice => exact recv_upcall_decoded canonSize _ _ _ current (by simp only [decodeUpcall, stream])
  | chunkNotice => exact recv_upcall_decoded canonSize _ _ _ current (by simp only [decodeUpcall, stream])
  | prodReq => exact recv_upcall_decoded canonSize _ _ _ current (by simp only [decodeUpcall, stream])
  | chunkReq => exact recv_upcall_decoded canonSize _ _ _ current (by simp only [decodeUpcall, stream])
  | chunk =>
    have onChunk : msg.streamId = SctpStreamId.chunk.toNat := (SctpStreamId.toNat_of_ofNat? stream).symm
    have held : ∀ r' : Receiver σ, r'.sock.input = r.sock.input →
        r'.upcalls = r.upcalls ++ (decodeUpcall canonSize msg).toList → HeldChunk canonSize r r' :=
      fun r' input made => ⟨[], msg, rest, input.symm, input.trans current, onChunk,
        by rw [made, List.nil_append, filterMap_decodeUpcall_singleton]⟩
    simp only [dispatch, run_bind, run_recvChunk, currentPayload_of_input current]
    rcases chunkRead : (LatentChunk.deserialize canonSize).run msg.payload with error | ⟨chunk, _⟩
    · exact .inr (held _ rfl (by simp [decodeUpcall, stream, decoded, chunkRead]))
    simp only [run_recvData]
    rcases msgRcvr.recvData r.msgRcvr chunk with error | ⟨next, use⟩
    · exact .inr (held _ rfl (by simp [decodeUpcall, stream, decoded, chunkRead]))
    cases use <;> simp only [run_perform, run_throw, run_pure, DecodedRun, reduceCtorEq, if_true, if_false]
    case kept => exact .inr (held _ rfl (by simp [decodeUpcall, stream, decoded, chunkRead]))
    all_goals refine Decodes.of_consumed msg ?_ ?_ <;>
      simp [SctpSock.advance, current, decodeUpcall, stream, decoded, chunkRead]

theorem iteration_decoded (r : Receiver σ) : DecodedRun canonSize r ((iteration canonSize msgRcvr).run r) := by
  rcases current : r.sock.input with _ | ⟨msg, rest⟩
  · rcases ending : r.sock.ending with _ | error <;>
      simp only [run_iteration, run_getSize, current, ending, if_true, run_pure, DecodedRun]
    · exact Decodes.of_same rfl rfl
    · exact .inl (Decodes.of_same rfl rfl)
  by_cases empty : msg.payload = []
  · simp only [run_iteration, run_getSize, current, empty, List.length_nil, if_true, run_pure]
    exact Decodes.of_same rfl rfl
  rw [iteration_message canonSize current empty, run_bind]
  have made := dispatch_decoded canonSize msgRcvr
    (r := { r with cancelState := .disable, events := r.events ++ [(.getSize, .enable), (.getStreamId, .disable)] })
    current
  rcases dispatched : (dispatch canonSize msgRcvr (SctpStreamId.ofNat? msg.streamId)).run
    { r with cancelState := .disable, events := r.events ++ [(.getSize, .enable), (.getStreamId, .disable)] }
    with ⟨⟨⟩, r'⟩ | ⟨error, r'⟩ <;> rw [dispatched] at made <;> exact made

theorem loop_decoded (fuel : Nat) (r : Receiver σ) : DecodedRun canonSize r ((loop canonSize msgRcvr fuel).run r) := by
  induction fuel generalizing r with
  | zero => exact Decodes.refl canonSize r
  | succ fuel more =>
    have pass := iteration_decoded canonSize msgRcvr r
    rw [run_loop_succ]
    rcases result : (iteration canonSize msgRcvr).run r with ⟨_ | _, r'⟩ | ⟨_, r'⟩ <;>
      rw [result] at pass
    case ok.false => exact DecodedRun.of_decodes pass (more r')
    all_goals exact pass

end Pass

/-- Whatever the input, the receiver object and the number of passes, `runReceiver` consumes a
leading part of its input and makes, in the order of receipt, the upcalls those messages warrant:
each carries the value its stream's decoder reads from one consumed message, none is made twice
for a message, and none for a message on a stream without a `case` or with a payload its decoder
rejects. A run that throws may also have stopped at a chunk-stream message, left in the socket,
after the upcall its decoding warrants. -/
theorem runReceiver_upcalls_decode_received (canonSize : CanonSize) (msgRcvr : PeerMsgRcvr σ)
    (fuel : Nat) (r : Receiver σ) :
    match (runReceiver canonSize msgRcvr fuel).run r with
    | .ok _ r' => Decodes canonSize r r'
    | .error _ r' => Decodes canonSize r r' ∨ HeldChunk canonSize r r' := by
  have made := loop_decoded canonSize msgRcvr fuel { r with cancelState := .enable }
  rw [run_runReceiver]
  rcases result : (loop canonSize msgRcvr fuel).run { r with cancelState := .enable } with
    ⟨_, r'⟩ | ⟨_, r'⟩ <;> rw [result] at made <;> exact made

end Hycast.Peer
