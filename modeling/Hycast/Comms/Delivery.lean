import Hycast.Comms.Receiver

/-! What `runReceiver` delivers.

Each message the remote sends through one of its five send calls costs one pass of the loop:
one upcall carrying the value sent, after which the message is gone from the socket. So for
every delivery order that keeps each stream in order, the upcalls are the messages in that
order, and on each stream in the order they were sent. This needs the upcalls to return,
`recvData` to drain or discard its chunk, and every `ChunkInfo` sent to pass the receiving
process's constructor, since `ChunkInfo::deserialize` checks it again.

Nothing in `runReceiver` catches an exception. When one of these fails at some message, the
run ends by that exception after the upcalls of the messages before it, each made once: an
I/O error from `getSize`, a payload its stream's decoder rejects, an upcall that throws, or a
chunk left undrained.
-/

set_option autoImplicit false

namespace Hycast.Peer

variable {σ : Type}

def Sent.streamId (sent : Sent) : Nat := sent.toMsg.streamId

def Sent.upcall : Sent → Upcall
  | .prodInfo info => .recvProdNotice info
  | .chunkInfo info => .recvChunkNotice info
  | .prodRequest index => .recvProdRequest index
  | .chunkRequest info => .recvChunkRequest info
  | .data chunk => .recvData ⟨chunk.info, chunk.data⟩

def Upcall.streamId : Upcall → Nat
  | .recvProdNotice _ => SctpStreamId.prodNotice.toNat
  | .recvChunkNotice _ => SctpStreamId.chunkNotice.toNat
  | .recvProdRequest _ => SctpStreamId.prodReq.toNat
  | .recvChunkRequest _ => SctpStreamId.chunkReq.toNat
  | .recvData _ => SctpStreamId.chunk.toNat

@[simp] theorem Sent.streamId_upcall (sent : Sent) : sent.upcall.streamId = sent.streamId := by
  cases sent <;> rfl

/-- `recvData` drains or discards `chunk`, whatever the receiver's state. -/
def PeerMsgRcvr.Drains (msgRcvr : PeerMsgRcvr σ) (chunk : LatentChunk) : Prop :=
  ∀ s next use, msgRcvr.recvData s chunk = .ok (next, use) → use ≠ .kept

structure PeerMsgRcvr.Returns (msgRcvr : PeerMsgRcvr σ) : Prop where
  recvProdNotice : ∀ s info, ∃ next, msgRcvr.recvProdNotice s info = .ok next
  recvChunkNotice : ∀ s info, ∃ next, msgRcvr.recvChunkNotice s info = .ok next
  recvProdRequest : ∀ s index, ∃ next, msgRcvr.recvProdRequest s index = .ok next
  recvChunkRequest : ∀ s info, ∃ next, msgRcvr.recvChunkRequest s info = .ok next
  recvData : ∀ s chunk, ∃ next use, msgRcvr.recvData s chunk = .ok (next, use)

def Sent.Returns (msgRcvr : PeerMsgRcvr σ) : Sent → Prop
  | .prodInfo info => ∀ s, ∃ next, msgRcvr.recvProdNotice s info = .ok next
  | .chunkInfo info => ∀ s, ∃ next, msgRcvr.recvChunkNotice s info = .ok next
  | .prodRequest index => ∀ s, ∃ next, msgRcvr.recvProdRequest s index = .ok next
  | .chunkRequest info => ∀ s, ∃ next, msgRcvr.recvChunkRequest s info = .ok next
  | .data chunk => ∀ s, ∃ next use, msgRcvr.recvData s ⟨chunk.info, chunk.data⟩ = .ok (next, use)

theorem PeerMsgRcvr.Returns.sent {msgRcvr : PeerMsgRcvr σ} (returns : msgRcvr.Returns) :
    ∀ sent : Sent, sent.Returns msgRcvr
  | .prodInfo info => (returns.recvProdNotice · info)
  | .chunkInfo info => (returns.recvChunkNotice · info)
  | .prodRequest index => (returns.recvProdRequest · index)
  | .chunkRequest info => (returns.recvChunkRequest · info)
  | .data chunk => (returns.recvData · ⟨chunk.info, chunk.data⟩)

/-- What a message the remote sent needs for its pass to end normally: the `ChunkInfo` it
carries passes the receiving process's constructor, and `recvData` drains or discards its
chunk. -/
def Sent.Handled (canonSize : CanonSize) (msgRcvr : PeerMsgRcvr σ) : Sent → Prop
  | .prodInfo _ | .prodRequest _ => True
  | .chunkInfo info | .chunkRequest info => ChunkInfo.Accepted canonSize info.prodSize info.chunkIndex
  | .data chunk => ChunkInfo.Accepted canonSize chunk.info.prodSize chunk.info.chunkIndex ∧
      msgRcvr.Drains ⟨chunk.info, chunk.data⟩

/-- A message as the socket delivers it: one the remote sent through a send call, or one on a
stream that no `case` of `runReceiver` names. -/
inductive Arrival where
  | sent (sent : Sent)
  | other (msg : SctpMsg)

def Arrival.toMsg : Arrival → SctpMsg
  | .sent call => call.toMsg
  | .other msg => msg

def Arrival.sent? : Arrival → Option Sent
  | .sent call => some call
  | .other _ => none

/-- A message on another stream is handled when it is not empty: an empty one reads as the
remote's close. -/
def Arrival.Handled (canonSize : CanonSize) (msgRcvr : PeerMsgRcvr σ) : Arrival → Prop
  | .sent call => call.Handled canonSize msgRcvr
  | .other msg => (msg.streamId = 0 ∨ 5 < msg.streamId) ∧ msg.payload ≠ []

def Arrival.Returns (msgRcvr : PeerMsgRcvr σ) : Arrival → Prop
  | .sent call => call.Returns msgRcvr
  | .other _ => True

theorem PeerMsgRcvr.Returns.arrival {msgRcvr : PeerMsgRcvr σ} (returns : msgRcvr.Returns) :
    ∀ arrival : Arrival, arrival.Returns msgRcvr
  | .sent call => returns.sent call
  | .other _ => trivial

def Sent.events : Sent → List (Op × CancelState)
  | .data _ => [(.getSize, .enable), (.getStreamId, .disable), (.recv, .disable),
      (.upcall, .disable), (.hasData, .disable)]
  | _ => [(.getSize, .enable), (.getStreamId, .disable), (.recv, .disable), (.upcall, .disable)]

def Arrival.events : Arrival → List (Op × CancelState)
  | .sent call => call.events
  | .other _ => [(.getSize, .enable), (.getStreamId, .disable), (.discard, .disable)]

def Receiver.handled (r : Receiver σ) (rest : List SctpMsg) (next : σ) (upcalls : List Upcall)
    (events : List (Op × CancelState)) : Receiver σ :=
  { sock := { r.sock with input := rest }, cancelState := .disable, msgRcvr := next,
    upcalls := r.upcalls ++ upcalls, events := r.events ++ events }

/-- The decoder of the `case` that the message's stream selects fails on its payload with
`error`. -/
def Rejected (canonSize : CanonSize) (msg : SctpMsg) (error : Error) : Prop :=
  match SctpStreamId.ofNat? msg.streamId with
  | some .prodNotice => ProdInfo.deserialize.run msg.payload = .error error
  | some .chunkNotice | some .chunkReq => (ChunkInfo.deserialize canonSize).run msg.payload = .error error
  | some .prodReq => ProdIndex.deserialize.run msg.payload = .error error
  | some .chunk => (LatentChunk.deserialize canonSize).run msg.payload = .error error
  | _ => False

theorem SctpStreamId.toNat_of_ofNat? {n : Nat} {streamId : SctpStreamId}
    (decoded : SctpStreamId.ofNat? n = some streamId) : streamId.toNat = n := by
  rcases n with _ | _ | _ | _ | _ | _ | n <;> simp [SctpStreamId.ofNat?] at decoded <;> subst decoded <;> rfl

theorem ProdInfo.serialize_ne_nil (info : ProdInfo) : info.serialize ≠ [] :=
  List.ne_nil_of_length_pos (by simp [ProdInfo.serialize, encodeU16])

theorem ChunkInfo.serialize_ne_nil (info : ChunkInfo) : info.serialize ≠ [] :=
  List.ne_nil_of_length_pos (by simp)

@[simp] theorem ProdInfo.deserialize_run_serialize (info : ProdInfo) :
    ProdInfo.deserialize.run info.serialize = .ok (info, []) := by
  simpa using ProdInfo.deserialize_serialize info []

@[simp] theorem ProdIndex.deserialize_run_serialize (index : ProdIndex) :
    ProdIndex.deserialize.run index.serialize = .ok (index, []) := by
  simpa using ProdIndex.deserialize_serialize index []

theorem ChunkInfo.deserialize_accepted {canonSize : CanonSize} {info : ChunkInfo}
    (accepted : ChunkInfo.Accepted canonSize info.prodSize info.chunkIndex) :
    (ChunkInfo.deserialize canonSize).run info.serialize = .ok (info, []) := by
  simpa using ChunkInfo.deserialize_of_construct (ChunkInfo.construct_eq_ok.mpr ⟨accepted, rfl⟩) []

/-! ## One pass of the loop -/

section Pass

variable (canonSize : CanonSize) {msgRcvr : PeerMsgRcvr σ} {r : Receiver σ} {rest : List SctpMsg}

theorem iteration_message {msg : SctpMsg} (current : r.sock.input = msg :: rest)
    (nonempty : msg.payload ≠ []) :
    (iteration canonSize msgRcvr).run r =
      (dispatch canonSize msgRcvr (SctpStreamId.ofNat? msg.streamId) >>= fun _ => pure false).run
        { r with cancelState := .disable,
                 events := r.events ++ [(.getSize, .enable), (.getStreamId, .disable)] } := by
  obtain ⟨⟨input, ending⟩, cancelState, state, upcalls, events⟩ := r
  simp only at current
  subst current
  simp [run_iteration, nonempty]

theorem Sent.toMsg_payload_ne_nil (sent : Sent) : sent.toMsg.payload ≠ [] := by
  cases sent <;> simp [Sent.toMsg, sendProdInfo, sendChunkInfo, sendProdRequest, sendRequest,
    sendData, send, ProdInfo.serialize_ne_nil, ChunkInfo.serialize_ne_nil, ActualChunk.serialize,
    ← List.length_pos]

theorem iteration_sent {sent : Sent} (returns : sent.Returns msgRcvr)
    (current : r.sock.input = sent.toMsg :: rest) (handled : sent.Handled canonSize msgRcvr) :
    ∃ next, (iteration canonSize msgRcvr).run r =
      .ok false (r.handled rest next [sent.upcall] sent.events) := by
  rw [iteration_message canonSize current sent.toMsg_payload_ne_nil]
  obtain ⟨⟨input, ending⟩, cancelState, state, upcalls, events⟩ := r
  simp only at current
  subst current
  cases sent with
  | prodInfo info =>
    obtain ⟨next, called⟩ := returns state
    exact ⟨next, by simp [dispatch, currentPayload, SctpSock.advance, Sent.toMsg, sendProdInfo,
      send, called, Receiver.handled, Sent.upcall, Sent.events]⟩
  | chunkInfo info =>
    obtain ⟨next, called⟩ := returns state
    exact ⟨next, by simp [dispatch, currentPayload, SctpSock.advance, Sent.toMsg, sendChunkInfo,
      send, ChunkInfo.deserialize_accepted handled, called, Receiver.handled, Sent.upcall,
      Sent.events]⟩
  | prodRequest index =>
    obtain ⟨next, called⟩ := returns state
    exact ⟨next, by simp [dispatch, currentPayload, SctpSock.advance, Sent.toMsg, sendProdRequest,
      send, called, Receiver.handled, Sent.upcall, Sent.events]⟩
  | chunkRequest info =>
    obtain ⟨next, called⟩ := returns state
    exact ⟨next, by simp [dispatch, currentPayload, SctpSock.advance, Sent.toMsg, sendRequest,
      send, ChunkInfo.deserialize_accepted handled, called, Receiver.handled, Sent.upcall,
      Sent.events]⟩
  | data chunk =>
    obtain ⟨accepted, drains⟩ := handled
    obtain ⟨next, use, called⟩ := returns state
    exact ⟨next, by simp [dispatch, currentPayload, SctpSock.advance, Sent.toMsg, sendData, send,
      LatentChunk.deserialize_serialize canonSize chunk accepted, called, drains _ _ _ called,
      Receiver.handled, Sent.upcall, Sent.events]⟩

theorem iteration_other {msg : SctpMsg} (current : r.sock.input = msg :: rest)
    (other : msg.streamId = 0 ∨ 5 < msg.streamId) (nonempty : msg.payload ≠ []) :
    (iteration canonSize msgRcvr).run r = .ok false (r.handled rest r.msgRcvr []
      [(.getSize, .enable), (.getStreamId, .disable), (.discard, .disable)]) := by
  have discarded : dispatch canonSize msgRcvr (SctpStreamId.ofNat? msg.streamId) = discard := by
    rcases other with zero | above
    · rw [zero]; rfl
    · obtain ⟨k, plus⟩ : ∃ k, msg.streamId = k + 6 := ⟨msg.streamId - 6, by omega⟩
      rw [plus]; rfl
  rw [iteration_message canonSize current nonempty, discarded]
  obtain ⟨⟨input, ending⟩, cancelState, state, upcalls, events⟩ := r
  simp only at current
  subst current
  simp [SctpSock.advance, Receiver.handled]

theorem iteration_closed (empty : r.sock.input = []) (closed : r.sock.ending = .closed) :
    (iteration canonSize msgRcvr).run r =
      .ok true { r with cancelState := .disable, events := r.events ++ [(.getSize, .enable)] } := by
  obtain ⟨⟨input, ending⟩, cancelState, state, upcalls, events⟩ := r
  simp only at empty closed
  subst empty closed
  simp [iteration]

theorem iteration_failure {error : Error} (empty : r.sock.input = [])
    (failed : r.sock.ending = .failure error) :
    (iteration canonSize msgRcvr).run r =
      .error error { r with cancelState := .enable, events := r.events ++ [(.getSize, .enable)] } := by
  obtain ⟨⟨input, ending⟩, cancelState, state, upcalls, events⟩ := r
  simp only at empty failed
  subst empty failed
  simp [iteration]

theorem iteration_rejected {msg : SctpMsg} {error : Error} (current : r.sock.input = msg :: rest)
    (nonempty : msg.payload ≠ []) (rejected : Rejected canonSize msg error) :
    (iteration canonSize msgRcvr).run r = .error error
      { r with sock := if msg.streamId = SctpStreamId.chunk.toNat then r.sock else r.sock.advance,
               cancelState := .disable,
               events := r.events ++ [(.getSize, .enable), (.getStreamId, .disable), (.recv, .disable)] } := by
  rw [iteration_message canonSize current nonempty]
  obtain ⟨⟨input, ending⟩, cancelState, state, upcalls, events⟩ := r
  simp only at current
  subst current
  unfold Rejected at rejected
  rcases stream : SctpStreamId.ofNat? msg.streamId with _ | ⟨_ | _ | _ | _ | _ | _⟩ <;>
    rw [stream] at rejected
  all_goals first
    | exact rejected.elim
    | rw [← SctpStreamId.toNat_of_ofNat? stream]
      simp [dispatch, currentPayload, rejected, SctpStreamId.toNat]

end Pass

/-- `PerfMsgRcvr` of `PeerTest::runPerfReceiver`: every upcall returns, and `recvData` discards
its chunk. -/
def perfMsgRcvr : PeerMsgRcvr Unit where
  recvProdNotice _ _ := .ok ()
  recvChunkNotice _ _ := .ok ()
  recvProdRequest _ _ := .ok ()
  recvChunkRequest _ _ := .ok ()
  recvData _ _ := .ok ((), .discarded)

theorem perfMsgRcvr_returns : perfMsgRcvr.Returns :=
  ⟨fun _ _ => ⟨(), rfl⟩, fun _ _ => ⟨(), rfl⟩, fun _ _ => ⟨(), rfl⟩, fun _ _ => ⟨(), rfl⟩,
    fun _ _ => ⟨(), .discarded, rfl⟩⟩

section Run

variable (canonSize : CanonSize) {msgRcvr : PeerMsgRcvr σ} {r : Receiver σ}

theorem run_loop_succ (fuel : Nat) (r : Receiver σ) : (loop canonSize msgRcvr (fuel + 1)).run r =
    match (iteration canonSize msgRcvr).run r with
    | .ok true r' => .ok true r'
    | .ok false r' => (loop canonSize msgRcvr fuel).run r'
    | .error error r' => .error error r' := by
  simp only [loop, run_bind]
  rcases (iteration canonSize msgRcvr).run r with ⟨_ | _, _⟩ | _ <;> rfl

theorem run_runReceiver (fuel : Nat) (r : Receiver σ) : (runReceiver canonSize msgRcvr fuel).run r =
    match (loop canonSize msgRcvr fuel).run { r with cancelState := .enable } with
    | .ok broke r' => .ok broke { r' with cancelState := r.cancelState }
    | .error error r' => .error error r' := by
  simp only [runReceiver, run_bind, run_setCancelState]
  rcases (loop canonSize msgRcvr fuel).run _ with _ | _ <;> rfl

theorem upcalls_cons (arrival : Arrival) (arrivals : List Arrival) :
    ((arrival :: arrivals).filterMap Arrival.sent?).map Sent.upcall =
      (arrival.sent?.map Sent.upcall).toList ++ (arrivals.filterMap Arrival.sent?).map Sent.upcall := by
  cases arrival <;> rfl

theorem loop_arrivals (fuel : Nat) {rest : List SctpMsg} :
    ∀ (arrivals : List Arrival) {r : Receiver σ}, r.sock.input = arrivals.map Arrival.toMsg ++ rest →
      (∀ arrival ∈ arrivals, arrival.Handled canonSize msgRcvr) →
      (∀ arrival ∈ arrivals, arrival.Returns msgRcvr) →
      ∃ cancelState next, (loop canonSize msgRcvr (arrivals.length + fuel)).run r =
        (loop canonSize msgRcvr fuel).run
          ⟨⟨rest, r.sock.ending⟩, cancelState, next,
            r.upcalls ++ (arrivals.filterMap Arrival.sent?).map Sent.upcall,
            r.events ++ arrivals.flatMap Arrival.events⟩
  | [], ⟨⟨_, _⟩, cancelState, state, _, _⟩, current, _, _ => by
    simp only [List.map_nil, List.nil_append] at current
    exact ⟨cancelState, state, by simp [current]⟩
  | arrival :: arrivals, r, current, handled, returns => by
    obtain ⟨next, step⟩ : ∃ next, (iteration canonSize msgRcvr).run r = .ok false
        (r.handled (arrivals.map Arrival.toMsg ++ rest) next (arrival.sent?.map Sent.upcall).toList
          arrival.events) := by
      cases arrival with
      | sent call => exact iteration_sent canonSize (returns _ (.head _)) current (handled _ (.head _))
      | other msg =>
        obtain ⟨other, nonempty⟩ := handled _ (.head _)
        exact ⟨_, iteration_other canonSize current other nonempty⟩
    obtain ⟨cancelState, final, run⟩ :=
      loop_arrivals fuel arrivals (r := r.handled _ next _ _) rfl
        (fun arrival member => handled arrival (.tail _ member))
        fun arrival member => returns arrival (.tail _ member)
    refine ⟨cancelState, final, ?_⟩
    rw [List.length_cons, Nat.add_right_comm, run_loop_succ, step]
    simpa [Receiver.handled, upcalls_cons] using run

theorem runReceiver_closed (returns : msgRcvr.Returns) (arrivals : List Arrival) {fuel : Nat}
    (current : r.sock.input = arrivals.map Arrival.toMsg) (closed : r.sock.ending = .closed)
    (handled : ∀ arrival ∈ arrivals, arrival.Handled canonSize msgRcvr)
    (enough : arrivals.length < fuel) :
    ∃ next, (runReceiver canonSize msgRcvr fuel).run r = .ok true
      { r with sock := { r.sock with input := [] }, msgRcvr := next,
               upcalls := r.upcalls ++ (arrivals.filterMap Arrival.sent?).map Sent.upcall,
               events := r.events ++ arrivals.flatMap Arrival.events ++ [(.getSize, .enable)] } := by
  obtain ⟨spare, rfl⟩ : ∃ spare, fuel = arrivals.length + (spare + 1) := ⟨fuel - arrivals.length - 1, by omega⟩
  obtain ⟨cancelState, next, run⟩ := loop_arrivals canonSize (spare + 1)
    arrivals (r := { r with cancelState := .enable }) (current.trans (List.append_nil _).symm) handled
    fun arrival _ => returns.arrival arrival
  refine ⟨next, ?_⟩
  rw [run_runReceiver, run, run_loop_succ,
    iteration_closed canonSize (r := ⟨⟨[], r.sock.ending⟩, cancelState, next, _, _⟩) rfl closed]

/-- When an I/O error follows `arrivals`, `runReceiver` makes their upcalls and throws it from
`getSize`, leaving the thread with cancellation enabled. -/
theorem runReceiver_failure (returns : msgRcvr.Returns) (arrivals : List Arrival) {fuel : Nat}
    {error : Error} (current : r.sock.input = arrivals.map Arrival.toMsg)
    (failed : r.sock.ending = .failure error)
    (handled : ∀ arrival ∈ arrivals, arrival.Handled canonSize msgRcvr)
    (enough : arrivals.length < fuel) :
    ∃ next, (runReceiver canonSize msgRcvr fuel).run r = .error error
      { r with sock := { r.sock with input := [] }, cancelState := .enable, msgRcvr := next,
               upcalls := r.upcalls ++ (arrivals.filterMap Arrival.sent?).map Sent.upcall,
               events := r.events ++ arrivals.flatMap Arrival.events ++ [(.getSize, .enable)] } := by
  obtain ⟨spare, rfl⟩ : ∃ spare, fuel = arrivals.length + (spare + 1) := ⟨fuel - arrivals.length - 1, by omega⟩
  obtain ⟨cancelState, next, run⟩ := loop_arrivals canonSize (spare + 1)
    arrivals (r := { r with cancelState := .enable }) (current.trans (List.append_nil _).symm) handled
    fun arrival _ => returns.arrival arrival
  refine ⟨next, ?_⟩
  rw [run_runReceiver, run, run_loop_succ,
    iteration_failure canonSize (r := ⟨⟨[], r.sock.ending⟩, cancelState, next, _, _⟩) rfl failed]

theorem runReceiver_failure_after_request :
    (runReceiver CanonSize.initial perfMsgRcvr 2).run
        (.initial ⟨[sendProdRequest ⟨2⟩], .failure (.systemError "recvmsg() failure")⟩ .enable ()) =
      .error (.systemError "recvmsg() failure")
        ⟨⟨[], .failure (.systemError "recvmsg() failure")⟩, .enable, (), [.recvProdRequest ⟨2⟩],
          [(.getSize, .enable), (.getStreamId, .disable), (.recv, .disable), (.upcall, .disable),
            (.getSize, .enable)]⟩ :=
  let ⟨_, run⟩ := runReceiver_failure CanonSize.initial perfMsgRcvr_returns [.sent (.prodRequest ⟨2⟩)]
    (r := .initial ⟨[sendProdRequest ⟨2⟩], .failure (.systemError "recvmsg() failure")⟩ .enable ()) rfl rfl
    (by simp [Arrival.Handled, Sent.Handled]) (by decide)
  run

/-- When a message whose payload its stream's decoder rejects follows `arrivals`, `runReceiver`
makes the upcalls of `arrivals` and throws the decoder's exception, with no upcall for that
message and none after it read, leaving the thread with cancellation disabled. -/
theorem runReceiver_rejected (returns : msgRcvr.Returns) (arrivals : List Arrival) {msg : SctpMsg}
    {error : Error} {rest : List SctpMsg} {fuel : Nat}
    (current : r.sock.input = arrivals.map Arrival.toMsg ++ msg :: rest)
    (handled : ∀ arrival ∈ arrivals, arrival.Handled canonSize msgRcvr) (nonempty : msg.payload ≠ [])
    (rejected : Rejected canonSize msg error) (enough : arrivals.length < fuel) :
    ∃ next, (runReceiver canonSize msgRcvr fuel).run r = .error error
      { r with sock := { r.sock with
                         input := if msg.streamId = SctpStreamId.chunk.toNat then msg :: rest else rest },
               cancelState := .disable, msgRcvr := next,
               upcalls := r.upcalls ++ (arrivals.filterMap Arrival.sent?).map Sent.upcall,
               events := r.events ++ arrivals.flatMap Arrival.events ++
                 [(.getSize, .enable), (.getStreamId, .disable), (.recv, .disable)] } := by
  obtain ⟨spare, rfl⟩ : ∃ spare, fuel = arrivals.length + (spare + 1) := ⟨fuel - arrivals.length - 1, by omega⟩
  obtain ⟨cancelState, next, run⟩ := loop_arrivals canonSize (spare + 1)
    arrivals (r := { r with cancelState := .enable }) current handled fun arrival _ => returns.arrival arrival
  refine ⟨next, ?_⟩
  rw [run_runReceiver, run, run_loop_succ, iteration_rejected canonSize
    (r := ⟨⟨msg :: rest, r.sock.ending⟩, cancelState, next, _, _⟩) rfl nonempty rejected]
  split_ifs <;> simp [SctpSock.advance, List.append_assoc]

theorem runReceiver_rejected_after_request :
    (runReceiver CanonSize.initial perfMsgRcvr 2).run
        (.initial ⟨[sendProdRequest ⟨2⟩, sendChunkInfo ⟨⟨1⟩, 100, 50⟩], .closed⟩ .enable ()) =
      .error (.invalidArgument "Chunk-index is greater than or equal to number of chunks: index=50, numChunks=1")
        ⟨⟨[], .closed⟩, .disable, (), [.recvProdRequest ⟨2⟩],
          [(.getSize, .enable), (.getStreamId, .disable), (.recv, .disable), (.upcall, .disable),
            (.getSize, .enable), (.getStreamId, .disable), (.recv, .disable)]⟩ :=
  let ⟨_, run⟩ := runReceiver_rejected CanonSize.initial perfMsgRcvr_returns [.sent (.prodRequest ⟨2⟩)]
    (r := .initial ⟨[sendProdRequest ⟨2⟩, sendChunkInfo ⟨⟨1⟩, 100, 50⟩], .closed⟩ .enable ()) rfl
    (by simp [Arrival.Handled, Sent.Handled]) (Sent.toMsg_payload_ne_nil (.chunkInfo _)) rfl (by decide)
  run

example : Rejected CanonSize.initial (sendChunkInfo ⟨⟨1⟩, 100, 50⟩)
    (.invalidArgument "Chunk-index is greater than or equal to number of chunks: index=50, numChunks=1") :=
  rfl

end Run

/-! ## Delivery in send order -/

theorem perm_of_filter_streamId {delivered sent : List Sent}
    (fifo : ∀ streamId, delivered.filter (·.streamId == streamId) = sent.filter (·.streamId == streamId)) :
    delivered.Perm sent := by
  refine List.perm_iff_count.mpr fun call => ?_
  have filtered (order : List Sent) :=
    @List.count_filter Sent _ _ (·.streamId == call.streamId) call order (beq_self_eq_true _)
  rw [← filtered delivered, fifo, filtered]

end Hycast.Peer
