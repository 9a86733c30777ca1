import Hycast.Codec.Serial

/-! `Peer::Impl::runReceiver` and the send calls of a peer (`Peer.cpp`).

The socket's input is the list of messages in the order the transport delivered them,
then either the remote's close or an I/O failure. The loop is run as the source writes it,
statement by statement, over an explicit state: the socket, the thread's cancellation state,
the receiver object and a record of the upcalls made and of every socket operation with the
cancellation state it ran under.
-/

set_option autoImplicit false

namespace Hycast

/-- One message of an SCTP association: the stream it travels on and its bytes. -/
structure SctpMsg where
  streamId : Nat
  payload : Bytes
  deriving DecidableEq, Repr

/-- What the socket reports once the delivered messages are used up: the remote closed
(`getSize` returns 0), or an I/O error. -/
inductive SockEnd where
  | closed
  | failure (error : Error)
  deriving DecidableEq, Repr

/-- The input side of an `SctpSock`. -/
structure SctpSock where
  input : List SctpMsg
  ending : SockEnd
  deriving DecidableEq, Repr

def SctpSock.advance (sock : SctpSock) : SctpSock := { sock with input := sock.input.tail }

namespace Peer

/-- `Peer::Impl::SctpStreamId`; the socket is opened with `NUM_STREAM_IDS = 6` streams. -/
inductive SctpStreamId where
  | version
  | prodNotice
  | chunkNotice
  | prodReq
  | chunkReq
  | chunk
  deriving DecidableEq, Repr

def SctpStreamId.toNat : SctpStreamId → Nat
  | .version => 0
  | .prodNotice => 1
  | .chunkNotice => 2
  | .prodReq => 3
  | .chunkReq => 4
  | .chunk => 5

/-- The `case` label of `runReceiver`'s `switch` that a stream number selects. -/
def SctpStreamId.ofNat? : Nat → Option SctpStreamId
  | 0 => some .version
  | 1 => some .prodNotice
  | 2 => some .chunkNotice
  | 3 => some .prodReq
  | 4 => some .chunkReq
  | 5 => some .chunk
  | _ => none

@[simp] theorem SctpStreamId.ofNat?_toNat (streamId : SctpStreamId) :
    ofNat? streamId.toNat = some streamId := by
  cases streamId <;> rfl

/-- `Channel<T>::send`: one message on the channel's stream. Modelled from the spec: `Channel.h` is
not among the sources, and `RegChannelImpl.h` declares the function without its body. -/
def send (streamId : SctpStreamId) (bytes : Bytes) : SctpMsg := ⟨streamId.toNat, bytes⟩

def sendProdInfo (prodInfo : ProdInfo) : SctpMsg := send .prodNotice prodInfo.serialize
def sendChunkInfo (chunkInfo : ChunkInfo) : SctpMsg := send .chunkNotice chunkInfo.serialize
def sendProdRequest (prodIndex : ProdIndex) : SctpMsg := send .prodReq prodIndex.serialize
def sendRequest (chunkInfo : ChunkInfo) : SctpMsg := send .chunkReq chunkInfo.serialize
def sendData (chunk : ActualChunk) : SctpMsg := send .chunk chunk.serialize

/-- The argument of one send call of the remote peer after the handshake. -/
inductive Sent where
  | prodInfo (prodInfo : ProdInfo)
  | chunkInfo (chunkInfo : ChunkInfo)
  | prodRequest (prodIndex : ProdIndex)
  | chunkRequest (chunkInfo : ChunkInfo)
  | data (chunk : ActualChunk)
  deriving DecidableEq, Repr

/-- The message each send call puts on the wire. -/
def Sent.toMsg : Sent → SctpMsg
  | .prodInfo info => sendProdInfo info
  | .chunkInfo info => sendChunkInfo info
  | .prodRequest index => sendProdRequest index
  | .chunkRequest info => sendRequest info
  | .data chunk => sendData chunk

/-- An upcall of `PeerMsgRcvr`, with the value it carries. -/
inductive Upcall where
  | recvProdNotice (prodInfo : ProdInfo)
  | recvChunkNotice (chunkInfo : ChunkInfo)
  | recvProdRequest (prodIndex : ProdIndex)
  | recvChunkRequest (chunkInfo : ChunkInfo)
  | recvData (chunk : LatentChunk)
  deriving DecidableEq, Repr

/-- Modelled from the spec: `Chunk.h` is not among the sources. What an upcall did with a
`LatentChunk`, whose handle has one use; `hasData()` is false after the first two. -/
inductive ChunkUse where
  | drained
  | discarded
  | kept
  deriving DecidableEq, Repr

/-- A `PeerMsgRcvr` with state `σ`. Each upcall may throw; `recvData` also says what it did
with the chunk. -/
structure PeerMsgRcvr (σ : Type) where
  recvProdNotice : σ → ProdInfo → Except Error σ
  recvChunkNotice : σ → ChunkInfo → Except Error σ
  recvProdRequest : σ → ProdIndex → Except Error σ
  recvChunkRequest : σ → ChunkInfo → Except Error σ
  recvData : σ → LatentChunk → Except Error (σ × ChunkUse)

/-- `Peer::Impl::defaultMsgRcvr`: every upcall returns at once, so `recvData` leaves the chunk's
data in the socket. -/
def defaultMsgRcvr : PeerMsgRcvr Unit where
  recvProdNotice _ _ := .ok ()
  recvChunkNotice _ _ := .ok ()
  recvProdRequest _ _ := .ok ()
  recvChunkRequest _ _ := .ok ()
  recvData _ _ := .ok ((), .kept)

/-- `pthread_setcancelstate`'s states. -/
inductive CancelState where
  | enable
  | disable
  deriving DecidableEq, Repr

/-- The socket operations, upcalls and checks of `runReceiver`. -/
inductive Op where
  | getSize
  | getStreamId
  | recv
  | upcall
  | hasData
  | discard
  deriving DecidableEq, Repr

variable {σ : Type}

/-- The receiving thread: its socket, its cancellation state, the receiver object, and what
it has done. -/
structure Receiver (σ : Type) where
  sock : SctpSock
  cancelState : CancelState
  msgRcvr : σ
  upcalls : List Upcall
  events : List (Op × CancelState)

abbrev ReceiverM (σ : Type) := EStateM Error (Receiver σ)

def Receiver.initial (sock : SctpSock) (cancelState : CancelState) (msgRcvr : σ) : Receiver σ :=
  ⟨sock, cancelState, msgRcvr, [], []⟩

section Run

variable {α β : Type}

@[simp] theorem run_bind (x : ReceiverM σ α) (f : α → ReceiverM σ β) (r : Receiver σ) :
    (x >>= f).run r = match x.run r with
      | .ok a r' => (f a).run r'
      | .error e r' => .error e r' := by
  simp only [EStateM.run]
  show EStateM.bind x f r = _
  unfold EStateM.bind
  cases x r <;> rfl

@[simp] theorem run_pure (a : α) (r : Receiver σ) : (pure a : ReceiverM σ α).run r = .ok a r := rfl

@[simp] theorem run_get (r : Receiver σ) : (get : ReceiverM σ (Receiver σ)).run r = .ok r r := rfl

@[simp] theorem run_set (r' r : Receiver σ) : (set r' : ReceiverM σ PUnit).run r = .ok ⟨⟩ r' := rfl

@[simp] theorem run_modify (f : Receiver σ → Receiver σ) (r : Receiver σ) :
    (modify f : ReceiverM σ PUnit).run r = .ok ⟨⟩ (f r) := rfl

@[simp] theorem run_modifyGet (f : Receiver σ → α × Receiver σ) (r : Receiver σ) :
    (modifyGet f : ReceiverM σ α).run r = .ok (f r).1 (f r).2 := rfl

@[simp] theorem run_throw (e : Error) (r : Receiver σ) :
    (throw e : ReceiverM σ α).run r = .error e r := rfl

end Run

/-- `pthread_setcancelstate(state, &old)`: the old state. -/
def setCancelState (state : CancelState) : ReceiverM σ CancelState :=
  modifyGet fun r => (r.cancelState, { r with cancelState := state })

@[simp] theorem run_setCancelState (state : CancelState) (r : Receiver σ) :
    (setCancelState state).run r = .ok r.cancelState { r with cancelState := state } := rfl

def perform (op : Op) : ReceiverM σ Unit :=
  modify fun r => { r with events := r.events ++ [(op, r.cancelState)] }

@[simp] theorem run_perform (op : Op) (r : Receiver σ) :
    (perform op).run r = .ok () { r with events := r.events ++ [(op, r.cancelState)] } := rfl

def currentPayload (r : Receiver σ) : Bytes := (r.sock.input.head?.map SctpMsg.payload).getD []

def consume : ReceiverM σ Unit :=
  modify fun r => { r with sock := r.sock.advance }

/-- `SctpSock::getSize`: blocks for the current message; 0 once the remote closed. -/
def getSize : ReceiverM σ Nat := do
  perform .getSize
  let r ← get
  match r.sock.input, r.sock.ending with
  | msg :: _, _ => return msg.payload.length
  | [], .closed => return 0
  | [], .failure error => throw error

@[simp] theorem run_getSize (r : Receiver σ) : getSize.run r =
    match r.sock.input, r.sock.ending with
    | msg :: _, _ => .ok msg.payload.length { r with events := r.events ++ [(.getSize, r.cancelState)] }
    | [], .closed => .ok 0 { r with events := r.events ++ [(.getSize, r.cancelState)] }
    | [], .failure error => .error error { r with events := r.events ++ [(.getSize, r.cancelState)] } := by
  obtain ⟨⟨_ | _, _ | _⟩, _⟩ := r <;> rfl

/-- `SctpSock::getStreamId`. `runReceiver` calls it only after `getSize` found a message. -/
def getStreamId : ReceiverM σ Nat := do
  perform .getStreamId
  return ((← get).sock.input.head?.map SctpMsg.streamId).getD 0

@[simp] theorem run_getStreamId (r : Receiver σ) : getStreamId.run r =
    .ok ((r.sock.input.head?.map SctpMsg.streamId).getD 0)
      { r with events := r.events ++ [(.getStreamId, r.cancelState)] } := rfl

/-- `Channel<T>::recv`: consume the current message and decode it. Modelled from the spec:
`Channel.h` is not among the sources, and `RegChannelImpl.h` declares the function without its
body. -/
def recv {α : Type} (decode : Decoding α) : ReceiverM σ α := do
  perform .recv
  let payload := currentPayload (← get)
  consume
  match decode.run payload with
  | .ok (value, _) => return value
  | .error error => throw error

@[simp] theorem run_recv {α : Type} (decode : Decoding α) (r : Receiver σ) : (recv decode).run r =
    match decode.run (currentPayload r) with
    | .ok (value, _) => .ok value
        { r with sock := r.sock.advance, events := r.events ++ [(.recv, r.cancelState)] }
    | .error error => .error error
        { r with sock := r.sock.advance, events := r.events ++ [(.recv, r.cancelState)] } := by
  simp only [recv, currentPayload, run_bind, run_perform, run_get, consume, run_modify]
  rcases decode.run _ with _ | ⟨_, _⟩ <;> rfl

/-- `Channel<ActualChunk,LatentChunk>::recv`: the chunk's information, with its data left
in the socket. Modelled from the spec: `Channel.h` is not among the sources, and
`ChunkChannelImpl.h` declares the function without its body. -/
def recvChunk (canonSize : CanonSize) : ReceiverM σ LatentChunk := do
  perform .recv
  match (LatentChunk.deserialize canonSize).run (currentPayload (← get)) with
  | .ok (chunk, _) => return chunk
  | .error error => throw error

@[simp] theorem run_recvChunk (canonSize : CanonSize) (r : Receiver σ) : (recvChunk canonSize).run r =
    match (LatentChunk.deserialize canonSize).run (currentPayload r) with
    | .ok (chunk, _) => .ok chunk { r with events := r.events ++ [(.recv, r.cancelState)] }
    | .error error => .error error { r with events := r.events ++ [(.recv, r.cancelState)] } := by
  simp only [recvChunk, currentPayload, run_bind, run_perform, run_get]
  rcases (LatentChunk.deserialize canonSize).run _ with _ | ⟨_, _⟩ <;> rfl

def upcall {α : Type} (call : σ → α → Except Error σ) (record : α → Upcall) (value : α) :
    ReceiverM σ Unit := do
  perform .upcall
  let r ← get
  set { r with upcalls := r.upcalls ++ [record value] }
  match call r.msgRcvr value with
  | .ok next => modify fun r => { r with msgRcvr := next }
  | .error error => throw error

@[simp] theorem run_upcall {α : Type} (call : σ → α → Except Error σ) (record : α → Upcall)
    (value : α) (r : Receiver σ) : (upcall call record value).run r =
    match call r.msgRcvr value with
    | .ok next => .ok ()
        { r with
          msgRcvr := next, upcalls := r.upcalls ++ [record value],
          events := r.events ++ [(.upcall, r.cancelState)] }
    | .error error => .error error
        { r with
          upcalls := r.upcalls ++ [record value],
          events := r.events ++ [(.upcall, r.cancelState)] } := by
  simp only [upcall, run_bind, run_perform, run_get, run_set]
  split <;> rfl

/-- `msgRcvr.recvData(chunk, peer)`: draining or discarding the chunk consumes its message. -/
def recvData (msgRcvr : PeerMsgRcvr σ) (chunk : LatentChunk) : ReceiverM σ ChunkUse := do
  perform .upcall
  let r ← get
  set { r with upcalls := r.upcalls ++ [Upcall.recvData chunk] }
  match msgRcvr.recvData r.msgRcvr chunk with
  | .ok (next, use) =>
    modify fun r => { r with msgRcvr := next }
    if use ≠ .kept then consume
    return use
  | .error error => throw error

@[simp] theorem run_recvData (msgRcvr : PeerMsgRcvr σ) (chunk : LatentChunk) (r : Receiver σ) :
    (recvData msgRcvr chunk).run r = match msgRcvr.recvData r.msgRcvr chunk with
    | .ok (next, use) => .ok use
        { r with
          sock := if use = .kept then r.sock else r.sock.advance,
          msgRcvr := next, upcalls := r.upcalls ++ [.recvData chunk],
          events := r.events ++ [(.upcall, r.cancelState)] }
    | .error error => .error error
        { r with
          upcalls := r.upcalls ++ [.recvData chunk],
          events := r.events ++ [(.upcall, r.cancelState)] } := by
  simp only [recvData, run_bind, run_perform, run_get, run_set]
  split
  · rename_i use _
    cases use <;> rfl
  · rfl

/-- `SctpSock::discard`. -/
def discard : ReceiverM σ Unit := do
  perform .discard
  consume

@[simp] theorem run_discard (r : Receiver σ) : discard.run r =
    .ok () { r with sock := r.sock.advance, events := r.events ++ [(.discard, r.cancelState)] } := rfl

/-- The `switch` of `runReceiver` on the current message's stream. -/
def dispatch (canonSize : CanonSize) (msgRcvr : PeerMsgRcvr σ) :
    Option SctpStreamId → ReceiverM σ Unit
  | some .prodNotice => do
    upcall msgRcvr.recvProdNotice .recvProdNotice (← recv ProdInfo.deserialize)
  | some .chunkNotice => do
    upcall msgRcvr.recvChunkNotice .recvChunkNotice (← recv (ChunkInfo.deserialize canonSize))
  | some .prodReq => do
    upcall msgRcvr.recvProdRequest .recvProdRequest (← recv ProdIndex.deserialize)
  | some .chunkReq => do
    upcall msgRcvr.recvChunkRequest .recvChunkRequest (← recv (ChunkInfo.deserialize canonSize))
  | some .chunk => do
    let chunk ← recvChunk canonSize
    let use ← recvData msgRcvr chunk
    perform .hasData
    if use = .kept then throw (.logicError "Latent chunk-of-data still has data")
  | _ => discard

/-- One pass of the `for (;;)` of `runReceiver`; `true` when it leaves the loop by `break`. -/
def iteration (canonSize : CanonSize) (msgRcvr : PeerMsgRcvr σ) : ReceiverM σ Bool := do
  let _ ← setCancelState .enable
  let size ← getSize
  let _ ← setCancelState .disable
  if size = 0 then return true
  dispatch canonSize msgRcvr (SctpStreamId.ofNat? (← getStreamId))
  return false

theorem run_iteration (canonSize : CanonSize) (msgRcvr : PeerMsgRcvr σ) (r : Receiver σ) :
    (iteration canonSize msgRcvr).run r =
      match getSize.run { r with cancelState := .enable } with
      | .ok size r' =>
        (if size = 0 then pure true else do
          dispatch canonSize msgRcvr (SctpStreamId.ofNat? (← getStreamId))
          pure false).run { r' with cancelState := .disable }
      | .error error r' => .error error r' := by
  simp only [iteration, run_bind, run_setCancelState]
  rcases getSize.run _ with _ | _ <;> rfl

/-- The `for (;;)` loop, for at most `fuel` passes; `true` when it left by `break`. -/
def loop (canonSize : CanonSize) (msgRcvr : PeerMsgRcvr σ) : Nat → ReceiverM σ Bool
  | 0 => return false
  | fuel + 1 => do
    if ← iteration canonSize msgRcvr then return true
    loop canonSize msgRcvr fuel

/-- `Peer::Impl::runReceiver`. -/
def runReceiver (canonSize : CanonSize) (msgRcvr : PeerMsgRcvr σ) (fuel : Nat) :
    ReceiverM σ Bool := do
  let entryCancelState ← setCancelState .enable
  let broke ← loop canonSize msgRcvr fuel
  let _ ← setCancelState entryCancelState
  return broke

end Peer

end Hycast
