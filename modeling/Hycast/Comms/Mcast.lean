import Hycast.Comms.Receiver

/-! `McastReceiver::Impl::operator()` (`McastReceiver.cpp`) over a datagram decoder.

`fill` peeks the whole current datagram into the decoder's buffer, `decode` reads from what is
left of it, and `clear` discards the datagram. Each pass of the loop starts with an empty buffer
and ends by discarding its datagram, so what a pass does is a function of one datagram's bytes
(`datagramStep`) and a run is the fold of it over the datagrams (`processAll`).
-/

set_option autoImplicit false

namespace Hycast.Mcast

open Peer (ChunkUse)

/-- Modelled from the spec: `McastSender.h` is not among the sources. A message id is one
byte. -/
abbrev MsgIdType := UInt8

/-- Modelled from the spec: `McastSender::prodInfoMsgId`. -/
def prodInfoMsgId : MsgIdType := 1

/-- Modelled from the spec: `McastSender::chunkMsgId`. -/
def chunkMsgId : MsgIdType := 2

/-- A `McastContentRcvr` with state `σ`; `receive(LatentChunk)` also says what it did with the
chunk. -/
structure McastContentRcvr (σ : Type) where
  receiveProdInfo : σ → ProdInfo → Except Error σ
  receiveChunk : σ → LatentChunk → Except Error (σ × ChunkUse)

inductive McastUpcall where
  | prodInfo (prodInfo : ProdInfo)
  | chunk (chunk : LatentChunk)
  deriving DecidableEq, Repr

/-- Modelled from the spec: `Codec.h` is not among the sources. The decoder `Dec` of a
multicast socket: the datagrams the socket holds, the first of them peeked into the buffer
once `fill` ran, and what is left of it to decode. -/
structure Dec where
  datagrams : List Bytes
  unread : Option Bytes
  deriving DecidableEq, Repr

/-- How `operator()` ends: blocked in `fill` for a datagram that never comes, or by an
exception. -/
inductive Halt where
  | blocked
  | threw (error : Error)
  deriving DecidableEq, Repr

variable {σ : Type}

/-- The receiving thread: its decoder, the receiver object's state and the upcalls made. -/
structure McastState (σ : Type) where
  decoder : Dec
  msgRcvr : σ
  upcalls : List McastUpcall

abbrev McastM (σ : Type) := EStateM Halt (McastState σ)

def McastState.initial (datagrams : List Bytes) (msgRcvr : σ) : McastState σ :=
  ⟨⟨datagrams, none⟩, msgRcvr, []⟩

section Run

variable {α β : Type}

@[simp] theorem run_bind (x : McastM σ α) (f : α → McastM σ β) (r : McastState σ) :
    (x >>= f).run r = match x.run r with
      | .ok a r' => (f a).run r'
      | .error e r' => .error e r' := by
  simp only [EStateM.run]
  show EStateM.bind x f r = _
  unfold EStateM.bind
  cases x r <;> rfl

@[simp] theorem run_pure (a : α) (r : McastState σ) : (pure a : McastM σ α).run r = .ok a r := rfl

@[simp] theorem run_throw (e : Halt) (r : McastState σ) :
    (throw e : McastM σ α).run r = .error e r := rfl

@[simp] theorem run_get (r : McastState σ) : (get : McastM σ (McastState σ)).run r = .ok r r := rfl

@[simp] theorem run_set (r' r : McastState σ) : (set r' : McastM σ PUnit).run r = .ok ⟨⟩ r' := rfl

@[simp] theorem run_modify (f : McastState σ → McastState σ) (r : McastState σ) :
    (modify f : McastM σ PUnit).run r = .ok ⟨⟩ (f r) := rfl

end Run

/-- Modelled from the spec: `Decoder::fill`. A datagram decoder peeks the whole datagram, so
the count only matters to a stream decoder. -/
def fill (_count : Nat) : McastM σ Unit := do
  let r ← get
  match r.decoder.unread, r.decoder.datagrams with
  | some _, _ => pure ()
  | none, datagram :: _ => set { r with decoder := { r.decoder with unread := some datagram } }
  | none, [] => throw .blocked

@[simp] theorem run_fill (count : Nat) (r : McastState σ) : (fill count).run r =
    match r.decoder.unread, r.decoder.datagrams with
    | some _, _ => .ok () r
    | none, datagram :: _ => .ok () { r with decoder := { r.decoder with unread := some datagram } }
    | none, [] => .error .blocked r := by
  obtain ⟨⟨_ | _, _ | _⟩, _, _⟩ := r <;> rfl

/-- Modelled from the spec: `Decoder::decode`, from what is left of the buffer. -/
def decode {α : Type} (decoding : Decoding α) : McastM σ α := do
  let r ← get
  match decoding.run (r.decoder.unread.getD []) with
  | .ok (value, rest) =>
    set { r with decoder := { r.decoder with unread := some rest } }
    return value
  | .error error => throw (.threw error)

@[simp] theorem run_decode {α : Type} (decoding : Decoding α) (r : McastState σ) :
    (decode decoding).run r = match decoding.run (r.decoder.unread.getD []) with
    | .ok (value, rest) => .ok value { r with decoder := { r.decoder with unread := some rest } }
    | .error error => .error (.threw error) r := by
  simp only [decode, run_bind, run_get]
  rcases decoding.run _ with _ | ⟨_, _⟩ <;> rfl

/-- Modelled from the spec: `Decoder::clear`, which discards the current datagram. -/
def clear : McastM σ Unit :=
  modify fun r => { r with decoder := ⟨r.decoder.datagrams.tail, none⟩ }

@[simp] theorem run_clear (r : McastState σ) :
    clear.run r = .ok () { r with decoder := ⟨r.decoder.datagrams.tail, none⟩ } := rfl

/-- `msgRcvr->receive(prodInfo)`. -/
def receiveProdInfo (msgRcvr : McastContentRcvr σ) (prodInfo : ProdInfo) : McastM σ Unit := do
  let r ← get
  set { r with upcalls := r.upcalls ++ [McastUpcall.prodInfo prodInfo] }
  match msgRcvr.receiveProdInfo r.msgRcvr prodInfo with
  | .ok next => modify fun r => { r with msgRcvr := next }
  | .error error => throw (.threw error)

@[simp] theorem run_receiveProdInfo (msgRcvr : McastContentRcvr σ) (prodInfo : ProdInfo)
    (r : McastState σ) : (receiveProdInfo msgRcvr prodInfo).run r =
    match msgRcvr.receiveProdInfo r.msgRcvr prodInfo with
    | .ok next => .ok () { r with msgRcvr := next, upcalls := r.upcalls ++ [.prodInfo prodInfo] }
    | .error error => .error (.threw error) { r with upcalls := r.upcalls ++ [.prodInfo prodInfo] } := by
  simp only [receiveProdInfo, run_bind, run_get, run_set]
  rcases msgRcvr.receiveProdInfo r.msgRcvr prodInfo with _ | _ <;> rfl

/-- `msgRcvr->receive(chunk)`: draining or discarding the chunk reads the rest of the buffer. -/
def receiveChunk (msgRcvr : McastContentRcvr σ) (chunk : LatentChunk) : McastM σ ChunkUse := do
  let r ← get
  set { r with upcalls := r.upcalls ++ [McastUpcall.chunk chunk] }
  match msgRcvr.receiveChunk r.msgRcvr chunk with
  | .ok (next, use) =>
    modify fun r => { r with msgRcvr := next }
    if use ≠ .kept then
      modify fun r => { r with decoder := { r.decoder with unread := some [] } }
    return use
  | .error error => throw (.threw error)

@[simp] theorem run_receiveChunk (msgRcvr : McastContentRcvr σ) (chunk : LatentChunk)
    (r : McastState σ) : (receiveChunk msgRcvr chunk).run r =
    match msgRcvr.receiveChunk r.msgRcvr chunk with
    | .ok (next, use) => .ok use
        { r with
          decoder := if use = .kept then r.decoder else { r.decoder with unread := some [] },
          msgRcvr := next, upcalls := r.upcalls ++ [.chunk chunk] }
    | .error error => .error (.threw error) { r with upcalls := r.upcalls ++ [.chunk chunk] } := by
  simp only [receiveChunk, run_bind, run_get, run_set]
  rcases msgRcvr.receiveChunk r.msgRcvr chunk with _ | ⟨_, _ | _ | _⟩ <;> rfl

/-- One pass of the `for (;;)` of `McastReceiver::Impl::operator()`. -/
def iteration (canonSize : CanonSize) (msgRcvr : McastContentRcvr σ) : McastM σ Unit := do
  fill 1
  let msgId ← decode decodeU8
  if msgId = prodInfoMsgId then
    fill 0
    let prodInfo ← decode ProdInfo.deserialize
    receiveProdInfo msgRcvr prodInfo
  else if msgId = chunkMsgId then
    fill 12
    let chunk ← decode (LatentChunk.deserialize canonSize)
    let use ← receiveChunk msgRcvr chunk
    if use = .kept then throw (Halt.threw (.logicError "Latent chunk-of-data not drained"))
  else throw (Halt.threw (.runtimeError ("Invalid message type: " ++ toString msgId)))
  clear

/-- `McastReceiver::Impl::operator()`, for at most `fuel` passes. -/
def operator (canonSize : CanonSize) (msgRcvr : McastContentRcvr σ) : Nat → McastM σ Unit
  | 0 => pure ()
  | fuel + 1 => do
    iteration canonSize msgRcvr
    operator canonSize msgRcvr fuel

/-- Modelled from the spec: `McastSender.cpp` is not among the sources. The datagram that
announces a product: its message id, then the `ProdInfo`. -/
def prodInfoDatagram (prodInfo : ProdInfo) : Bytes := encodeU8 prodInfoMsgId ++ prodInfo.serialize

/-- Modelled from the spec: the datagram of one chunk: its message id, then the `ChunkInfo` and
the chunk's bytes. -/
def chunkDatagram (chunk : ActualChunk) : Bytes := encodeU8 chunkMsgId ++ chunk.serialize

/-! ## One datagram at a time -/

/-- What a pass does with one datagram, from its bytes alone: the receiver's next state and the
upcalls made, or the exception with the receiver's state and the upcalls made before it. -/
def datagramStep (canonSize : CanonSize) (msgRcvr : McastContentRcvr σ) (state : σ)
    (datagram : Bytes) : Except (Error × σ × List McastUpcall) (σ × List McastUpcall) :=
  match decodeU8.run datagram with
  | .error error => .error (error, state, [])
  | .ok (msgId, body) =>
    if msgId = prodInfoMsgId then
      match ProdInfo.deserialize.run body with
      | .error error => .error (error, state, [])
      | .ok (prodInfo, _) =>
        match msgRcvr.receiveProdInfo state prodInfo with
        | .ok next => .ok (next, [.prodInfo prodInfo])
        | .error error => .error (error, state, [.prodInfo prodInfo])
    else if msgId = chunkMsgId then
      match (LatentChunk.deserialize canonSize).run body with
      | .error error => .error (error, state, [])
      | .ok (chunk, _) =>
        match msgRcvr.receiveChunk state chunk with
        | .ok (next, use) =>
          if use = .kept then .error (.logicError "Latent chunk-of-data not drained", next, [.chunk chunk])
          else .ok (next, [.chunk chunk])
        | .error error => .error (error, state, [.chunk chunk])
    else .error (.runtimeError ("Invalid message type: " ++ toString msgId), state, [])

/-- The datagrams in order: the receiver's final state and all upcalls, or the first exception
with the datagrams from the one that raised it on. -/
def processAll (canonSize : CanonSize) (msgRcvr : McastContentRcvr σ) :
    σ → List Bytes → Except (Error × List Bytes × σ × List McastUpcall) (σ × List McastUpcall)
  | state, [] => .ok (state, [])
  | state, datagram :: datagrams =>
    match datagramStep canonSize msgRcvr state datagram with
    | .error (error, next, made) => .error (error, datagram :: datagrams, next, made)
    | .ok (next, made) =>
      match processAll canonSize msgRcvr next datagrams with
      | .ok (final, more) => .ok (final, made ++ more)
      | .error (error, rest, final, more) => .error (error, rest, final, made ++ more)

/-- A pass's result agrees with what `datagramStep` says of its datagram, taken off the socket
unless the pass threw. -/
def StepAgrees (rest : List Bytes) (upcalls : List McastUpcall) (datagram : Bytes) :
    Except (Error × σ × List McastUpcall) (σ × List McastUpcall) →
      EStateM.Result Halt (McastState σ) Unit → Prop
  | .ok (next, made), result => result = .ok () ⟨⟨rest, none⟩, next, upcalls ++ made⟩
  | .error (error, next, made), result =>
    ∃ unread, result = .error (.threw error) ⟨⟨datagram :: rest, unread⟩, next, upcalls ++ made⟩

theorem iteration_datagram (canonSize : CanonSize) (msgRcvr : McastContentRcvr σ) (datagram : Bytes)
    (rest : List Bytes) (state : σ) (upcalls : List McastUpcall) :
    StepAgrees rest upcalls datagram (datagramStep canonSize msgRcvr state datagram)
      ((iteration canonSize msgRcvr).run ⟨⟨datagram :: rest, none⟩, state, upcalls⟩) := by
  simp only [iteration, datagramStep, run_bind, run_fill, run_decode, Option.getD_some]
  rcases decodeU8.run datagram with error | ⟨msgId, body⟩
  · simp [StepAgrees]
  simp only
  split_ifs with prodInfo chunk
  · simp only [run_bind, run_fill, run_decode, Option.getD_some]
    rcases ProdInfo.deserialize.run body with error | ⟨info, trailing⟩
    · simp [StepAgrees]
    simp only [run_bind, run_receiveProdInfo]
    rcases msgRcvr.receiveProdInfo state info with error | next
    · simp [StepAgrees]
    · rfl
  · simp only [run_bind, run_fill, run_decode, Option.getD_some]
    rcases (LatentChunk.deserialize canonSize).run body with error | ⟨chunk, data⟩
    · simp [StepAgrees]
    simp only [run_bind, run_receiveChunk]
    rcases msgRcvr.receiveChunk state chunk with error | ⟨next, _ | _ | _⟩
    · simp [StepAgrees]
    · rfl
    · rfl
    · simp [StepAgrees]
  · simp [StepAgrees]

/-- A run's result agrees with what `processAll` says of its datagrams: once they are all used
up the thread blocks in `fill`, and an exception leaves the datagram that raised it, and those
after it, on the socket. -/
def Agrees (upcalls : List McastUpcall) :
    Except (Error × List Bytes × σ × List McastUpcall) (σ × List McastUpcall) →
      EStateM.Result Halt (McastState σ) Unit → Prop
  | .ok (final, made), result => result = .error .blocked ⟨⟨[], none⟩, final, upcalls ++ made⟩
  | .error (error, rest, final, made), result =>
    ∃ unread, result = .error (.threw error) ⟨⟨rest, unread⟩, final, upcalls ++ made⟩

theorem operator_datagrams (canonSize : CanonSize) (msgRcvr : McastContentRcvr σ) :
    ∀ (datagrams : List Bytes) (state : σ) (upcalls : List McastUpcall) (fuel : Nat),
      datagrams.length < fuel →
      Agrees upcalls (processAll canonSize msgRcvr state datagrams)
        ((operator canonSize msgRcvr fuel).run ⟨⟨datagrams, none⟩, state, upcalls⟩)
  | [], state, upcalls, fuel + 1, _ => by
    simp [processAll, Agrees, operator, iteration]
  | datagram :: datagrams, state, upcalls, fuel + 1, enough => by
    have step := iteration_datagram canonSize msgRcvr datagram datagrams state upcalls
    simp only [operator, run_bind]
    rcases stepped : datagramStep canonSize msgRcvr state datagram with ⟨error, next, made⟩ | ⟨next, made⟩
    · rw [stepped] at step
      obtain ⟨unread, thrown⟩ := step
      simp [thrown, processAll, stepped, Agrees]
    · rw [stepped] at step
      have rest := operator_datagrams canonSize msgRcvr datagrams next (upcalls ++ made) fuel
        (Nat.lt_of_succ_lt_succ enough)
      rw [step]
      simp only [processAll, stepped]
      rcases after : processAll canonSize msgRcvr next datagrams with
        ⟨error, rest', final, more⟩ | ⟨final, more⟩ <;> rw [after] at rest <;> simpa [Agrees] using rest

theorem datagramStep_prodInfo (canonSize : CanonSize) (msgRcvr : McastContentRcvr σ) (state : σ)
    (prodInfo : ProdInfo) (trailing : Bytes) :
    datagramStep canonSize msgRcvr state (prodInfoDatagram prodInfo ++ trailing) =
      match msgRcvr.receiveProdInfo state prodInfo with
      | .ok next => .ok (next, [.prodInfo prodInfo])
      | .error error => .error (error, state, [.prodInfo prodInfo]) := by
  simp [datagramStep, prodInfoDatagram, List.append_assoc]

theorem datagramStep_chunk (canonSize : CanonSize) (msgRcvr : McastContentRcvr σ) (state : σ)
    (chunk : ActualChunk)
    (accepted : ChunkInfo.Accepted canonSize chunk.info.prodSize chunk.info.chunkIndex) :
    datagramStep canonSize msgRcvr state (chunkDatagram chunk) =
      match msgRcvr.receiveChunk state ⟨chunk.info, chunk.data⟩ with
      | .ok (next, use) =>
        if use = .kept then
          .error (.logicError "Latent chunk-of-data not drained", next, [.chunk ⟨chunk.info, chunk.data⟩])
        else .ok (next, [.chunk ⟨chunk.info, chunk.data⟩])
      | .error error => .error (error, state, [.chunk ⟨chunk.info, chunk.data⟩]) := by
  simp [datagramStep, chunkDatagram, LatentChunk.deserialize_serialize canonSize chunk accepted,
    prodInfoMsgId, chunkMsgId]

theorem datagramStep_invalid (canonSize : CanonSize) (msgRcvr : McastContentRcvr σ) (state : σ)
    (msgId : MsgIdType) (rest : Bytes) (notProdInfo : msgId ≠ prodInfoMsgId)
    (notChunk : msgId ≠ chunkMsgId) :
    datagramStep canonSize msgRcvr state (encodeU8 msgId ++ rest) =
      .error (.runtimeError ("Invalid message type: " ++ toString msgId), state, []) := by
  simp [datagramStep, notProdInfo, notChunk]

/-- A product announcement or a chunk, as `McastSender::send(Product)` puts it in a datagram. -/
inductive McastMsg where
  | prodInfo (prodInfo : ProdInfo)
  | chunk (chunk : ActualChunk)
  deriving DecidableEq, Repr

def McastMsg.datagram : McastMsg → Bytes
  | .prodInfo info => prodInfoDatagram info
  | .chunk actual => chunkDatagram actual

def McastMsg.upcall : McastMsg → McastUpcall
  | .prodInfo info => .prodInfo info
  | .chunk actual => .chunk ⟨actual.info, actual.data⟩

/-- The `ChunkInfo` a message carries passes the receiving process's constructor. -/
def McastMsg.Accepted (canonSize : CanonSize) : McastMsg → Prop
  | .prodInfo _ => True
  | .chunk actual => ChunkInfo.Accepted canonSize actual.info.prodSize actual.info.chunkIndex

/-- Every upcall returns, and `receive(LatentChunk)` drains or discards its chunk. -/
structure McastContentRcvr.Drains (msgRcvr : McastContentRcvr σ) : Prop where
  receiveProdInfo : ∀ s prodInfo, ∃ next, msgRcvr.receiveProdInfo s prodInfo = .ok next
  receiveChunk : ∀ s chunk, ∃ next use, msgRcvr.receiveChunk s chunk = .ok (next, use) ∧ use ≠ .kept

theorem processAll_msgs (canonSize : CanonSize) {msgRcvr : McastContentRcvr σ} (drains : msgRcvr.Drains) :
    ∀ (msgs : List McastMsg) (state : σ), (∀ msg ∈ msgs, msg.Accepted canonSize) →
      ∃ final, processAll canonSize msgRcvr state (msgs.map McastMsg.datagram) =
        .ok (final, msgs.map McastMsg.upcall)
  | [], state, _ => ⟨state, rfl⟩
  | msg :: msgs, state, accepted => by
    obtain ⟨next, stepped⟩ : ∃ next, datagramStep canonSize msgRcvr state msg.datagram =
        .ok (next, [msg.upcall]) := by
      cases msg with
      | prodInfo prodInfo =>
        obtain ⟨next, received⟩ := drains.receiveProdInfo state prodInfo
        refine ⟨next, ?_⟩
        simpa [McastMsg.datagram, received] using datagramStep_prodInfo canonSize msgRcvr state prodInfo []
      | chunk chunk =>
        obtain ⟨next, use, received, used⟩ := drains.receiveChunk state ⟨chunk.info, chunk.data⟩
        exact ⟨next, by simp [McastMsg.datagram, McastMsg.upcall,
          datagramStep_chunk canonSize msgRcvr state chunk (accepted _ (.head _)), received, used]⟩
    obtain ⟨final, rest⟩ := processAll_msgs canonSize drains msgs next
      fun msg member => accepted msg (.tail _ member)
    exact ⟨final, by simp [processAll, stepped, rest]⟩

/-- `McastReceiver::Impl::operator()` handles each datagram alone. A pass that starts at a
datagram's first byte does what `datagramStep` says of that datagram and, unless it throws,
consumes exactly that datagram; so for any datagrams, of any contents, the loop does what the
fold `processAll` says, and blocks for more once they are used up. A product's datagram makes
the upcall for its `ProdInfo`, whatever follows it; a chunk's datagram makes the upcall for the
chunk and throws `LogicError` if the chunk is left undrained; any other message id throws
`RuntimeError` with no upcall. -/
theorem operator_handles_each_datagram_alone (canonSize : CanonSize) (msgRcvr : McastContentRcvr σ) :
    (∀ (datagram : Bytes) (rest : List Bytes) (state : σ) (upcalls : List McastUpcall),
      StepAgrees rest upcalls datagram (datagramStep canonSize msgRcvr state datagram)
        ((iteration canonSize msgRcvr).run ⟨⟨datagram :: rest, none⟩, state, upcalls⟩)) ∧
    (∀ (datagrams : List Bytes) (state : σ) (fuel : Nat), datagrams.length < fuel →
      Agrees [] (processAll canonSize msgRcvr state datagrams)
        ((operator canonSize msgRcvr fuel).run (.initial datagrams state))) ∧
    (∀ (state : σ) (prodInfo : ProdInfo) (trailing : Bytes),
      datagramStep canonSize msgRcvr state (prodInfoDatagram prodInfo ++ trailing) =
        match msgRcvr.receiveProdInfo state prodInfo with
        | .ok next => .ok (next, [.prodInfo prodInfo])
        | .error error => .error (error, state, [.prodInfo prodInfo])) ∧
    (∀ (state : σ) (chunk : ActualChunk),
      ChunkInfo.Accepted canonSize chunk.info.prodSize chunk.info.chunkIndex →
      datagramStep canonSize msgRcvr state (chunkDatagram chunk) =
        match msgRcvr.receiveChunk state ⟨chunk.info, chunk.data⟩ with
        | .ok (next, use) =>
          if use = .kept then
            .error (.logicError "Latent chunk-of-data not drained", next, [.chunk ⟨chunk.info, chunk.data⟩])
          else .ok (next, [.chunk ⟨chunk.info, chunk.data⟩])
        | .error error => .error (error, state, [.chunk ⟨chunk.info, chunk.data⟩])) ∧
    (∀ (state : σ) (msgId : MsgIdType) (rest : Bytes), msgId ≠ prodInfoMsgId → msgId ≠ chunkMsgId →
      datagramStep canonSize msgRcvr state (encodeU8 msgId ++ rest) =
        .error (.runtimeError ("Invalid message type: " ++ toString msgId), state, [])) ∧
    (msgRcvr.Drains → ∀ (msgs : List McastMsg) (state : σ), (∀ msg ∈ msgs, msg.Accepted canonSize) →
      ∃ final, processAll canonSize msgRcvr state (msgs.map McastMsg.datagram) =
        .ok (final, msgs.map McastMsg.upcall)) :=
  ⟨iteration_datagram canonSize msgRcvr, fun datagrams state => operator_datagrams canonSize msgRcvr
    datagrams state [], datagramStep_prodInfo canonSize msgRcvr, datagramStep_chunk canonSize msgRcvr,
    datagramStep_invalid canonSize msgRcvr, fun drains => processAll_msgs canonSize drains⟩

/-- A receiver that counts its upcalls and drains every chunk. -/
def countingRcvr : McastContentRcvr Nat where
  receiveProdInfo count _ := .ok (count + 1)
  receiveChunk count _ := .ok (count + 1, .drained)

theorem operator_stops_at_invalid_message_type :
    ∃ unread, (operator CanonSize.initial countingRcvr 3).run
        (.initial [prodInfoDatagram ⟨[], ⟨1⟩, 0, 0, by decide⟩, [9, 1, 2]] 0) =
      .error (.threw (.runtimeError "Invalid message type: 9"))
        ⟨⟨[[9, 1, 2]], unread⟩, 1, [.prodInfo ⟨[], ⟨1⟩, 0, 0, by decide⟩]⟩ := by
  have agrees := (operator_handles_each_datagram_alone CanonSize.initial countingRcvr).2.1
    [prodInfoDatagram ⟨[], ⟨1⟩, 0, 0, by decide⟩, [9, 1, 2]] 0 3 (by decide)
  have folded : processAll CanonSize.initial countingRcvr 0
      [prodInfoDatagram ⟨[], ⟨1⟩, 0, 0, by decide⟩, [9, 1, 2]] =
      .error (.runtimeError "Invalid message type: 9", [[9, 1, 2]], 1,
        [.prodInfo ⟨[], ⟨1⟩, 0, 0, by decide⟩]) := rfl
  rw [folded] at agrees
  exact agrees

/-- A sender whose canonical chunk size is 1 sends chunk 50 of a 100-byte product. The receiving
process, with the initial canonical size, refuses the datagram's `ChunkInfo`, and `operator()`
throws `InvalidArgument` with no upcall. -/
theorem operator_refuses_foreign_chunk :
    (∃ sender, CanonSize.setCanonSize 1 = .ok sender ∧
      ChunkInfo.construct sender ⟨1⟩ 100 50 = .ok ⟨⟨1⟩, 100, 50⟩) ∧
    (operator CanonSize.initial countingRcvr 2).run (.initial [chunkDatagram ⟨⟨⟨1⟩, 100, 50⟩, [7]⟩] 0) =
      .error (.threw (.invalidArgument
        "Chunk-index is greater than or equal to number of chunks: index=50, numChunks=1"))
        ⟨⟨[chunkDatagram ⟨⟨⟨1⟩, 100, 50⟩, [7]⟩], some (ActualChunk.serialize ⟨⟨⟨1⟩, 100, 50⟩, [7]⟩)⟩, 0, []⟩ :=
  ⟨⟨_, rfl, rfl⟩, rfl⟩

end Hycast.Mcast
