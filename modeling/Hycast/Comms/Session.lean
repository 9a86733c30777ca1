import Hycast.Comms.Delivery
import Hycast.Comms.Handshake

/-! The two ends of one association, from the constructors' handshake to `runReceiver`.

The association delivers to an end the oldest message in flight on the stream it picks, so on
each stream an end reads the other end's messages in the order they were sent, whatever the
order among the streams and whatever the constructors did. Once everything is delivered and
the remote closes, `runReceiver` at that end makes one upcall for each send call of the other
end, on each stream in the order of sending: the association discharges the per-stream order
that the delivery results of the receive loop assume of its input.
-/

set_option autoImplicit false

namespace Hycast.Peer

variable {σ : Type}

def Action.sentBy (side : Side) : Action → Option Sent
  | .send side' sent => if side' = side then some sent else none
  | _ => none

def sendsOf (side : Side) (actions : List Action) : List Sent := actions.filterMap (Action.sentBy side)

def onStream (streamId : Nat) (msgs : List SctpMsg) : List SctpMsg := msgs.filter (·.streamId == streamId)

@[simp] theorem onStream_nil (streamId : Nat) : onStream streamId [] = [] := rfl

@[simp] theorem onStream_append (streamId : Nat) (msgs msgs' : List SctpMsg) :
    onStream streamId (msgs ++ msgs') = onStream streamId msgs ++ onStream streamId msgs' :=
  List.filter_append _ _

theorem onStream_cons_other {streamId : Nat} {msg : SctpMsg} (other : msg.streamId ≠ streamId)
    (msgs : List SctpMsg) : onStream streamId (msg :: msgs) = onStream streamId msgs := by
  simp [onStream, other]

theorem onStream_cons_same (msg : SctpMsg) (msgs : List SctpMsg) :
    onStream msg.streamId (msg :: msgs) = msg :: onStream msg.streamId msgs := by
  simp [onStream]

theorem sendsOf_cons (side : Side) (action : Action) (actions : List Action) :
    sendsOf side (action :: actions) = (action.sentBy side).toList ++ sendsOf side actions := by
  cases sent : action.sentBy side <;> simp [sendsOf, List.filterMap_cons, sent]

theorem onStream_map_toMsg (streamId : Nat) (sent : List Sent) :
    onStream streamId (sent.map Sent.toMsg) = (sent.filter (·.streamId == streamId)).map Sent.toMsg := by
  simp only [onStream, List.filter_map]
  rfl

theorem onStream_versionMsg {streamId : Nat} (other : streamId ≠ SctpStreamId.version.toNat)
    (version : UInt32) : onStream streamId [versionMsg version] = [] := by
  have elsewhere : (0 == streamId) = false := beq_false_of_ne (Ne.symm other)
  simp [onStream, versionMsg, send, SctpStreamId.toNat, elsewhere]

theorem mem_of_onStream_eq {msgs msgs' : List SctpMsg}
    (same : ∀ streamId, onStream streamId msgs = onStream streamId msgs') {msg : SctpMsg}
    (member : msg ∈ msgs) : msg ∈ msgs' := by
  have filtered : msg ∈ onStream msg.streamId msgs := List.mem_filter.mpr ⟨member, beq_self_eq_true _⟩
  rw [same] at filtered
  exact (List.mem_filter.mp filtered).1

theorem onStream_takeFirst {streamId : Nat} {msg : SctpMsg} {msgs others : List SctpMsg}
    (taken : takeFirst streamId msgs = some (msg, others)) (stream : Nat) :
    onStream stream (msg :: others) = onStream stream msgs := by
  obtain ⟨before, after, rfl, rfl, onIt, earlier⟩ := takeFirst_eq_some taken
  by_cases same : streamId = stream
  · subst same
    have none : onStream streamId before = [] :=
      List.filter_eq_nil_iff.mpr fun other member => by simpa using earlier other member
    simp only [onStream, List.filter_append, List.filter_cons, onIt, beq_self_eq_true, if_true] at none ⊢
    rw [none, List.nil_append, List.nil_append]
  · simp [onStream, List.filter_append, onIt, same]

theorem getVersion_rest {input rest : List SctpMsg} {result : Except Error UInt32}
    (read : getVersion input = some (result, rest)) :
    rest = input ∨ ∃ msg, msg.streamId = SctpStreamId.version.toNat ∧ input = msg :: rest := by
  cases input with
  | nil => simp [getVersion] at read
  | cons msg unread =>
    simp only [getVersion, Option.some.injEq] at read
    split_ifs at read with other
    · exact .inl (Prod.mk.inj read).2.symm
    · exact .inr ⟨msg, not_not.mp other, by rw [(Prod.mk.inj read).2]⟩

/-! ## What each end has yet to read -/

namespace Association

/-- What `side` has yet to read: the messages delivered to its socket, then those in flight to
it. -/
def pending (s : Association) (side : Side) : List SctpMsg := (s.peer side).input ++ s.inFlight side

theorem pending_post (s : Association) (side p : Side) (msg : SctpMsg) :
    (s.post side msg).pending p = s.pending p ++ if p = side.other then [msg] else [] := by
  by_cases here : p = side.other
  · subst here
    simp [pending, post]
  · simp [pending, post, here]

theorem pending_setPeer (s : Association) (side p : Side) {peer : End}
    (input : peer.input = (s.peer side).input) : (s.setPeer side peer).pending p = s.pending p := by
  by_cases here : p = side
  · subst here
    simp [pending, setPeer, input]
  · simp [pending, setPeer, here]

section Step

variable {s s' : Association} {side : Side}

theorem pending_construct (stepped : s.step (.construct side) = some s') (p : Side) :
    s'.pending p = s.pending p ++ if p = side.other then [versionMsg (s.peer side).version] else [] := by
  simp only [step, Option.ite_none_right_eq_some, Option.some.injEq] at stepped
  obtain ⟨-, rfl⟩ := stepped
  rw [pending_setPeer, pending_post]
  rfl

theorem pending_send {sent : Sent} (stepped : s.step (.send side sent) = some s') (p : Side) :
    s'.pending p = s.pending p ++ if p = side.other then [sent.toMsg] else [] := by
  simp only [step, Option.ite_none_right_eq_some, Option.some.injEq] at stepped
  obtain ⟨-, rfl⟩ := stepped
  exact pending_post _ _ _ _

theorem pending_getVersion (stepped : s.step (.getVersion side) = some s') (p : Side) :
    s'.pending p = s.pending p ∨
      ∃ msg, msg.streamId = SctpStreamId.version.toNat ∧ s.pending p = msg :: s'.pending p := by
  simp only [step, Option.ite_none_right_eq_some, Option.map_eq_some'] at stepped
  obtain ⟨-, ⟨result, rest⟩, read, rfl⟩ := stepped
  by_cases here : p = side
  · subst here
    rcases getVersion_rest read with rfl | ⟨msg, version, unread⟩
    · exact .inl (pending_setPeer _ _ _ rfl)
    · refine .inr ⟨msg, version, ?_⟩
      simp [pending, setPeer, unread]
  · exact .inl (by simp [pending, setPeer, here])

theorem pending_deliver {streamId : Nat} (stepped : s.step (.deliver side streamId) = some s')
    (p : Side) (stream : Nat) : onStream stream (s'.pending p) = onStream stream (s.pending p) := by
  simp only [step, Option.map_eq_some'] at stepped
  obtain ⟨⟨msg, others⟩, taken, rfl⟩ := stepped
  by_cases here : p = side
  · subst here
    have kept := onStream_takeFirst taken stream
    simp only [onStream, List.filter_append] at kept
    simp [pending, onStream, List.filter_append, kept]
  · simp [pending, here]

theorem pending_deliver_perm {streamId : Nat} (stepped : s.step (.deliver side streamId) = some s')
    (p : Side) : (s'.pending p).Perm (s.pending p) := by
  simp only [step, Option.map_eq_some'] at stepped
  obtain ⟨⟨msg, others⟩, taken, rfl⟩ := stepped
  by_cases here : p = side
  · subst here
    obtain ⟨before, after, inFlight, rfl, -, -⟩ := takeFirst_eq_some taken
    simpa [pending, inFlight] using (List.perm_middle.symm.append_left _)
  · simp [pending, here]

theorem peer_deliver {streamId : Nat} (stepped : s.step (.deliver side streamId) = some s') (p : Side) :
    (s'.peer p).stage = (s.peer p).stage ∧ (s'.peer p).version = (s.peer p).version := by
  simp only [step, Option.map_eq_some'] at stepped
  obtain ⟨_, -, rfl⟩ := stepped
  by_cases here : p = side
  · subst here
    simp
  · simp [here]

end Step

end Association

theorem versionMsg_payload_ne_nil (version : UInt32) : (versionMsg version).payload ≠ [] := by
  simp [versionMsg, send, VersionMsg.serialize, encodeU32, ← List.length_pos]

/-- What each end has yet to read, on every stream but the version stream: the messages of the
other end's send calls `sent`, in the order of sending; and none of its messages is empty. -/
structure Association.Carries (s : Association) (sent : Side → List Sent) : Prop where
  fifo : ∀ side streamId, streamId ≠ SctpStreamId.version.toNat →
    onStream streamId (s.pending side) = onStream streamId ((sent side.other).map Sent.toMsg)
  nonempty : ∀ side, ∀ msg ∈ s.pending side, msg.payload ≠ []

namespace Association.Carries

theorem initial (version : UInt32) : (Association.initial version).Carries fun _ => [] :=
  ⟨fun _ _ _ => rfl, fun _ _ none => absurd none (List.not_mem_nil _)⟩

theorem post {s s' : Association} {sent sent' : Side → List Sent} {side : Side} {msg : SctpMsg}
    (carries : s.Carries sent) (nonempty : msg.payload ≠ [])
    (grown : ∀ p, s'.pending p = s.pending p ++ if p = side.other then [msg] else [])
    (recorded : ∀ p stream, stream ≠ SctpStreamId.version.toNat →
      onStream stream ((sent' p.other).map Sent.toMsg) =
        onStream stream ((sent p.other).map Sent.toMsg) ++
          onStream stream (if p = side.other then [msg] else [])) :
    s'.Carries sent' where
  fifo p stream other := by rw [grown, onStream_append, carries.fifo p stream other, recorded p stream other]
  nonempty p posted member := by
    rw [grown] at member
    rcases List.mem_append.mp member with old | new
    · exact carries.nonempty p posted old
    · split_ifs at new
      · exact List.mem_singleton.mp new ▸ nonempty
      · exact absurd new (List.not_mem_nil _)

theorem step {s s' : Association} {sent : Side → List Sent} {action : Action} (carries : s.Carries sent)
    (stepped : s.step action = some s') : s'.Carries fun side => sent side ++ (action.sentBy side).toList := by
  cases action with
  | construct side =>
    refine carries.post (versionMsg_payload_ne_nil _) (pending_construct stepped) fun p stream other => ?_
    split_ifs <;> simp [Action.sentBy, onStream_versionMsg other]
  | send side call =>
    refine carries.post call.toMsg_payload_ne_nil (pending_send stepped) fun p stream other => ?_
    by_cases receiver : p = side.other
    · subst receiver
      simp [Action.sentBy]
    · have sender : side ≠ p.other := fun same => receiver (same ▸ (Side.other_other p).symm)
      simp [Action.sentBy, receiver, sender]
  | getVersion side =>
    refine ⟨fun p stream other => ?_, fun p msg member => ?_⟩ <;>
      rcases pending_getVersion stepped p with same | ⟨first, onVersion, unread⟩
    · simpa [Action.sentBy, same] using carries.fifo p stream other
    · have fifo := carries.fifo p stream other
      rw [unread, onStream_cons_other (onVersion.trans_ne (Ne.symm other))] at fifo
      simpa [Action.sentBy] using fifo
    · exact carries.nonempty p msg (same ▸ member)
    · exact carries.nonempty p msg (unread ▸ List.mem_cons_of_mem _ member)
  | deliver side streamId =>
    refine ⟨fun p stream other => ?_, fun p msg member => ?_⟩
    · simpa [Action.sentBy, pending_deliver stepped] using carries.fifo p stream other
    · exact carries.nonempty p msg
        (mem_of_onStream_eq (fun stream => pending_deliver stepped p stream) member)

theorem run {s s' : Association} {sent : Side → List Sent} {actions : List Action}
    (carries : s.Carries sent) (ran : s.run actions = some s') :
    s'.Carries fun side => sent side ++ sendsOf side actions := by
  induction actions generalizing s sent with
  | nil =>
    obtain rfl := Option.some.inj ran
    simpa [sendsOf] using carries
  | cons action actions more =>
    obtain ⟨next, stepped, rest⟩ := Option.bind_eq_some.mp ran
    simpa [sendsOf_cons, List.append_assoc] using more (carries.step stepped) rest

end Association.Carries

/-! ## The receiver after the handshake -/

theorem filter_version_eq_nil (sent : List Sent) :
    sent.filter (·.streamId == SctpStreamId.version.toNat) = [] :=
  List.filter_eq_nil_iff.mpr fun call _ => by simpa [Sent.streamId] using call.toMsg_streamId_ne

theorem filter_of_oldest {before after : List Sent} {call : Sent}
    (earlier : ∀ other ∈ before, ¬(other.streamId == call.streamId) = true) (streamId : Nat) :
    (before ++ call :: after).filter (·.streamId == streamId) =
      (if call.streamId = streamId then [call] else []) ++ (before ++ after).filter (·.streamId == streamId) := by
  by_cases same : call.streamId = streamId
  · subst same
    have none : before.filter (·.streamId == call.streamId) = [] := List.filter_eq_nil_iff.mpr earlier
    simp [List.filter_append, none]
  · simp [List.filter_append, same]

theorem exists_arrivals {canonSize : CanonSize} {msgRcvr : PeerMsgRcvr σ} (msgs : List SctpMsg) :
    ∀ (sent : List Sent), (∀ streamId, streamId ≠ SctpStreamId.version.toNat →
        onStream streamId msgs = onStream streamId (sent.map Sent.toMsg)) →
      (∀ msg ∈ msgs, msg.payload ≠ []) → (∀ call ∈ sent, call.Handled canonSize msgRcvr) →
      ∃ arrivals : List Arrival, arrivals.map Arrival.toMsg = msgs ∧
        (∀ arrival ∈ arrivals, arrival.Handled canonSize msgRcvr) ∧
        ∀ streamId, (arrivals.filterMap Arrival.sent?).filter (·.streamId == streamId) =
          sent.filter (·.streamId == streamId) := by
  induction msgs with
  | nil =>
    intro sent fifo _ _
    refine ⟨[], rfl, by simp, fun streamId => ?_⟩
    by_cases version : streamId = SctpStreamId.version.toNat
    · subst version
      exact (filter_version_eq_nil sent).symm
    · have none := fifo streamId version
      rw [onStream_map_toMsg] at none
      exact (List.map_eq_nil_iff.mp none.symm).symm
  | cons msg msgs more =>
    intro sent fifo nonempty handled
    by_cases version : msg.streamId = SctpStreamId.version.toNat
    · obtain ⟨arrivals, toMsgs, arrivalsHandled, order⟩ := more sent
        (fun streamId other => by
          rw [← fifo streamId other, onStream_cons_other (version.trans_ne (Ne.symm other))])
        (fun other member => nonempty other (.tail _ member)) handled
      refine ⟨.other msg :: arrivals, by simp [Arrival.toMsg, toMsgs], ?_, order⟩
      exact List.forall_mem_cons.mpr ⟨⟨.inl version, nonempty msg (.head _)⟩, arrivalsHandled⟩
    · have first := fifo msg.streamId version
      rw [onStream_cons_same, onStream_map_toMsg] at first
      obtain ⟨call, rest, oldest, made, restMsgs⟩ := List.map_eq_cons_iff.mp first.symm
      obtain ⟨before, after, rfl, earlier, onIt, rfl⟩ := List.filter_eq_cons_iff.mp oldest
      have stream : call.streamId = msg.streamId := by simpa using onIt
      rw [← stream] at earlier
      obtain ⟨arrivals, toMsgs, arrivalsHandled, order⟩ := more (before ++ after)
        (fun streamId other => by
          have kept := fifo streamId other
          rw [onStream_map_toMsg, filter_of_oldest earlier, List.map_append, ← onStream_map_toMsg] at kept
          by_cases same : msg.streamId = streamId
          · subst same
            rw [onStream_cons_same, if_pos stream] at kept
            simpa [made] using kept
          · rw [onStream_cons_other same, if_neg (stream.trans_ne same)] at kept
            simpa using kept)
        (fun other member => nonempty other (.tail _ member))
        (fun other member => handled other (by
          rcases List.mem_append.mp member with early | late
          exacts [List.mem_append_left _ early, List.mem_append_right _ (.tail _ late)]))
      refine ⟨.sent call :: arrivals, by simp [Arrival.toMsg, toMsgs, made], ?_, fun streamId => ?_⟩
      · exact List.forall_mem_cons.mpr ⟨handled call (by simp), arrivalsHandled⟩
      · rw [filter_of_oldest earlier, ← order]
        by_cases same : call.streamId = streamId <;> simp [Arrival.sent?, same]

/-- Whatever order the association delivers in, and whatever the two constructors did, once
everything the other end sent is delivered to `side` and the other end closes, `runReceiver` at
`side` reads all of it and makes one upcall for each of the other end's send calls, carrying the
value sent, on each stream in the order of sending. -/
theorem runReceiver_after_handshake (version : UInt32) (canonSize : CanonSize) (msgRcvr : PeerMsgRcvr σ)
    (returns : msgRcvr.Returns) {actions : List Action} {s : Association}
    (ran : (Association.initial version).run actions = some s) (side : Side)
    (delivered : s.inFlight side = [])
    (handled : ∀ call ∈ sendsOf side.other actions, call.Handled canonSize msgRcvr)
    (cancelState : CancelState) (state : σ) {fuel : Nat} (enough : (s.peer side).input.length < fuel) :
    ∃ final, (runReceiver canonSize msgRcvr fuel).run
        (.initial ⟨(s.peer side).input, .closed⟩ cancelState state) = .ok true final ∧
      final.sock.input = [] ∧
      final.upcalls.Perm ((sendsOf side.other actions).map Sent.upcall) ∧
      ∀ streamId, final.upcalls.filter (·.streamId == streamId) =
        ((sendsOf side.other actions).filter (·.streamId == streamId)).map Sent.upcall := by
  have carries := (Association.Carries.initial version).run ran
  have pending : s.pending side = (s.peer side).input := by simp [Association.pending, delivered]
  obtain ⟨arrivals, toMsgs, arrivalsHandled, order⟩ :=
    exists_arrivals (s.peer side).input (sendsOf side.other actions)
      (fun streamId other => by simpa [pending] using carries.fifo side streamId other)
      (fun msg member => carries.nonempty side msg (pending ▸ member)) handled
  obtain ⟨next, run⟩ := runReceiver_closed canonSize returns arrivals
    (r := .initial ⟨(s.peer side).input, .closed⟩ cancelState state) toMsgs.symm rfl arrivalsHandled
    (by simpa [← toMsgs] using enough)
  refine ⟨_, run, rfl, ?_, fun streamId => ?_⟩
  · simpa [Receiver.initial] using (perm_of_filter_streamId order).map Sent.upcall
  · simp [Receiver.initial, List.filter_map, Function.comp_def, order]

/-- Both constructors return; then `b` sends a product request and a chunk request, which the
association delivers to `a` in the other order. -/
def crossedRequests : List Action :=
  [.construct .a, .construct .b, .deliver .a 0, .deliver .b 0, .getVersion .a, .getVersion .b,
    .send .b (.prodRequest ⟨2⟩), .send .b (.chunkRequest ⟨⟨2⟩, 100, 0⟩), .deliver .a 4, .deliver .a 3]

theorem runReceiver_after_crossed_requests :
    ∃ s, (Association.initial 0).run crossedRequests = some s ∧
      ∃ final, (runReceiver CanonSize.initial perfMsgRcvr 3).run
          (.initial ⟨(s.peer .a).input, .closed⟩ .enable ()) = .ok true final ∧
        final.sock.input = [] ∧
        final.upcalls.Perm ((sendsOf .b crossedRequests).map Sent.upcall) ∧
        ∀ streamId, final.upcalls.filter (·.streamId == streamId) =
          ((sendsOf .b crossedRequests).filter (·.streamId == streamId)).map Sent.upcall := by
  obtain ⟨s, ran⟩ : ∃ s, (Association.initial 0).run crossedRequests = some s := ⟨_, rfl⟩
  have delivered : ((Association.initial 0).run crossedRequests).map (·.inFlight .a) = some [] := rfl
  have read : ((Association.initial 0).run crossedRequests).map (fun s => (s.peer .a).input.length) = some 2 := rfl
  rw [ran, Option.map_some'] at delivered read
  exact ⟨s, ran, runReceiver_after_handshake 0 CanonSize.initial perfMsgRcvr perfMsgRcvr_returns ran .a
    (Option.some.inj delivered) (by simp [crossedRequests, sendsOf, Action.sentBy, Side.other, Sent.Handled,
      ChunkInfo.Accepted]) .enable () (by rw [Option.some.inj read]; decide)⟩

end Hycast.Peer
