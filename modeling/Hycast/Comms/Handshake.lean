import Hycast.Comms.Receiver

/-! The version handshake of `Peer::Impl::Impl(PeerMsgRcvr&, SctpSock&)` between the two ends
of one SCTP association.

Each constructor sends its `VersionMsg` on stream 0 and then blocks in `getVersion` for the
other end's. The association keeps each stream in order but not the streams among themselves,
so a message that the remote sends on streams 1 to 5 once its constructor has returned can be
delivered before the remote's version message, and `getVersion` then throws. When each version
message is delivered before the other messages of its sender, both constructors return.
-/

set_option autoImplicit false

namespace Hycast.Peer

inductive Side where
  | a
  | b
  deriving DecidableEq, Repr

def Side.other : Side → Side
  | .a => .b
  | .b => .a

@[simp] theorem Side.other_other (side : Side) : side.other.other = side := by
  cases side <;> rfl

@[simp] theorem Side.other_ne (side : Side) : side.other ≠ side := by
  cases side <;> decide

@[simp] theorem Side.ne_other (side : Side) : side ≠ side.other := (other_ne side).symm

inductive Stage where
  | start
  | awaitingVersion
  | constructed
  | threw (error : Error)
  deriving DecidableEq, Repr

/-- One end: the `version` member, its constructor's stage, and the messages delivered to its
socket and not yet read, in the order of delivery. -/
structure End where
  version : UInt32
  stage : Stage
  input : List SctpMsg
  deriving DecidableEq, Repr

/-- Both ends, and the messages sent to each end and not yet delivered, in the order they were
sent. -/
structure Association where
  peer : Side → End
  inFlight : Side → List SctpMsg

/-- The message of `versionChan.send(msg)`. -/
def versionMsg (version : UInt32) : SctpMsg := send .version (VersionMsg.serialize ⟨version⟩)

/-- `Peer::Impl::getVersion` on the delivered input: `none` while `sock.getStreamId()` blocks
for a message, otherwise the version read or the exception, with the input left unread. -/
def getVersion : List SctpMsg → Option (Except Error UInt32 × List SctpMsg)
  | [] => none
  | msg :: rest => some <|
    if msg.streamId ≠ SctpStreamId.version.toNat then
      (.error (.stdLogicError "Current message isn't a version message"), msg :: rest)
    else ((VersionMsg.deserialize.run msg.payload).map fun (versionMsg, _) => versionMsg.version, rest)

/-- The constructor's check of the remote's version `vers` against its own. -/
def checkVersion (version vers : UInt32) : Stage :=
  if vers ≠ version then
    .threw (.logicError ("Remote peer uses unsupported protocol version: " ++ toString vers))
  else .constructed

/-- The oldest message on `streamId` among `msgs`, with the others in their order. -/
def takeFirst (streamId : Nat) : List SctpMsg → Option (SctpMsg × List SctpMsg)
  | [] => none
  | msg :: rest =>
    if msg.streamId = streamId then some (msg, rest)
    else (takeFirst streamId rest).map fun (first, others) => (first, msg :: others)

/-- What can happen next on the association. -/
inductive Action where
  /-- The constructor of `side` sends its version message. -/
  | construct (side : Side)
  /-- The constructor of `side` runs `getVersion` and checks the version. -/
  | getVersion (side : Side)
  /-- `side` makes a send call once its constructor returned. -/
  | send (side : Side) (sent : Sent)
  /-- The association delivers to `side` the oldest message in flight on `streamId`. -/
  | deliver (side : Side) (streamId : Nat)
  deriving DecidableEq, Repr

namespace Association

/-- Both constructors not yet run, each end with protocol version `version`. -/
def initial (version : UInt32) : Association :=
  ⟨fun _ => ⟨version, .start, []⟩, fun _ => []⟩

def setPeer (s : Association) (side : Side) (peer : End) : Association :=
  { s with peer := Function.update s.peer side peer }

def post (s : Association) (side : Side) (msg : SctpMsg) : Association :=
  { s with inFlight := Function.update s.inFlight side.other (s.inFlight side.other ++ [msg]) }

def step (s : Association) : Action → Option Association
  | .construct side =>
    if (s.peer side).stage = .start then
      some ((s.post side (versionMsg (s.peer side).version)).setPeer side
        { s.peer side with stage := .awaitingVersion })
    else none
  | .getVersion side =>
    if (s.peer side).stage = .awaitingVersion then
      (Peer.getVersion (s.peer side).input).map fun (result, rest) =>
        s.setPeer side { s.peer side with
          stage := match result with
            | .ok vers => checkVersion (s.peer side).version vers
            | .error error => .threw error,
          input := rest }
    else none
  | .send side sent =>
    if (s.peer side).stage = .constructed then some (s.post side sent.toMsg) else none
  | .deliver side streamId =>
    (takeFirst streamId (s.inFlight side)).map fun (msg, others) =>
      { peer := Function.update s.peer side { s.peer side with input := (s.peer side).input ++ [msg] },
        inFlight := Function.update s.inFlight side others }

/-- The actions in order; `none` once one cannot happen. -/
def run (s : Association) : List Action → Option Association
  | [] => some s
  | action :: rest => (s.step action).bind (run · rest)

end Association

def NoVersion (msgs : List SctpMsg) : Prop := ∀ msg ∈ msgs, msg.streamId ≠ SctpStreamId.version.toNat

/-- Deliveries that never pass a version message: while one is in flight to an end, only
stream 0 is delivered to it. -/
def VersionFirst (s : Association) : Action → Prop
  | .deliver side streamId => streamId = SctpStreamId.version.toNat ∨ NoVersion (s.inFlight side)
  | _ => True

/-- Deliveries in the order of sending, as over one ordered stream. -/
def InOrder (s : Association) : Action → Prop
  | .deliver side streamId => (s.inFlight side).head?.map SctpMsg.streamId = some streamId
  | _ => True

def Moves (allowed : Association → Action → Prop) (s s' : Association) : Prop :=
  ∃ action, allowed s action ∧ s.step action = some s'

/-- Once its constructor returned, the remote sends a product request, which is delivered before
its version message: the other end's `getVersion` throws `std::logic_error`. -/
theorem getVersion_throws_on_overtaking_request :
    ∃ s, (Association.initial 0).run
        [.construct .a, .construct .b, .deliver .b 0, .getVersion .b, .send .b (.prodRequest ⟨1⟩),
          .deliver .a 3, .getVersion .a] = some s ∧
      (s.peer .b).stage = .constructed ∧
      (s.peer .a).stage = .threw (.stdLogicError "Current message isn't a version message") :=
  ⟨_, rfl, rfl, rfl⟩

/-! ## Both constructors return when version messages go first -/

theorem Side.eq_or_eq_other (p side : Side) : p = side ∨ p = side.other := by
  cases p <;> cases side <;> simp [Side.other]

theorem Sent.toMsg_streamId_ne (sent : Sent) : sent.toMsg.streamId ≠ SctpStreamId.version.toNat := by
  cases sent <;> exact Nat.succ_ne_zero _

theorem NoVersion.append_singleton {msgs : List SctpMsg} {msg : SctpMsg} (none : NoVersion msgs)
    (other : msg.streamId ≠ SctpStreamId.version.toNat) : NoVersion (msgs ++ [msg]) := by
  intro last member
  rcases List.mem_append.mp member with early | single
  · exact none last early
  · rw [List.mem_singleton.mp single]
    exact other

theorem getVersion_versionMsg (version : UInt32) (rest : List SctpMsg) :
    getVersion (versionMsg version :: rest) = some (.ok version, rest) := by
  have decoded := VersionMsg.deserialize_serialize ⟨version⟩ []
  simp only [List.append_nil] at decoded
  simp [getVersion, versionMsg, send, decoded, Except.map]

theorem takeFirst_eq_some {streamId : Nat} {msg : SctpMsg} :
    ∀ {msgs others : List SctpMsg}, takeFirst streamId msgs = some (msg, others) →
      ∃ before after, msgs = before ++ msg :: after ∧ others = before ++ after ∧
        msg.streamId = streamId ∧ ∀ earlier ∈ before, earlier.streamId ≠ streamId
  | [], _, taken => by simp [takeFirst] at taken
  | head :: msgs, others, taken => by
    by_cases found : head.streamId = streamId
    · simp only [takeFirst, found, if_true, Option.some.injEq, Prod.mk.injEq] at taken
      obtain ⟨rfl, rfl⟩ := taken
      exact ⟨[], msgs, rfl, rfl, found, by simp⟩
    · simp only [takeFirst, found, if_false, Option.map_eq_some'] at taken
      obtain ⟨⟨first, rest⟩, later, same⟩ := taken
      simp only [Prod.mk.injEq] at same
      obtain ⟨rfl, rfl⟩ := same
      obtain ⟨before, after, rfl, rfl, onStream, earlier⟩ := takeFirst_eq_some later
      exact ⟨head :: before, after, rfl, rfl, onStream, List.forall_mem_cons.mpr ⟨found, earlier⟩⟩

theorem takeFirst_subset {streamId : Nat} {msg : SctpMsg} {msgs others : List SctpMsg}
    (taken : takeFirst streamId msgs = some (msg, others)) :
    msg ∈ msgs ∧ ∀ other ∈ others, other ∈ msgs := by
  obtain ⟨before, after, rfl, rfl, -, -⟩ := takeFirst_eq_some taken
  refine ⟨by simp, fun other member => ?_⟩
  rcases List.mem_append.mp member with early | late
  exacts [List.mem_append_left _ early, List.mem_append_right _ (.tail _ late)]

theorem takeFirst_versionMsg (version : UInt32) (rest : List SctpMsg) :
    takeFirst SctpStreamId.version.toNat (versionMsg version :: rest) = some (versionMsg version, rest) := by
  simp [takeFirst, versionMsg, send]

/-- What an end has yet to read of the other end's messages, by its constructor's stage: until
it read the other's version message, that message comes first, and nothing else is on stream 0;
after, no version message is in flight to it. -/
def Unread (version : UInt32) (otherStage : Stage) (input inFlight : List SctpMsg) : Stage → Prop
  | .start | .awaitingVersion =>
    (otherStage = .start ∧ input = [] ∧ inFlight = []) ∨
    (otherStage ≠ .start ∧
      ((input = [] ∧ ∃ rest, inFlight = versionMsg version :: rest ∧ NoVersion rest) ∨
        ∃ rest, input = versionMsg version :: rest ∧ NoVersion rest ∧ NoVersion inFlight))
  | .constructed => otherStage ≠ .start ∧ NoVersion inFlight
  | .threw _ => False

section Unread

variable {version : UInt32} {otherStage : Stage} {input inFlight : List SctpMsg} {stage : Stage}

theorem Unread.other_started (unread : Unread version otherStage input inFlight stage)
    (started : otherStage ≠ .start) {otherStage' : Stage} (started' : otherStage' ≠ .start) :
    Unread version otherStage' input inFlight stage := by
  cases stage with
  | start | awaitingVersion =>
    rcases unread with ⟨start, -⟩ | ⟨-, rest⟩
    · exact absurd start started
    · exact .inr ⟨started', rest⟩
  | constructed => exact ⟨started', unread.2⟩
  | threw => exact unread.elim

theorem Unread.post_version (unread : Unread version .start input inFlight stage) {otherStage' : Stage}
    (started' : otherStage' ≠ .start) :
    Unread version otherStage' input (inFlight ++ [versionMsg version]) stage := by
  cases stage with
  | start | awaitingVersion =>
    rcases unread with ⟨-, rfl, rfl⟩ | ⟨started, -⟩
    · exact .inr ⟨started', .inl ⟨rfl, [], rfl, by simp [NoVersion]⟩⟩
    · exact absurd rfl started
  | constructed => exact absurd rfl unread.1
  | threw => exact unread.elim

theorem Unread.post (unread : Unread version otherStage input inFlight stage)
    (started : otherStage ≠ .start) {msg : SctpMsg} (other : msg.streamId ≠ SctpStreamId.version.toNat) :
    Unread version otherStage input (inFlight ++ [msg]) stage := by
  cases stage with
  | start | awaitingVersion =>
    rcases unread with ⟨start, -⟩ | ⟨-, ⟨rfl, rest, rfl, none⟩ | ⟨rest, rfl, none, none'⟩⟩
    · exact absurd start started
    · exact .inr ⟨started, .inl ⟨rfl, rest ++ [msg], rfl, none.append_singleton other⟩⟩
    · exact .inr ⟨started, .inr ⟨rest, rfl, none, none'.append_singleton other⟩⟩
  | constructed => exact ⟨unread.1, unread.2.append_singleton other⟩
  | threw => exact unread.elim

theorem Unread.deliver (unread : Unread version otherStage input inFlight stage) {streamId : Nat}
    (first : streamId = SctpStreamId.version.toNat ∨ NoVersion inFlight) {msg : SctpMsg}
    {others : List SctpMsg} (taken : takeFirst streamId inFlight = some (msg, others)) :
    Unread version otherStage (input ++ [msg]) others stage := by
  cases stage with
  | start | awaitingVersion =>
    rcases unread with ⟨-, -, rfl⟩ | ⟨started, ⟨rfl, rest, rfl, none⟩ | ⟨rest, rfl, none, none'⟩⟩
    · simp [takeFirst] at taken
    · obtain rfl := first.resolve_right fun none' => none' _ (.head _) rfl
      rw [takeFirst_versionMsg, Option.some.injEq, Prod.mk.injEq] at taken
      obtain ⟨rfl, rfl⟩ := taken
      exact .inr ⟨started, .inr ⟨[], rfl, by simp [NoVersion], none⟩⟩
    · obtain ⟨-, subset⟩ := takeFirst_subset taken
      have member := (takeFirst_subset taken).1
      exact .inr ⟨started, .inr ⟨rest ++ [msg], rfl, none.append_singleton (none' _ member),
        fun other inOthers => none' other (subset other inOthers)⟩⟩
  | constructed =>
    exact ⟨unread.1, fun other inOthers => unread.2 other ((takeFirst_subset taken).2 other inOthers)⟩
  | threw => exact unread.elim

theorem Unread.getVersion (unread : Unread version otherStage input inFlight .awaitingVersion)
    {result : Except Error UInt32} {rest : List SctpMsg}
    (read : Peer.getVersion input = some (result, rest)) :
    result = .ok version ∧ Unread version otherStage rest inFlight .constructed := by
  rcases unread with ⟨-, rfl, -⟩ | ⟨started, ⟨rfl, -⟩ | ⟨_, rfl, -, none⟩⟩
  · simp [Peer.getVersion] at read
  · simp [Peer.getVersion] at read
  · rw [getVersion_versionMsg, Option.some.injEq, Prod.mk.injEq] at read
    exact ⟨read.1.symm, started, none⟩

end Unread

/-- Both ends keep the common version, and each has the other's messages in the order `Unread`
says. -/
structure Association.Inv (version : UInt32) (s : Association) : Prop where
  sameVersion : ∀ side, (s.peer side).version = version
  unread : ∀ side, Unread version (s.peer side.other).stage (s.peer side).input (s.inFlight side)
    (s.peer side).stage

namespace Association.Inv

variable {version : UInt32} {s s' : Association}

theorem initial (version : UInt32) : (Association.initial version).Inv version :=
  ⟨fun _ => rfl, fun _ => .inl ⟨rfl, rfl, rfl⟩⟩

theorem construct {side : Side} (inv : s.Inv version) (stepped : s.step (.construct side) = some s') :
    s'.Inv version := by
  simp only [step, Option.ite_none_right_eq_some, Option.some.injEq] at stepped
  obtain ⟨start, rfl⟩ := stepped
  refine ⟨fun p => ?_, fun p => ?_⟩ <;> obtain rfl | rfl := Side.eq_or_eq_other p side
  · simp [setPeer, inv.sameVersion]
  · simp [setPeer, post, inv.sameVersion]
  · have unread := inv.unread p
    rw [start] at unread
    simpa [setPeer, post] using unread
  · have unread := inv.unread side.other
    simp only [Side.other_other, start, inv.sameVersion side] at unread
    simpa [setPeer, post, inv.sameVersion side] using
      unread.post_version (show Stage.awaitingVersion ≠ .start by decide)

theorem getVersion {side : Side} (inv : s.Inv version)
    (stepped : s.step (.getVersion side) = some s') : s'.Inv version := by
  simp only [step, Option.ite_none_right_eq_some, Option.map_eq_some'] at stepped
  obtain ⟨awaiting, ⟨result, rest⟩, read, rfl⟩ := stepped
  have unread := inv.unread side
  rw [awaiting] at unread
  obtain ⟨rfl, unread⟩ := unread.getVersion read
  have returned : checkVersion (s.peer side).version version = .constructed := by
    simp [checkVersion, inv.sameVersion side]
  refine ⟨fun p => ?_, fun p => ?_⟩ <;> obtain rfl | rfl := Side.eq_or_eq_other p side
  · simp [setPeer, inv.sameVersion]
  · simp [setPeer, inv.sameVersion]
  · simpa [setPeer, returned] using unread
  · have other := inv.unread side.other
    simp only [Side.other_other, awaiting] at other
    simpa [setPeer, returned] using
      other.other_started (by simp) (show Stage.constructed ≠ .start by decide)

theorem send {side : Side} {sent : Sent} (inv : s.Inv version)
    (stepped : s.step (.send side sent) = some s') : s'.Inv version := by
  simp only [step, Option.ite_none_right_eq_some, Option.some.injEq] at stepped
  obtain ⟨constructed, rfl⟩ := stepped
  refine ⟨inv.sameVersion, fun p => ?_⟩
  obtain rfl | rfl := Side.eq_or_eq_other p side
  · simpa [post] using inv.unread p
  · have other := inv.unread side.other
    simp only [Side.other_other, constructed] at other
    simpa [post, constructed] using other.post (by simp) (Sent.toMsg_streamId_ne sent)

theorem deliver {side : Side} {streamId : Nat} (inv : s.Inv version)
    (allowed : VersionFirst s (.deliver side streamId))
    (stepped : s.step (.deliver side streamId) = some s') : s'.Inv version := by
  simp only [step, Option.map_eq_some'] at stepped
  obtain ⟨⟨msg, others⟩, taken, rfl⟩ := stepped
  refine ⟨fun p => ?_, fun p => ?_⟩ <;> obtain rfl | rfl := Side.eq_or_eq_other p side
  · simp [inv.sameVersion]
  · simp [inv.sameVersion]
  · simpa using (inv.unread p).deliver allowed taken
  · simpa [Function.update_apply] using inv.unread side.other

theorem step {action : Action} (inv : s.Inv version) (allowed : VersionFirst s action)
    (stepped : s.step action = some s') : s'.Inv version := by
  cases action with
  | construct side => exact inv.construct stepped
  | getVersion side => exact inv.getVersion stepped
  | send side sent => exact inv.send stepped
  | deliver side streamId => exact inv.deliver allowed stepped

theorem moves (inv : s.Inv version) (moved : Relation.ReflTransGen (Moves VersionFirst) s s') :
    s'.Inv version := by
  induction moved with
  | refl => exact inv
  | tail _ move invariant =>
    obtain ⟨action, allowed, stepped⟩ := move
    exact invariant.step allowed stepped

theorem not_threw (inv : s.Inv version) (side : Side) (error : Error) :
    (s.peer side).stage ≠ .threw error := fun threw => by
  have unread := inv.unread side
  rw [threw] at unread
  exact unread

theorem exists_started (s : Association) (side : Side) :
    ∃ s', Relation.ReflTransGen (Moves VersionFirst) s s' ∧ (s'.peer side).stage ≠ .start ∧
      (s'.peer side.other).stage = (s.peer side.other).stage := by
  by_cases start : (s.peer side).stage = .start
  · have construct : s.step (.construct side) = some ((s.post side (versionMsg (s.peer side).version)).setPeer
        side { s.peer side with stage := .awaitingVersion }) := by
      simp [Association.step, start]
    exact ⟨_, .single ⟨.construct side, trivial, construct⟩, by simp [setPeer], by simp [setPeer, post]⟩
  · exact ⟨s, .refl, start, rfl⟩

theorem exists_constructed (inv : s.Inv version) (side : Side) (started : (s.peer side).stage ≠ .start)
    (otherStarted : (s.peer side.other).stage ≠ .start) :
    ∃ s', Relation.ReflTransGen (Moves VersionFirst) s s' ∧ (s'.peer side).stage = .constructed ∧
      (s'.peer side.other).stage = (s.peer side.other).stage := by
  have unread := inv.unread side
  have read : ∀ {s : Association} (rest : List SctpMsg), s.Inv version →
      (s.peer side).stage = .awaitingVersion → (s.peer side).input = versionMsg version :: rest →
      s.step (.getVersion side) = some (s.setPeer side
        { s.peer side with stage := .constructed, input := rest }) := by
    intro s rest inv awaiting input
    simp [Association.step, awaiting, input, getVersion_versionMsg, checkVersion, inv.sameVersion]
  cases stage : (s.peer side).stage with
  | start => exact absurd stage started
  | constructed => exact ⟨s, .refl, stage, rfl⟩
  | threw error => exact absurd stage (inv.not_threw side error)
  | awaitingVersion =>
    rw [stage] at unread
    rcases unread with ⟨start, -⟩ | ⟨-, ⟨input, rest, inFlight, -⟩ | ⟨rest, input, -⟩⟩
    · exact absurd start otherStarted
    · let delivered : Association :=
        { peer := Function.update s.peer side { s.peer side with input := [versionMsg version] },
          inFlight := Function.update s.inFlight side rest }
      have deliver : s.step (.deliver side 0) = some delivered := by
        simp only [Association.step, inFlight, input]
        rw [show (0 : Nat) = SctpStreamId.version.toNat from rfl, takeFirst_versionMsg]
        rfl
      have first : VersionFirst s (.deliver side 0) := .inl rfl
      refine ⟨_, .tail (.single ⟨_, first, deliver⟩)
        ⟨.getVersion side, trivial, read [] (inv.deliver first deliver) (by simp [delivered, stage])
          (by simp [delivered])⟩, ?_, ?_⟩ <;>
        simp [setPeer, delivered, Function.update_apply]
    · exact ⟨_, .single ⟨.getVersion side, trivial, read rest inv stage input⟩, by simp [setPeer],
        by simp [setPeer]⟩

theorem exists_both_constructed (inv : s.Inv version) :
    ∃ final, Relation.ReflTransGen (Moves VersionFirst) s final ∧
      ∀ side, (final.peer side).stage = .constructed := by
  obtain ⟨s₁, moves₁, startedA, sameB⟩ := exists_started s .a
  obtain ⟨s₂, moves₂, startedB, sameA⟩ := exists_started s₁ .b
  obtain ⟨s₃, moves₃, constructedA, sameB'⟩ :=
    (inv.moves (moves₁.trans moves₂)).exists_constructed .a (sameA ▸ startedA) startedB
  obtain ⟨s₄, moves₄, constructedB, sameA'⟩ :=
    (inv.moves ((moves₁.trans moves₂).trans moves₃)).exists_constructed .b
      (sameB' ▸ startedB) (by simp [Side.other] at constructedA ⊢; simp [constructedA])
  refine ⟨s₄, ((moves₁.trans moves₂).trans moves₃).trans moves₄, fun side => ?_⟩
  cases side
  · exact sameA'.trans constructedA
  · exact constructedB

theorem versionFirst_of_inOrder (inv : s.Inv version) {action : Action} (inOrder : InOrder s action) :
    VersionFirst s action := by
  cases action with
  | deliver side streamId =>
    have unread := inv.unread side
    show streamId = _ ∨ NoVersion _
    cases stage : (s.peer side).stage <;> rw [stage] at unread
    case threw error => exact unread.elim
    case constructed => exact .inr unread.2
    all_goals
      rcases unread with ⟨-, -, inFlight⟩ | ⟨-, ⟨-, rest, inFlight, -⟩ | ⟨-, -, -, none⟩⟩
      · simp [InOrder, inFlight] at inOrder
      · simp only [InOrder, inFlight, List.head?_cons, Option.map_some', Option.some.injEq] at inOrder
        exact .inl inOrder.symm
      · exact .inr none
  | _ => trivial

end Association.Inv

theorem Association.versionFirst_of_inOrder_run {version : UInt32} {s : Association}
    (moved : Relation.ReflTransGen (Moves InOrder) (.initial version) s) :
    Relation.ReflTransGen (Moves VersionFirst) (.initial version) s ∧ s.Inv version := by
  induction moved with
  | refl => exact ⟨.refl, .initial version⟩
  | tail _ move run =>
    obtain ⟨action, inOrder, stepped⟩ := move
    have first := run.2.versionFirst_of_inOrder inOrder
    exact ⟨run.1.tail ⟨action, first, stepped⟩, run.2.step first stepped⟩

/-- With the same version at both ends, every delivery order that brings each version message
before the later messages of its sender, as delivery in the order of sending does, keeps both
constructors from throwing, and from every state it reaches the handshake can go on until both
constructors returned. -/
theorem handshake_returns_when_version_first (version : UInt32) :
    (∀ s, Relation.ReflTransGen (Moves InOrder) (.initial version) s →
      Relation.ReflTransGen (Moves VersionFirst) (.initial version) s) ∧
    ∀ s, Relation.ReflTransGen (Moves VersionFirst) (.initial version) s →
      (∀ side error, (s.peer side).stage ≠ .threw error) ∧
      ∃ final, Relation.ReflTransGen (Moves VersionFirst) s final ∧
        ∀ side, (final.peer side).stage = .constructed := by
  refine ⟨fun s moved => (Association.versionFirst_of_inOrder_run moved).1, fun s reachable => ?_⟩
  have inv := (Association.Inv.initial version).moves reachable
  exact ⟨inv.not_threw, inv.exists_both_constructed⟩

theorem handshake_returns_from_initial :
    (∀ side error, ((Association.initial 0).peer side).stage ≠ .threw error) ∧
    ∃ final, Relation.ReflTransGen (Moves VersionFirst) (.initial 0) final ∧
      ∀ side, (final.peer side).stage = .constructed :=
  (handshake_returns_when_version_first 0).2 _ .refl

end Hycast.Peer
