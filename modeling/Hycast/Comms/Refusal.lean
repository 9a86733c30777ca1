import Hycast.Comms.Session

/-! The handshake between two ends whose protocol versions differ. `Peer::Impl` sets `version`
to 0, so two ends differ only when they run different releases; the constructor's check
`vers != version` then decides the handshake.

Whatever the ends do and in whatever order the association delivers, neither constructor
returns and no send call is made: an end's constructor that throws has read the other end's
version message and throws `LogicError` naming that version. From every state a run reaches, the
handshake can go on until both constructors have thrown.
-/

set_option autoImplicit false

namespace Hycast.Peer

def Association.start (version : Side → UInt32) : Association :=
  ⟨fun side => ⟨version side, .start, []⟩, fun _ => []⟩

/-- Where an end whose remote has version `remote` can be, given the remote's stage and what the
end has yet to read: its constructor has not returned, and it has at most the remote's version
message to read, sent once the remote's constructor started; once it read it, it refused it. -/
def Refusing (remote : UInt32) (otherStage : Stage) (pending : List SctpMsg) : Stage → Prop
  | .start | .awaitingVersion => pending = if otherStage = .start then [] else [versionMsg remote]
  | .constructed => False
  | .threw error =>
    error = .logicError ("Remote peer uses unsupported protocol version: " ++ toString remote) ∧
      otherStage ≠ .start ∧ pending = []

theorem eq_of_perm_of_length_le_one {α : Type} {l l' : List α} (perm : l'.Perm l) (short : l.length ≤ 1) :
    l' = l := by
  match l, short with
  | [], _ => exact perm.eq_nil
  | [_], _ => exact List.perm_singleton.mp perm

section Refusing

variable {remote : UInt32} {otherStage : Stage} {pending : List SctpMsg} {stage : Stage}

theorem Refusing.length_le (refusing : Refusing remote otherStage pending stage) : pending.length ≤ 1 := by
  cases stage with
  | start | awaitingVersion =>
    subst refusing
    split <;> simp
  | constructed => exact refusing.elim
  | threw => simp [refusing.2.2]

theorem Refusing.perm (refusing : Refusing remote otherStage pending stage) {pending' : List SctpMsg}
    (perm : pending'.Perm pending) : Refusing remote otherStage pending' stage := by
  rwa [eq_of_perm_of_length_le_one perm refusing.length_le]

theorem Refusing.other_started (refusing : Refusing remote otherStage pending stage)
    (started : otherStage ≠ .start) {otherStage' : Stage} (started' : otherStage' ≠ .start) :
    Refusing remote otherStage' pending stage := by
  cases stage with
  | start | awaitingVersion =>
    simp only [Refusing, if_neg started, if_neg started'] at refusing ⊢
    exact refusing
  | constructed => exact refusing
  | threw => exact ⟨refusing.1, started', refusing.2.2⟩

theorem Refusing.post_version (refusing : Refusing remote .start pending stage) {otherStage' : Stage}
    (started' : otherStage' ≠ .start) : Refusing remote otherStage' (pending ++ [versionMsg remote]) stage := by
  cases stage with
  | start | awaitingVersion =>
    simp only [Refusing, if_pos, if_neg started'] at refusing ⊢
    rw [refusing, List.nil_append]
  | constructed => exact refusing
  | threw => exact absurd rfl refusing.2.1

theorem Refusing.getVersion {input inFlight rest : List SctpMsg} {result : Except Error UInt32}
    (refusing : Refusing remote otherStage (input ++ inFlight) .awaitingVersion)
    (read : Peer.getVersion input = some (result, rest)) :
    result = .ok remote ∧ rest = [] ∧ inFlight = [] ∧ otherStage ≠ .start := by
  have unread : input ++ inFlight = if otherStage = .start then [] else [versionMsg remote] := refusing
  split_ifs at unread with started
  · obtain ⟨rfl, -⟩ := List.append_eq_nil.mp unread
    simp [Peer.getVersion] at read
  · rcases List.append_eq_cons_iff.mp unread with ⟨rfl, -⟩ | ⟨unreadInput, rfl, none⟩
    · simp [Peer.getVersion] at read
    · obtain ⟨rfl, rfl⟩ := List.append_eq_nil.mp none.symm
      rw [getVersion_versionMsg, Option.some.injEq, Prod.mk.injEq] at read
      exact ⟨read.1.symm, read.2.symm, rfl, started⟩

end Refusing

/-- Each end keeps its version, and by `Refusing` never returns from its constructor. -/
structure Association.Refuses (version : Side → UInt32) (s : Association) : Prop where
  sameVersion : ∀ side, (s.peer side).version = version side
  refusing : ∀ side, Refusing (version side.other) (s.peer side.other).stage (s.pending side) (s.peer side).stage

namespace Association.Refuses

variable {version : Side → UInt32} {s s' : Association}

theorem start (version : Side → UInt32) : (Association.start version).Refuses version :=
  ⟨fun _ => rfl, fun _ => (if_pos rfl).symm⟩

theorem other_version_ne (differ : version .a ≠ version .b) (side : Side) : version side.other ≠ version side := by
  cases side
  exacts [differ.symm, differ]

theorem construct {side : Side} (refuses : s.Refuses version) (stepped : s.step (.construct side) = some s') :
    s'.Refuses version := by
  have pending := pending_construct stepped
  simp only [step, Option.ite_none_right_eq_some, Option.some.injEq] at stepped
  obtain ⟨start, rfl⟩ := stepped
  refine ⟨fun p => ?_, fun p => ?_⟩ <;> obtain rfl | rfl := Side.eq_or_eq_other p side
  · simp [setPeer, refuses.sameVersion]
  · simp [setPeer, post, refuses.sameVersion]
  · have refusing := refuses.refusing p
    rw [start] at refusing
    rw [pending p, if_neg (Side.ne_other p), List.append_nil]
    simpa [setPeer, post] using refusing
  · have refusing := refuses.refusing side.other
    simp only [Side.other_other, start] at refusing
    rw [pending side.other, if_pos rfl]
    simpa [setPeer, post, refuses.sameVersion side] using
      refusing.post_version (show Stage.awaitingVersion ≠ .start by decide)

theorem getVersion (differ : version .a ≠ version .b) {side : Side} (refuses : s.Refuses version)
    (stepped : s.step (.getVersion side) = some s') : s'.Refuses version := by
  simp only [step, Option.ite_none_right_eq_some, Option.map_eq_some'] at stepped
  obtain ⟨awaiting, ⟨result, rest⟩, read, rfl⟩ := stepped
  have refusing := refuses.refusing side
  rw [awaiting] at refusing
  obtain ⟨rfl, rfl, inFlight, started⟩ := refusing.getVersion read
  have refused : checkVersion (s.peer side).version (version side.other) =
      .threw (.logicError ("Remote peer uses unsupported protocol version: " ++ toString (version side.other))) := by
    simp [checkVersion, refuses.sameVersion side, other_version_ne differ side]
  refine ⟨fun p => ?_, fun p => ?_⟩ <;> obtain rfl | rfl := Side.eq_or_eq_other p side
  · simp [setPeer, refuses.sameVersion]
  · simp [setPeer, refuses.sameVersion]
  · simpa [setPeer, pending, refused, inFlight, Refusing] using started
  · have other := refuses.refusing side.other
    simp only [Side.other_other, awaiting] at other
    simpa [setPeer, pending, refused] using other.other_started (by simp) (by simp)

theorem send_none {side : Side} (refuses : s.Refuses version) (sent : Sent) : s.step (.send side sent) = none := by
  have refusing := refuses.refusing side
  simp only [step, ite_eq_right_iff, reduceCtorEq]
  intro constructed
  rw [constructed] at refusing
  exact refusing

theorem deliver {side : Side} {streamId : Nat} (refuses : s.Refuses version)
    (stepped : s.step (.deliver side streamId) = some s') : s'.Refuses version where
  sameVersion p := (peer_deliver stepped p).2.trans (refuses.sameVersion p)
  refusing p := by
    rw [(peer_deliver stepped p).1, (peer_deliver stepped p.other).1]
    exact (refuses.refusing p).perm (pending_deliver_perm stepped p)

theorem step (differ : version .a ≠ version .b) {action : Action} (refuses : s.Refuses version)
    (stepped : s.step action = some s') : s'.Refuses version := by
  cases action with
  | construct side => exact refuses.construct stepped
  | getVersion side => exact refuses.getVersion differ stepped
  | send side sent => exact absurd stepped (by simp [refuses.send_none])
  | deliver side streamId => exact refuses.deliver stepped

theorem run (differ : version .a ≠ version .b) {actions : List Action} (refuses : s.Refuses version)
    (ran : s.run actions = some s') : s'.Refuses version ∧ ∀ side, sendsOf side actions = [] := by
  induction actions generalizing s with
  | nil => exact ⟨Option.some.inj ran ▸ refuses, fun _ => rfl⟩
  | cons action actions more =>
    obtain ⟨next, stepped, rest⟩ := Option.bind_eq_some.mp ran
    obtain ⟨refuses', none⟩ := more (refuses.step differ stepped) rest
    refine ⟨refuses', fun side => ?_⟩
    rw [sendsOf_cons, none, List.append_nil]
    cases action with
    | send p sent => exact absurd stepped (by simp [refuses.send_none])
    | _ => rfl

end Association.Refuses

/-! ## Both constructors can throw -/

namespace Association

theorem run_append (s : Association) (actions more : List Action) :
    s.run (actions ++ more) = (s.run actions).bind (·.run more) := by
  induction actions generalizing s with
  | nil => rfl
  | cons action actions more' =>
    show (s.step action).bind (·.run (actions ++ more)) = ((s.step action).bind (·.run actions)).bind (·.run more)
    simp only [more', Option.bind_assoc]

theorem run_append_of_eq {s s' s'' : Association} {actions more : List Action}
    (first : s.run actions = some s') (second : s'.run more = some s'') : s.run (actions ++ more) = some s'' := by
  rw [run_append, first]
  exact second

theorem exists_run_started (s : Association) (side : Side) :
    ∃ more s', s.run more = some s' ∧ (s'.peer side).stage ≠ .start ∧
      (s'.peer side.other).stage = (s.peer side.other).stage := by
  by_cases start : (s.peer side).stage = .start
  · exact ⟨[.construct side], (s.post side (versionMsg (s.peer side).version)).setPeer side
      { s.peer side with stage := .awaitingVersion }, by simp [run, step, start], by simp [setPeer],
      by simp [setPeer, post]⟩
  · exact ⟨[], s, rfl, start, rfl⟩

end Association

namespace Association.Refuses

variable {version : Side → UInt32} {s : Association}

theorem exists_refused (differ : version .a ≠ version .b) (refuses : s.Refuses version) (side : Side)
    (started : (s.peer side).stage ≠ .start) (otherStarted : (s.peer side.other).stage ≠ .start) :
    ∃ more s', s.run more = some s' ∧
      (s'.peer side).stage = .threw (.logicError
        ("Remote peer uses unsupported protocol version: " ++ toString (version side.other))) ∧
      (s'.peer side.other).stage = (s.peer side.other).stage := by
  have refuse : ∀ s₁ : Association, (s₁.peer side).stage = .awaitingVersion →
      (s₁.peer side).version = version side → (s₁.peer side).input = [versionMsg (version side.other)] →
      ∃ s₂, s₁.step (.getVersion side) = some s₂ ∧
        (s₂.peer side).stage = .threw (.logicError
          ("Remote peer uses unsupported protocol version: " ++ toString (version side.other))) ∧
        (s₂.peer side.other).stage = (s₁.peer side.other).stage := by
    intro s₁ awaiting sameVersion input
    exact ⟨_, (by simp [Association.step, awaiting, input, getVersion_versionMsg, sameVersion] :
      s₁.step (.getVersion side) = some (s₁.setPeer side { s₁.peer side with
        stage := checkVersion (version side) (version side.other), input := [] })),
      by simp [setPeer, checkVersion, other_version_ne differ side], by simp [setPeer]⟩
  have refusing := refuses.refusing side
  cases stage : (s.peer side).stage with
  | start => exact absurd stage started
  | constructed =>
    rw [stage] at refusing
    exact refusing.elim
  | threw error =>
    rw [stage] at refusing
    exact ⟨[], s, rfl, by rw [stage, refusing.1], rfl⟩
  | awaitingVersion =>
    rw [stage] at refusing
    have unread : (s.peer side).input ++ s.inFlight side = [versionMsg (version side.other)] := by
      simpa [Refusing, otherStarted] using refusing
    rcases List.append_eq_cons_iff.mp unread with ⟨input, inFlight⟩ | ⟨none, input, empty⟩
    · let delivered : Association :=
        { peer := Function.update s.peer side { s.peer side with input := [versionMsg (version side.other)] },
          inFlight := Function.update s.inFlight side [] }
      have deliver : s.step (.deliver side SctpStreamId.version.toNat) = some delivered := by
        simp only [Association.step, inFlight, takeFirst_versionMsg, input]
        rfl
      obtain ⟨s₂, stepped, refused, same⟩ := refuse delivered (by simp [delivered, stage])
        (by simp [delivered, refuses.sameVersion]) (by simp [delivered])
      exact ⟨[.deliver side SctpStreamId.version.toNat, .getVersion side], s₂,
        by simp only [Association.run, deliver, stepped, Option.some_bind], refused,
        by simp [same, delivered, Function.update_apply]⟩
    · obtain ⟨rfl, -⟩ := List.append_eq_nil.mp empty.symm
      obtain ⟨s₂, stepped, refused, same⟩ := refuse s stage (refuses.sameVersion side) input
      exact ⟨[.getVersion side], s₂, by simp only [Association.run, stepped, Option.some_bind], refused, same⟩

end Association.Refuses

/-- Whatever the two ends do and in whatever order the association delivers, when their versions
differ neither constructor returns and neither end makes a send call; a constructor that throws
throws `LogicError` naming the other end's version. -/
theorem handshake_refuses_other_version {version : Side → UInt32} (differ : version .a ≠ version .b)
    {actions : List Action} {s : Association} (ran : (Association.start version).run actions = some s)
    (side : Side) :
    (s.peer side).stage ≠ .constructed ∧ sendsOf side actions = [] ∧
      ∀ error, (s.peer side).stage = .threw error →
        error = .logicError ("Remote peer uses unsupported protocol version: " ++ toString (version side.other)) := by
  obtain ⟨refuses, none⟩ := (Association.Refuses.start version).run differ ran
  have refusing := refuses.refusing side
  refine ⟨fun constructed => ?_, none side, fun error threw => ?_⟩
  · rw [constructed] at refusing
    exact refusing
  · rw [threw] at refusing
    exact refusing.1

/-- Ends of versions 0 and 1: a release that keeps version 0 against one that moved to 1. -/
def twoReleases : Side → UInt32
  | .a => 0
  | .b => 1

theorem handshake_refuses_release_one :
    ∃ s, (Association.start twoReleases).run
        [.construct .a, .construct .b, .deliver .a 0, .getVersion .a] = some s ∧
      (s.peer .a).stage ≠ .constructed ∧
      sendsOf .a [.construct .a, .construct .b, .deliver .a 0, .getVersion .a] = [] ∧
      ∀ error, (s.peer .a).stage = .threw error →
        error = .logicError ("Remote peer uses unsupported protocol version: " ++ toString (twoReleases .b)) :=
  let ⟨s, ran⟩ : ∃ s, (Association.start twoReleases).run
      [.construct .a, .construct .b, .deliver .a 0, .getVersion .a] = some s := ⟨_, rfl⟩
  ⟨s, ran, handshake_refuses_other_version (by decide) ran .a⟩

/-- When the two versions differ, from every state a run reaches, the handshake can go on until
both constructors have thrown `LogicError`, each naming the other end's version. -/
theorem handshake_can_end_refused {version : Side → UInt32} (differ : version .a ≠ version .b)
    {actions : List Action} {s : Association} (ran : (Association.start version).run actions = some s) :
    ∃ more final, s.run more = some final ∧ ∀ side, (final.peer side).stage =
      .threw (.logicError ("Remote peer uses unsupported protocol version: " ++ toString (version side.other))) := by
  have refuses := ((Association.Refuses.start version).run differ ran).1
  obtain ⟨more₁, s₁, run₁, startedA, sameB⟩ := Association.exists_run_started s .a
  obtain ⟨more₂, s₂, run₂, startedB, sameA⟩ := Association.exists_run_started s₁ .b
  have run₂' := Association.run_append_of_eq run₁ run₂
  have refuses₂ := (refuses.run differ run₂').1
  obtain ⟨more₃, s₃, run₃, refusedA, sameB'⟩ :=
    refuses₂.exists_refused differ .a (sameA ▸ startedA) startedB
  obtain ⟨more₄, s₄, run₄, refusedB, sameA'⟩ :=
    (refuses₂.run differ run₃).1.exists_refused differ .b (sameB' ▸ startedB)
      (by simp [Side.other] at refusedA ⊢; simp [refusedA])
  refine ⟨more₁ ++ more₂ ++ more₃ ++ more₄, s₄,
    Association.run_append_of_eq (Association.run_append_of_eq run₂' run₃) run₄, fun side => ?_⟩
  cases side
  · exact sameA'.trans refusedA
  · exact refusedB

theorem handshake_ends_refused_from_start :
    ∃ more final, (Association.start twoReleases).run more = some final ∧ ∀ side, (final.peer side).stage =
      .threw (.logicError ("Remote peer uses unsupported protocol version: " ++ toString (twoReleases side.other))) :=
  @handshake_can_end_refused twoReleases (by decide) [] _ rfl

end Hycast.Peer
