import Sansshell.Proxy.Session

/-!
# Steps — what each action does

One inversion lemma per action of `stepLive`: from `stepLive sm s a = some s'`, the guard the
action needs and the state it produces. Every invariant of the session is proved from these,
never by unfolding the step function again.

* `Action.mover` — the goroutine each action moves.
* `stepLive_receive_guard`, `stepLive_dispatcher_guard`, `stepLive_sender_guard`,
  `stepLive_task` — what a move of each goroutine needs.
* `stepLive_dispatcher_frame`, `stepLive_pumps_frame`, `stepLive_group`, `stepLive_frame`,
  `stepLive_pump_frame`, `stepLive_put` — what a move of each goroutine leaves alone: only the
  dispatcher changes its own state and the set, only a pump returns, the errgroup's error and
  cancellation only appear, and only `Add` puts a `StartStreamReply` on `replyChan`. An invariant
  then takes the cases of the goroutines whose fields it reads, and one frame lemma for the rest.
-/

namespace Sansshell
namespace Proxy

variable {sm : List String} {s s' : Session}

/-- A step is a step of the live session from a state that has not panicked. -/
theorem step_live {a : Action} (h : step sm s a = some s') :
    s.panicked = false ∧ stepLive sm s a = some s' := by
  unfold step at h
  split at h
  · cases h
  · exact ⟨by simpa using ‹¬s.panicked = true›, h⟩

/-! ## Helper operations -/

namespace Session

@[simp] theorem fail_none (s : Session) : s.fail none = s := rfl

theorem fail_some (s : Session) (e : GoError) :
    s.fail (some e) = { s with groupErr := some (s.groupErr.getD e), ctxDone := true } := rfl

@[simp] theorem fail_tasks (e : Option GoError) : (s.fail e).tasks = s.tasks := by
  cases e <;> rfl

@[simp] theorem fail_put (e : Option GoError) : (s.fail e).put = s.put := by
  cases e <;> rfl

@[simp] theorem fail_set (e : Option GoError) : (s.fail e).set = s.set := by
  cases e <;> rfl

@[simp] theorem fail_recv (e : Option GoError) : (s.fail e).recv = s.recv := by
  cases e <;> rfl

@[simp] theorem fail_sender (e : Option GoError) : (s.fail e).sender = s.sender := by
  cases e <;> rfl

@[simp] theorem fail_disp (e : Option GoError) : (s.fail e).disp = s.disp := by
  cases e <;> rfl

@[simp] theorem fail_delivered (e : Option GoError) : (s.fail e).delivered = s.delivered := by
  cases e <;> rfl

@[simp] theorem fail_calls (e : Option GoError) : (s.fail e).calls = s.calls := by
  cases e <;> rfl

/-- A stream-set call either succeeds and updates the set, or makes `dispatch` return. -/
theorem setCall_cases (s : Session) (op : Op) (r : TargetStreamSet × Option ProtocolError) :
    (r.2 = none ∧
      s.setCall op r = { s with calls := s.calls ++ [Call.mk op none], set := r.1 }) ∨
    (∃ e, r.2 = some e ∧ s.setCall op r =
      ({ s with calls := s.calls ++ [Call.mk op (some e)] }).exitDispatch
        (some (.protocol e))) := by
  unfold setCall
  cases h : r.2 with
  | none => exact .inl ⟨rfl, by simp [h]⟩
  | some e => exact .inr ⟨e, rfl, by simp [h]⟩

/-- The four outcomes of `dispatch`'s type switch. -/
theorem route_cases (s : Session) (r : Option Request) :
    (∃ st, r = some (.startStream st) ∧
      s.route r = { s with calls := s.calls ++ [Call.mk (.add st) none], disp := .add st }) ∨
    (∃ q t, r = some q ∧
      s.route r = { s with calls := s.calls ++ [Call.mk q.op none], set := t }) ∨
    (∃ q e, r = some q ∧
      s.route r = ({ s with calls := s.calls ++ [Call.mk q.op (some e)] }).exitDispatch
        (some (.protocol e))) ∨
    (r = none ∧ s.route r = s.exitDispatch (some .unhandled)) := by
  rcases r with _ | (st | d | c | c)
  · exact .inr (.inr (.inr ⟨rfl, rfl⟩))
  · exact .inl ⟨st, rfl, rfl⟩
  all_goals
    rcases setCall_cases s _ _ with ⟨-, h⟩ | ⟨e, -, h⟩
    · exact .inr (.inl ⟨_, _, rfl, h⟩)
    · exact .inr (.inr (.inl ⟨_, e, rfl, h⟩))

/-- The type switch of `dispatch` changes the calls, the dispatcher's program counter, the
states of streams and the group's error, and nothing else: no pump moves, no stream starts, no
frame is put, and the set keeps its ids and its next id. -/
theorem route_frame (r : Option Request) :
    (s.route r).recv = s.recv ∧ (s.route r).sender = s.sender ∧ (s.route r).tasks = s.tasks ∧
      (s.route r).put = s.put ∧ (s.route r).delivered = s.delivered ∧
      (s.route r).set.nextId = s.set.nextId ∧ (s.route r).set.ids = s.set.ids := by
  rcases r with _ | (st | d | c | c)
  · exact ⟨rfl, rfl, rfl, rfl, rfl, rfl, rfl⟩
  · exact ⟨rfl, rfl, rfl, rfl, rfl, rfl, rfl⟩
  all_goals
    simp only [route]
    rcases setCall_cases s _ _ with ⟨-, h⟩ | ⟨e, -, h⟩ <;> rw [h]
    · exact ⟨rfl, rfl, rfl, rfl, rfl, rfl, by simp⟩
    · exact ⟨rfl, rfl, rfl, rfl, rfl, rfl, rfl⟩

/-- A target stream's send panics on the closed `replyChan`, or meets the send pump. -/
theorem taskSend_cases {id : Nat} {msg : ProxyReply} {pc : TaskPc}
    (h : s.taskSend id msg pc = some s') :
    (s.replyClosed = true ∧ s' = { s with panicked := true }) ∨
    (s.replyClosed = false ∧ s.sender = .recv ∧
      s' = { s.setTask id pc with sender := .send msg, put := s.put ++ [msg] }) := by
  unfold taskSend at h
  split at h
  · exact .inl ⟨‹_›, (Option.some.inj h).symm⟩
  · split at h
    · exact .inr
        ⟨by simpa using ‹¬s.replyClosed = true›, ‹_›, (Option.some.inj h).symm⟩
    · cases h

/-- A target stream that has a program counter appears in the task list with it. -/
theorem taskPc_mem {id : Nat} {pc : TaskPc} (h : s.taskPc id = some pc) :
    ∃ t ∈ s.tasks, t.pc = pc := by
  obtain ⟨t, ht, rfl⟩ := Option.map_eq_some'.1 h
  exact ⟨t, List.mem_of_find?_eq_some ht, rfl⟩

/-- Once every target stream has returned, every program counter found is `exited`. -/
theorem taskPc_allTasksExited (hall : s.allTasksExited = true) {id : Nat} {pc : TaskPc}
    (h : s.taskPc id = some pc) : pc = .exited := by
  obtain ⟨t, ht, rfl⟩ := taskPc_mem h
  simpa using List.all_eq_true.1 hall t ht

/-- The program counter of a target stream depends on the task list alone. -/
theorem taskPc_congr {s' : Session} (ht : s'.tasks = s.tasks) (id : Nat) :
    s'.taskPc id = s.taskPc id := by
  rw [taskPc, taskPc, ht]

/-- Moving a target stream gives it the new program counter. -/
theorem taskPc_setTask_self {id : Nat} {pc₀ : TaskPc} (pc : TaskPc)
    (h : s.taskPc id = some pc₀) : (s.setTask id pc).taskPc id = some pc := by
  obtain ⟨t, ht, -⟩ := Option.map_eq_some'.1 h
  have hid : ∀ u : Task, (if u.id = id then { u with pc := pc } else u).id = u.id := fun u => by
    split <;> rfl
  have htid : t.id = id := by simpa using List.find?_some ht
  simp only [taskPc, setTask, List.find?_map, Function.comp_def, hid, ht, Option.map_some',
    htid, if_true]

/-- Moving one target stream leaves the program counter of every other stream as it was. -/
theorem taskPc_setTask_ne {id id' : Nat} (pc : TaskPc) (hne : id ≠ id') :
    (s.setTask id' pc).taskPc id = s.taskPc id := by
  simp only [taskPc, setTask]
  induction s.tasks with
  | nil => rfl
  | cons t ts ih =>
      by_cases ht : t.id = id'
      · have h1 : ¬ t.id = id := fun h => hne (h ▸ ht)
        rw [List.map_cons, if_pos ht]
        simp only [List.find?_cons, h1, decide_False]
        exact ih
      · rw [List.map_cons, if_neg ht]
        by_cases h1 : t.id = id
        · simp only [List.find?_cons, h1, decide_True]
        · simp only [List.find?_cons, h1, decide_False]
          exact ih

end Session

open Session

/-! ## One lemma per action -/

theorem stepLive_recvFrame {req : ProxyRequest} (h : stepLive sm s (.recvFrame req) = some s') :
    s.recv = .recv ∧ s' = { s with recv := .offer req, received := s.received ++ [req] } := by
  simp only [stepLive] at h
  split at h
  · exact ⟨‹_›, (Option.some.inj h).symm⟩
  · cases h

theorem stepLive_recvEOF (h : stepLive sm s .recvEOF = some s') :
    s.recv = .recv ∧ s' = { s with recv := .exited none } := by
  simp only [stepLive] at h
  split at h
  · exact ⟨‹_›, (Option.some.inj h).symm⟩
  · cases h

theorem stepLive_recvError {msg : String} (h : stepLive sm s (.recvError msg) = some s') :
    s.recv = .recv ∧
      s' = ({ s with recv := .exited (some (.recv msg)) }).fail (some (.recv msg)) := by
  simp only [stepLive] at h
  split at h
  · exact ⟨‹_›, (Option.some.inj h).symm⟩
  · cases h

theorem stepLive_recvCanceled (h : stepLive sm s .recvCanceled = some s') :
    (∃ req, s.recv = .offer req) ∧ s.ctxDone = true ∧
      s' = ({ s with recv := .exited (some .canceled) }).fail (some .canceled) := by
  simp only [stepLive] at h
  split at h
  · exact ⟨⟨_, ‹_›⟩, ‹_›, (Option.some.inj h).symm⟩
  · cases h

theorem stepLive_dispatch (h : stepLive sm s .dispatch = some s') :
    ∃ req, s.recv = .offer req ∧ s.disp = .select ∧
      s' = ({ s with recv := .recv, delivered := s.delivered ++ [req] }).route req.request := by
  simp only [stepLive] at h
  split at h
  · exact ⟨_, ‹_›, ‹_›, (Option.some.inj h).symm⟩
  · cases h

theorem stepLive_dispCanceled (h : stepLive sm s .dispCanceled = some s') :
    s.disp = .select ∧ s.ctxDone = true ∧ s' = s.exitDispatch (some .canceled) := by
  simp only [stepLive] at h
  split at h
  · exact ⟨‹_›, ‹_›, (Option.some.inj h).symm⟩
  · cases h

theorem stepLive_dispRemove {id : Nat} (h : stepLive sm s (.dispRemove id) = some s') :
    s.disp = .select ∧ s.taskPc id = some .publish ∧
      s' = { s.setTask id .exited with set := s.set.remove id } := by
  simp only [stepLive] at h
  split at h
  · exact ⟨‹_›, ‹_›, (Option.some.inj h).symm⟩
  · cases h

theorem stepLive_dispClosed (h : stepLive sm s .dispClosed = some s') :
    s.disp = .select ∧ s.requestClosed = true ∧
      s' = { s with disp := .wait, set := s.set.clientCloseAll,
                    calls := s.calls ++ [Call.mk .clientCloseAll none, Call.mk .wait none] } := by
  simp only [stepLive] at h
  split at h
  · exact ⟨‹_›, ‹_›, (Option.some.inj h).symm⟩
  · cases h

theorem stepLive_addReply {refusal : Option Status}
    (h : stepLive sm s (.addReply refusal) = some s') :
    ∃ st, s.disp = .add st ∧ s.sender = .recv ∧
      s' = s.addDone st (startResult sm st refusal s.set.nextId) := by
  simp only [stepLive] at h
  split at h
  · exact ⟨_, ‹_›, ‹_›, (Option.some.inj h).symm⟩
  · cases h

theorem stepLive_waitReturn (h : stepLive sm s .waitReturn = some s') :
    s.disp = .wait ∧ s.allTasksExited = true ∧
      s' = s.exitDispatch (if s.ctxDone then some .canceled else none) := by
  simp only [stepLive] at h
  split at h
  · exact ⟨‹_›, ‹_›, (Option.some.inj h).symm⟩
  · cases h

theorem stepLive_sendOk (h : stepLive sm s .sendOk = some s') :
    ∃ msg, s.sender = .send msg ∧ s' = { s with sender := .recv, sent := s.sent ++ [msg] } := by
  simp only [stepLive] at h
  split at h
  · exact ⟨_, ‹_›, (Option.some.inj h).symm⟩
  · cases h

theorem stepLive_sendError {e : String} (h : stepLive sm s (.sendError e) = some s') :
    ∃ msg, s.sender = .send msg ∧
      s' = ({ s with sender := .exited (some (.send e)), sent := s.sent ++ [msg] }).fail
        (some (.send e)) := by
  simp only [stepLive] at h
  split at h
  · exact ⟨_, ‹_›, (Option.some.inj h).symm⟩
  · cases h

theorem stepLive_sendClosed (h : stepLive sm s .sendClosed = some s') :
    s.sender = .recv ∧ s.replyClosed = true ∧ s' = { s with sender := .exited none } := by
  simp only [stepLive] at h
  split at h
  · exact ⟨‹_›, ‹_›, (Option.some.inj h).symm⟩
  · cases h

theorem stepLive_taskData {id : Nat} {p : Any} (h : stepLive sm s (.taskData id p) = some s') :
    s.taskPc id = some .relay ∧ s.taskSend id (.streamData id p) .relay = some s' := by
  simp only [stepLive] at h
  split at h
  · exact ⟨‹_›, h⟩
  · cases h

theorem stepLive_taskClose {id : Nat} {st : Status}
    (h : stepLive sm s (.taskClose id st) = some s') :
    s.taskPc id = some .relay ∧ s.taskSend id (.serverClose id st) .publish = some s' := by
  simp only [stepLive] at h
  split at h
  · exact ⟨‹_›, h⟩
  · cases h

theorem stepLive_cancel (h : stepLive sm s .cancel = some s') :
    s.ctxDone = false ∧ s' = { s with ctxDone := true } := by
  simp only [stepLive] at h
  split at h
  · exact ⟨‹_›, (Option.some.inj h).symm⟩
  · cases h

/-! ## Moves by goroutine -/

/-- The goroutine an action moves: `receive`, the dispatcher, the send pump, a target stream, or
the client, whose cancellation ends the call's context. -/
inductive Mover where
  | receive
  | dispatcher
  | sender
  | task
  | client
  deriving DecidableEq, Repr

/-- The goroutine each action moves. -/
def Action.mover : Action → Mover
  | .recvFrame _ | .recvEOF | .recvError _ | .recvCanceled => .receive
  | .dispatch | .dispCanceled | .dispRemove _ | .dispClosed | .addReply _ | .waitReturn =>
      .dispatcher
  | .sendOk | .sendError _ | .sendClosed => .sender
  | .taskData _ _ | .taskClose _ _ => .task
  | .cancel => .client

variable {a : Action}

/-- `receive` moves only while it runs: `requestChan` is still open. -/
theorem stepLive_receive_guard (h : stepLive sm s a = some s') (ha : a.mover = .receive) :
    s.requestClosed = false := by
  cases a with
  | recvFrame _ => simp [requestClosed, (stepLive_recvFrame h).1]
  | recvEOF => simp [requestClosed, (stepLive_recvEOF h).1]
  | recvError _ => simp [requestClosed, (stepLive_recvError h).1]
  | recvCanceled =>
      obtain ⟨⟨_, hr⟩, -⟩ := stepLive_recvCanceled h
      simp [requestClosed, hr]
  | _ => cases ha

/-- The dispatcher moves from its select, or in `Add` hands the reply to a send pump waiting on
`replyChan`, or returns from `Wait` once every target stream has returned. -/
theorem stepLive_dispatcher_guard (h : stepLive sm s a = some s') (ha : a.mover = .dispatcher) :
    s.disp = .select ∨ (∃ st, s.disp = .add st ∧ s.sender = .recv) ∨
      (s.disp = .wait ∧ s.allTasksExited = true) := by
  cases a with
  | dispatch => exact .inl (stepLive_dispatch h).choose_spec.2.1
  | dispCanceled => exact .inl (stepLive_dispCanceled h).1
  | dispRemove _ => exact .inl (stepLive_dispRemove h).1
  | dispClosed => exact .inl (stepLive_dispClosed h).1
  | addReply _ =>
      obtain ⟨st, hd, hs, -⟩ := stepLive_addReply h
      exact .inr (.inl ⟨st, hd, hs⟩)
  | waitReturn =>
      obtain ⟨hd, hw, -⟩ := stepLive_waitReturn h
      exact .inr (.inr ⟨hd, hw⟩)
  | _ => cases ha

/-- The send pump moves from `stream.Send`, or finds `replyChan` closed. -/
theorem stepLive_sender_guard (h : stepLive sm s a = some s') (ha : a.mover = .sender) :
    (∃ msg, s.sender = .send msg) ∨ (s.sender = .recv ∧ s.replyClosed = true) := by
  cases a with
  | sendOk => exact .inl ⟨_, (stepLive_sendOk h).choose_spec.1⟩
  | sendError _ => exact .inl ⟨_, (stepLive_sendError h).choose_spec.1⟩
  | sendClosed => exact .inr ⟨(stepLive_sendClosed h).1, (stepLive_sendClosed h).2.1⟩
  | _ => cases ha

/-- A target stream's move: stream `id`, relaying, sends a payload or its final `ServerClose` on
`replyChan`, and relays on or turns to publishing its id. -/
theorem stepLive_task (h : stepLive sm s a = some s') (ha : a.mover = .task) :
    ∃ id msg pc, s.taskPc id = some .relay ∧ s.taskSend id msg pc = some s' ∧
      ((∃ p, msg = .streamData id p ∧ pc = .relay) ∨
        ∃ st, msg = .serverClose id st ∧ pc = .publish) := by
  cases a with
  | taskData id p =>
      exact ⟨id, _, _, (stepLive_taskData h).1, (stepLive_taskData h).2, .inl ⟨p, rfl, rfl⟩⟩
  | taskClose id st =>
      exact ⟨id, _, _, (stepLive_taskClose h).1, (stepLive_taskClose h).2, .inr ⟨st, rfl, rfl⟩⟩
  | _ => cases ha

/-- Only the dispatcher moves its program counter, changes the stream set, makes calls on it and
takes frames from `requestChan`. -/
theorem stepLive_dispatcher_frame (h : stepLive sm s a = some s') (ha : a.mover ≠ .dispatcher) :
    s'.disp = s.disp ∧ s'.set = s.set ∧ s'.calls = s.calls ∧ s'.delivered = s.delivered := by
  cases a with
  | recvFrame _ => obtain ⟨-, rfl⟩ := stepLive_recvFrame h; exact ⟨rfl, rfl, rfl, rfl⟩
  | recvEOF => obtain ⟨-, rfl⟩ := stepLive_recvEOF h; exact ⟨rfl, rfl, rfl, rfl⟩
  | recvError _ => obtain ⟨-, rfl⟩ := stepLive_recvError h; exact ⟨rfl, rfl, rfl, rfl⟩
  | recvCanceled => obtain ⟨-, -, rfl⟩ := stepLive_recvCanceled h; exact ⟨rfl, rfl, rfl, rfl⟩
  | sendOk => obtain ⟨_, -, rfl⟩ := stepLive_sendOk h; exact ⟨rfl, rfl, rfl, rfl⟩
  | sendError _ => obtain ⟨_, -, rfl⟩ := stepLive_sendError h; exact ⟨rfl, rfl, rfl, rfl⟩
  | sendClosed => obtain ⟨-, -, rfl⟩ := stepLive_sendClosed h; exact ⟨rfl, rfl, rfl, rfl⟩
  | taskData _ _ | taskClose _ _ =>
      obtain ⟨_, _, _, -, hs, -⟩ := stepLive_task h rfl
      rcases taskSend_cases hs with ⟨-, rfl⟩ | ⟨-, -, rfl⟩ <;> exact ⟨rfl, rfl, rfl, rfl⟩
  | cancel => obtain ⟨-, rfl⟩ := stepLive_cancel h; exact ⟨rfl, rfl, rfl, rfl⟩
  | _ => exact (ha rfl).elim

/-- Only `receive` and the send pump return: a move of any other goroutine leaves each pump
returned with its error, or not returned. -/
theorem stepLive_pumps_frame (h : stepLive sm s a = some s') :
    (a.mover ≠ .receive → ∀ e, s'.recv = .exited e ↔ s.recv = .exited e) ∧
      (a.mover ≠ .sender → ∀ e, s'.sender = .exited e ↔ s.sender = .exited e) := by
  have keep : s'.recv = s.recv → s'.sender = s.sender →
      (a.mover ≠ .receive → ∀ e, s'.recv = .exited e ↔ s.recv = .exited e) ∧
        (a.mover ≠ .sender → ∀ e, s'.sender = .exited e ↔ s.sender = .exited e) :=
    fun hr hs => ⟨fun _ e => by rw [hr], fun _ e => by rw [hs]⟩
  have own_recv : a.mover = .receive → s'.sender = s.sender →
      (a.mover ≠ .receive → ∀ e, s'.recv = .exited e ↔ s.recv = .exited e) ∧
        (a.mover ≠ .sender → ∀ e, s'.sender = .exited e ↔ s.sender = .exited e) :=
    fun ha hs => ⟨fun h' => (h' ha).elim, fun _ e => by rw [hs]⟩
  have own_send : a.mover = .sender → s'.recv = s.recv →
      (a.mover ≠ .receive → ∀ e, s'.recv = .exited e ↔ s.recv = .exited e) ∧
        (a.mover ≠ .sender → ∀ e, s'.sender = .exited e ↔ s.sender = .exited e) :=
    fun ha hr => ⟨fun _ e => by rw [hr], fun h' => (h' ha).elim⟩
  cases a with
  | recvFrame _ => obtain ⟨-, rfl⟩ := stepLive_recvFrame h; exact own_recv rfl rfl
  | recvEOF => obtain ⟨-, rfl⟩ := stepLive_recvEOF h; exact own_recv rfl rfl
  | recvError _ => obtain ⟨-, rfl⟩ := stepLive_recvError h; exact own_recv rfl rfl
  | recvCanceled => obtain ⟨-, -, rfl⟩ := stepLive_recvCanceled h; exact own_recv rfl rfl
  | dispatch =>
      obtain ⟨req, hr, -, rfl⟩ := stepLive_dispatch h
      obtain ⟨hr', hs', -⟩ :=
        route_frame (s := { s with recv := .recv, delivered := s.delivered ++ [req] }) req.request
      exact ⟨fun _ e => by rw [hr', hr]; simp, fun _ e => by rw [hs']⟩
  | dispCanceled => obtain ⟨-, -, rfl⟩ := stepLive_dispCanceled h; exact keep rfl rfl
  | dispRemove _ => obtain ⟨-, -, rfl⟩ := stepLive_dispRemove h; exact keep rfl rfl
  | dispClosed => obtain ⟨-, -, rfl⟩ := stepLive_dispClosed h; exact keep rfl rfl
  | addReply _ =>
      obtain ⟨_, -, hs, rfl⟩ := stepLive_addReply h
      exact ⟨fun _ e => Iff.rfl, fun _ e => by simp [addDone, hs]⟩
  | waitReturn =>
      obtain ⟨-, -, rfl⟩ := stepLive_waitReturn h
      exact keep (by simp [exitDispatch]) (by simp [exitDispatch])
  | sendOk => obtain ⟨_, -, rfl⟩ := stepLive_sendOk h; exact own_send rfl rfl
  | sendError _ => obtain ⟨_, -, rfl⟩ := stepLive_sendError h; exact own_send rfl rfl
  | sendClosed => obtain ⟨-, -, rfl⟩ := stepLive_sendClosed h; exact own_send rfl rfl
  | taskData _ _ | taskClose _ _ =>
      obtain ⟨_, _, _, -, hs, -⟩ := stepLive_task h rfl
      rcases taskSend_cases hs with ⟨-, rfl⟩ | ⟨-, hsr, rfl⟩
      · exact keep rfl rfl
      · exact ⟨fun _ e => Iff.rfl, fun _ e => by simp [hsr]⟩
  | cancel => obtain ⟨-, rfl⟩ := stepLive_cancel h; exact keep rfl rfl

/-- The errgroup's error and the cancellation of its context only ever appear: every move keeps
them, and a move that records an error cancels the context. -/
theorem stepLive_group (h : stepLive sm s a = some s') :
    (s.groupErr.isSome = true → s'.groupErr.isSome = true) ∧
      (s.ctxDone = true → s'.ctxDone = true) ∧ (s'.groupErr = s.groupErr ∨ s'.ctxDone = true) := by
  have fail : ∀ (t : Session) (e : Option GoError), t.groupErr = s.groupErr →
      t.ctxDone = s.ctxDone →
      (s.groupErr.isSome = true → (t.fail e).groupErr.isSome = true) ∧
        (s.ctxDone = true → (t.fail e).ctxDone = true) ∧
        ((t.fail e).groupErr = s.groupErr ∨ (t.fail e).ctxDone = true) := by
    intro t e hg hc
    cases e with
    | none => exact ⟨by simp [hg], by simp [hc], .inl (by simp [hg])⟩
    | some e => exact ⟨fun _ => rfl, fun _ => rfl, .inr rfl⟩
  have keep := fail s none rfl rfl
  cases a with
  | recvFrame _ => obtain ⟨-, rfl⟩ := stepLive_recvFrame h; exact keep
  | recvEOF => obtain ⟨-, rfl⟩ := stepLive_recvEOF h; exact keep
  | recvError _ => obtain ⟨-, rfl⟩ := stepLive_recvError h; exact fail _ _ rfl rfl
  | recvCanceled => obtain ⟨-, -, rfl⟩ := stepLive_recvCanceled h; exact fail _ _ rfl rfl
  | dispatch =>
      obtain ⟨_, -, -, rfl⟩ := stepLive_dispatch h
      rcases route_cases { s with recv := .recv, delivered := _ } _ with
        ⟨_, -, he⟩ | ⟨_, _, -, he⟩ | ⟨_, _, -, he⟩ | ⟨-, he⟩ <;> rw [he]
      · exact keep
      · exact keep
      · exact fail _ _ rfl rfl
      · exact fail _ _ rfl rfl
  | dispCanceled => obtain ⟨-, -, rfl⟩ := stepLive_dispCanceled h; exact fail _ _ rfl rfl
  | dispRemove _ => obtain ⟨-, -, rfl⟩ := stepLive_dispRemove h; exact keep
  | dispClosed => obtain ⟨-, -, rfl⟩ := stepLive_dispClosed h; exact keep
  | addReply _ => obtain ⟨_, -, -, rfl⟩ := stepLive_addReply h; exact keep
  | waitReturn => obtain ⟨-, -, rfl⟩ := stepLive_waitReturn h; exact fail _ _ rfl rfl
  | sendOk => obtain ⟨_, -, rfl⟩ := stepLive_sendOk h; exact keep
  | sendError _ => obtain ⟨_, -, rfl⟩ := stepLive_sendError h; exact fail _ _ rfl rfl
  | sendClosed => obtain ⟨-, -, rfl⟩ := stepLive_sendClosed h; exact keep
  | taskData _ _ | taskClose _ _ =>
      obtain ⟨_, _, _, -, hs, -⟩ := stepLive_task h rfl
      rcases taskSend_cases hs with ⟨-, rfl⟩ | ⟨-, -, rfl⟩ <;> exact keep
  | cancel => obtain ⟨-, rfl⟩ := stepLive_cancel h; exact ⟨id, fun _ => rfl, .inr rfl⟩

/-- The actions that start, move or end a target stream or put a frame on `replyChan`. -/
def Action.streamMove : Action → Bool
  | .addReply _ | .dispRemove _ | .taskData _ _ | .taskClose _ _ => true
  | _ => false

/-- Every other action leaves the target streams, the frames on `replyChan`, and the ids and
next id of the set as they were. -/
theorem stepLive_frame {a : Action} (h : stepLive sm s a = some s') (ha : a.streamMove = false) :
    s'.tasks = s.tasks ∧ s'.put = s.put ∧ s'.set.nextId = s.set.nextId ∧
      s'.set.ids = s.set.ids := by
  cases a with
  | recvFrame _ => obtain ⟨-, rfl⟩ := stepLive_recvFrame h; exact ⟨rfl, rfl, rfl, rfl⟩
  | recvEOF => obtain ⟨-, rfl⟩ := stepLive_recvEOF h; exact ⟨rfl, rfl, rfl, rfl⟩
  | recvError _ => obtain ⟨-, rfl⟩ := stepLive_recvError h; exact ⟨rfl, rfl, rfl, rfl⟩
  | recvCanceled => obtain ⟨-, -, rfl⟩ := stepLive_recvCanceled h; exact ⟨rfl, rfl, rfl, rfl⟩
  | dispatch =>
      obtain ⟨_, -, -, rfl⟩ := stepLive_dispatch h
      obtain ⟨-, -, ht, hp, -, hn, hids⟩ :=
        route_frame (s := { s with recv := .recv, delivered := _ }) _
      exact ⟨ht, hp, hn, hids⟩
  | dispCanceled => obtain ⟨-, -, rfl⟩ := stepLive_dispCanceled h; exact ⟨rfl, rfl, rfl, rfl⟩
  | dispClosed => obtain ⟨-, -, rfl⟩ := stepLive_dispClosed h; exact ⟨rfl, rfl, rfl, by simp⟩
  | waitReturn => obtain ⟨-, -, rfl⟩ := stepLive_waitReturn h; simp [exitDispatch]
  | sendOk => obtain ⟨_, -, rfl⟩ := stepLive_sendOk h; exact ⟨rfl, rfl, rfl, rfl⟩
  | sendError _ => obtain ⟨_, -, rfl⟩ := stepLive_sendError h; exact ⟨rfl, rfl, rfl, rfl⟩
  | sendClosed => obtain ⟨-, -, rfl⟩ := stepLive_sendClosed h; exact ⟨rfl, rfl, rfl, rfl⟩
  | cancel => obtain ⟨-, rfl⟩ := stepLive_cancel h; exact ⟨rfl, rfl, rfl, rfl⟩
  | _ => cases ha

/-- A move of `receive`, the send pump or the client moves no target stream and puts nothing on
`replyChan`. -/
theorem stepLive_pump_frame (h : stepLive sm s a = some s') (hd : a.mover ≠ .dispatcher)
    (ht : a.mover ≠ .task) : s'.tasks = s.tasks ∧ s'.put = s.put := by
  have hs : a.streamMove = false := by
    cases a <;> first | rfl | exact (hd rfl).elim | exact (ht rfl).elim
  obtain ⟨htasks, hput, -⟩ := stepLive_frame h hs
  exact ⟨htasks, hput⟩

/-- Only `Add` puts a `StartStreamReply` on `replyChan`: a move of any goroutine but the
dispatcher puts at most one frame, a target stream's payload or `ServerClose`. -/
theorem stepLive_put (h : stepLive sm s a = some s') (ha : a.mover ≠ .dispatcher) :
    s'.put = s.put ∨ ∃ id, (∃ p, s'.put = s.put ++ [.streamData id p]) ∨
      ∃ st, s'.put = s.put ++ [.serverClose id st] := by
  by_cases ht : a.mover = .task
  · obtain ⟨id, _, _, -, hs, hm⟩ := stepLive_task h ht
    rcases taskSend_cases hs with ⟨-, rfl⟩ | ⟨-, -, rfl⟩
    · exact .inl rfl
    · rcases hm with ⟨p, rfl, -⟩ | ⟨st, rfl, -⟩
      · exact .inr ⟨id, .inl ⟨p, rfl⟩⟩
      · exact .inr ⟨id, .inr ⟨st, rfl⟩⟩
  · exact .inl (stepLive_pump_frame h ha ht).2

end Proxy
end Sansshell
