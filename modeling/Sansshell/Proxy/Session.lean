import Sansshell.Proxy.StreamSet

/-!
# Session — `Proxy` as a system of goroutines

`server.Proxy` runs three goroutines under one errgroup (`send`, `receive`, `dispatch`) and
`streamSet.Add` starts one more per accepted target stream. This module gives the session as
a step function over the program counters of all of them, the errgroup's context and first
error, and the two unbuffered channels `requestChan` and `replyChan`; an unbuffered send is
one step together with the receive it meets.

* `RecvPc`, `DispPc`, `SendPc`, `TaskPc` — where each goroutine is. `requestChan` is closed
  exactly when `receive` has returned (its deferred `close`), `replyChan` exactly when
  `dispatch` has returned (the dispatcher goroutine's deferred `close`).
* `step sm s a` — the state after the enabled action `a`, `none` when `a` is not enabled.
  Actions carry the environment's choices: the frames the client sends, backend replies,
  the result of every `Send`.
* A send on the closed `replyChan` panics, and a panic ends the whole process: `panicked`
  is set and nothing is enabled after it.
* `received`, `delivered`, `calls`, `put` and `sent` record the observable history: frames
  returned by `stream.Recv`, frames the dispatcher took from `requestChan`, stream-set calls
  with their results, frames handed over on `replyChan`, and frames passed to `stream.Send`.
-/

namespace Sansshell
namespace Proxy

/-! ## Goroutines -/

/-- The `receive` goroutine, with its deferred `close(requestChan)`: blocked in `stream.Recv()`
(`recv`), in the `select` offering `req` on `requestChan` against `ctx.Done()` (`offer req`), or
returned `err`, which closes `requestChan` (`exited err`). -/
inductive RecvPc where
  | recv
  | offer (req : ProxyRequest)
  | exited (err : Option GoError)
  deriving DecidableEq, Repr

/-- The dispatching goroutine, `dispatch` with its deferred `close(replyChan)`: in the `select`
over `ctx.Done()`, `doneChan` and `requestChan` (`select`), in `streamSet.Add` handing the
`StartStreamReply` for `s` to `replyChan` (`add s`), in `streamSet.Wait()` after
`ClientCloseAll()` (`wait`), or returned `err`, which closes `replyChan` (`exited err`). -/
inductive DispPc where
  | select
  | add (s : StartStream)
  | wait
  | exited (err : Option GoError)
  deriving DecidableEq, Repr

/-- The `send` goroutine: ranging over `replyChan` (`recv`), in `stream.Send(msg)`
(`send msg`), or returned `err` (`exited err`). -/
inductive SendPc where
  | recv
  | send (msg : ProxyReply)
  | exited (err : Option GoError)
  deriving DecidableEq, Repr

/-- Modelled from the spec: a target-stream goroutine started by `Add`, relaying its backend's
replies on `replyChan` (`relay`), publishing its id on `doneChan` after its `ServerClose`
(`publish`), or published and returned (`exited`). -/
inductive TaskPc where
  | relay
  | publish
  | exited
  deriving DecidableEq, Repr

/-- A target-stream goroutine and the stream id it serves. -/
structure Task where
  id : Nat
  pc : TaskPc
  deriving DecidableEq, Repr

/-- The target-stream goroutine a `StartStreamReply` result starts: one for a stream id. -/
def StartResult.launched : StartResult → List Task
  | .streamId id => [⟨id, .relay⟩]
  | .errorStatus _ => []

/-- One stream-set call with the protocol error it returned, if any. -/
structure Call where
  op : Op
  err : Option ProtocolError
  deriving DecidableEq, Repr

/-- The whole session. -/
structure Session where
  recv : RecvPc
  disp : DispPc
  sender : SendPc
  tasks : List Task
  set : TargetStreamSet
  ctxDone : Bool
  groupErr : Option GoError
  panicked : Bool
  received : List ProxyRequest
  delivered : List ProxyRequest
  calls : List Call
  put : List ProxyReply
  sent : List ProxyReply
  deriving DecidableEq, Repr

/-- The environment's and the goroutines' moves.

* `receive`: `stream.Recv()` returns `req` (`recvFrame req`), returns `io.EOF` and `receive`
  returns nil (`recvEOF`), or returns another error, which `receive` returns (`recvError msg`);
  or the `receive` select takes `ctx.Done()` (`recvCanceled`).
* The dispatcher: it takes the offered frame from `requestChan` and handles it (`dispatch`),
  its select takes `ctx.Done()` (`dispCanceled`), takes `id` from `doneChan` and calls `Remove`
  (`dispRemove id`), or finds `requestChan` closed (`dispClosed`); `Add` hands its
  `StartStreamReply` over, `refusal` being a dial or authorization failure
  (`addReply refusal`); `Wait()` returns (`waitReturn`).
* The send pump: `stream.Send(msg)` succeeds (`sendOk`) or fails, and `send` returns the error
  (`sendError msg`); the `range` over the closed `replyChan` ends (`sendClosed`).
* Target stream `id` relays a backend payload (`taskData id payload`) or sends its final
  `ServerClose` (`taskClose id status`).
* The client's call context, `stream.Context()`, is cancelled (`cancel`). -/
inductive Action where
  | recvFrame (req : ProxyRequest)
  | recvEOF
  | recvError (msg : String)
  | recvCanceled
  | dispatch
  | dispCanceled
  | dispRemove (id : Nat)
  | dispClosed
  | addReply (refusal : Option Status)
  | waitReturn
  | sendOk
  | sendError (msg : String)
  | sendClosed
  | taskData (id : Nat) (payload : Any)
  | taskClose (id : Nat) (status : Status)
  | cancel
  deriving DecidableEq, Repr

/-! ## Derived state -/

namespace Session

/-- The session `Proxy` starts: three goroutines at their first blocking point. -/
def init : Session :=
  { recv := .recv, disp := .select, sender := .recv, tasks := [], set := .empty,
    ctxDone := false, groupErr := none, panicked := false,
    received := [], delivered := [], calls := [], put := [], sent := [] }

/-- Whether `requestChan` is closed: `receive` has returned. -/
def requestClosed (s : Session) : Bool :=
  match s.recv with
  | .exited _ => true
  | _ => false

/-- Whether `replyChan` is closed: `dispatch` has returned. -/
def replyClosed (s : Session) : Bool :=
  match s.disp with
  | .exited _ => true
  | _ => false

/-- The errgroup records what a goroutine returned: the first non-nil error is kept and
cancels the group's context. -/
def fail (s : Session) : Option GoError → Session
  | none => s
  | some e => { s with groupErr := some (s.groupErr.getD e), ctxDone := true }

/-- The program counter of target stream `id`, if `Add` started one. -/
def taskPc (s : Session) (id : Nat) : Option TaskPc :=
  (s.tasks.find? (·.id = id)).map Task.pc

/-- Move target stream `id` to `pc`. -/
def setTask (s : Session) (id : Nat) (pc : TaskPc) : Session :=
  { s with tasks := s.tasks.map fun t => if t.id = id then { t with pc := pc } else t }

/-- The dispatcher returns `err`. -/
def exitDispatch (s : Session) (err : Option GoError) : Session :=
  ({ s with disp := .exited err }).fail err

/-- Log a stream-set call; on a protocol error `dispatch` returns it, otherwise the set is
updated and the loop goes on. -/
def setCall (s : Session) (op : Op) (r : TargetStreamSet × Option ProtocolError) : Session :=
  let s : Session := { s with calls := s.calls ++ [⟨op, r.2⟩] }
  match r.2 with
  | some e => s.exitDispatch (some (.protocol e))
  | none => { s with set := r.1 }

/-- The body of `dispatch`'s type switch for one received frame. -/
def route (s : Session) : Option Request → Session
  | some (.startStream st) => { s with calls := s.calls ++ [⟨.add st, none⟩], disp := .add st }
  | some (.streamData d) => s.setCall (.send d) (s.set.send d)
  | some (.clientCancel c) => s.setCall (.cancel c) (s.set.cancel c)
  | some (.clientClose c) => s.setCall (.clientClose c) (s.set.clientClose c)
  | none => s.exitDispatch (some .unhandled)

/-- Modelled from the spec: the `StartStreamReply` of `Add` and whether a stream starts. An
unknown method is `UNIMPLEMENTED`; a refusal (dial or authorization) is reported as is. -/
def startResult (sm : List String) (st : StartStream) (refusal : Option Status)
    (id : Nat) : StartResult :=
  if st.methodName ∈ sm then
    match refusal with
    | some status => .errorStatus status
    | none => .streamId id
  else .errorStatus ⟨.unimplemented, st.methodName⟩

/-- The call `Add` hands its reply to the send pump and, on success, starts the target
stream. -/
def addDone (s : Session) (st : StartStream) (r : StartResult) : Session :=
  let reply := ProxyReply.startStreamReply ⟨st.target, st.nonce, r⟩
  { s with sender := .send reply, put := s.put ++ [reply], disp := .select,
           tasks := s.tasks ++ r.launched, set := if r.launched = [] then s.set else s.set.insert }

/-- Target stream `id` sends `msg` on `replyChan` and moves to `pc`: a send on the closed
channel panics, otherwise the send meets the send pump's receive. -/
def taskSend (s : Session) (id : Nat) (msg : ProxyReply) (pc : TaskPc) : Option Session :=
  if s.replyClosed then some { s with panicked := true }
  else
    match s.sender with
    | .recv => some { s.setTask id pc with sender := .send msg, put := s.put ++ [msg] }
    | _ => none

/-- Every target stream `Add` started has returned. -/
def allTasksExited (s : Session) : Bool :=
  s.tasks.all (·.pc = .exited)

end Session

/-! ## Steps -/

open Session in
/-- One move of the live session (`sm` is the service map's method names). A `select` takes any
of its ready cases. Go chooses at random among the cases ready when a goroutine reaches its
`select`, but commits a goroutine already parked there to the case that wakes it; the step does
not record parking, so the session has every run of the code and some more. Statements over all
runs therefore hold of the code, and the schedules the existence statements exhibit give each
`select` the case that wakes it or its one ready case. -/
def stepLive (sm : List String) (s : Session) : Action → Option Session
  | .recvFrame req =>
      match s.recv with
      | .recv => some { s with recv := .offer req, received := s.received ++ [req] }
      | _ => none
  | .recvEOF =>
      match s.recv with
      | .recv => some { s with recv := .exited none }
      | _ => none
  | .recvError msg =>
      match s.recv with
      | .recv => some (({ s with recv := .exited (some (.recv msg)) }).fail (some (.recv msg)))
      | _ => none
  | .recvCanceled =>
      match s.recv, s.ctxDone with
      | .offer _, true => some (({ s with recv := .exited (some .canceled) }).fail (some .canceled))
      | _, _ => none
  | .dispatch =>
      match s.recv, s.disp with
      | .offer req, .select =>
          some (({ s with recv := .recv, delivered := s.delivered ++ [req] }).route req.request)
      | _, _ => none
  | .dispCanceled =>
      match s.disp, s.ctxDone with
      | .select, true => some (s.exitDispatch (some .canceled))
      | _, _ => none
  | .dispRemove id =>
      match s.disp, s.taskPc id with
      | .select, some .publish => some { s.setTask id .exited with set := s.set.remove id }
      | _, _ => none
  | .dispClosed =>
      match s.disp, s.requestClosed with
      | .select, true =>
          some { s with disp := .wait, set := s.set.clientCloseAll,
                        calls := s.calls ++ [⟨.clientCloseAll, none⟩, ⟨.wait, none⟩] }
      | _, _ => none
  | .addReply refusal =>
      match s.disp, s.sender with
      | .add st, .recv => some (s.addDone st (startResult sm st refusal s.set.nextId))
      | _, _ => none
  | .waitReturn =>
      match s.disp, s.allTasksExited with
      | .wait, true => some (s.exitDispatch (if s.ctxDone then some .canceled else none))
      | _, _ => none
  | .sendOk =>
      match s.sender with
      | .send msg => some { s with sender := .recv, sent := s.sent ++ [msg] }
      | _ => none
  | .sendError e =>
      match s.sender with
      | .send msg =>
          some (({ s with sender := .exited (some (.send e)), sent := s.sent ++ [msg] }).fail
            (some (.send e)))
      | _ => none
  | .sendClosed =>
      match s.sender, s.replyClosed with
      | .recv, true => some { s with sender := .exited none }
      | _, _ => none
  | .taskData id p =>
      match s.taskPc id with
      | some .relay => s.taskSend id (.streamData id p) .relay
      | _ => none
  | .taskClose id st =>
      match s.taskPc id with
      | some .relay => s.taskSend id (.serverClose id st) .publish
      | _ => none
  | .cancel =>
      match s.ctxDone with
      | false => some { s with ctxDone := true }
      | true => none

/-- One move of the session; nothing moves after a panic. -/
def step (sm : List String) (s : Session) (a : Action) : Option Session :=
  if s.panicked then none else stepLive sm s a

/-- The states a session reaches from `Session.init`. -/
inductive Reachable (sm : List String) : Session → Prop where
  | init : Reachable sm .init
  | step {s s' : Session} (a : Action) :
      Reachable sm s → step sm s a = some s' → Reachable sm s'

/-- Replay a schedule of actions, failing at the first one that is not enabled. -/
def run (sm : List String) (s : Session) : List Action → Option Session
  | [] => some s
  | a :: as =>
      match step sm s a with
      | some s' => run sm s' as
      | none => none

/-- A replayed schedule ends in a reachable state. -/
theorem Reachable.run {sm : List String} {s s' : Session} (h : Reachable sm s) :
    ∀ {as : List Action}, run sm s as = some s' → Reachable sm s'
  | [], hr => by cases hr; exact h
  | a :: as, hr => by
      simp only [Proxy.run] at hr
      split at hr
      · exact (Reachable.step a h ‹_›).run hr
      · cases hr

/-! ## Example schedules -/

/-- The service map of the example schedules: the health-check method. -/
def healthCheck : List String := ["/HealthCheck.HealthCheck/Ok"]

/-- A client frame that opens a stream to the health-check method. -/
def startHealthCheck : ProxyRequest :=
  ⟨some (.startStream ⟨"bufnet", "/HealthCheck.HealthCheck/Ok", 1⟩)⟩

/-- The client opens a stream, `Add` accepts it as stream 1, and its `StartStreamReply` is
sent. -/
def openStream : List Action :=
  [.recvFrame startHealthCheck, .dispatch, .addReply none, .sendOk]

end Proxy
end Sansshell
