import Sansshell.Proxy.Outcome
import Sansshell.Proxy.Registry
import Sansshell.Proxy.Teardown

/-!
# Shutdown — the clean end after the client half-closes

`wait_deadlocks_on_done` shows the session hanging once the dispatcher calls `Wait` while a
target stream is still live. When none is, the end is clean, and Go leaves the dispatcher no
other way to it:

* `run_cons`, `run_single` and the `step_*` lemmas — a schedule replayed move by
  move from the guards each move needs.
* `Draining` — the client half-closed, the dispatcher loops, the send pump waits on `replyChan`,
  and no error and no cancellation has happened; `Draining.finish` ends such a session.
* `half_close_ends_clean` — once the client has half-closed after every target stream ended
  and was removed, with the context live, the dispatcher's one possible move is to find
  `requestChan` closed; `ClientCloseAll` and `Wait` then return at once, and once the send pump
  has passed on its last frame `Proxy` returns nil.
* `wait_returns_iff_no_live` — `Wait` returns exactly when no target stream is live: with one
  live, relaying or publishing, the dispatcher stays in `Wait` on every schedule and `Proxy`
  never returns (`wait_task_step` for one step, `wait_live_run` for a run).
* `dispatcher_loop_bounded` — once `requestChan` is closed the dispatcher's loop cannot spin:
  each of its moves there retires a live stream or a pending `Add` (`loopBudget_step`, then
  `loopBudget_run` by induction on the schedule).
-/

namespace Sansshell
namespace Proxy

open Session

variable {sm : List String} {s s' : Session}

theorem run_cons {s₁ s₂ : Session} {a : Action} {as : List Action} (h : step sm s a = some s₁)
    (hr : run sm s₁ as = some s₂) : run sm s (a :: as) = some s₂ := by
  simp only [Proxy.run, h, hr]

theorem run_single {a : Action} (h : step sm s a = some s') : run sm s [a] = some s' :=
  run_cons h rfl

/-! ## Enabled moves -/

theorem step_dispClosed (hp : s.panicked = false) (hd : s.disp = .select)
    (hr : s.requestClosed = true) :
    step sm s .dispClosed =
      some { s with disp := .wait, set := s.set.clientCloseAll,
                    calls := s.calls ++ [Call.mk .clientCloseAll none, Call.mk .wait none] } := by
  simp [step, stepLive, hp, hd, hr]

theorem step_waitReturn (hp : s.panicked = false) (hd : s.disp = .wait)
    (hw : s.allTasksExited = true) (hc : s.ctxDone = false) :
    step sm s .waitReturn = some { s with disp := .exited none } := by
  simp [step, stepLive, hp, hd, hw, hc, exitDispatch]

theorem step_sendOk {msg : ProxyReply} (hp : s.panicked = false) (hs : s.sender = .send msg) :
    step sm s .sendOk = some { s with sender := .recv, sent := s.sent ++ [msg] } := by
  simp [step, stepLive, hp, hs]

theorem step_sendClosed (hp : s.panicked = false) (hs : s.sender = .recv)
    (hd : s.replyClosed = true) :
    step sm s .sendClosed = some { s with sender := .exited none } := by
  simp [step, stepLive, hp, hs, hd]

/-- The client half-closed its stream, the dispatcher loops in its `select`, the send pump waits
on `replyChan`, and no goroutine failed and nothing cancelled the context. -/
structure Draining (s : Session) : Prop where
  recv : s.recv = .exited none
  disp : s.disp = .select
  sender : s.sender = .recv
  ctx : s.ctxDone = false
  err : s.groupErr = none
  panicked : s.panicked = false

/-- Every target stream has returned once no id is live. -/
theorem allTasksExited_of_liveIds (h : s.liveIds = []) : s.allTasksExited = true := by
  simpa [liveIds, allTasksExited, List.filter_eq_nil_iff] using h

namespace Draining

/-- With no live target stream, the dispatcher sees `requestChan` closed, `ClientCloseAll` and
`Wait` return at once, and the send pump finds `replyChan` closed: `Proxy` returns nil. -/
theorem finish (hd : Draining s) (hl : s.liveIds = []) :
    ∃ s', run sm s [.dispClosed, .waitReturn, .sendClosed] = some s' ∧
      s'.proxyResult = some none := by
  refine ⟨_, run_cons (step_dispClosed hd.panicked hd.disp (by simp [requestClosed, hd.recv]))
    (run_cons (step_waitReturn hd.panicked rfl (allTasksExited_of_liveIds hl) hd.ctx)
      (run_single (step_sendClosed hd.panicked hd.sender rfl))), ?_⟩
  simp [proxyResult, groupReturned, hd.panicked, hd.recv, hd.err]

end Draining

/-- Once the client has half-closed after every target stream ended and the dispatcher removed
it, while the context is live and the dispatcher loops in its select: the select's one ready case
is the closed `requestChan` (no stream is left to publish on `doneChan`), and after it
`ClientCloseAll` and `Wait` return at once, `dispatch` returns nil and closes `replyChan`, and
the send pump, once it has passed on its last frame, ends the range: `Proxy` returns nil. -/
theorem half_close_ends_clean (h : Reachable sm s) (hr : s.recv = .exited none)
    (hd : s.disp = .select) (hc : s.ctxDone = false) (hl : s.liveIds = []) :
    (∀ a, a.mover = .dispatcher → step sm s a ≠ none → a = .dispClosed) ∧
      ∃ as s', run sm s as = some s' ∧ s'.proxyResult = some none := by
  have hi := h.inv
  have hp : s.panicked = false := by simpa using hi.not_panicked (by simp [replyClosed, hd])
  refine ⟨fun a ha hs => ?_, ?_⟩
  · obtain ⟨s', hs'⟩ := Option.ne_none_iff_exists'.1 hs
    have h' := (step_live hs').2
    cases a with
    | dispRemove _ =>
        simpa [hl] using mem_liveIds_of_taskPc (stepLive_dispRemove h').2.1 nofun
    | dispClosed => rfl
    | _ => cases ha <;> simp [stepLive, hr, hd, hc] at h'
  have he : s.groupErr = none := by simpa [hc] using mt h.groupInv.ctx
  cases hs : s.sender with
  | recv => exact ⟨_, Draining.finish ⟨hr, hd, hs, hc, he, hp⟩ hl⟩
  | send msg =>
      obtain ⟨s₂, hr₂, hres⟩ :=
        Draining.finish (s := { s with sender := .recv, sent := s.sent ++ [msg] })
          ⟨hr, hd, rfl, hc, he, hp⟩ hl
      exact ⟨_, s₂, run_cons (step_sendOk hp hs) hr₂, hres⟩
  | exited x =>
      cases x with
      | none =>
          have hrc := hi.send_nil hs
          simp [replyClosed, hd] at hrc
      | some e => simp [hi.send_err e hs] at hc

/-- Stream 1 opens and sends its `ServerClose`, the dispatcher removes it, and the client then
half-closes. -/
def endedFirstSchedule : List Action :=
  openStream ++ [.taskClose 1 ⟨.ok, ""⟩, .sendOk, .dispRemove 1, .recvEOF]

theorem half_close_ends_clean_endedFirst :
    ∃ s, run healthCheck .init endedFirstSchedule = some s ∧
      (∀ a, a.mover = .dispatcher → step healthCheck s a ≠ none → a = .dispClosed) ∧
      ∃ as s', run healthCheck s as = some s' ∧ s'.proxyResult = some none :=
  ⟨_, rfl, half_close_ends_clean
    (Reachable.init.run (rfl : run healthCheck .init endedFirstSchedule = some _))
    (by rfl) (by rfl) (by rfl) (by rfl)⟩

/-! ## When `Wait` returns -/

/-- Once the dispatcher is in `Wait` while a target stream has not returned, it stays in `Wait`
on every schedule. -/
theorem wait_live_run {id : Nat} :
    ∀ (as : List Action) {s s' : Session} {pc : TaskPc}, s.disp = .wait →
      s.taskPc id = some pc → pc ≠ .exited → run sm s as = some s' → s'.disp = .wait
  | [], _, _, _, hd, _, _, hr => by cases hr; exact hd
  | a :: as, s, _, _, hd, hp, hpc, hr => by
      simp only [run] at hr
      split at hr
      · obtain ⟨hd', hp' | ⟨-, hp'⟩⟩ := wait_task_step hd hp hpc ‹step sm s a = some _›
        · exact wait_live_run as hd' hp' hpc hr
        · exact wait_live_run as hd' hp' (by decide) hr
      · cases hr

/-- `Wait` returns exactly when no target stream is live. With none live it can return at once;
with one live, still relaying its backend's replies or waiting to publish its id on `doneChan`,
the dispatcher stays in `Wait` on every schedule, whatever the client, the backends or the send
pump do, and `Proxy` never returns. So a session that the client half-closes ends or hangs
according to whether a stream is still live when the dispatcher takes the closed
`requestChan`. -/
theorem wait_returns_iff_no_live (h : Reachable sm s) (hd : s.disp = .wait) :
    (s.liveIds = [] → ∃ s', step sm s .waitReturn = some s') ∧
      (s.liveIds ≠ [] → ∀ as s', run sm s as = some s' →
        s'.disp = .wait ∧ s'.proxyResult = none) := by
  refine ⟨fun hl => ?_, fun hl as s' hr => ?_⟩
  · have hp : s.panicked = false := by
      simpa using h.inv.not_panicked (by simp [replyClosed, hd])
    exact ⟨s.exitDispatch (if s.ctxDone then some .canceled else none),
      by simp [step, stepLive, hp, hd, allTasksExited_of_liveIds hl]⟩
  · obtain ⟨id, hid⟩ := List.exists_mem_of_ne_nil _ hl
    obtain ⟨t, ht, rfl⟩ := List.mem_map.1 hid
    obtain ⟨ht, hlive⟩ := List.mem_filter.1 ht
    have hd' :=
      wait_live_run as hd (taskPc_of_nodup h.streamInv.nodup ht) (by simpa using hlive) hr
    exact ⟨hd', proxyResult_none_of_running (by simp [replyClosed, hd'])⟩

/-- The client half-closes with stream 1 open, and the dispatcher takes the closed
`requestChan` at once. -/
def closeWithLiveSchedule : List Action :=
  openStream ++ [.recvEOF, .dispClosed]

theorem wait_returns_iff_no_live_closeWithLive :
    ∃ s, run healthCheck .init closeWithLiveSchedule = some s ∧ s.liveIds = [1] ∧
      (s.liveIds = [] → ∃ s', step healthCheck s .waitReturn = some s') ∧
      (s.liveIds ≠ [] → ∀ as s', run healthCheck s as = some s' →
        s'.disp = .wait ∧ s'.proxyResult = none) :=
  ⟨_, rfl, rfl, wait_returns_iff_no_live
    (Reachable.init.run (rfl : run healthCheck .init closeWithLiveSchedule = some _)) (by rfl)⟩

/-! ## The dispatcher's loop once `requestChan` is closed -/

/-- `requestChan` stays closed: only `receive` closes it, and `receive` has returned. -/
theorem requestClosed_step {a : Action} (hr : s.requestClosed = true)
    (h : stepLive sm s a = some s') : s'.requestClosed = true := by
  have ha : a.mover ≠ .receive := fun ha => by simp [stepLive_receive_guard h ha] at hr
  cases hrecv : s.recv with
  | exited e => simp [requestClosed, ((stepLive_pumps_frame h).1 ha e).2 hrecv]
  | _ => simp [requestClosed, hrecv] at hr

/-- What the dispatcher's loop can still do once `requestChan` is closed: take the id of each
live target stream from `doneChan`, and finish a pending `Add`, which may start one stream more. -/
def Session.loopBudget (s : Session) : Nat :=
  s.liveIds.length + 2 * s.disp.adding.length

/-- A move after `requestChan` closed that leaves the dispatcher in its loop found it there,
spends one unit of the budget if the dispatcher made it, and adds none. -/
theorem loopBudget_step {a : Action} (hi : StreamInv s) (hr : s.requestClosed = true)
    (h : stepLive sm s a = some s') (hl : s'.disp.inLoop = true) :
    s.disp.inLoop = true ∧
      (if a.mover = .dispatcher then 1 else 0) + s'.loopBudget ≤ s.loopBudget := by
  by_cases hd : a.mover = .dispatcher
  · cases a with
    | dispatch =>
        obtain ⟨_, hq, -⟩ := stepLive_dispatch h
        simp [requestClosed, hq] at hr
    | dispCanceled =>
        obtain ⟨-, -, rfl⟩ := stepLive_dispCanceled h
        simp [exitDispatch] at hl
    | dispRemove id =>
        obtain ⟨hs, hpc, rfl⟩ := stepLive_dispRemove h
        have hlt : (s.setTask id .exited).liveIds.length < s.liveIds.length := by
          rw [liveIds_setTask_exited]
          exact List.length_filter_lt_length_iff_exists.2
            ⟨id, mem_liveIds_of_taskPc hpc nofun, by simp⟩
        refine ⟨by simp [hs], ?_⟩
        rw [if_pos hd]
        show 1 + ((s.setTask id .exited).liveIds.length + 2 * s.disp.adding.length) ≤
          s.liveIds.length + 2 * s.disp.adding.length
        omega
    | dispClosed =>
        obtain ⟨-, -, rfl⟩ := stepLive_dispClosed h
        simp at hl
    | addReply refusal =>
        obtain ⟨st, hs, -, rfl⟩ := stepLive_addReply h
        have hk : (startResult sm st refusal s.set.nextId).launched.length ≤ 1 := by
          cases startResult sm st refusal s.set.nextId <;> simp [StartResult.launched]
        refine ⟨by simp [hs], ?_⟩
        simp only [loopBudget, if_pos hd, liveIds_addDone, List.length_append, List.length_map]
        simp only [addDone, hs, DispPc.adding, List.length_singleton, List.length_nil]
        omega
    | waitReturn =>
        obtain ⟨-, -, rfl⟩ := stepLive_waitReturn h
        simp [exitDispatch] at hl
    | _ => cases hd
  · have hdisp := (stepLive_dispatcher_frame h hd).1
    refine ⟨hdisp ▸ hl, ?_⟩
    simp [loopBudget, hd, hdisp, liveIds_other_mover hi h hd]

/-- Over a run after `requestChan` closed that ends with the dispatcher still in its loop, each
dispatcher move has spent one unit of the budget. -/
theorem loopBudget_run :
    ∀ (as : List Action) {s s' : Session}, Reachable sm s → s.requestClosed = true →
      run sm s as = some s' → s'.disp.inLoop = true →
        s.disp.inLoop = true ∧
          as.countP (·.mover = .dispatcher) + s'.loopBudget ≤ s.loopBudget
  | [], _, _, _, _, hr, hl => by cases hr; exact ⟨hl, by simp⟩
  | a :: as, s, _, h, hc, hr, hl => by
      simp only [run] at hr
      split at hr
      · rename_i s₁ h₁
        have h₁' := (step_live h₁).2
        obtain ⟨hl₁, hb⟩ :=
          loopBudget_run as (h.step a h₁) (requestClosed_step hc h₁') hr hl
        obtain ⟨hl₀, hb₀⟩ := loopBudget_step h.streamInv hc h₁' hl₁
        refine ⟨hl₀, ?_⟩
        simp only [List.countP_cons, decide_eq_true_eq]
        omega
      · cases hr

/-- Once the client has half-closed, the dispatcher's loop cannot spin: while it stays in its
select, each of its moves takes a live target stream's id from `doneChan` or finishes a pending
`Add`, so it makes at most as many moves as there are live streams, plus two for a pending
`Add` (its reply, and the id of the stream it starts), before it takes the closed
`requestChan` or the cancellation. -/
theorem dispatcher_loop_bounded (h : Reachable sm s) (hr : s.requestClosed = true)
    {as : List Action} (hrun : run sm s as = some s') (hl : s'.disp.inLoop = true) :
    as.countP (·.mover = .dispatcher) + s'.liveIds.length ≤
      s.liveIds.length + 2 * s.disp.adding.length := by
  have hb := (loopBudget_run as h hr hrun hl).2
  simp only [loopBudget] at hb
  omega

/-- The client half-closes with stream 1 open; the stream then sends its `ServerClose`, and the
dispatcher takes its id from `doneChan` and is left with the closed `requestChan`. -/
def drainSchedule : List Action :=
  [.taskClose 1 ⟨.ok, ""⟩, .sendOk, .dispRemove 1]

theorem dispatcher_loop_bounded_drain :
    ∃ s s', run healthCheck .init (openStream ++ [.recvEOF]) = some s ∧
      run healthCheck s drainSchedule = some s' ∧ s.liveIds = [1] ∧ s'.disp.inLoop = true ∧
      drainSchedule.countP (·.mover = .dispatcher) + s'.liveIds.length ≤
        s.liveIds.length + 2 * s.disp.adding.length :=
  ⟨_, _, rfl, rfl, rfl, rfl, dispatcher_loop_bounded
    (Reachable.init.run (rfl : run healthCheck .init (openStream ++ [.recvEOF]) = some _))
    (by rfl) rfl rfl⟩

end Proxy
end Sansshell
