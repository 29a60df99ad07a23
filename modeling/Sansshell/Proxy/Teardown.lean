import Sansshell.Proxy.Relay

/-!
# Teardown — closing `replyChan` and waiting for the target streams

The dispatcher goroutine closes `replyChan` in a `defer` when `dispatch` returns, and only one
of `dispatch`'s returns (the closed `requestChan`) first calls `ClientCloseAll` and `Wait`.

* `waited_exit_no_live_stream` — after a return through `Wait`, no target stream is left that
  could still send on `replyChan`.
* `early_return_sends_on_closed_reply` — each other return (`ctx.Done()`, a protocol error
  of the stream set, an unset discriminator) can close `replyChan` under a running target
  stream, whose final `ServerClose` is then a send on the closed channel.
* `panic_only_on_early_return` — conversely, every reachable panic follows a return of
  `dispatch` with an error and without `Wait`.
* `wait_deadlocks_on_done` — `Wait` waits for streams that must first publish their id on the
  unbuffered `doneChan`, which the dispatcher no longer receives from while it waits: a
  session with one open stream at the client's `CloseSend` can end with nothing enabled and
  the dispatcher and the stream both blocked.
* `wait_task_step`, `wait_never_returns` — in general, once the dispatcher waits while a stream
  waits to publish, no schedule ever lets `Wait` return.
-/

namespace Sansshell
namespace Proxy

open Session

variable {sm : List String} {s : Session}

/-- Every goroutine of the session has returned. -/
def Session.allExited (s : Session) : Bool :=
  s.requestClosed && s.replyClosed &&
    (match s.sender with
     | .exited _ => true
     | _ => false) && s.allTasksExited

/-- A session whose receive pump has returned, whose dispatcher is in `Wait` for a stream
that has not returned, whose send pump waits on `replyChan` with no stream relaying, and whose
context is cancelled, can make no move. -/
theorem stuck_in_wait (hr : s.requestClosed = true) (hd : s.disp = .wait)
    (hs : s.sender = .recv) (hx : s.ctxDone = true) (hw : s.allTasksExited = false)
    (ht : ∀ t ∈ s.tasks, t.pc ≠ .relay) : ∀ a, step sm s a = none := by
  intro a
  cases h : step sm s a with
  | none => rfl
  | some s' =>
    have h := (step_live h).2
    exfalso
    cases hm : a.mover with
    | receive => simp [stepLive_receive_guard h hm] at hr
    | dispatcher =>
        rcases stepLive_dispatcher_guard h hm with hq | ⟨_, hq, -⟩ | ⟨-, hq⟩ <;>
          simp [hd, hw] at hq
    | sender =>
        rcases stepLive_sender_guard h hm with ⟨_, hq⟩ | ⟨-, hq⟩ <;>
          simp [hs, replyClosed, hd] at hq
    | task =>
        obtain ⟨_, _, _, hpc, -⟩ := stepLive_task h hm
        obtain ⟨t, hm, hp⟩ := taskPc_mem hpc
        exact ht t hm hp
    | client =>
        cases a <;> cases hm
        simp [(stepLive_cancel h).1] at hx

/-- A dispatcher in `Wait` stays there across any one step, and a target stream that has not
returned does not return: it relays on, turns to publishing its id, or stays publishing. `Wait`
needs every stream returned, and only `Remove`, from the dispatcher's select, ends a stream. -/
theorem wait_task_step {id : Nat} {pc : TaskPc} {s' : Session} {a : Action} (hd : s.disp = .wait)
    (hp : s.taskPc id = some pc) (hpc : pc ≠ .exited) (h : step sm s a = some s') :
    s'.disp = .wait ∧ (s'.taskPc id = some pc ∨ pc = .relay ∧ s'.taskPc id = some .publish) := by
  have h := (step_live h).2
  by_cases hm : a.mover = .dispatcher
  · exfalso
    rcases stepLive_dispatcher_guard h hm with hq | ⟨_, hq, -⟩ | ⟨-, hall⟩
    · simp [hd] at hq
    · simp [hd] at hq
    · exact hpc (taskPc_allTasksExited hall hp)
  refine ⟨(stepLive_dispatcher_frame h hm).1.trans hd, ?_⟩
  by_cases ht : a.mover = .task
  · obtain ⟨id', _, _, hr, hs, hmsg⟩ := stepLive_task h ht
    rcases taskSend_cases hs with ⟨-, rfl⟩ | ⟨-, -, rfl⟩
    · exact .inl hp
    · by_cases he : id = id'
      · subst he
        obtain rfl : pc = .relay := Option.some.inj (hp.symm.trans hr)
        rcases hmsg with ⟨_, -, rfl⟩ | ⟨_, -, rfl⟩
        · exact .inl (taskPc_setTask_self _ hp)
        · exact .inr ⟨rfl, taskPc_setTask_self _ hp⟩
      · exact .inl ((taskPc_setTask_ne _ he).trans hp)
  · exact .inl ((taskPc_congr (stepLive_pump_frame h hm ht).1 id).trans hp)

/-- Once the dispatcher is in `Wait` while a target stream waits to publish its id on
`doneChan`, no schedule gets either of them out: `Wait` never returns, so neither do `dispatch`
and `Proxy`, whatever the client, the backends or the send pump do. -/
theorem wait_never_returns {id : Nat} :
    ∀ (as : List Action) {s s' : Session}, s.disp = .wait → s.taskPc id = some .publish →
      run sm s as = some s' → s'.disp = .wait ∧ s'.taskPc id = some .publish
  | [], _, _, hd, hp, hr => by cases hr; exact ⟨hd, hp⟩
  | a :: as, s, _, hd, hp, hr => by
      simp only [run] at hr
      split at hr
      · obtain ⟨hd', hp'⟩ := wait_task_step hd hp (by decide) ‹step sm s a = some _›
        exact wait_never_returns as hd' (hp'.resolve_right fun ⟨h, _⟩ => nomatch h) hr
      · cases hr

/-- The client half-closes with stream 1 open; the dispatcher enters `Wait` before the stream
finishes, and the stream then sends its `ServerClose`. -/
def waitingSchedule : List Action :=
  openStream ++ [.recvEOF, .dispClosed, .taskClose 1 ⟨.ok, ""⟩]

theorem wait_never_returns_waiting :
    ∃ s s', run healthCheck .init waitingSchedule = some s ∧
      run healthCheck s [Action.sendOk, Action.cancel] = some s' ∧
      s'.disp = .wait ∧ s'.taskPc 1 = some .publish := by
  refine ⟨_, _, rfl, rfl, ?_⟩
  exact wait_never_returns [Action.sendOk, Action.cancel] (by rfl) (by rfl)
    (rfl : run healthCheck ((run healthCheck .init waitingSchedule).getD .init)
      [Action.sendOk, Action.cancel] = some _)

/-! ## Schedules -/

/-- The client stream fails while stream 1 runs; the dispatcher's select takes `ctx.Done()`
and the stream sends its `ServerClose`. -/
def canceledSchedule : List Action :=
  openStream ++ [.recvError "transport is closing", .dispCanceled, .taskClose 1 ⟨.canceled, ""⟩]

/-- The client sends `StreamData` for stream 7, which does not exist, while stream 1 runs. -/
def unknownStreamSchedule : List Action :=
  openStream ++ [.recvFrame ⟨some (.streamData ⟨[7], ⟨"", ""⟩⟩)⟩, .dispatch,
    .taskClose 1 ⟨.ok, ""⟩]

/-- The client sends a frame with no discriminator while stream 1 runs. -/
def unsetSchedule : List Action :=
  openStream ++ [.recvFrame ⟨none⟩, .dispatch, .taskClose 1 ⟨.ok, ""⟩]

/-- The waiting schedule, after which the send pump passes the `ServerClose` on and the client's
context is cancelled. -/
def closeSendSchedule : List Action :=
  waitingSchedule ++ [.sendOk, .cancel]

/-- Each early return of `dispatch` closes `replyChan` while stream 1 still relays, and the
stream's final `ServerClose` is then a send on the closed channel: after the client stream
fails (`ctx.Done()`), after `StreamData` for an unknown stream, after an unset frame. -/
theorem early_return_sends_on_closed_reply :
    (∃ s, Reachable healthCheck s ∧ s.disp = .exited (some .canceled) ∧ s.panicked = true) ∧
    (∃ s, Reachable healthCheck s ∧
      s.disp = .exited (some (.protocol (.unknownStream 7))) ∧ s.panicked = true) ∧
    (∃ s, Reachable healthCheck s ∧ s.disp = .exited (some .unhandled) ∧ s.panicked = true) :=
  ⟨⟨_, Reachable.init.run (rfl : run healthCheck .init canceledSchedule = some _), rfl, rfl⟩,
    ⟨_, Reachable.init.run (rfl : run healthCheck .init unknownStreamSchedule = some _),
      rfl, rfl⟩,
    ⟨_, Reachable.init.run (rfl : run healthCheck .init unsetSchedule = some _), rfl, rfl⟩⟩

/-- A send on the closed `replyChan` only follows an early return: in every reachable state that
has panicked, `dispatch` returned an error, and it never called `Wait`. -/
theorem panic_only_on_early_return (h : Reachable sm s) (hp : s.panicked = true) :
    (∃ e, s.disp = .exited (some e)) ∧ Op.wait ∉ s.calls.map Call.op := by
  have hi := h.inv
  have hc := hi.panic hp
  have hw : Op.wait ∉ s.calls.map Call.op := fun hw => by
    obtain ⟨t, ht, hpc⟩ := hi.panic_live hp
    have hall : ∀ t ∈ s.tasks, t.pc = .exited := by
      simpa [allTasksExited] using hi.waited hc hw
    exact hpc (hall t ht)
  refine ⟨?_, hw⟩
  cases hd : s.disp with
  | exited err =>
      cases err with
      | some e => exact ⟨e, rfl⟩
      | none => exact absurd (by simp [hi.ops_closed (.inr hd), closeOps]) hw
  | _ => simp [replyClosed, hd] at hc

theorem panic_only_on_early_return_canceled :
    ∃ s, run healthCheck .init canceledSchedule = some s ∧
      (∃ e, s.disp = .exited (some e)) ∧ Op.wait ∉ s.calls.map Call.op :=
  ⟨_, rfl, panic_only_on_early_return
    (Reachable.init.run (rfl : run healthCheck .init canceledSchedule = some _)) rfl⟩

/-- The client half-closes with stream 1 open: the dispatcher calls `ClientCloseAll` and
`Wait`, the stream sends its `ServerClose` and blocks publishing its id on `doneChan`, and once
the client's context is cancelled nothing can move while the dispatcher and the stream are
both blocked. -/
theorem wait_deadlocks_on_done :
    ∃ s, Reachable healthCheck s ∧ (∀ a, step healthCheck s a = none) ∧
      s.allExited = false ∧ s.disp = .wait ∧ s.taskPc 1 = some .publish := by
  obtain ⟨s, hrun, hr, hd, hs, hx, hw, ht, hp⟩ : ∃ s,
      run healthCheck .init closeSendSchedule = some s ∧ s.requestClosed = true ∧
      s.disp = .wait ∧ s.sender = .recv ∧ s.ctxDone = true ∧ s.allTasksExited = false ∧
      (∀ t ∈ s.tasks, t.pc ≠ .relay) ∧ s.taskPc 1 = some .publish :=
    ⟨_, rfl, rfl, rfl, rfl, rfl, rfl, by decide, rfl⟩
  exact ⟨s, Reachable.init.run hrun, stuck_in_wait hr hd hs hx hw ht,
    by simp [allExited, hw], hd, hp⟩

end Proxy
end Sansshell
