import Sansshell.Proxy.Streams

/-!
# Outcome — what `Proxy` returns

`Proxy` returns what `group.Wait()` returns once each of its three goroutines has returned:
nil, or the first error one of them returned, which it hands back as
`status.Error(codes.Internal, err.Error())`. A send on the closed `replyChan` panics first and
ends the process.

* `Session.proxyResult` — that result, `none` while `group.Wait()` blocks.
* `GroupInv` — a pump that returned an error left an error in the group, so that a nil result
  means no goroutine failed.
* `clean_return_delivers_all` — a nil result is a clean session: the client half-closed, the
  receive pump handed over every frame, the dispatcher made every frame's call without a
  protocol error and then `ClientCloseAll` and `Wait`, every target stream returned, and the
  send pump passed on every frame put on `replyChan`. So the client holds, for every stream it
  opened, the stream's whole life up to its one `ServerClose`.
* `send_exit_hangs_dispatcher` — once the send pump has returned, a dispatcher waiting on
  `replyChan` (in `Add`, or in `Wait` for a relaying stream) never moves again.
* `stuck_states` — a reachable session with no move has panicked or returned, or is blocked in
  one of the two ways `Teardown` and this module show permanent.
-/

namespace Sansshell
namespace Proxy

open Session

/-- The three goroutines of the errgroup have returned and nothing panicked before:
`group.Wait()` returns. -/
def Session.groupReturned (s : Session) : Bool :=
  match s.panicked, s.recv, s.disp, s.sender with
  | false, .exited _, .exited _, .exited _ => true
  | _, _, _, _ => false

/-- What `Proxy` has returned: `none` while `group.Wait()` blocks, then `some err` for the
group's first error `err`. `Proxy` returns nil for `err = none`, and otherwise
`status.Error(codes.Internal, err.Error())`. -/
def Session.proxyResult (s : Session) : Option (Option GoError) :=
  if s.groupReturned then some s.groupErr else none

variable {sm : List String} {s s' : Session}

/-- Once `group.Wait()` returns, nothing has panicked and each goroutine of the group has
returned. -/
theorem groupReturned_exited (h : s.groupReturned = true) :
    s.panicked = false ∧ (∃ e, s.recv = .exited e) ∧ (∃ e, s.disp = .exited e) ∧
      ∃ e, s.sender = .exited e := by
  unfold groupReturned at h
  split at h
  · exact ⟨‹_›, ⟨_, ‹_›⟩, ⟨_, ‹_›⟩, ⟨_, ‹_›⟩⟩
  · cases h

/-- While `dispatch` runs (`replyChan` is open), `group.Wait()` blocks and `Proxy` has not
returned. -/
theorem proxyResult_none_of_running (hc : s.replyClosed = false) : s.proxyResult = none := by
  have hg : s.groupReturned = false := by
    cases hr : s.groupReturned
    · rfl
    · obtain ⟨-, -, ⟨e, hd⟩, -⟩ := groupReturned_exited hr
      simp [replyClosed, hd] at hc
  simp [proxyResult, hg]

/-! ## The group's error -/

/-- A pump that returned an error left an error in the group (`Inv.disp_err` says the same of
the dispatcher), and an error in the group has cancelled its context. -/
structure GroupInv (s : Session) : Prop where
  recv_err : ∀ e, s.recv = .exited (some e) → s.groupErr.isSome = true
  send_err : ∀ e, s.sender = .exited (some e) → s.groupErr.isSome = true
  ctx : s.groupErr.isSome = true → s.ctxDone = true

namespace GroupInv

theorem init : GroupInv Session.init :=
  ⟨(fun _ h => by cases h), (fun _ h => by cases h), (fun h => by cases h)⟩

/-- One step keeps the invariant: only a pump's own move returns it, and it records its
error. -/
theorem step (hg : GroupInv s) {a : Action} (h : Proxy.step sm s a = some s') :
    GroupInv s' := by
  have h := (step_live h).2
  obtain ⟨hgm, hcm, hnew⟩ := stepLive_group h
  obtain ⟨hr, hs⟩ := stepLive_pumps_frame h
  refine ⟨fun e he => ?_, fun e he => ?_,
    fun he => hnew.elim (fun hg' => hcm (hg.ctx (hg' ▸ he))) id⟩
  · by_cases ha : a.mover = .receive
    · cases a <;> cases ha
      · obtain ⟨-, rfl⟩ := stepLive_recvFrame h; cases he
      · obtain ⟨-, rfl⟩ := stepLive_recvEOF h; cases he
      · obtain ⟨-, rfl⟩ := stepLive_recvError h; rfl
      · obtain ⟨-, -, rfl⟩ := stepLive_recvCanceled h; rfl
    · exact hgm (hg.recv_err e ((hr ha _).1 he))
  · by_cases ha : a.mover = .sender
    · cases a <;> cases ha
      · obtain ⟨_, -, rfl⟩ := stepLive_sendOk h; cases he
      · obtain ⟨_, -, rfl⟩ := stepLive_sendError h; rfl
      · obtain ⟨-, -, rfl⟩ := stepLive_sendClosed h; cases he
    · exact hgm (hg.send_err e ((hs ha _).1 he))

end GroupInv

/-- Every reachable session satisfies `GroupInv`. -/
theorem Reachable.groupInv (h : Reachable sm s) : GroupInv s := by
  induction h with
  | init => exact GroupInv.init
  | step _ _ hs ih => exact ih.step hs

/-- A goroutine whose error would be the group's first returned nil when there is none. -/
theorem exited_none_of_groupErr {e : Option GoError} (hn : s.groupErr = none)
    (h : ∀ e', e = some e' → s.groupErr.isSome = true) : e = none := by
  cases e with
  | none => rfl
  | some e' => simpa [hn] using h e' rfl

/-- When `group.Wait()` returns with no error recorded, each goroutine of the group returned
nil. -/
theorem groupReturned_nil (h : Reachable sm s) (hret : s.groupReturned = true)
    (hn : s.groupErr = none) :
    s.recv = .exited none ∧ s.disp = .exited none ∧ s.sender = .exited none := by
  obtain ⟨-, ⟨er, hr⟩, ⟨ed, hd⟩, ⟨es, hs⟩⟩ := groupReturned_exited hret
  obtain rfl := exited_none_of_groupErr hn fun e he => h.groupInv.recv_err e (he ▸ hr)
  obtain rfl := exited_none_of_groupErr hn fun e he => (h.inv.disp_err e (he ▸ hd)).2
  obtain rfl := exited_none_of_groupErr hn fun e he => h.groupInv.send_err e (he ▸ hs)
  exact ⟨hr, hd, hs⟩

/-- A target stream's id finds a program counter. -/
theorem taskPc_of_mem {t : Task} (ht : t ∈ s.tasks) : ∃ pc, s.taskPc t.id = some pc := by
  obtain ⟨u, hu⟩ := Option.isSome_iff_exists.1
    ((List.find?_isSome (p := fun u => decide (u.id = t.id))).2 ⟨t, ht, by simp⟩)
  exact ⟨u.pc, by simp [taskPc, hu]⟩

/-! ## A nil result -/

/-- `Proxy` returns nil only after a clean session: the client half-closed its stream, the
send pump ranged to the end of `replyChan`, every frame the client sent was handed to the
dispatcher, which made each frame's stream-set call without a protocol error and then
`ClientCloseAll` and `Wait`; every target stream returned, and every frame put on `replyChan`
was sent, so that the client received, for each stream, its `StartStreamReply`, its payloads
and exactly one `ServerClose`. -/
theorem clean_return_delivers_all (h : Reachable sm s) (hn : s.proxyResult = some none) :
    s.recv = .exited none ∧ s.sender = .exited none ∧ s.received = s.delivered ∧
      s.calls.map Call.op = s.frameOps ++ closeOps ∧ (∀ c ∈ s.calls, c.err = none) ∧
      s.sent = s.put ∧
      ∀ t ∈ s.tasks, t.pc = .exited ∧ StreamTrace t.id .exited (repliesFor t.id s.sent) := by
  have hi := h.inv
  obtain ⟨hret, hnone⟩ : s.groupReturned = true ∧ s.groupErr = none := by
    unfold proxyResult at hn
    split_ifs at hn with hr
    exact ⟨hr, Option.some.inj hn⟩
  obtain ⟨hr, hd, hs⟩ := groupReturned_nil h hret hnone
  have hops := hi.ops_closed (.inr hd)
  have hsent : s.sent = s.put := by rw [hi.replies, hs]; exact (List.append_nil _).symm
  have hall : ∀ t ∈ s.tasks, t.pc = .exited := by
    simpa [allTasksExited] using
      hi.waited (by simp [replyClosed, hd]) (by simp [hops, closeOps])
  refine ⟨hr, hs, ?_, hops, ?_, hsent, fun t ht => ⟨hall t ht, ?_⟩⟩
  · obtain ⟨rest, hrec, hund⟩ := hi.undelivered
    rw [hr] at hund
    simpa [show rest = [] from hund] using hrec
  · intro c hc
    cases he : c.err with
    | none => rfl
    | some e => exact absurd (hi.failed_last c hc e he).2 (by simp [hd])
  · obtain ⟨pc, hpc⟩ := taskPc_of_mem ht
    obtain ⟨u, hu, rfl⟩ := taskPc_mem hpc
    rw [hsent, ← hall u hu]
    exact h.streamInv.trace t.id _ hpc

/-- Stream 1 opens, relays a payload and closes; the dispatcher removes it; the client
half-closes; `Wait` returns and the send pump finds `replyChan` closed. -/
def cleanSchedule : List Action :=
  openStream ++ [.taskData 1 ⟨"", "pong"⟩, .sendOk, .taskClose 1 ⟨.ok, ""⟩, .sendOk,
    .dispRemove 1, .recvEOF, .dispClosed, .waitReturn, .sendClosed]

theorem clean_return_delivers_all_clean : ∃ s, run healthCheck .init cleanSchedule = some s ∧
    s.proxyResult = some none ∧
    s.recv = .exited none ∧ s.sender = .exited none ∧ s.received = s.delivered ∧
      s.calls.map Call.op = s.frameOps ++ closeOps ∧ (∀ c ∈ s.calls, c.err = none) ∧
      s.sent = s.put ∧
      ∀ t ∈ s.tasks, t.pc = .exited ∧ StreamTrace t.id .exited (repliesFor t.id s.sent) :=
  ⟨_, rfl, rfl, clean_return_delivers_all
    (Reachable.init.run (rfl : run healthCheck .init cleanSchedule = some _)) rfl⟩

/-! ## No reader on `replyChan` -/

/-- The dispatcher waits on a send to `replyChan`: in `Add`, handing over its
`StartStreamReply`, or in `Wait` for target stream `id`, which has still to send its
`ServerClose` there. -/
def Session.waitsOnReply (s : Session) (id : Nat) : Prop :=
  (∃ st, s.disp = .add st) ∨ (s.disp = .wait ∧ s.taskPc id = some .relay)

/-- Once the send pump has returned, a dispatcher that waits on `replyChan` stays where it is
across any one step, and so does the stream it waits for: nothing receives from `replyChan`, and
the channel is not closed while the dispatcher runs. -/
theorem waitsOnReply_step {e : Option GoError} {id : Nat} {a : Action}
    (hs : s.sender = .exited e) (hw : s.waitsOnReply id) (h : step sm s a = some s') :
    s'.sender = .exited e ∧ s'.disp = s.disp ∧ s'.waitsOnReply id := by
  have h := (step_live h).2
  have hc : s.replyClosed = false := by
    rcases hw with ⟨_, hd⟩ | ⟨hd, -⟩ <;> simp [replyClosed, hd]
  cases hm : a.mover with
  | dispatcher =>
      exfalso
      rcases stepLive_dispatcher_guard h hm with hd | ⟨_, -, hr⟩ | ⟨hd, hall⟩
      · rcases hw with ⟨_, hd'⟩ | ⟨hd', -⟩ <;> simp [hd] at hd'
      · simp [hs] at hr
      · rcases hw with ⟨_, hd'⟩ | ⟨-, hp⟩
        · simp [hd] at hd'
        · cases taskPc_allTasksExited hall hp
  | sender =>
      rcases stepLive_sender_guard h hm with ⟨_, hr⟩ | ⟨hr, -⟩ <;> simp [hs] at hr
  | task =>
      obtain ⟨_, _, _, -, hts, -⟩ := stepLive_task h hm
      rcases taskSend_cases hts with ⟨hr, -⟩ | ⟨-, hr, -⟩
      · simp [hc] at hr
      · simp [hs] at hr
  | receive | client =>
      have hd : a.mover ≠ .dispatcher := by rw [hm]; decide
      have hd' := (stepLive_dispatcher_frame h hd).1
      have ht := (stepLive_pump_frame h hd (by rw [hm]; decide)).1
      refine ⟨((stepLive_pumps_frame h).2 (by rw [hm]; decide) e).2 hs, hd', ?_⟩
      unfold waitsOnReply
      rw [hd', taskPc_congr ht]
      exact hw

/-- The dispatcher has not returned, so neither has `Proxy`. -/
theorem proxyResult_none_of_waitsOnReply {id : Nat} (hw : s.waitsOnReply id) :
    s.proxyResult = none :=
  proxyResult_none_of_running (by rcases hw with ⟨_, hd⟩ | ⟨hd, -⟩ <;> simp [replyClosed, hd])

/-- Once the send pump has returned (after a failed `stream.Send`), nothing reads `replyChan`
again. A dispatcher in `Add`, or in `Wait` for a target stream that has still to send its
`ServerClose`, stays there on every schedule, whatever the client, the backends or the context
do, and `Proxy` never returns. -/
theorem send_exit_hangs_dispatcher {e : Option GoError} {id : Nat} :
    ∀ (as : List Action) {s s' : Session}, s.sender = .exited e → s.waitsOnReply id →
      run sm s as = some s' → s'.disp = s.disp ∧ s'.waitsOnReply id ∧ s'.proxyResult = none
  | [], _, _, _, hw, hr => by cases hr; exact ⟨rfl, hw, proxyResult_none_of_waitsOnReply hw⟩
  | a :: as, s, _, hs, hw, hr => by
      simp only [run] at hr
      split at hr
      · obtain ⟨hs', hd', hw'⟩ := waitsOnReply_step hs hw ‹step sm s a = some _›
        obtain ⟨hd'', hw'', hn⟩ := send_exit_hangs_dispatcher as hs' hw' hr
        exact ⟨hd''.trans hd', hw'', hn⟩
      · cases hr

/-- Stream 1 relays a payload; the client opens a second stream, and `stream.Send` of the
payload fails while the dispatcher is in `Add` for it. -/
def sendFailSchedule : List Action :=
  openStream ++ [.taskData 1 ⟨"", "pong"⟩, .recvFrame startHealthCheck, .dispatch,
    .sendError "transport is closing"]

theorem send_exit_hangs_dispatcher_sendFail :
    ∃ s s', run healthCheck .init sendFailSchedule = some s ∧
      run healthCheck s [.recvFrame startHealthCheck, .recvCanceled] = some s' ∧
      s'.disp = s.disp ∧ s'.waitsOnReply 1 ∧ s'.proxyResult = none := by
  refine ⟨_, _, rfl, rfl, ?_⟩
  exact send_exit_hangs_dispatcher [.recvFrame startHealthCheck, .recvCanceled] (by rfl)
    (.inl ⟨_, rfl⟩)
    (rfl : run healthCheck ((run healthCheck .init sendFailSchedule).getD .init)
      [.recvFrame startHealthCheck, .recvCanceled] = some _)

/-! ## Stuck sessions -/

/-- Every reachable session that can make no move has panicked, or `Proxy` has returned, or its
dispatcher is blocked for good: in `Wait` while a target stream waits to publish its id on
`doneChan` (the shape of `wait_never_returns`), or waiting on `replyChan` after the send pump
returned (the shape of `send_exit_hangs_dispatcher`). The session has no other deadlock. -/
theorem stuck_states (h : Reachable sm s) (hstuck : ∀ a, step sm s a = none) :
    s.panicked = true ∨ s.proxyResult.isSome = true ∨
      (∃ id, s.disp = .wait ∧ s.taskPc id = some .publish) ∨
      (∃ e id, s.sender = .exited e ∧ s.waitsOnReply id) := by
  cases hp : s.panicked
  swap
  · exact .inl rfl
  have hl : ∀ a, stepLive sm s a = none := fun a => by simpa [step, hp] using hstuck a
  have hx : s.ctxDone = true := by
    cases hx : s.ctxDone
    · simpa [stepLive, hx] using hl .cancel
    · rfl
  have hsend : s.sender ≠ .recv → ∃ e, s.sender = .exited e := fun hne => by
    cases hs : s.sender with
    | recv => exact absurd hs hne
    | send _ => simpa [stepLive, hs] using hl .sendOk
    | exited e => exact ⟨e, rfl⟩
  cases hd : s.disp with
  | select => simpa [stepLive, hd, hx] using hl .dispCanceled
  | add st =>
      have hne : s.sender ≠ .recv := fun hs => by
        simpa [stepLive, hd, hs] using hl (.addReply none)
      obtain ⟨e, he⟩ := hsend hne
      exact .inr (.inr (.inr ⟨e, 0, he, .inl ⟨st, hd⟩⟩))
  | wait =>
      have hw : s.allTasksExited = false := by
        cases hw : s.allTasksExited
        · rfl
        · simpa [stepLive, hd, hw] using hl .waitReturn
      obtain ⟨t, ht, hpc⟩ : ∃ t ∈ s.tasks, t.pc ≠ .exited := by
        simpa [allTasksExited] using hw
      have htp := taskPc_of_nodup h.streamInv.nodup ht
      cases hpt : t.pc with
      | exited => exact absurd hpt hpc
      | publish => exact .inr (.inr (.inl ⟨t.id, rfl, hpt ▸ htp⟩))
      | relay =>
          have hne : s.sender ≠ .recv := fun hs => by
            simpa [stepLive, taskSend, replyClosed, hd, hs, hpt, htp] using
              hl (.taskData t.id ⟨"", ""⟩)
          obtain ⟨e, he⟩ := hsend hne
          exact .inr (.inr (.inr ⟨e, t.id, he, .inr ⟨hd, hpt ▸ htp⟩⟩))
  | exited ed =>
      have hr : ∃ e, s.recv = .exited e := by
        cases hr : s.recv with
        | recv => simpa [stepLive, hr] using hl .recvEOF
        | offer _ => simpa [stepLive, hr, hx] using hl .recvCanceled
        | exited e => exact ⟨e, rfl⟩
      have hne : s.sender ≠ .recv := fun hs => by
        simpa [stepLive, hd, hs, replyClosed] using hl .sendClosed
      obtain ⟨es, hes⟩ := hsend hne
      obtain ⟨er, her⟩ := hr
      exact .inr (.inl (by simp [proxyResult, groupReturned, hp, her, hd, hes]))

/-- A `StartStream` for a method the server does not have. -/
def unknownStart : ProxyRequest :=
  ⟨some (.startStream ⟨"bufnet", "/Missing.Service/Call", 2⟩)⟩

/-- The client opens a stream to a method the server does not have; while the `UNIMPLEMENTED`
reply is being sent, the client opens another, `stream.Send` fails, and so does
`stream.Recv`. -/
def unimplementedSchedule : List Action :=
  [.recvFrame unknownStart, .dispatch, .addReply none, .recvFrame unknownStart, .dispatch,
    .sendError "transport is closing", .recvError "transport is closing"]

theorem stuck_states_unimplemented :
    ∃ s, run healthCheck .init unimplementedSchedule = some s ∧
      (∀ a, step healthCheck s a = none) ∧
      (s.panicked = true ∨ s.proxyResult.isSome = true ∨
        (∃ id, s.disp = .wait ∧ s.taskPc id = some .publish) ∨
        (∃ e id, s.sender = .exited e ∧ s.waitsOnReply id)) :=
  ⟨_, rfl, fun a => by cases a <;> rfl,
    stuck_states (Reachable.init.run (rfl : run healthCheck .init unimplementedSchedule = some _))
      (fun a => by cases a <;> rfl)⟩

end Proxy
end Sansshell
