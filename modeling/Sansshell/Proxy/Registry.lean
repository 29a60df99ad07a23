import Sansshell.Proxy.Streams

/-!
# Registry — the stream set against the target streams

The dispatcher alone changes which streams the `TargetStreamSet` holds: `Add` inserts the stream
it starts, and `Remove` drops a stream once its goroutine has published its id on `doneChan`.
A client frame that names an id the set does not hold is a protocol error.

* `Session.liveIds` — the ids of the target streams whose goroutine has not returned, in the
  order `Add` started them.
* `Registered` — the set holds exactly those ids, in that order; every step keeps it.
* `TargetStreamSet.fan_unknown` (in `StreamSet`) — a frame that names an id the set does not
  hold fails, whatever its other ids.
* `removed_stream_frame_fails` — once the dispatcher has removed a stream, a client frame that
  names it makes `dispatch` return a protocol error and cancels the session. A `ClientClose`,
  `ClientCancel` or `StreamData` that crosses the stream's `ServerClose` ends every stream.
-/

namespace Sansshell
namespace Proxy

open Session

/-! ## Live streams -/

/-- The ids of the target streams whose goroutine has not returned, in the order `Add` started
them. -/
def Session.liveIds (s : Session) : List Nat :=
  (s.tasks.filter fun t => t.pc ≠ .exited).map Task.id

namespace Session

variable {s : Session}

/-- A target stream that returns leaves the live ids. -/
theorem liveIds_setTask_exited (id : Nat) :
    (s.setTask id .exited).liveIds = s.liveIds.filter (· ≠ id) := by
  simp only [liveIds, setTask]
  induction s.tasks with
  | nil => rfl
  | cons t ts ih =>
      by_cases h : t.id = id <;> by_cases hp : t.pc = .exited <;>
        simp_all [List.filter_cons]

/-- Moving a target stream that has not returned to a program counter other than `exited`
keeps the live ids. -/
theorem liveIds_setTask_live {id : Nat} {pc : TaskPc} (hpc : pc ≠ .exited)
    (h : ∀ t ∈ s.tasks, t.id = id → t.pc ≠ .exited) : (s.setTask id pc).liveIds = s.liveIds := by
  simp only [liveIds, setTask]
  generalize s.tasks = ts at h
  induction ts with
  | nil => rfl
  | cons t ts ih =>
      have ih := ih fun u hu => h u (List.mem_cons_of_mem _ hu)
      by_cases ht : t.id = id <;> by_cases hp : t.pc = .exited <;>
        simp_all [List.filter_cons]

/-- A target stream found at a program counter other than `exited` is live. -/
theorem mem_liveIds_of_taskPc {id : Nat} {pc : TaskPc} (h : s.taskPc id = some pc)
    (hpc : pc ≠ .exited) : id ∈ s.liveIds := by
  obtain ⟨t, ht, rfl⟩ := Option.map_eq_some'.1 h
  have hid : t.id = id := by simpa using List.find?_some ht
  exact hid ▸ List.mem_map_of_mem _
    (List.mem_filter.2 ⟨List.mem_of_find?_eq_some ht, by simpa using hpc⟩)

/-- A relaying target stream's send, whether it panics or meets the send pump, keeps the live
ids. -/
theorem liveIds_taskSend {s' : Session} (hi : StreamInv s) {id : Nat} {msg : ProxyReply}
    {pc : TaskPc} (hpc : s.taskPc id = some .relay) (h : s.taskSend id msg pc = some s')
    (hpc' : pc ≠ .exited) : s'.liveIds = s.liveIds := by
  rcases taskSend_cases h with ⟨-, rfl⟩ | ⟨-, -, rfl⟩
  · rfl
  · refine liveIds_setTask_live hpc' fun t ht he hx => ?_
    have := taskPc_of_nodup hi.nodup ht
    rw [he, hpc, hx] at this
    cases this

/-- The reply of `Add` adds the stream it starts, if any, to the live ids. -/
theorem liveIds_addDone (st : StartStream) (r : StartResult) :
    (s.addDone st r).liveIds = s.liveIds ++ r.launched.map Task.id := by
  cases r <;> simp [liveIds, addDone, StartResult.launched, List.filter_append]

/-- Only the dispatcher changes which target streams are live: a target stream's send keeps it
live, and `receive`, the send pump and the client move no target stream. -/
theorem liveIds_other_mover {sm : List String} {a : Action} {s' : Session} (hi : StreamInv s)
    (h : stepLive sm s a = some s') (ha : a.mover ≠ .dispatcher) : s'.liveIds = s.liveIds := by
  by_cases ht : a.mover = .task
  · obtain ⟨_, _, _, hpc, hs, hm⟩ := stepLive_task h ht
    exact liveIds_taskSend hi hpc hs (by rcases hm with ⟨-, -, rfl⟩ | ⟨-, -, rfl⟩ <;> decide)
  · rw [liveIds, liveIds, (stepLive_pump_frame h ha ht).1]

end Session

/-- The set holds exactly the target streams whose goroutine has not returned, in the order `Add`
started them. -/
def Registered (s : Session) : Prop :=
  s.set.ids = s.liveIds

variable {sm : List String} {s s' : Session}

namespace Registered

theorem init : Registered Session.init := rfl

/-- A relaying target stream's send, whether it panics or meets the send pump, keeps the set and
the live ids. -/
theorem taskSend (hr : Registered s) (hi : StreamInv s) {id : Nat} {msg : ProxyReply}
    {pc : TaskPc} (hpc : s.taskPc id = some .relay) (h : s.taskSend id msg pc = some s')
    (hpc' : pc ≠ .exited) : Registered s' := by
  unfold Registered
  rw [liveIds_taskSend hi hpc h hpc']
  rcases taskSend_cases h with ⟨-, rfl⟩ | ⟨-, -, rfl⟩ <;> exact hr

/-- One step keeps the set and the live ids together. -/
theorem step (hr : Registered s) (hi : StreamInv s) {a : Action}
    (h : Proxy.step sm s a = some s') : Registered s' := by
  have h := (step_live h).2
  cases ha : a.streamMove
  · obtain ⟨ht, -, -, hids⟩ := stepLive_frame h ha
    unfold Registered liveIds
    rw [hids, ht]
    exact hr
  · cases a with
    | addReply refusal =>
        obtain ⟨st, -, -, rfl⟩ := stepLive_addReply h
        unfold Registered liveIds at hr ⊢
        cases hsr : startResult sm st refusal s.set.nextId with
        | streamId n =>
            obtain rfl := startResult_streamId hsr
            simpa [Session.addDone, StartResult.launched, TargetStreamSet.insert,
              TargetStreamSet.ids, List.filter_append] using hr
        | errorStatus e => simpa [Session.addDone, StartResult.launched] using hr
    | dispRemove id =>
        obtain ⟨-, -, rfl⟩ := stepLive_dispRemove h
        show (s.set.remove id).ids = (s.setTask id .exited).liveIds
        rw [TargetStreamSet.remove_ids, liveIds_setTask_exited, hr]
    | taskData id _ =>
        obtain ⟨hpc, h⟩ := stepLive_taskData h
        exact hr.taskSend hi hpc h (by decide)
    | taskClose id _ =>
        obtain ⟨hpc, h⟩ := stepLive_taskClose h
        exact hr.taskSend hi hpc h (by decide)
    | _ => cases ha

end Registered

/-- Every reachable session keeps the set and the live ids together. -/
theorem Reachable.registered (h : Reachable sm s) : Registered s := by
  induction h with
  | init => exact Registered.init
  | step _ hs hst ih => exact ih.step hs.streamInv hst

/-! ## Frames for removed streams -/

/-- The stream ids a client frame names. -/
def Request.streamIds : Request → List Nat
  | .startStream _ => []
  | .streamData d => d.streamIds
  | .clientCancel c => c.streamIds
  | .clientClose c => c.streamIds

/-- A stream-set call whose frame names an id the set does not hold fails. -/
theorem route_unknown {q : Request} {id : Nat} (hid : id ∈ q.streamIds)
    (hn : id ∉ s.set.ids) :
    ∃ e, s.route (some q) = ({ s with calls := s.calls ++ [Call.mk q.op (some e)] }).exitDispatch
      (some (.protocol e)) := by
  cases q with
  | startStream _ => cases hid
  | streamData d =>
      rcases setCall_cases s (.send d) (s.set.send d) with ⟨h0, -⟩ | ⟨e, -, h⟩
      · have h1 : (s.set.send d).2.isSome = true := TargetStreamSet.fan_unknown _ hid hn
        rw [h0] at h1
        cases h1
      · exact ⟨e, h⟩
  | clientCancel c =>
      rcases setCall_cases s (.cancel c) (s.set.cancel c) with ⟨h0, -⟩ | ⟨e, -, h⟩
      · have h1 : (s.set.cancel c).2.isSome = true := TargetStreamSet.fan_unknown _ hid hn
        rw [h0] at h1
        cases h1
      · exact ⟨e, h⟩
  | clientClose c =>
      rcases setCall_cases s (.clientClose c) (s.set.clientClose c) with ⟨h0, -⟩ | ⟨e, -, h⟩
      · have h1 : (s.set.clientClose c).2.isSome = true := TargetStreamSet.fan_unknown _ hid hn
        rw [h0] at h1
        cases h1
      · exact ⟨e, h⟩

/-- Once the dispatcher has removed target stream `id`, the next client frame that names it, if
the dispatcher takes it, makes `dispatch` return a protocol error and cancels the session's
context: a `ClientClose`, `ClientCancel` or `StreamData` that crosses the stream's
`ServerClose` ends every stream of the session. -/
theorem removed_stream_frame_fails (h : Reachable sm s) {id : Nat} {f : ProxyRequest}
    {q : Request} (hx : s.taskPc id = some .exited) (hr : s.recv = .offer f)
    (hd : s.disp = .select) (hq : f.request = some q) (hid : id ∈ q.streamIds) :
    ∃ s' e, step sm s .dispatch = some s' ∧ s'.disp = .exited (some (.protocol e)) ∧
      s'.ctxDone = true := by
  have hi := h.streamInv
  have hp : s.panicked = false := by
    simpa using h.inv.not_panicked (by simp [replyClosed, hd])
  have hn : id ∉ s.set.ids := by
    rw [h.registered]
    intro hm
    obtain ⟨t, ht, rfl⟩ := List.mem_map.1 hm
    have hpc := taskPc_of_nodup hi.nodup (List.mem_filter.1 ht).1
    rw [hx, Option.some.injEq] at hpc
    simp [← hpc] at ht
  obtain ⟨e, he⟩ := route_unknown (s := { s with recv := .recv, delivered := s.delivered ++ [f] })
    hid hn
  have hstep : step sm s .dispatch =
      some (({ s with recv := .recv, delivered := s.delivered ++ [f] }).route f.request) := by
    simp [step, hp, stepLive, hr, hd]
  rw [hq, he] at hstep
  exact ⟨_, e, hstep, rfl, rfl⟩

/-- Stream 1 sends its `ServerClose` and the dispatcher removes it; the client's `ClientClose`
for it, sent before that `ServerClose` reached the client, arrives afterwards. -/
def lateCloseSchedule : List Action :=
  openStream ++ [.taskClose 1 ⟨.ok, ""⟩, .sendOk, .dispRemove 1,
    .recvFrame ⟨some (.clientClose ⟨[1]⟩)⟩]

theorem removed_stream_frame_fails_lateClose :
    ∃ s, run healthCheck .init lateCloseSchedule = some s ∧
      ∃ s' e, step healthCheck s .dispatch = some s' ∧
        s'.disp = .exited (some (.protocol e)) ∧ s'.ctxDone = true :=
  ⟨_, rfl, removed_stream_frame_fails
    (Reachable.init.run (rfl : run healthCheck .init lateCloseSchedule = some _))
    (by rfl) (by rfl) (by rfl) (by rfl)
    (show (1 : Nat) ∈ (Request.clientClose ⟨[1]⟩).streamIds by decide)⟩

end Proxy
end Sansshell
