import Sansshell.Proxy.Streams

/-!
# Lifecycle — a stream id from `Add` to data after close

`Add` hands out the set's next id and counts it up; a `ClientClose` or `ClientCancel` takes a
stream out of `Open` for good, and a `StreamData` to a stream that is not open is a protocol
error that ends the session.

* `ProxyReply.grantedId?`, `Session.endedIds` — the id a `StartStreamReply` grants, and the
  ids a successful `ClientClose` or `ClientCancel` named.
* `LifeInv` — the ids granted on `replyChan` are `1, 2, …, nextId - 1` in order, every id the
  set holds or the client ended is below `nextId`, and no ended stream is open. Every step
  keeps it.
* `stream_ids_consecutive` — stream ids are granted in increasing order from 1, each once, so
  none is reused after its stream closes; the client receives them in that order.
* `ended_stream_data_fails` — data after close: a `StreamData` frame that names a stream the
  client ended makes `dispatch` return a protocol error and cancels the session.
-/

namespace Sansshell
namespace Proxy

open Session

/-- The id a `StartStreamReply` grants, if it grants one. -/
def ProxyReply.grantedId? : ProxyReply → Option Nat
  | .startStreamReply ⟨_, _, .streamId id⟩ => some id
  | _ => none

/-- The ids of the streams a successful `ClientClose` or `ClientCancel` call ended. -/
def Call.endedIds : Call → List Nat
  | ⟨.clientClose c, none⟩ => c.streamIds
  | ⟨.cancel c, none⟩ => c.streamIds
  | _ => []

/-- The ids of the streams the client ended by a successful `ClientClose` or `ClientCancel`. -/
def Session.endedIds (s : Session) : List Nat :=
  s.calls.flatMap Call.endedIds

/-- The stream set's ids against the frames put on `replyChan` and the calls made. -/
structure LifeInv (s : Session) : Prop where
  granted : s.put.filterMap ProxyReply.grantedId? = List.range' 1 (s.set.nextId - 1)
  next_pos : 0 < s.set.nextId
  held_lt : ∀ id ∈ s.set.ids, id < s.set.nextId
  ended_lt : ∀ id ∈ s.endedIds, id < s.set.nextId
  ended : ∀ id ∈ s.endedIds, s.set.streams.lookup id ≠ some .opened

variable {sm : List String} {s s' : Session}

namespace LifeInv

theorem init : LifeInv Session.init :=
  ⟨rfl, Nat.one_pos, (fun _ h => by cases h), (fun _ h => by cases h), (fun _ h => by cases h)⟩

/-- A move that grants no id and keeps the set and the ended streams keeps the invariant. -/
theorem keep (hi : LifeInv s)
    (hg : s'.put.filterMap ProxyReply.grantedId? = s.put.filterMap ProxyReply.grantedId?)
    (hs : s'.set = s.set) (he : s'.endedIds = s.endedIds) : LifeInv s' := by
  obtain ⟨h1, h2, h3, h4, h5⟩ := hi
  exact ⟨hg.trans (hs ▸ h1), hs ▸ h2, hs ▸ h3, he ▸ hs ▸ h4, he ▸ hs ▸ h5⟩

/-- A successful stream-set call that keeps the next id and the ids, and leaves no stream that
was not open, nor one it ends, open. -/
theorem setOk (hi : LifeInv s) {op : Op} {t : TargetStreamSet} (hn : t.nextId = s.set.nextId)
    (hids : t.ids = s.set.ids)
    (hkeep : ∀ id, s.set.streams.lookup id ≠ some .opened → t.streams.lookup id ≠ some .opened)
    (hend : ∀ id ∈ (Call.mk op none).endedIds,
      id ∈ s.set.ids ∧ t.streams.lookup id ≠ some .opened) :
    LifeInv { s with calls := s.calls ++ [Call.mk op none], set := t } := by
  have he : ∀ id ∈ ({ s with calls := s.calls ++ [Call.mk op none], set := t }).endedIds,
      id ∈ s.endedIds ∨ id ∈ (Call.mk op none).endedIds := fun id h => by
    simpa [endedIds] using h
  refine ⟨hn ▸ hi.granted, hn ▸ hi.next_pos, hn ▸ hids ▸ hi.held_lt, fun id h => ?_,
    fun id h => ?_⟩ <;> rcases he id h with h | h
  · exact hn ▸ hi.ended_lt id h
  · exact hn ▸ hi.held_lt id (hend id h).1
  · exact hkeep id (hi.ended id h)
  · exact (hend id h).2

/-- The type switch of `dispatch` keeps the invariant. -/
theorem route (hi : LifeInv s) (r : Option Request) : LifeInv (s.route r) := by
  have hexit : ∀ (t : Session) (e : Option GoError), LifeInv t → LifeInv (t.exitDispatch e) :=
    fun t e ht => ht.keep (by simp [exitDispatch]) (by simp [exitDispatch])
      (by simp [exitDispatch, endedIds])
  have hfail : ∀ (op : Op) (e : ProtocolError),
      LifeInv (({ s with calls := s.calls ++ [Call.mk op (some e)] }).exitDispatch
        (some (.protocol e))) :=
    fun op e => hexit _ _ (hi.keep rfl rfl (by simp [endedIds, Call.endedIds]))
  rcases r with _ | (st | d | c | c)
  · exact hexit _ _ hi
  · exact hi.keep rfl rfl (by simp [endedIds, Call.endedIds, Session.route])
  · simp only [Session.route]
    rcases setCall_cases s (.send d) (s.set.send d) with ⟨-, h⟩ | ⟨e, -, h⟩ <;> rw [h]
    · exact hi.setOk rfl (by simp) (fun _ => TargetStreamSet.send_not_opened _ _)
        (fun _ h => nomatch h)
    · exact hfail _ _
  · simp only [Session.route]
    rcases setCall_cases s (.cancel c) (s.set.cancel c) with ⟨hok, h⟩ | ⟨e, -, h⟩ <;> rw [h]
    · exact hi.setOk rfl (by simp) (fun _ => TargetStreamSet.cancel_not_opened _ _)
        fun id h => ⟨TargetStreamSet.fan_ok_mem h hok, TargetStreamSet.cancel_closes _ _ h hok⟩
    · exact hfail _ _
  · simp only [Session.route]
    rcases setCall_cases s (.clientClose c) (s.set.clientClose c) with ⟨hok, h⟩ | ⟨e, -, h⟩ <;>
      rw [h]
    · exact hi.setOk rfl (by simp) (fun _ => TargetStreamSet.clientClose_not_opened _ _)
        fun id h => ⟨TargetStreamSet.fan_ok_mem h hok, TargetStreamSet.clientClose_closes _ _ h hok⟩
    · exact hfail _ _

/-- `Add` hands its `StartStreamReply` over: a granted id is the next one, and it is counted
up. -/
theorem addDone (hi : LifeInv s) (st : StartStream) (refusal : Option Status) :
    LifeInv (s.addDone st (startResult sm st refusal s.set.nextId)) := by
  cases hsr : startResult sm st refusal s.set.nextId with
  | streamId n =>
      obtain rfl := startResult_streamId hsr
      have hpos := hi.next_pos
      have hset : (s.addDone st (.streamId s.set.nextId)).set = s.set.insert := by
        simp [Session.addDone, StartResult.launched]
      refine ⟨?_, ?_, ?_, ?_, ?_⟩ <;> rw [hset]
      · have hn : s.set.insert.nextId - 1 = s.set.nextId - 1 + 1 := by
          show s.set.nextId + 1 - 1 = _
          omega
        simp only [Session.addDone, List.filterMap_append, hi.granted]
        rw [hn, List.range'_1_concat]
        simp [ProxyReply.grantedId?]
        omega
      · exact Nat.succ_pos _
      · intro id h
        simp only [TargetStreamSet.insert, TargetStreamSet.ids, List.map_append, List.mem_append,
          List.map_cons, List.map_nil, List.mem_singleton] at h
        rcases h with h | rfl
        · exact Nat.lt_succ_of_lt (hi.held_lt id h)
        · exact Nat.lt_succ_self _
      · exact fun id h => Nat.lt_succ_of_lt (hi.ended_lt id h)
      · intro id h
        rw [TargetStreamSet.insert_lookup _ (Nat.ne_of_lt (hi.ended_lt id h))]
        exact hi.ended id h
  | errorStatus e =>
      exact hi.keep (by simp [Session.addDone, ProxyReply.grantedId?])
        (by simp [Session.addDone, StartResult.launched]) rfl

/-- A move of any goroutine but the dispatcher grants no id and leaves the set and the calls. -/
theorem of_other (hi : LifeInv s) {a : Action} (h : stepLive sm s a = some s')
    (ha : a.mover ≠ .dispatcher) : LifeInv s' := by
  obtain ⟨-, hset, hcalls, -⟩ := stepLive_dispatcher_frame h ha
  refine hi.keep ?_ hset (by simp only [endedIds, hcalls])
  rcases stepLive_put h ha with hp | ⟨_, ⟨_, hp⟩ | ⟨_, hp⟩⟩ <;> simp [hp, ProxyReply.grantedId?]

/-- One step keeps the invariant. -/
theorem step (hi : LifeInv s) {a : Action} (h : Proxy.step sm s a = some s') : LifeInv s' := by
  have h := (step_live h).2
  cases a with
  | dispatch =>
      obtain ⟨req, -, -, rfl⟩ := stepLive_dispatch h
      have hi' : LifeInv { s with recv := .recv, delivered := s.delivered ++ [req] } :=
        hi.keep rfl rfl rfl
      exact hi'.route _
  | dispCanceled =>
      obtain ⟨-, -, rfl⟩ := stepLive_dispCanceled h
      exact hi.keep rfl rfl rfl
  | dispRemove id =>
      obtain ⟨-, -, rfl⟩ := stepLive_dispRemove h
      refine ⟨hi.granted, hi.next_pos, fun k hk => hi.held_lt k ?_, hi.ended_lt, fun k hk => ?_⟩
      · rw [show (s.set.remove id).ids = _ from TargetStreamSet.remove_ids _ _] at hk
        exact (List.mem_filter.1 hk).1
      · show (s.set.remove id).streams.lookup k ≠ some .opened
        rw [TargetStreamSet.remove_lookup]
        split
        · simp
        · exact hi.ended k hk
  | dispClosed =>
      obtain ⟨-, -, rfl⟩ := stepLive_dispClosed h
      refine ⟨hi.granted, hi.next_pos, ?_, ?_, fun k _ => ?_⟩
      · simpa using hi.held_lt
      · simpa [endedIds, Call.endedIds] using hi.ended_lt
      · exact TargetStreamSet.clientCloseAll_not_opened _ _
  | addReply _ =>
      obtain ⟨st, -, -, rfl⟩ := stepLive_addReply h
      exact hi.addDone st _
  | waitReturn =>
      obtain ⟨-, -, rfl⟩ := stepLive_waitReturn h
      exact hi.keep (by simp [exitDispatch]) (by simp [exitDispatch])
        (by simp [exitDispatch, endedIds])
  | _ => exact hi.of_other h nofun

end LifeInv

/-- Every reachable session satisfies `LifeInv`. -/
theorem Reachable.lifeInv (h : Reachable sm s) : LifeInv s := by
  induction h with
  | init => exact LifeInv.init
  | step _ _ hs ih => exact ih.step hs

/-! ## Stream ids -/

/-- The proxy grants stream ids in increasing order from 1, each once: the `StartStreamReply`
frames put on `replyChan` grant exactly `1, 2, …, nextId - 1`, in that order, so no id is
reused after its stream closes; the client receives a prefix of that sequence. -/
theorem stream_ids_consecutive (h : Reachable sm s) :
    s.put.filterMap ProxyReply.grantedId? = List.range' 1 (s.set.nextId - 1) ∧
      s.sent.filterMap ProxyReply.grantedId? <+: List.range' 1 (s.set.nextId - 1) := by
  have hl := h.lifeInv
  refine ⟨hl.granted, ?_⟩
  rw [← hl.granted, h.inv.replies, List.filterMap_append]
  exact List.prefix_append _ _

theorem stream_ids_consecutive_twoStreams :
    ∃ s, run healthCheck .init (openStream ++ openStream) = some s ∧ s.set.nextId = 3 ∧
      s.put.filterMap ProxyReply.grantedId? = List.range' 1 (s.set.nextId - 1) ∧
      s.sent.filterMap ProxyReply.grantedId? <+: List.range' 1 (s.set.nextId - 1) :=
  ⟨_, rfl, rfl, stream_ids_consecutive
    (Reachable.init.run (rfl : run healthCheck .init (openStream ++ openStream) = some _))⟩

/-! ## Data after close -/

/-- Data after close: once a `ClientClose` or `ClientCancel` naming stream `id` has succeeded,
a `StreamData` frame that names `id`, if the dispatcher takes it, makes `dispatch` return a
protocol error and cancels the session, whether the stream is still in the set or was removed. -/
theorem ended_stream_data_fails (h : Reachable sm s) {id : Nat} {f : ProxyRequest}
    {d : StreamData} (hend : id ∈ s.endedIds) (hr : s.recv = .offer f) (hd : s.disp = .select)
    (hq : f.request = some (.streamData d)) (hid : id ∈ d.streamIds) :
    ∃ s' e, step sm s .dispatch = some s' ∧ s'.disp = .exited (some (.protocol e)) ∧
      s'.ctxDone = true := by
  have hp : s.panicked = false := by
    simpa using h.inv.not_panicked (by simp [replyClosed, hd])
  have hfail := TargetStreamSet.send_fails s.set d hid (h.lifeInv.ended id hend)
  have hstep : step sm s .dispatch =
      some (({ s with recv := .recv, delivered := s.delivered ++ [f] }).route f.request) := by
    simp [step, hp, stepLive, hr, hd]
  rw [hq] at hstep
  rcases setCall_cases { s with recv := .recv, delivered := s.delivered ++ [f] } (.send d)
    (s.set.send d) with ⟨h0, -⟩ | ⟨e, -, hcall⟩
  · rw [h0] at hfail
    cases hfail
  · exact ⟨_, e, hstep.trans (congrArg some hcall), rfl, rfl⟩

/-- The client half-closes stream 1 and then sends it data. -/
def closedDataSchedule : List Action :=
  openStream ++ [.recvFrame ⟨some (.clientClose ⟨[1]⟩)⟩, .dispatch,
    .recvFrame ⟨some (.streamData ⟨[1], ⟨"", "ping"⟩⟩)⟩]

theorem ended_stream_data_fails_closedData :
    ∃ s, run healthCheck .init closedDataSchedule = some s ∧
      ∃ s' e, step healthCheck s .dispatch = some s' ∧
        s'.disp = .exited (some (.protocol e)) ∧ s'.ctxDone = true :=
  ⟨_, rfl, ended_stream_data_fails
    (Reachable.init.run (rfl : run healthCheck .init closedDataSchedule = some _))
    (show 1 ∈ _ by decide) (by rfl) (by rfl) (by rfl) (by decide)⟩

end Proxy
end Sansshell
