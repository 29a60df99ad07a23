import Sansshell.Proxy.Invariants

/-!
# Streams — each target stream's frames on `replyChan`

`replyChan` is shared: the dispatcher puts every `StartStreamReply` on it, and every target
stream its backend's payloads and its final `ServerClose`. The client tells them apart by
stream id. This module proves that in every reachable session the frames of one stream id are
the life of that stream, in order:

* `repliesFor id l` — the frames of `l` that belong to stream `id`.
* `StreamTrace id pc l` — the `StartStreamReply` that handed out `id`, then payloads, then one
  `ServerClose` exactly when the stream's goroutine, at `pc`, has stopped relaying.
* `route_frame`, `stepLive_frame` — `dispatch`'s type switch, and every action but `Add`'s
  reply, `Remove` and a target stream's send, leave the target streams, the frames and the
  set's ids and next id as they were.
* `StreamInv` — target-stream ids are distinct and below the next id `Add` hands out; an id no
  target stream serves has no frames; a served id's frames follow `StreamTrace`.
  `StreamInv.step` keeps it and `Reachable.streamInv` closes the induction.
* `stream_replies_ordered` — the statement over every reachable session, with the client's
  side: the frames `stream.Send` has passed on for an id are a prefix of that id's frames.
* `start_replies_in_order` — the `StartStreamReply`s answer the `StartStream` frames the
  dispatcher took, one each and in order, echoing target and nonce.
-/

namespace Sansshell
namespace Proxy

/-! ## One stream's frames -/

/-- The stream a reply frame belongs to: the id a `StartStreamReply` hands out, or the id a
target stream's frame carries. A refused `StartStreamReply` belongs to no stream. -/
def ProxyReply.streamId? : ProxyReply → Option Nat
  | .startStreamReply ⟨_, _, .streamId id⟩ => some id
  | .startStreamReply ⟨_, _, .errorStatus _⟩ => none
  | .streamData id _ => some id
  | .serverClose id _ => some id

/-- The frames of stream `id` among `l`, in order. -/
def repliesFor (id : Nat) (l : List ProxyReply) : List ProxyReply :=
  l.filter fun r => r.streamId? = some id

@[simp] theorem repliesFor_append (id : Nat) (l l' : List ProxyReply) :
    repliesFor id (l ++ l') = repliesFor id l ++ repliesFor id l' :=
  List.filter_append l l'

/-- Frames that all belong to stream `id` are kept whole for `id` and dropped for every other
id. -/
theorem repliesFor_of_streamId {id : Nat} {new : List ProxyReply}
    (h : ∀ r ∈ new, r.streamId? = some id) (id' : Nat) :
    repliesFor id' new = if id' = id then new else [] := by
  split_ifs with he
  · subst he
    exact List.filter_eq_self.2 fun r hr => by simp [h r hr]
  · exact List.filter_eq_nil_iff.2 fun r hr => by simp [h r hr, Ne.symm he]

/-- The life of stream `id` on `replyChan` while its goroutine is at `pc`: the
`StartStreamReply` that handed out `id`, the backend's payloads, and a `ServerClose` exactly
when the goroutine has stopped relaying. -/
def StreamTrace (id : Nat) (pc : TaskPc) (l : List ProxyReply) : Prop :=
  ∃ (target : String) (nonce : Nat) (payloads : List Any) (close : Option Status),
    l = .startStreamReply ⟨target, nonce, .streamId id⟩ :: payloads.map (.streamData id) ++
        (close.map (.serverClose id)).toList ∧
      (close = none ↔ pc = .relay)

namespace StreamTrace

variable {id : Nat} {l : List ProxyReply}

/-- A stream starts with the `StartStreamReply` that hands out its id. -/
theorem announce (target : String) (nonce : Nat) :
    StreamTrace id .relay [.startStreamReply ⟨target, nonce, .streamId id⟩] :=
  ⟨target, nonce, [], none, rfl, iff_of_true rfl rfl⟩

/-- A relaying stream's payload goes after the payloads before it. -/
theorem data (h : StreamTrace id .relay l) (p : Any) :
    StreamTrace id .relay (l ++ [.streamData id p]) := by
  obtain ⟨target, nonce, ps, close, rfl, hc⟩ := h
  obtain rfl := hc.2 rfl
  exact ⟨target, nonce, ps ++ [p], none, by simp, hc⟩

/-- A relaying stream's `ServerClose` ends its frames. -/
theorem serverClose (h : StreamTrace id .relay l) (st : Status) :
    StreamTrace id .publish (l ++ [.serverClose id st]) := by
  obtain ⟨target, nonce, ps, close, rfl, hc⟩ := h
  obtain rfl := hc.2 rfl
  exact ⟨target, nonce, ps, some st, by simp, by simp⟩

/-- Publishing the id on `doneChan` adds no frame. -/
theorem exit (h : StreamTrace id .publish l) : StreamTrace id .exited l := by
  obtain ⟨target, nonce, ps, close, hl, hc⟩ := h
  exact ⟨target, nonce, ps, close, hl, hc.trans (iff_of_false (by decide) (by decide))⟩

end StreamTrace

/-! ## What a step leaves alone -/

namespace Session

variable {s : Session}

/-- Moving a target stream keeps every stream's id. -/
@[simp] theorem setTask_ids (id : Nat) (pc : TaskPc) :
    (s.setTask id pc).tasks.map Task.id = s.tasks.map Task.id := by
  simp only [setTask, List.map_map]
  exact List.map_congr_left fun t _ => by simp only [Function.comp]; split <;> rfl

/-- A target stream appended under an id no stream has is found under that id, and every
other id keeps its program counter. -/
theorem taskPc_append_fresh {s' : Session} {n : Nat} {pc : TaskPc}
    (ht : s'.tasks = s.tasks ++ [⟨n, pc⟩]) (hn : s.taskPc n = none) (id : Nat) :
    s'.taskPc id = if id = n then some pc else s.taskPc id := by
  have hnone : s.tasks.find? (·.id = n) = none := Option.map_eq_none'.1 hn
  simp only [taskPc, ht, List.find?_append]
  split_ifs with h
  · subst h
    simp [hnone]
  · simp [Ne.symm h]

/-- With distinct ids, every target stream is found under its id. -/
theorem taskPc_of_nodup (hnd : (s.tasks.map Task.id).Nodup) {t : Task} (ht : t ∈ s.tasks) :
    s.taskPc t.id = some t.pc := by
  simp only [taskPc]
  generalize s.tasks = ts at hnd ht
  induction ts with
  | nil => cases ht
  | cons u us ih =>
      obtain ⟨hu, hnd⟩ := List.nodup_cons.1 hnd
      rcases List.mem_cons.1 ht with rfl | ht
      · simp
      · have hne : ¬ u.id = t.id := fun he => hu (he ▸ List.mem_map_of_mem _ ht)
        simp [List.find?_cons, hne, ih hnd ht]

end Session

open Session

/-- `Add` hands out no id but the one it is given. -/
theorem startResult_streamId {sm : List String} {st : StartStream} {refusal : Option Status}
    {n id : Nat} (h : startResult sm st refusal n = .streamId id) : id = n := by
  unfold startResult at h
  split_ifs at h
  cases refusal <;> cases h
  rfl

variable {sm : List String} {s s' : Session}

/-! ## The invariant -/

/-- The facts about target streams and their frames that every reachable session
satisfies. -/
structure StreamInv (s : Session) : Prop where
  /-- Every target stream's id is below the id `Add` hands out next. -/
  id_lt : ∀ id ∈ s.tasks.map Task.id, id < s.set.nextId
  /-- No two target streams share an id. -/
  nodup : (s.tasks.map Task.id).Nodup
  /-- An id no target stream serves has no frames on `replyChan`. -/
  idle : ∀ id, s.taskPc id = none → repliesFor id s.put = []
  /-- A target stream's frames follow its life. -/
  trace : ∀ id pc, s.taskPc id = some pc → StreamTrace id pc (repliesFor id s.put)

namespace StreamInv

theorem init : StreamInv Session.init where
  id_lt _ h := by cases h
  nodup := .nil
  idle _ _ := rfl
  trace _ _ h := by simp [taskPc, Session.init] at h

/-- The id `Add` hands out next is served by no target stream. -/
theorem taskPc_next (hi : StreamInv s) : s.taskPc s.set.nextId = none := by
  simp only [taskPc, Option.map_eq_none', List.find?_eq_none, decide_eq_true_eq]
  intro t ht hid
  exact absurd (hi.id_lt t.id (List.mem_map_of_mem _ ht)) (by omega)

/-- A step that keeps the target streams and the id counter, and adds no frame to any stream,
keeps the invariant. -/
theorem of_frame (hi : StreamInv s) (ht : s'.tasks = s.tasks)
    (hn : s'.set.nextId = s.set.nextId) (hp : ∀ id, repliesFor id s'.put = repliesFor id s.put) :
    StreamInv s' where
  id_lt := by rw [ht, hn]; exact hi.id_lt
  nodup := by rw [ht]; exact hi.nodup
  idle id h := by rw [hp]; exact hi.idle id (by rwa [← taskPc_congr ht])
  trace id pc h := by rw [hp]; exact hi.trace id pc (by rwa [← taskPc_congr ht])

/-- Moving target stream `id` to `pc` while putting frames `new` of that stream keeps the
invariant, when the stream's frames then follow `pc`. -/
theorem move (hi : StreamInv s) {id : Nat} {pc₀ pc : TaskPc} {new : List ProxyReply}
    (hpc : s.taskPc id = some pc₀) (hnew : ∀ r ∈ new, r.streamId? = some id)
    (htr : StreamTrace id pc (repliesFor id s.put ++ new))
    (ht : s'.tasks = (s.setTask id pc).tasks) (hp : s'.put = s.put ++ new)
    (hn : s'.set.nextId = s.set.nextId) : StreamInv s' := by
  have hids : s'.tasks.map Task.id = s.tasks.map Task.id := by rw [ht, setTask_ids]
  have hpc' : ∀ i, s'.taskPc i = if i = id then some pc else s.taskPc i := fun i => by
    rw [taskPc_congr ht]
    split_ifs with hi
    · subst hi; exact taskPc_setTask_self pc hpc
    · exact taskPc_setTask_ne pc hi
  refine ⟨by rw [hids, hn]; exact hi.id_lt, by rw [hids]; exact hi.nodup, ?_, ?_⟩
  · intro i h
    rw [hpc'] at h
    split_ifs at h with he
    rw [hp, repliesFor_append, repliesFor_of_streamId hnew, if_neg he, hi.idle i h]
    rfl
  · intro i pc' h
    rw [hpc'] at h
    rw [hp, repliesFor_append, repliesFor_of_streamId hnew]
    split_ifs at h ⊢ with he
    · cases h; subst he; exact htr
    · rw [List.append_nil]; exact hi.trace i pc' h

/-- The reply of `Add` for the id it hands out next: the `StartStreamReply`, and on success the
target stream serving that id. -/
theorem addDone (hi : StreamInv s) (st : StartStream) (r : StartResult)
    (hr : ∀ id, r = .streamId id → id = s.set.nextId) : StreamInv (s.addDone st r) := by
  cases r with
  | errorStatus e =>
      refine hi.of_frame (List.append_nil _) (by simp [Session.addDone, StartResult.launched])
        fun id => ?_
      simp [Session.addDone, repliesFor, ProxyReply.streamId?]
  | streamId n =>
      obtain rfl := hr n rfl
      have hnext := hi.taskPc_next
      have hpc : ∀ i, (s.addDone st (.streamId s.set.nextId)).taskPc i =
          if i = s.set.nextId then some .relay else s.taskPc i :=
        taskPc_append_fresh rfl hnext
      have hnew : ∀ i,
          repliesFor i [.startStreamReply ⟨st.target, st.nonce, .streamId s.set.nextId⟩] =
            if i = s.set.nextId then
              [.startStreamReply ⟨st.target, st.nonce, .streamId s.set.nextId⟩]
            else [] :=
        repliesFor_of_streamId (by simp [ProxyReply.streamId?])
      refine ⟨?_, ?_, ?_, ?_⟩
      · simp only [Session.addDone, StartResult.launched, List.map_append, List.mem_append]
        rintro i (h | h)
        · exact Nat.lt_succ_of_lt (hi.id_lt i h)
        · simp [TargetStreamSet.insert, List.mem_singleton.1 h]
      · simp only [Session.addDone, StartResult.launched, List.map_append]
        refine List.pairwise_append.2 ⟨hi.nodup, List.pairwise_singleton _ _, ?_⟩
        rintro i h _ hb rfl
        simp only [List.map_cons, List.map_nil, List.mem_singleton] at hb
        exact absurd (hi.id_lt i h) (by omega)
      · intro i h
        rw [hpc] at h
        split_ifs at h with he
        simp only [Session.addDone, repliesFor_append, hnew, if_neg he, hi.idle i h]
        rfl
      · intro i pc h
        rw [hpc] at h
        simp only [Session.addDone, repliesFor_append, hnew]
        split_ifs at h ⊢ with he
        · cases h; subst he
          rw [hi.idle _ hnext]
          exact StreamTrace.announce _ _
        · rw [List.append_nil]; exact hi.trace i pc h

/-- One step keeps the invariant. -/
theorem step (hi : StreamInv s) {a : Action} (h : Proxy.step sm s a = some s') :
    StreamInv s' := by
  have h := (step_live h).2
  cases ha : a.streamMove
  · obtain ⟨ht, hp, hn, -⟩ := stepLive_frame h ha
    exact hi.of_frame ht hn fun _ => by rw [hp]
  · cases a with
    | addReply refusal =>
        obtain ⟨st, -, -, rfl⟩ := stepLive_addReply h
        exact hi.addDone st _ fun _ => startResult_streamId
    | dispRemove id =>
        obtain ⟨-, hpc, rfl⟩ := stepLive_dispRemove h
        exact hi.move hpc (nofun : ∀ r ∈ ([] : List ProxyReply), r.streamId? = some id)
          (by rw [List.append_nil]; exact (hi.trace id _ hpc).exit) rfl (List.append_nil _).symm rfl
    | taskData id p =>
        obtain ⟨hpc, h⟩ := stepLive_taskData h
        rcases taskSend_cases h with ⟨-, rfl⟩ | ⟨-, -, rfl⟩
        · exact hi.of_frame rfl rfl fun _ => rfl
        · exact hi.move hpc (by simp [ProxyReply.streamId?]) ((hi.trace id _ hpc).data p)
            rfl rfl rfl
    | taskClose id st =>
        obtain ⟨hpc, h⟩ := stepLive_taskClose h
        rcases taskSend_cases h with ⟨-, rfl⟩ | ⟨-, -, rfl⟩
        · exact hi.of_frame rfl rfl fun _ => rfl
        · exact hi.move hpc (by simp [ProxyReply.streamId?]) ((hi.trace id _ hpc).serverClose st)
            rfl rfl rfl
    | _ => cases ha

end StreamInv

/-- Every reachable session satisfies `StreamInv`. -/
theorem Reachable.streamInv (h : Reachable sm s) : StreamInv s := by
  induction h with
  | init => exact StreamInv.init
  | step _ _ hs ih => exact ih.step hs

/-- In every reachable session the frames of each stream id on `replyChan` are the
`StartStreamReply` that handed the id out, then that stream's payloads, then, once its goroutine
has stopped relaying, exactly one `ServerClose`; an id no target stream serves has no frames;
and the frames `stream.Send` has passed on for the id are a prefix of them. -/
theorem stream_replies_ordered (h : Reachable sm s) (id : Nat) :
    (s.taskPc id = none → repliesFor id s.put = []) ∧
      (∀ pc, s.taskPc id = some pc → StreamTrace id pc (repliesFor id s.put)) ∧
      repliesFor id s.sent <+: repliesFor id s.put := by
  refine ⟨h.streamInv.idle id, h.streamInv.trace id, ?_⟩
  rw [h.inv.replies, repliesFor_append]
  exact List.prefix_append _ _

/-- Stream 1 opens, relays a payload, which is sent, and closes. -/
def relaySchedule : List Action :=
  openStream ++ [.taskData 1 ⟨"", "pong"⟩, .sendOk, .taskClose 1 ⟨.ok, ""⟩]

theorem stream_replies_ordered_relay : ∃ s, run healthCheck .init relaySchedule = some s ∧
    (s.taskPc 1 = none → repliesFor 1 s.put = []) ∧
      (∀ pc, s.taskPc 1 = some pc → StreamTrace 1 pc (repliesFor 1 s.put)) ∧
      repliesFor 1 s.sent <+: repliesFor 1 s.put :=
  ⟨_, rfl,
    stream_replies_ordered (Reachable.init.run (rfl : run healthCheck .init relaySchedule = some _))
      1⟩

/-! ## `StartStream` replies -/

/-- The target and nonce a `StartStreamReply` echoes. -/
def ProxyReply.startEcho? : ProxyReply → Option (String × Nat)
  | .startStreamReply r => some (r.target, r.nonce)
  | _ => none

/-- The target and nonce of a `StartStream` frame. -/
def ProxyRequest.start? (f : ProxyRequest) : Option (String × Nat) :=
  match f.request with
  | some (.startStream st) => some (st.target, st.nonce)
  | _ => none

/-- The `StartStream` whose reply `Add` has still to hand over. -/
def DispPc.adding : DispPc → List (String × Nat)
  | .add st => [(st.target, st.nonce)]
  | _ => []

/-- The `StartStreamReply`s put on `replyChan`, then the one `Add` still holds, answer the
`StartStream` frames the dispatcher took, one each and in order. -/
def StartsAnswered (s : Session) : Prop :=
  s.put.filterMap ProxyReply.startEcho? ++ s.disp.adding =
    s.delivered.filterMap ProxyRequest.start?

/-- The type switch of `dispatch`, from its select, leaves `Add` holding the frame's
`StartStream`, if it is one. -/
theorem Session.route_adding (hd : s.disp = .select) (r : Option Request) :
    (s.route r).disp.adding = (ProxyRequest.start? ⟨r⟩).toList := by
  rcases r with _ | (st | d | c | c)
  · rfl
  · rfl
  all_goals
    simp only [route]
    rcases setCall_cases s _ _ with ⟨-, h⟩ | ⟨e, -, h⟩ <;> rw [h]
    · simp [hd, DispPc.adding, ProxyRequest.start?]
    · rfl

namespace StartsAnswered

theorem init : StartsAnswered Session.init := rfl

/-- A move of any goroutine but the dispatcher takes no `StartStream` and answers none. -/
theorem of_other (hs : StartsAnswered s) {a : Action} (h : stepLive sm s a = some s')
    (ha : a.mover ≠ .dispatcher) : StartsAnswered s' := by
  obtain ⟨hd, -, -, hdl⟩ := stepLive_dispatcher_frame h ha
  unfold StartsAnswered at hs ⊢
  rw [hd, hdl]
  rcases stepLive_put h ha with hp | ⟨_, ⟨_, hp⟩ | ⟨_, hp⟩⟩ <;>
    simpa [hp, ProxyReply.startEcho?] using hs

/-- One step keeps the `StartStream` frames answered. -/
theorem step (hs : StartsAnswered s) {a : Action} (h : Proxy.step sm s a = some s') :
    StartsAnswered s' := by
  have h := (step_live h).2
  unfold StartsAnswered at hs ⊢
  cases a with
  | dispatch =>
      obtain ⟨req, -, hd, rfl⟩ := stepLive_dispatch h
      obtain ⟨-, -, -, hp, hdl, -⟩ :=
        route_frame (s := { s with recv := .recv, delivered := s.delivered ++ [req] }) req.request
      rw [hp, hdl, route_adding (s := { s with recv := .recv, delivered := _ }) hd]
      rw [hd] at hs
      cases hq : ProxyRequest.start? req <;>
        simp [← hs, List.filterMap_append, List.filterMap_cons, hq, DispPc.adding]
  | dispCanceled =>
      obtain ⟨hd, -, rfl⟩ := stepLive_dispCanceled h
      simpa [exitDispatch, hd, DispPc.adding] using hs
  | dispRemove _ => obtain ⟨-, -, rfl⟩ := stepLive_dispRemove h; exact hs
  | dispClosed =>
      obtain ⟨hd, -, rfl⟩ := stepLive_dispClosed h
      simpa [hd, DispPc.adding] using hs
  | addReply _ =>
      obtain ⟨_, hd, -, rfl⟩ := stepLive_addReply h
      simpa [Session.addDone, ProxyReply.startEcho?, hd, DispPc.adding] using hs
  | waitReturn =>
      obtain ⟨hd, -, rfl⟩ := stepLive_waitReturn h
      simpa [exitDispatch, hd, DispPc.adding] using hs
  | _ => exact of_other hs h nofun

end StartsAnswered

/-- In every reachable session the dispatcher answers the `StartStream` frames it takes one for
one and in order: the `StartStreamReply`s put on `replyChan` echo their targets and nonces, only
the frame `Add` is handling may still wait for its reply, and the client has been sent a prefix
of those replies. -/
theorem start_replies_in_order (h : Reachable sm s) :
    s.put.filterMap ProxyReply.startEcho? ++ s.disp.adding =
        s.delivered.filterMap ProxyRequest.start? ∧
      s.sent.filterMap ProxyReply.startEcho? <+: s.delivered.filterMap ProxyRequest.start? := by
  have hs : StartsAnswered s := by
    induction h with
    | init => exact StartsAnswered.init
    | step _ _ hst ih => exact ih.step hst
  refine ⟨hs, ?_⟩
  rw [← hs, h.inv.replies, List.filterMap_append, List.append_assoc]
  exact List.prefix_append _ _

theorem start_replies_in_order_relay : ∃ s, run healthCheck .init relaySchedule = some s ∧
    s.put.filterMap ProxyReply.startEcho? ++ s.disp.adding =
        s.delivered.filterMap ProxyRequest.start? ∧
      s.sent.filterMap ProxyReply.startEcho? <+: s.delivered.filterMap ProxyRequest.start? :=
  ⟨_, rfl, start_replies_in_order
    (Reachable.init.run (rfl : run healthCheck .init relaySchedule = some _))⟩

end Proxy
end Sansshell
