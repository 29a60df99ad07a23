import Sansshell.Proxy.Steps

/-!
# Invariants — what every reachable session satisfies

`Inv` collects the facts about the errgroup, the two pumps and the dispatcher's history that
hold in every state `Reachable` from `Session.init`. `Inv.step` proves that one step keeps
them, one case per action, from the inversion lemmas of `Steps`; `Reachable.inv` closes the
induction.
-/

namespace Sansshell
namespace Proxy

/-! ## Views of the goroutines -/

/-- Frames `stream.Recv` returned that the dispatcher has not taken: the one the receive pump
offers, or the one it dropped when its select took `ctx.Done()`. -/
@[simp] def RecvPc.Undelivered : RecvPc → List ProxyRequest → Prop
  | .offer req, rest => rest = [req]
  | .exited (some .canceled), rest => rest.length = 1
  | _, rest => rest = []

/-- The frame in the send pump's hand, passed to `stream.Send` and not yet returned from it. -/
@[simp] def SendPc.held : SendPc → List ProxyReply
  | .send msg => [msg]
  | _ => []

/-- The dispatcher is inside its `for`/`select` loop. -/
@[simp] def DispPc.inLoop : DispPc → Bool
  | .select => true
  | .add _ => true
  | _ => false

/-- The stream-set operations the delivered frames select, in order. -/
def Session.frameOps (s : Session) : List Op :=
  s.delivered.filterMap ProxyRequest.op

/-- The operations the dispatcher makes once it finds `requestChan` closed. -/
def closeOps : List Op := [.clientCloseAll, .wait]

/-- No frame selects `Wait`. -/
theorem wait_not_mem_frameOps (fs : List ProxyRequest) :
    Op.wait ∉ fs.filterMap ProxyRequest.op := by
  simp only [List.mem_filterMap, ProxyRequest.op, Option.map_eq_some', not_exists, not_and]
  intro f _ q _ hq
  cases q <;> cases hq

/-! ## The invariant -/

/-- The facts every reachable session satisfies. -/
structure Inv (s : Session) : Prop where
  /-- A goroutine that returned an error has cancelled the errgroup's context. -/
  recv_err : ∀ e, s.recv = .exited (some e) → s.ctxDone = true
  disp_err : ∀ e, s.disp = .exited (some e) → s.ctxDone = true ∧ s.groupErr.isSome = true
  send_err : ∀ e, s.sender = .exited (some e) → s.ctxDone = true
  /-- The send pump returns nil only after `replyChan` is closed. -/
  send_nil : s.sender = .exited none → s.replyClosed = true
  /-- Only a send on the closed `replyChan` panics, and the stream that made it has not
  returned. -/
  panic : s.panicked = true → s.replyClosed = true
  panic_live : s.panicked = true → ∃ t ∈ s.tasks, t.pc ≠ .exited
  /-- Received frames are the delivered ones and at most one more. -/
  undelivered : ∃ rest, s.received = s.delivered ++ rest ∧ s.recv.Undelivered rest
  /-- The calls are the delivered frames' operations, then `ClientCloseAll` and `Wait` once
  the loop saw `requestChan` closed. -/
  ops : s.calls.map Call.op = s.frameOps ∨
    (s.calls.map Call.op = s.frameOps ++ closeOps ∧ s.requestClosed = true ∧
      s.disp.inLoop = false)
  ops_closed : s.disp = .wait ∨ s.disp = .exited none →
    s.calls.map Call.op = s.frameOps ++ closeOps
  /-- A failed call is the last one, and `dispatch` returned its error. -/
  failed_last : ∀ c ∈ s.calls, ∀ e, c.err = some e →
    s.calls.getLast? = some c ∧ s.disp = .exited (some (.protocol e))
  /-- A frame with no discriminator is the last delivered one, and `dispatch` returned. -/
  unset_last : ∀ f ∈ s.delivered, f.request = none →
    s.delivered.getLast? = some f ∧ s.disp = .exited (some .unhandled)
  /-- The send pump passes on exactly what was put on `replyChan`, in order. -/
  replies : s.put = s.sent ++ s.sender.held
  /-- A `dispatch` that returned through `Wait` left no target stream running. -/
  waited : s.replyClosed = true → Op.wait ∈ s.calls.map Call.op → s.allTasksExited = true

namespace Inv

variable {s : Session}

theorem init : Inv Session.init where
  recv_err _ h := by cases h
  disp_err _ h := by cases h
  send_err _ h := by cases h
  send_nil h := by cases h
  panic h := by cases h
  panic_live h := by cases h
  undelivered := ⟨[], rfl, rfl⟩
  ops := .inl rfl
  ops_closed h := by rcases h with h | h <;> cases h
  failed_last _ h := by cases h
  unset_last _ h := by cases h
  replies := rfl
  waited h := by cases h

/-- Before `dispatch` returns no call has failed. -/
theorem calls_ok (hi : Inv s) (hd : s.replyClosed = false) : ∀ c ∈ s.calls, c.err = none := by
  intro c hc
  cases he : c.err with
  | none => rfl
  | some e => simp [Session.replyClosed, (hi.failed_last c hc e he).2] at hd

/-- Before `dispatch` returns every delivered frame had a discriminator. -/
theorem delivered_set (hi : Inv s) (hd : s.replyClosed = false) :
    ∀ f ∈ s.delivered, f.request ≠ none := by
  intro f hf hn
  simp [Session.replyClosed, (hi.unset_last f hf hn).2] at hd

/-- Before `dispatch` returns the send pump has not returned nil. -/
theorem sender_live (hi : Inv s) (hd : s.replyClosed = false) : s.sender ≠ .exited none :=
  fun h => Bool.false_ne_true (hd.symm.trans (hi.send_nil h))

/-- Before `dispatch` returns nothing has panicked. -/
theorem not_panicked (hi : Inv s) (hd : s.replyClosed = false) : s.panicked ≠ true :=
  fun h => Bool.false_ne_true (hd.symm.trans (hi.panic h))

/-- Inside the loop the calls are exactly the delivered frames' operations. -/
theorem ops_loop (hi : Inv s) (hl : s.disp.inLoop = true) :
    s.calls.map Call.op = s.frameOps :=
  hi.ops.resolve_right fun h => Bool.false_ne_true (h.2.2.symm.trans hl)

/-- While `requestChan` is open the calls are exactly the delivered frames' operations. -/
theorem ops_open (hi : Inv s) (hr : s.requestClosed = false) :
    s.calls.map Call.op = s.frameOps :=
  hi.ops.resolve_right fun h => Bool.false_ne_true (hr.symm.trans h.2.1)

/-- In `Wait` the calls end with `ClientCloseAll` and `Wait`, after `requestChan` closed. -/
theorem ops_waiting (hi : Inv s) (hd : s.disp = .wait) :
    s.calls.map Call.op = s.frameOps ++ closeOps ∧ s.requestClosed = true := by
  refine ⟨hi.ops_closed (.inl hd), ?_⟩
  rcases hi.ops with h | h
  · have := (hi.ops_closed (.inl hd)).symm.trans h
    simp [closeOps] at this
  · exact h.2.1

end Inv

/-! ## One step keeps the invariant -/

/-- In a list whose old entries all fail `p`, an entry satisfying `p` is the appended one, and
it is the last. -/
theorem last_of_append {α : Type} {l : List α} {a b : α} {p : α → Prop}
    (hl : ∀ x ∈ l, ¬ p x)
    (hb : b ∈ l ++ [a]) (hp : p b) : b = a ∧ (l ++ [a]).getLast? = some b := by
  rcases List.mem_append.1 hb with h | h
  · exact absurd hp (hl b h)
  · obtain rfl := List.eq_of_mem_singleton h
    simp

namespace Inv

variable {sm : List String} {s s' : Session}

open Session

theorem recvFrame {req : ProxyRequest} (hi : Inv s)
    (h : stepLive sm s (.recvFrame req) = some s') : Inv s' := by
  obtain ⟨hr, rfl⟩ := stepLive_recvFrame h
  obtain ⟨rest, hrec, hrest⟩ := hi.undelivered
  rw [hr] at hrest
  exact { hi with
    recv_err := fun _ h => by cases h
    undelivered := ⟨[req], by simp [hrec, show rest = [] from hrest], rfl⟩
    ops := .inl (hi.ops_open (by simp [requestClosed, hr])) }

theorem recvEOF (hi : Inv s) (h : stepLive sm s .recvEOF = some s') : Inv s' := by
  obtain ⟨hr, rfl⟩ := stepLive_recvEOF h
  obtain ⟨rest, hrec, hrest⟩ := hi.undelivered
  rw [hr] at hrest
  exact { hi with
    recv_err := fun _ h => by cases h
    undelivered := ⟨rest, hrec, hrest⟩
    ops := .inl (hi.ops_open (by simp [requestClosed, hr])) }

theorem recvError {msg : String} (hi : Inv s) (h : stepLive sm s (.recvError msg) = some s') :
    Inv s' := by
  obtain ⟨hr, rfl⟩ := stepLive_recvError h
  obtain ⟨rest, hrec, hrest⟩ := hi.undelivered
  rw [hr] at hrest
  exact { hi with
    recv_err := fun _ _ => rfl
    disp_err := fun _ _ => ⟨rfl, rfl⟩
    send_err := fun _ _ => rfl
    undelivered := ⟨rest, hrec, hrest⟩
    ops := .inl (hi.ops_open (by simp [requestClosed, hr])) }

theorem recvCanceled (hi : Inv s) (h : stepLive sm s .recvCanceled = some s') : Inv s' := by
  obtain ⟨⟨req, hr⟩, -, rfl⟩ := stepLive_recvCanceled h
  obtain ⟨rest, hrec, hrest⟩ := hi.undelivered
  rw [hr] at hrest
  exact { hi with
    recv_err := fun _ _ => rfl
    disp_err := fun _ _ => ⟨rfl, rfl⟩
    send_err := fun _ _ => rfl
    undelivered := ⟨rest, hrec, show rest.length = 1 by simp [show rest = [req] from hrest]⟩
    ops := .inl (hi.ops_open (by simp [requestClosed, hr])) }

theorem dispCanceled (hi : Inv s) (h : stepLive sm s .dispCanceled = some s') : Inv s' := by
  obtain ⟨hd, -, rfl⟩ := stepLive_dispCanceled h
  have hc : s.replyClosed = false := by simp [replyClosed, hd]
  have hops : s.calls.map Call.op = s.delivered.filterMap ProxyRequest.op :=
    hi.ops_loop (by simp [hd, DispPc.inLoop])
  exact { hi with
    recv_err := fun _ _ => rfl
    disp_err := fun _ _ => ⟨rfl, rfl⟩
    send_err := fun _ _ => rfl
    send_nil := fun _ => rfl
    panic := fun _ => rfl
    ops := .inl hops
    ops_closed := fun h => by rcases h with h | h <;> cases h
    failed_last := fun c hc' e he => by simp [hi.calls_ok hc c hc'] at he
    unset_last := fun f hf hn => absurd hn (hi.delivered_set hc f hf)
    waited := fun _ hw => (wait_not_mem_frameOps s.delivered (by rw [← hops]; exact hw)).elim }

theorem dispRemove {id : Nat} (hi : Inv s) (h : stepLive sm s (.dispRemove id) = some s') :
    Inv s' := by
  obtain ⟨hd, -, rfl⟩ := stepLive_dispRemove h
  exact { hi with
    panic_live := fun h => absurd h (hi.not_panicked (by simp [replyClosed, hd]))
    waited := fun h => by simp [replyClosed, setTask, hd] at h }

theorem dispClosed (hi : Inv s) (h : stepLive sm s .dispClosed = some s') : Inv s' := by
  obtain ⟨hd, hrc, rfl⟩ := stepLive_dispClosed h
  have hc : s.replyClosed = false := by simp [replyClosed, hd]
  have hops : (s.calls ++ [Call.mk .clientCloseAll none, Call.mk .wait none]).map Call.op =
      s.frameOps ++ closeOps := by
    simp [hi.ops_loop (by simp [hd, DispPc.inLoop]), closeOps]
  exact { hi with
    disp_err := fun _ h => by cases h
    send_nil := fun h => absurd h (hi.sender_live hc)
    panic := fun h => absurd h (hi.not_panicked hc)
    ops := .inr ⟨hops, hrc, rfl⟩
    ops_closed := fun _ => hops
    failed_last := fun c hc' e he => by
      rcases List.mem_append.1 hc' with h | h
      · simp [hi.calls_ok hc c h] at he
      · simp at h; rcases h with rfl | rfl <;> cases he
    unset_last := fun f hf hn => absurd hn (hi.delivered_set hc f hf)
    waited := fun h => by cases h }

theorem addReply {refusal : Option Status} (hi : Inv s)
    (h : stepLive sm s (.addReply refusal) = some s') : Inv s' := by
  obtain ⟨st, hd, hs, rfl⟩ := stepLive_addReply h
  have hc : s.replyClosed = false := by simp [replyClosed, hd]
  exact { hi with
    disp_err := fun _ h => by cases h
    send_err := fun _ h => by cases h
    send_nil := fun h => by cases h
    panic := fun h => absurd h (hi.not_panicked hc)
    panic_live := fun h => absurd h (hi.not_panicked hc)
    ops := .inl (hi.ops_loop (by simp [hd, DispPc.inLoop]))
    ops_closed := fun h => by rcases h with h | h <;> cases h
    failed_last := fun c hc' e he => by simp [hi.calls_ok hc c hc'] at he
    unset_last := fun f hf hn => absurd hn (hi.delivered_set hc f hf)
    replies := by simp [addDone, hi.replies, hs]
    waited := fun h => by cases h }

theorem waitReturn (hi : Inv s) (h : stepLive sm s .waitReturn = some s') : Inv s' := by
  obtain ⟨hd, hall, rfl⟩ := stepLive_waitReturn h
  have hc : s.replyClosed = false := by simp [replyClosed, hd]
  obtain ⟨hops, hrc⟩ := hi.ops_waiting hd
  have hfailed : ∀ err, ∀ c ∈ s.calls, ∀ e, c.err = some e →
      s.calls.getLast? = some c ∧ DispPc.exited err = .exited (some (.protocol e)) :=
    fun _ c hc' e he => by simp [hi.calls_ok hc c hc'] at he
  have hunset : ∀ err, ∀ f ∈ s.delivered, f.request = none →
      s.delivered.getLast? = some f ∧ DispPc.exited err = .exited (some .unhandled) :=
    fun _ f hf hn => absurd hn (hi.delivered_set hc f hf)
  cases hx : s.ctxDone
  · exact { hi with
      disp_err := fun _ h => by cases h
      send_nil := fun _ => rfl
      panic := fun _ => rfl
      ops := .inr ⟨hops, hrc, rfl⟩
      ops_closed := fun _ => hops
      failed_last := hfailed none
      unset_last := hunset none
      waited := fun _ _ => hall }
  · exact { hi with
      recv_err := fun _ _ => rfl
      disp_err := fun _ _ => ⟨rfl, rfl⟩
      send_err := fun _ _ => rfl
      send_nil := fun _ => rfl
      panic := fun _ => rfl
      ops := .inr ⟨hops, hrc, rfl⟩
      ops_closed := fun h => by rcases h with h | h <;> cases h
      failed_last := hfailed _
      unset_last := hunset _
      waited := fun _ _ => hall }

theorem sendOk (hi : Inv s) (h : stepLive sm s .sendOk = some s') : Inv s' := by
  obtain ⟨msg, hs, rfl⟩ := stepLive_sendOk h
  exact { hi with
    send_err := fun _ h => by cases h
    send_nil := fun h => by cases h
    replies := by simp [hi.replies, hs] }

theorem sendError {e : String} (hi : Inv s) (h : stepLive sm s (.sendError e) = some s') :
    Inv s' := by
  obtain ⟨msg, hs, rfl⟩ := stepLive_sendError h
  exact { hi with
    recv_err := fun _ _ => rfl
    disp_err := fun _ _ => ⟨rfl, rfl⟩
    send_err := fun _ _ => rfl
    send_nil := fun h => by cases h
    replies := by simp [hi.replies, hs, fail_some] }

theorem sendClosed (hi : Inv s) (h : stepLive sm s .sendClosed = some s') : Inv s' := by
  obtain ⟨hs, hrc, rfl⟩ := stepLive_sendClosed h
  exact { hi with
    send_err := fun _ h => by cases h
    send_nil := fun _ => hrc
    replies := by simp [hi.replies, hs] }

/-- A relaying target stream's send on `replyChan`, whether it panics or meets the send pump. -/
theorem taskSend {id : Nat} {msg : ProxyReply} {pc : TaskPc} (hi : Inv s)
    (hpc : s.taskPc id = some .relay) (h : s.taskSend id msg pc = some s') : Inv s' := by
  rcases taskSend_cases h with ⟨hrc, rfl⟩ | ⟨hrc, hs, rfl⟩
  · obtain ⟨t, ht, hp⟩ := taskPc_mem hpc
    exact { hi with panic := fun _ => hrc, panic_live := fun _ => ⟨t, ht, by simp [hp]⟩ }
  · exact { hi with
      send_err := fun _ h => by cases h
      send_nil := fun h => by cases h
      panic_live := fun h => absurd h (hi.not_panicked hrc)
      replies := by simp [setTask, hi.replies, hs]
      waited := fun h => absurd (hrc.symm.trans h) Bool.false_ne_true }

theorem cancel (hi : Inv s) (h : stepLive sm s .cancel = some s') : Inv s' := by
  obtain ⟨-, rfl⟩ := stepLive_cancel h
  exact { hi with
    recv_err := fun _ _ => rfl
    disp_err := fun e h => ⟨rfl, (hi.disp_err e h).2⟩
    send_err := fun _ _ => rfl }

/-- The dispatcher takes a frame from `requestChan` and runs its case of the type switch. -/
theorem dispatch (hi : Inv s) (h : stepLive sm s .dispatch = some s') : Inv s' := by
  obtain ⟨req, hr, hd, rfl⟩ := stepLive_dispatch h
  have hc : s.replyClosed = false := by simp [replyClosed, hd]
  have hops : s.calls.map Call.op = s.delivered.filterMap ProxyRequest.op :=
    hi.ops_loop (by simp [hd, DispPc.inLoop])
  have hok : ∀ c ∈ s.calls, ¬ ∃ e, c.err = some e := fun c hc' ⟨e, he⟩ => by
    simp [hi.calls_ok hc c hc'] at he
  have hset : ∀ f ∈ s.delivered, ¬ f.request = none := hi.delivered_set hc
  obtain ⟨rest, hrec, hrest⟩ := hi.undelivered
  rw [hr] at hrest
  have hund : s.received = (s.delivered ++ [req]) ++ [] := by
    simp [hrec, show rest = [req] from hrest]
  rcases route_cases { s with recv := .recv, delivered := s.delivered ++ [req] } req.request with
    ⟨st, hq, he⟩ | ⟨q, t, hq, he⟩ | ⟨q, e, hq, he⟩ | ⟨hq, he⟩ <;> rw [he]
  · exact { hi with
      recv_err := fun _ h => by cases h
      disp_err := fun _ h => by cases h
      send_nil := fun h => absurd h (hi.sender_live hc)
      panic := fun h => absurd h (hi.not_panicked hc)
      undelivered := ⟨[], hund, rfl⟩
      ops := .inl (by simp [Session.frameOps, hops, ProxyRequest.op, hq, Request.op])
      ops_closed := fun h => by rcases h with h | h <;> cases h
      failed_last := fun c hc' e he' =>
        absurd he' (by simp [(last_of_append hok hc' ⟨e, he'⟩).1])
      unset_last := fun f hf hn => absurd hn (by simp [(last_of_append hset hf hn).1, hq])
      waited := fun h => by cases h }
  · exact { hi with
      recv_err := fun _ h => by cases h
      undelivered := ⟨[], hund, rfl⟩
      ops := .inl (by simp [Session.frameOps, hops, ProxyRequest.op, hq])
      ops_closed := fun h => by rcases h with h | h <;> simp [hd] at h
      failed_last := fun c hc' e he' =>
        absurd he' (by simp [(last_of_append hok hc' ⟨e, he'⟩).1])
      unset_last := fun f hf hn => absurd hn (by simp [(last_of_append hset hf hn).1, hq])
      waited := fun h => by simp [replyClosed, hd] at h }
  · have hops' : (s.calls ++ [Call.mk q.op (some e)]).map Call.op =
        (s.delivered ++ [req]).filterMap ProxyRequest.op := by
      simp [hops, ProxyRequest.op, hq]
    exact { hi with
      recv_err := fun _ h => by cases h
      disp_err := fun _ _ => ⟨rfl, rfl⟩
      send_err := fun _ _ => rfl
      send_nil := fun _ => rfl
      panic := fun _ => rfl
      undelivered := ⟨[], hund, rfl⟩
      ops := .inl hops'
      ops_closed := fun h => by rcases h with h | h <;> cases h
      waited := fun _ hw => (wait_not_mem_frameOps _ (by rw [← hops']; exact hw)).elim
      failed_last := fun c hc' e' he' => by
        obtain ⟨rfl, hl⟩ := last_of_append hok hc' ⟨e', he'⟩
        cases he'
        exact ⟨hl, rfl⟩
      unset_last := fun f hf hn => absurd hn (by simp [(last_of_append hset hf hn).1, hq]) }
  · have hops' : s.calls.map Call.op = (s.delivered ++ [req]).filterMap ProxyRequest.op := by
      simp [hops, ProxyRequest.op, hq]
    exact { hi with
      recv_err := fun _ h => by cases h
      disp_err := fun _ _ => ⟨rfl, rfl⟩
      send_err := fun _ _ => rfl
      send_nil := fun _ => rfl
      panic := fun _ => rfl
      undelivered := ⟨[], hund, rfl⟩
      ops := .inl hops'
      ops_closed := fun h => by rcases h with h | h <;> cases h
      waited := fun _ hw => (wait_not_mem_frameOps _ (by rw [← hops']; exact hw)).elim
      failed_last := fun c hc' e' he' => absurd ⟨e', he'⟩ (hok c hc')
      unset_last := fun f hf hn => ⟨(last_of_append hset hf hn).2, rfl⟩ }

/-- One step keeps the invariant. -/
theorem step (hi : Inv s) {a : Action} (h : Proxy.step sm s a = some s') : Inv s' := by
  have h := (step_live h).2
  cases a with
  | recvFrame req => exact hi.recvFrame h
  | recvEOF => exact hi.recvEOF h
  | recvError msg => exact hi.recvError h
  | recvCanceled => exact hi.recvCanceled h
  | dispatch => exact hi.dispatch h
  | dispCanceled => exact hi.dispCanceled h
  | dispRemove id => exact hi.dispRemove h
  | dispClosed => exact hi.dispClosed h
  | addReply refusal => exact hi.addReply h
  | waitReturn => exact hi.waitReturn h
  | sendOk => exact hi.sendOk h
  | sendError e => exact hi.sendError h
  | sendClosed => exact hi.sendClosed h
  | taskData id p => exact hi.taskSend (stepLive_taskData h).1 (stepLive_taskData h).2
  | taskClose id st => exact hi.taskSend (stepLive_taskClose h).1 (stepLive_taskClose h).2
  | cancel => exact hi.cancel h

end Inv

/-- Every reachable session satisfies the invariant. -/
theorem Reachable.inv {sm : List String} {s : Session} (h : Reachable sm s) : Inv s := by
  induction h with
  | init => exact Inv.init
  | step _ _ hs ih => exact ih.step hs

end Proxy
end Sansshell
