import Sansshell.Proxy.Invariants

/-!
# Relay — what the session passes on, in both directions

* `RequestRelay` — the stream-set calls `dispatch` makes are the operations of a prefix of the
  frames `stream.Recv` returned, in order and each once; a failing frame is the last one and
  ends the session with an error; after a clean `io.EOF` the dispatcher's select can take the
  closed `requestChan` and call `ClientCloseAll` and `Wait` after every frame's operation, and
  once it has left its loop these are all its calls.
* `relay_fidelity` — every reachable session relays requests that way, and the send pump passes
  to `stream.Send` exactly the frames put on `replyChan`, in order.
-/

namespace Sansshell
namespace Proxy

open Session

/-- The request side of relay fidelity in state `s`. -/
structure RequestRelay (sm : List String) (s : Session) : Prop where
  /-- The dispatcher took the frames `stream.Recv` returned, in order, except perhaps the last. -/
  delivered_prefix : s.delivered <+: s.received
  delivered_lag : s.received.length ≤ s.delivered.length + 1
  /-- Its calls are those frames' operations, then `ClientCloseAll` and `Wait` once
  `requestChan` is closed. -/
  ops : s.calls.map Call.op = s.delivered.filterMap ProxyRequest.op ∨
    (s.calls.map Call.op = s.delivered.filterMap ProxyRequest.op ++ [.clientCloseAll, .wait] ∧
      s.requestClosed = true)
  /-- A failed call is the last one, and the session ends with an error. -/
  failed_last : ∀ c ∈ s.calls, ∀ e, c.err = some e →
    s.calls.getLast? = some c ∧ s.disp = .exited (some (.protocol e)) ∧ s.groupErr.isSome = true
  /-- A frame without a discriminator is the last one taken, and the session ends with an
  error. -/
  unset_last : ∀ f ∈ s.delivered, f.request = none →
    s.delivered.getLast? = some f ∧ s.disp = .exited (some .unhandled) ∧
      s.groupErr.isSome = true
  /-- After `io.EOF`, with the context never cancelled: in its select the dispatcher can find
  `requestChan` closed and call `ClientCloseAll` and `Wait` after all the frames' operations, and
  once it has left its loop these are its calls, with none after them. -/
  eof_complete : s.recv = .exited none → s.ctxDone = false →
    (s.disp = .select → ∃ s', step sm s .dispClosed = some s' ∧ s'.disp = .wait ∧
      s'.calls.map Call.op = s.received.filterMap ProxyRequest.op ++ [.clientCloseAll, .wait]) ∧
    (s.disp.inLoop = false →
      s.calls.map Call.op = s.received.filterMap ProxyRequest.op ++ [.clientCloseAll, .wait])

variable {sm : List String} {s : Session}

/-- The invariant gives the request side of relay fidelity. -/
theorem Inv.requestRelay (hi : Inv s) : RequestRelay sm s := by
  obtain ⟨rest, hrec, hrest⟩ := hi.undelivered
  have hlen : rest.length ≤ 1 := by
    revert hrest; unfold RecvPc.Undelivered; split <;> intro h <;> simp_all
  refine ⟨⟨rest, hrec.symm⟩, by simp [hrec, hlen], ?_, ?_, ?_, fun hr hx => ?_⟩
  · exact hi.ops.imp_right fun h => ⟨h.1, h.2.1⟩
  · intro c hc e he
    obtain ⟨hlast, hd⟩ := hi.failed_last c hc e he
    exact ⟨hlast, hd, (hi.disp_err _ hd).2⟩
  · intro f hf hn
    obtain ⟨hlast, hd⟩ := hi.unset_last f hf hn
    exact ⟨hlast, hd, (hi.disp_err _ hd).2⟩
  have hrec' : s.received = s.delivered := by
    rw [hrec, show rest = [] by simpa [hr] using hrest, List.append_nil]
  refine ⟨fun hd => ?_, fun hout => ?_⟩
  · have hp : s.panicked = false := by simpa using hi.not_panicked (by simp [replyClosed, hd])
    refine ⟨{ s with disp := .wait, set := s.set.clientCloseAll,
                     calls := s.calls ++ [Call.mk .clientCloseAll none, Call.mk .wait none] },
      by simp [Proxy.step, stepLive, hp, hd, requestClosed, hr], rfl, ?_⟩
    simp [hi.ops_loop (by simp [hd]), hrec', Session.frameOps]
  · have hwait : s.disp = .wait ∨ s.disp = .exited none := by
      revert hout
      cases hd : s.disp with
      | exited err =>
          cases err with
          | none => simp
          | some e => simp [(hi.disp_err e hd).1] at hx
      | _ => simp [DispPc.inLoop]
    simpa [hrec', closeOps] using hi.ops_closed hwait

/-- Relay fidelity: in every reachable session the dispatcher's stream-set calls follow the
frames the client sent, and `stream.Send` gets exactly the frames put on `replyChan`. -/
theorem relay_fidelity (h : Reachable sm s) :
    RequestRelay sm s ∧ s.put = s.sent ++ s.sender.held :=
  ⟨h.inv.requestRelay, h.inv.replies⟩

/-- The client opens stream 1 and then half-closes. -/
def halfClosedSchedule : List Action :=
  openStream ++ [.recvEOF]

theorem relay_fidelity_halfClosed :
    ∃ s, run healthCheck .init halfClosedSchedule = some s ∧
      RequestRelay healthCheck s ∧ s.put = s.sent ++ s.sender.held :=
  ⟨_, rfl,
    relay_fidelity (Reachable.init.run (rfl : run healthCheck .init halfClosedSchedule = some _))⟩

end Proxy
end Sansshell
