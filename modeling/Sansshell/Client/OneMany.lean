import Sansshell.Client.Recv
import Sansshell.Generator.Layout

/-!
# OneMany — the typed replies of the generated surface

* `SpecConv` — the spec's conversion of a raw reply, in the spec's words; `typedResp_specConv`
  shows the code's conversion is one.
* `convertLoop_history` — the unary goroutine yields the conversion of every raw reply in order
  and closes its channel exactly when `InvokeOneMany`'s channel is closed.
* `oneMany_converts` — the unary channel, a proxied `Recv` and the `CloseAndRecv` loop all
  convert each raw reply by `typedResp`; one target gives one reply and a closed channel.
* `oneMany_recv_passthrough` — on a direct connection, the handle a streaming `OneMany` returns
  passes its stream through `Recv`.
-/

namespace Sansshell
namespace Client

variable {α : Type} (d : Decoder α)

/-! ## The spec's conversion -/

/-- The conversion of a raw reply as the spec words it: target and index copied; a reply's
error kept; a reply without error decoded against the output type, giving the decoded message
when decoding succeeds and some error when it fails. -/
def SpecConv (r : Ret) (v : ManyResponse α) : Prop :=
  v.target = r.target ∧ v.index = r.index ∧
    (r.error ≠ none → v.error = r.error) ∧
    (r.error = none →
      ((d.unmarshalTo r.resp).2 = none → v.resp = (d.unmarshalTo r.resp).1 ∧ v.error = none) ∧
      ((d.unmarshalTo r.resp).2 ≠ none → v.error ≠ none))

/-- The conversion both templates write is the spec's conversion. -/
theorem typedResp_specConv (r : Ret) : SpecConv d r (typedResp d r) := by
  unfold SpecConv typedResp
  cases r.error with
  | some e => simp
  | none =>
    obtain ⟨m, err⟩ := d.unmarshalTo r.resp
    cases err <;> simp

/-! ## The unary goroutine -/

/-- The goroutine's history on `ret`: every raw reply converted, in order, then the close if and
only if `manyRet` was closed. -/
theorem convertLoop_history (closed : Bool) :
    ∀ rs : List Ret, convertLoop d rs closed =
      rs.map (fun r => .send (typedResp d r)) ++ if closed then [.close] else []
  | [] => rfl
  | r :: rs => by rw [convertLoop, convertLoop_history closed rs]; rfl

/-- With several targets, or none, the unary `OneMany` returns the converting goroutine's
channel. -/
theorem unaryOneMany_many {conn : Conn} (hn : conn.targets.length ≠ 1)
    (invoke : α × Option String) (manyRet : RawChannel) :
    unaryOneMany d conn invoke (.ok manyRet) =
      .ok (convertLoop d manyRet.replies manyRet.closed) := by
  simp [unaryOneMany, hn]

/-- With one target, the unary `OneMany` returns a channel that yields one reply and closes. -/
theorem unaryOneMany_single {conn : Conn} (hn : conn.targets.length = 1)
    (invoke : α × Option String) (invokeOneMany : Except String RawChannel) :
    ∃ t, conn.targets = [t] ∧
      unaryOneMany d conn invoke invokeOneMany =
        .ok [.send ⟨t, 0, invoke.1, invoke.2⟩, .close] := by
  obtain ⟨t, ht⟩ := List.length_eq_one.1 hn
  refine ⟨t, ht, ?_⟩
  simp only [unaryOneMany, dif_pos hn]
  simp [ht]

/-- Every path of the generated surface converts raw replies by `typedResp`, which is the spec's
conversion: the unary channel over `InvokeOneMany` yields the conversion of every raw reply in
order and is closed exactly when the raw channel is; a proxied `Recv` returns the conversion of
its batch; the `CloseAndRecv` loop collects the conversion of every batch in order; and with
one target the unary channel yields `{Targets[0], 0, resp, err}` and closes. -/
theorem oneMany_converts :
    (∀ r, SpecConv d r (typedResp d r)) ∧
    (∀ (conn : Conn) (invoke : α × Option String) (manyRet : RawChannel),
      conn.targets.length ≠ 1 →
      unaryOneMany d conn invoke (.ok manyRet) =
        .ok (manyRet.replies.map (fun r => .send (typedResp d r)) ++
          if manyRet.closed then [.close] else [])) ∧
    (∀ (x : Handle α) (b : List Ret) (bs : List (List Ret)),
      x.cc.direct = false → x.proxied.pending = b :: bs →
      (recvTemplate d false x).1 = .ok (b.map (typedResp d))) ∧
    (∀ x : Handle α, x.cc.targets ≠ [] →
      (closeAndRecvExit d x).ret = x.proxied.pending.flatten.map (typedResp d)) ∧
    (∀ (conn : Conn) (invoke : α × Option String) (invokeOneMany : Except String RawChannel),
      conn.targets.length = 1 → ∃ t, conn.targets = [t] ∧
        unaryOneMany d conn invoke invokeOneMany =
          .ok [.send ⟨t, 0, invoke.1, invoke.2⟩, .close]) :=
  ⟨typedResp_specConv d,
    fun _ invoke manyRet hn => by rw [unaryOneMany_many d hn, convertLoop_history],
    fun _ _ _ hd hp => by rw [recvTemplate_proxiedBatch d hd hp],
    fun _ hn => by
      rw [closeAndRecvExit, closeAndRecvLoop_collect d (eof_not_done hn), List.nil_append],
    fun _ invoke invokeOneMany hn => unaryOneMany_single d hn invoke invokeOneMany⟩

/-- A connection through the proxy to two targets. -/
def twoTargets : Conn := ⟨["a", "b"], false, by decide⟩

theorem oneMany_converts_twoTargets :
    unaryOneMany stringDecoder twoTargets ("", none)
        (.ok ⟨[⟨"a", 0, ⟨"", "x"⟩, none⟩, ⟨"b", 1, ⟨"", ""⟩, some "denied"⟩],
          true⟩) =
      .ok [.send ⟨"a", 0, "x", none⟩, .send ⟨"b", 1, "", some "denied"⟩, .close] :=
  (oneMany_converts stringDecoder).2.1 twoTargets ("", none) _ (by decide)

/-! ## The handle `OneMany` returns -/

/-- A streaming `OneMany` that succeeds returns the handle `{cc, false, stream}` on the stream
`NewStream` opened. -/
theorem streamOneMany_fresh {m : Generator.Method} {cc : Conn}
    {newStream : Except String (MsgStream α × MsgStream (List Ret) × Option String)}
    {sendMsg closeSend : Option String} {x : Handle α}
    (hx : streamOneMany m cc newStream sendMsg closeSend = .ok x) :
    newStream = .ok (x.plain, x.proxied, x.closeSend) ∧ x.cc = cc ∧ x.directDone = false := by
  unfold streamOneMany at hx
  obtain _ | ⟨plain, proxied, cs⟩ := newStream
  · cases hx
  · simp only at hx
    split at hx
    · cases hx; exact ⟨rfl, rfl, rfl⟩
    · split at hx <;> cases hx
      exact ⟨rfl, rfl, rfl⟩

/-- On a direct connection, the handle a streaming `OneMany` returns passes the stream through
`Recv`: one single-entry batch per message, one with the terminal error, then `io.EOF`. -/
theorem oneMany_recv_passthrough (m : Generator.Method) {cc : Conn} (hd : cc.direct = true)
    {plain : MsgStream α} {proxied : MsgStream (List Ret)} {cs sendMsg closeSend : Option String}
    {x : Handle α} (hx : streamOneMany m cc (.ok (plain, proxied, cs)) sendMsg closeSend = .ok x)
    (j : Nat) :
    recvCalls d false (plain.pending.length + 1 + j) x =
      plain.pending.map (fun msg => .ok [⟨cc.target0 hd, 0, msg, none⟩]) ++
        .ok [⟨cc.target0 hd, 0, d.empty, some plain.final⟩] :: List.replicate j (.error eof) := by
  obtain ⟨hs, rfl, hn⟩ := streamOneMany_fresh hx
  obtain ⟨_, done, ⟨ms, e⟩, _, _⟩ := x
  simp only [Except.ok.injEq, Prod.mk.injEq] at hs
  obtain ⟨rfl, rfl, rfl⟩ := hs
  subst hn
  exact recvCalls_direct d hd _ _ _ j _

/-- A direct connection to one target `t`. -/
def directConn : Conn := ⟨["t"], true, by decide⟩

theorem oneMany_recv_passthrough_watch :
    ∃ x, streamOneMany Generator.watch directConn
        (.ok (⟨["a"], eof⟩, ⟨[], eof⟩, none)) none none = .ok x ∧
      recvCalls stringDecoder false 3 x =
        [.ok [⟨"t", 0, "a", none⟩], .ok [⟨"t", 0, "", some eof⟩], .error eof] :=
  ⟨_, rfl, oneMany_recv_passthrough stringDecoder Generator.watch (rfl : directConn.direct = true)
    (rfl : streamOneMany Generator.watch directConn (.ok (⟨["a"], eof⟩, ⟨[], eof⟩, none)) none
      none = .ok _) 1⟩

end Client
end Sansshell
