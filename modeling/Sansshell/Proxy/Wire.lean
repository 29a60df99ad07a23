import Mathlib.Data.List.Basic

/-!
# Wire — the proxy stream's frames

The envelope exchanged on the single `Proxy` stream (`pb.ProxyRequest` from the client,
`pb.ProxyReply` from the proxy), the statuses carried inside replies, and the Go `error`
values that the session's goroutines return to their errgroup.

* `ProxyRequest.request` is the frame's oneof: `none` when it is unset, which is also what a
  discriminator unknown to this build decodes to; `dispatch` reaches its `default` case there.
* `Request.op` is the stream-set operation that `dispatch`'s type switch selects for a frame.
* `GoError` names each error the session can return; `Proxy` reports the first of them as
  `codes.Internal`.
-/

namespace Sansshell
namespace Proxy

/-! ## Statuses and payloads -/

/-- The gRPC codes that travel in replies or that the session produces. -/
inductive Code where
  | ok
  | canceled
  | unknown
  | failedPrecondition
  | unimplemented
  | internal
  | permissionDenied
  | unavailable
  deriving DecidableEq, Repr

/-- A status (`pb.Status`): a code and its message. -/
structure Status where
  code : Code
  message : String
  deriving DecidableEq, Repr

/-- A packed payload (`anypb.Any`): a type URL and the encoded message. -/
structure Any where
  typeUrl : String
  value : String
  deriving DecidableEq, Repr

/-! ## Request frames (client to proxy) -/

/-- A `StartStream` frame: open one target stream for `methodName` against `target`. -/
structure StartStream where
  target : String
  methodName : String
  nonce : Nat
  deriving DecidableEq, Repr

/-- A client `StreamData` frame: one payload for each listed stream. -/
structure StreamData where
  streamIds : List Nat
  payload : Any
  deriving DecidableEq, Repr

/-- A `ClientClose` frame: half-close each listed stream. -/
structure ClientClose where
  streamIds : List Nat
  deriving DecidableEq, Repr

/-- A `ClientCancel` frame: cancel each listed stream. -/
structure ClientCancel where
  streamIds : List Nat
  deriving DecidableEq, Repr

/-- The `request` oneof of `pb.ProxyRequest`. -/
inductive Request where
  | startStream (s : StartStream)
  | streamData (d : StreamData)
  | clientCancel (c : ClientCancel)
  | clientClose (c : ClientClose)
  deriving DecidableEq, Repr

/-- A client frame (`pb.ProxyRequest`); `request = none` is the unset or unknown discriminator. -/
structure ProxyRequest where
  request : Option Request
  deriving DecidableEq, Repr

/-! ## Reply frames (proxy to client) -/

/-- The `reply` oneof of `pb.StartStreamReply`. -/
inductive StartResult where
  | streamId (id : Nat)
  | errorStatus (s : Status)
  deriving DecidableEq, Repr

/-- A `StartStreamReply`: the echoed target and nonce, and the stream id or the error. -/
structure StartStreamReply where
  target : String
  nonce : Nat
  reply : StartResult
  deriving DecidableEq, Repr

/-- A proxy frame (`pb.ProxyReply`). -/
inductive ProxyReply where
  | startStreamReply (r : StartStreamReply)
  | streamData (streamId : Nat) (payload : Any)
  | serverClose (streamId : Nat) (status : Status)
  deriving DecidableEq, Repr

/-! ## Stream-set operations -/

/-- A call the dispatcher makes on its `TargetStreamSet` (`Remove` is not logged). -/
inductive Op where
  | add (s : StartStream)
  | send (d : StreamData)
  | cancel (c : ClientCancel)
  | clientClose (c : ClientClose)
  | clientCloseAll
  | wait
  deriving DecidableEq, Repr

/-- The operation `dispatch`'s type switch selects for each kind of request. -/
def Request.op : Request → Op
  | .startStream s => .add s
  | .streamData d => .send d
  | .clientCancel c => .cancel c
  | .clientClose c => .clientClose c

/-- The operation of a frame, `none` for the unset discriminator. -/
def ProxyRequest.op (f : ProxyRequest) : Option Op :=
  f.request.map Request.op

/-! ## Errors -/

/-- Modelled from the spec: a protocol error of the stream set. A frame names a stream the set
does not hold, or sends data to a stream the client already closed or cancelled. -/
inductive ProtocolError where
  | unknownStream (id : Nat)
  | closedStream (id : Nat)
  deriving DecidableEq, Repr

/-- A non-nil Go `error` returned by one of the session's goroutines: `ctx.Err()` once the
errgroup's context is done, `context.Canceled` (`canceled`); a non-EOF error from
`stream.Recv()` (`recv msg`) or from `stream.Send(msg)` (`send msg`); the error
`streamSet.Send`, `Cancel` or `ClientClose` returned (`protocol e`); or the `default` case's
`status.Errorf(codes.Internal, "unhandled request type %T", ...)` (`unhandled`). -/
inductive GoError where
  | canceled
  | recv (msg : String)
  | send (msg : String)
  | protocol (e : ProtocolError)
  | unhandled
  deriving DecidableEq, Repr

end Proxy
end Sansshell
