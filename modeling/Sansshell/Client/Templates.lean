import Sansshell.Proxy.Wire
import Sansshell.Generator.Generate

/-!
# Templates — what the generated client code does with the replies it receives

The generated `OneMany` surface turns the raw replies of a `grpcproxy.Conn` into typed
`<Method>ManyResponse` values. This module gives the runtime meaning of the templates that
`generate` writes for this, as functions of what the connection and its streams return:

* `typedResp` — the conversion of one `proxy.Ret`. The generator writes it out twice, in the
  receive template and in the unary goroutine, with the same text; it is one definition here.
* `recvTemplate` — the body of `Recv`, and with `clientOnly` of `CloseAndRecv`: the direct
  branch with its `directDone` flag, the single proxied `RecvMsg`, and the loop over the `eof`
  map.
* `streamOneMany` — the body of a streaming `<Method>OneMany`, which builds the handle.
* `unaryOneMany` — the body of a unary `<Method>OneMany`: `Invoke` for one target, else
  `InvokeOneMany` and the goroutine that converts what its channel yields.

The connection, its streams and the proxy's `Ret` belong to the proxy client package, which
this repository does not contain. They are modelled from the spec as scripts of what each call
returns. A Go `error` is modelled by its text, `err.Error()`.
-/

namespace Sansshell
namespace Client

open Proxy (Any)

/-! ## The proxy client runtime -/

/-- The text of `io.EOF`. -/
def eof : String := "EOF"

/-- Modelled from the spec: a raw tagged reply `proxy.Ret` of a multiplexed call. -/
structure Ret where
  target : String
  index : Nat
  resp : Any
  error : Option String
  deriving DecidableEq, Repr

/-- The generated `<Method>ManyResponse` for the method's output type `α`. -/
structure ManyResponse (α : Type) where
  target : String
  index : Nat
  resp : α
  error : Option String
  deriving DecidableEq, Repr

/-- The method's output type as the templates use it: the fresh message `&Out{}`, and what
`UnmarshalTo` leaves in a fresh message together with the error it returns. -/
structure Decoder (α : Type) where
  empty : α
  unmarshalTo : Any → α × Option String

/-- Modelled from the spec: a `grpcproxy.Conn` with its targets and whether it is direct. A
direct connection has exactly one target. -/
structure Conn where
  targets : List String
  direct : Bool
  one_target : direct = true → targets.length = 1

/-- The expression `x.cc.Targets[0]` on a direct connection. -/
def Conn.target0 (c : Conn) (h : c.direct = true) : String :=
  c.targets.get ⟨0, by rw [c.one_target h]; exact Nat.one_pos⟩

/-- Modelled from the spec: what successive `RecvMsg` calls on a stream return, the messages
still to come and then the terminal error on every later call. -/
structure MsgStream (β : Type) where
  pending : List β
  final : String
  deriving DecidableEq, Repr

/-- One `RecvMsg`. -/
def MsgStream.recvMsg {β : Type} (s : MsgStream β) : Except String β × MsgStream β :=
  match s.pending with
  | [] => (.error s.final, s)
  | m :: ms => (.ok m, ⟨ms, s.final⟩)

/-- The generated `<service>Client<Method>ClientProxy`: the connection, the `directDone` flag,
and the embedded `grpc.ClientStream`. On a direct connection its `RecvMsg` fills a typed
message (`plain`); through the proxy it fills a `[]*proxy.Ret` batch (`proxied`). Each branch
of the template reads the one it asks for. `closeSend` is what `CloseSend` returns. -/
structure Handle (α : Type) where
  cc : Conn
  directDone : Bool
  plain : MsgStream α
  proxied : MsgStream (List Ret)
  closeSend : Option String

/-! ## The conversion of a raw reply -/

variable {α : Type}

/-- The conversion of one `proxy.Ret`: target, index and error copied; the payload decoded only
when the reply carries no error; a decoding failure reported with `fmt.Errorf`, where `%v` of
the original error, nil on that path, prints `<nil>`. -/
def typedResp (d : Decoder α) (r : Ret) : ManyResponse α :=
  let typedResp : ManyResponse α := ⟨r.target, r.index, d.empty, r.error⟩
  match r.error with
  | some _ => typedResp
  | none =>
    match d.unmarshalTo r.resp with
    | (m, none) => { typedResp with resp := m }
    | (m, some err) =>
      { typedResp with
        resp := m
        error := some ("can\x27t decode any response - " ++ err ++ ". Original Error - <nil>") }

/-! ## `Recv` and `CloseAndRecv` -/

/-- The direct branch: `io.EOF` once `directDone` is set; otherwise one `RecvMsg` into a fresh
message, returned as the single entry `{m, err, Targets[0], 0}`, with `directDone` set when
`RecvMsg` failed. -/
def recvDirect (d : Decoder α) (x : Handle α) (h : x.cc.direct = true) :
    Except String (List (ManyResponse α)) × Handle α :=
  if x.directDone then (.error eof, x)
  else
    match x.plain.recvMsg with
    | (.ok m, plain) => (.ok [⟨x.cc.target0 h, 0, m, none⟩], { x with plain := plain })
    | (.error err, plain) =>
      (.ok [⟨x.cc.target0 h, 0, d.empty, some err⟩],
        { x with plain := plain, directDone := true })

/-- The proxied branch of `Recv`: one `RecvMsg` of a batch, its error returned, else every
reply of the batch converted in order. -/
def recvProxied (d : Decoder α) (x : Handle α) :
    Except String (List (ManyResponse α)) × Handle α :=
  match x.proxied.recvMsg with
  | (.error err, proxied) => (.error err, { x with proxied := proxied })
  | (.ok m, proxied) => (.ok (m.map (typedResp d)), { x with proxied := proxied })

/-- Where the `CloseAndRecv` loop leaves: the `ret` it has collected, what `CloseAndRecv`
returns, and the batches that `RecvMsg` has still to return. -/
structure LoopExit (α : Type) where
  ret : List (ManyResponse α)
  result : Except String (List (ManyResponse α))
  rest : List (List Ret)

/-- The `for` loop of `CloseAndRecv` from the `ret` collected so far and the batches `RecvMsg`
has still to return, after which it returns `final`. The `eof` map is read at the top of every
iteration, `done` being whether all its entries are true, and nothing in the loop writes it. -/
def closeAndRecvLoop (d : Decoder α) (eof : List Bool) (final : String) :
    List (ManyResponse α) → List (List Ret) → LoopExit α
  | ret, batches =>
    if eof.all id then ⟨ret, .ok ret, batches⟩
    else
      match batches with
      | [] => ⟨ret, .error final, []⟩
      | m :: ms => closeAndRecvLoop d eof final (ret ++ m.map (typedResp d)) ms

/-- The loop of `CloseAndRecv` on a handle: the `eof` map holds `false` for every target. -/
def closeAndRecvExit (d : Decoder α) (x : Handle α) : LoopExit α :=
  closeAndRecvLoop d (x.cc.targets.map fun _ => false) x.proxied.final [] x.proxied.pending

/-- The template `generate` writes for `Recv`, and with `clientOnly` for `CloseAndRecv`: for
`CloseAndRecv` a `CloseSend` first, then the direct branch on a direct connection, else the
proxied receive, once for `Recv` and in the `eof` loop for `CloseAndRecv`. -/
def recvTemplate (d : Decoder α) (clientOnly : Bool) (x : Handle α) :
    Except String (List (ManyResponse α)) × Handle α :=
  match clientOnly, x.closeSend with
  | true, some err => (.error err, x)
  | _, _ =>
    if h : x.cc.direct then recvDirect d x h
    else if clientOnly then
      let exit := closeAndRecvExit d x
      (exit.result, { x with proxied := ⟨exit.rest, x.proxied.final⟩ })
    else recvProxied d x

/-- What `n` successive calls of the template return. -/
def recvCalls (d : Decoder α) (clientOnly : Bool) :
    Nat → Handle α → List (Except String (List (ManyResponse α)))
  | 0, _ => []
  | n + 1, x =>
    (recvTemplate d clientOnly x).1 :: recvCalls d clientOnly n (recvTemplate d clientOnly x).2

/-! ## Streaming `OneMany` -/

/-- The body of a streaming `<Method>OneMany` once `NewStream` on `Streams[k]` has returned: its
error returned, else the handle `{cc, false, stream}`, after `SendMsg(in)` and `CloseSend()` for
a method whose client does not stream, each of whose errors is returned. `newStream` is what
`NewStream` returns, the stream given by the handle fields that read it. -/
def streamOneMany (m : Generator.Method) (cc : Conn)
    (newStream : Except String (MsgStream α × MsgStream (List Ret) × Option String))
    (sendMsg closeSend : Option String) : Except String (Handle α) :=
  match newStream with
  | .error err => .error err
  | .ok (plain, proxied, cs) =>
    let x : Handle α := ⟨cc, false, plain, proxied, cs⟩
    if m.streamingClient then .ok x
    else
      match sendMsg, closeSend with
      | some err, _ => .error err
      | none, some err => .error err
      | none, none => .ok x

/-! ## Unary `OneMany` -/

/-- What the reader of a channel sees: a value received, or the channel closed. -/
inductive ChanEvent (β : Type) where
  | send (v : β)
  | close
  deriving DecidableEq, Repr

/-- Modelled from the spec: the channel `InvokeOneMany` returns, as the replies it yields and
whether it is closed after them. -/
structure RawChannel where
  replies : List Ret
  closed : Bool
  deriving DecidableEq, Repr

/-- The goroutine of a unary `OneMany` over `InvokeOneMany`, as the history of `ret`: receive
from `manyRet`; when it is closed, close `ret` and return; else convert and send on `ret`.
While `manyRet` stays open after its last reply, the goroutine waits and `ret` stays open. -/
def convertLoop (d : Decoder α) : List Ret → Bool → List (ChanEvent (ManyResponse α))
  | [], closed => if closed then [.close] else []
  | r :: rs, closed => .send (typedResp d r) :: convertLoop d rs closed

/-- The body of a unary `<Method>OneMany`, as the history of the channel it returns: with one
target, a goroutine that sends `{Targets[0], 0, resp, err}` from `Invoke` and closes; otherwise
`InvokeOneMany`, whose error is returned, else the converting goroutine. `invoke` is what
`Invoke` leaves in `out.Resp` with the error it returns. -/
def unaryOneMany (d : Decoder α) (conn : Conn) (invoke : α × Option String)
    (invokeOneMany : Except String RawChannel) :
    Except String (List (ChanEvent (ManyResponse α))) :=
  if h : conn.targets.length = 1 then
    .ok [.send ⟨conn.targets.get ⟨0, by omega⟩, 0, invoke.1, invoke.2⟩, .close]
  else
    match invokeOneMany with
    | .error err => .error err
    | .ok manyRet => .ok (convertLoop d manyRet.replies manyRet.closed)

end Client
end Sansshell
