import Mathlib.Data.List.Basic

/-!
# Generate — `protoc-gen-go-grpcproxy` at the level of declarations

The plugin's `generate` writes one `_grpcproxy.pb.go` file per proto file with services. This
module models what it writes as data rather than text:

* the hand-written import block (`"fmt"`, and `"io"` when `needIO`);
* every package-level `type` and `func` it declares, with its name, and the methods it
  declares on the generated structs;
* for each function body, the template it instantiates (`Body`), with the values the template
  reads: the method, the flag that turns `Recv` into `CloseAndRecv`, the `Streams` index.

Comment lines, and the identifiers that `QualifiedGoIdent` adds to the import block itself
(`context`, `grpc`, the proxy package, the message packages), are not modelled.
-/

namespace Sansshell
namespace Generator

/-! ## Descriptors -/

/-- A message type as `protogen.GoIdent`: its import path and Go name. -/
structure GoIdent where
  goImportPath : String
  goName : String
  deriving DecidableEq, Repr

/-- The fields of a `protogen.Method` that `generate` reads. -/
structure Method where
  /-- The Go name, `method.GoName`. -/
  goName : String
  /-- The proto name, `method.Desc.Name()`. -/
  name : String
  input : GoIdent
  output : GoIdent
  /-- The flag `method.Desc.IsStreamingClient()`. -/
  streamingClient : Bool
  /-- The flag `method.Desc.IsStreamingServer()`. -/
  streamingServer : Bool
  deriving DecidableEq, Repr

/-- The fields of a `protogen.Service` that `generate` reads. -/
structure Service where
  goName : String
  /-- The full proto name, `service.Desc.FullName()`. -/
  fullName : String
  methods : List Method
  deriving DecidableEq, Repr

/-- The fields of a `protogen.File` that `main` and `generate` read. -/
structure File where
  generate : Bool
  services : List Service
  goPackageName : String
  goImportPath : String
  generatedFilenamePrefix : String
  deriving DecidableEq, Repr

namespace Method

/-- Neither side streams: `!IsStreamingClient() && !IsStreamingServer()`. -/
def unary (m : Method) : Bool := !m.streamingClient && !m.streamingServer

/-- Only the client streams: `IsStreamingClient() && !IsStreamingServer()`. -/
def clientOnly (m : Method) : Bool := m.streamingClient && !m.streamingServer

end Method

/-! ## The generated file -/

/-- The body templates `generate` writes: `New<Service>ClientProxy` wrapping
`New<Service>Client(cc)` (`newClientProxy`); `Send`, `x.ClientStream.SendMsg(m)` (`send`);
`Recv`, or with `clientOnly` `CloseAndRecv`, with `CloseSend` first and the loop over the `eof`
map around the proxied receive (`recv`); a unary `<Method>OneMany`, `Invoke` for one target,
else `InvokeOneMany` and a goroutine converting its replies (`unaryOneMany`); and a streaming
`<Method>OneMany`, `NewStream` on `<Service>_ServiceDesc.Streams[streamIndex]` and, for a
client that does not stream, `SendMsg(in)` and `CloseSend()` (`streamOneMany`). -/
inductive Body where
  | newClientProxy (clientStructProxy interfaceName clientStruct : String)
  | send
  | recv (m : Method) (clientOnly : Bool)
  | unaryOneMany (svc : Service) (m : Method)
  | streamOneMany (svc : Service) (m : Method) (streamIndex : Nat)
  deriving DecidableEq, Repr

/-- What the `OneMany` signature returns: for a unary method
`(<-chan *<Method>ManyResponse, error)` (`channel`), for a streaming one
`(<Service>_<Method>ClientProxy, error)` (`handle`). -/
inductive Returns where
  | channel (manyResponse : String)
  | handle (iface : String)
  deriving DecidableEq, Repr

/-- A `OneMany` signature as `methodSignature` prints it: the name, the request parameter
`in` if there is one, and the result. -/
structure Signature where
  name : String
  input : Option GoIdent
  returns : Returns
  deriving DecidableEq, Repr

/-- A declaration of the generated file: a `type name interface { ... }` with its embedded
interfaces and method names (`iface`), a `type name struct { ... }` with its field names
(`struct`), a package-level `func name(...)` (`func`), or a method `func (x *recv) name(...)` on
a generated struct (`method`). -/
inductive Decl where
  | iface (name : String) (members : List String)
  | struct (name : String) (fields : List String)
  | func (name : String) (body : Body)
  | method (recv : String) (name : String) (body : Body)
  deriving DecidableEq, Repr

/-- The file `generate` writes. -/
structure GeneratedFile where
  filename : String
  goImportPath : String
  packageName : String
  /-- The hand-written import block. -/
  imports : List String
  decls : List Decl
  deriving DecidableEq, Repr

/-! ## `generate` -/

/-- The expression `strings.ToLower(s[:1]) + s[1:]` on an ASCII identifier. -/
def lowerFirst (s : String) : String := s.decapitalize

/-- The function `methodSignature`: the `OneMany` signature of a method. -/
def methodSignature (svc : Service) (m : Method) : Signature :=
  { name := m.goName ++ "OneMany"
    input := if m.unary || (!m.streamingClient && m.streamingServer) then some m.input else none
    returns := if m.unary then .channel (m.goName ++ "ManyResponse")
      else .handle (svc.goName ++ "_" ++ m.goName ++ "ClientProxy") }

/-- The interface, struct and methods of a method that is not unary. -/
def streamingDecls (svc : Service) (clientStruct : String) (m : Method) : List Decl :=
  let methodStruct := m.goName ++ "ClientProxy"
  let handle := clientStruct ++ methodStruct
  [.iface (svc.goName ++ "_" ++ methodStruct)
      ((if m.streamingClient then ["Send"] else []) ++
        (if m.clientOnly then ["CloseAndRecv"] else []) ++
        (if m.streamingServer then ["Recv"] else []) ++ ["grpc.ClientStream"]),
    .struct handle ["cc", "directDone", "ClientStream"]] ++
  (if m.streamingClient then [.method handle "Send" .send] else []) ++
  (if m.streamingServer || m.clientOnly then
    [.method handle (if m.streamingServer then "Recv" else "CloseAndRecv") (.recv m m.clientOnly)]
  else [])

/-- The loop over `service.Methods`; `numStreams` counts the streaming methods seen so far,
and a unary method `continue`s before the increment. -/
def methodDecls (svc : Service) (clientStruct clientStructProxy : String) :
    Nat → List Method → List Decl
  | _, [] => []
  | numStreams, m :: ms =>
      let response := Decl.struct (m.goName ++ "ManyResponse") ["Target", "Index", "Resp", "Error"]
      if m.unary then
        response :: .method clientStructProxy (m.goName ++ "OneMany") (.unaryOneMany svc m) ::
          methodDecls svc clientStruct clientStructProxy numStreams ms
      else
        response :: streamingDecls svc clientStruct m ++
          .method clientStructProxy (m.goName ++ "OneMany") (.streamOneMany svc m numStreams) ::
          methodDecls svc clientStruct clientStructProxy (numStreams + 1) ms

/-- The declarations for one service with methods. -/
def serviceDecls (svc : Service) : List Decl :=
  let interfaceName := svc.goName ++ "Client"
  let interfaceNameProxy := interfaceName ++ "Proxy"
  let clientStruct := lowerFirst interfaceName
  let clientStructProxy := clientStruct ++ "Proxy"
  [.iface interfaceNameProxy
      (interfaceName :: svc.methods.map fun m => (methodSignature svc m).name),
    .struct clientStructProxy ["*" ++ clientStruct],
    .func ("New" ++ interfaceNameProxy)
      (.newClientProxy clientStructProxy interfaceName clientStruct)] ++
  methodDecls svc clientStruct clientStructProxy 0 svc.methods

/-- Whether some method streams on either side (`needIO`). -/
def needIO (file : File) : Bool :=
  file.services.any fun svc =>
    svc.methods.any fun m => m.streamingServer || m.streamingClient

/-- The function `generate`: no file for a proto file without services; otherwise the import
block and every service's declarations, skipping services without methods. -/
def generate (file : File) : Option GeneratedFile :=
  if file.services.length = 0 then none
  else some
    { filename := file.generatedFilenamePrefix ++ "_grpcproxy.pb.go"
      goImportPath := file.goImportPath
      packageName := file.goPackageName
      imports := "fmt" :: (if needIO file then ["io"] else [])
      decls := file.services.flatMap fun svc =>
        if svc.methods.length = 0 then [] else serviceDecls svc }

/-- The function `main`: `generate` for every file marked for generation. -/
def main (files : List File) : List GeneratedFile :=
  files.filterMap fun file => if file.generate then generate file else none

end Generator
end Sansshell
