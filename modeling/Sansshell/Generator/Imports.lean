import Sansshell.Generator.Layout

/-!
# Imports — the hand-written import block against the code that uses it

`generate` writes `"fmt"` unconditionally and `"io"` when `needIO`. The emitted code names
`io` only in `return nil, io.EOF` of the direct-mode `Recv`, and `fmt` only in the
`fmt.Errorf` of the two reply conversions.

* `imports_io_iff` — `"io"` is imported exactly when some emitted code names it.
* `fmt_used_iff` — some emitted code names `fmt` exactly when some service has a method.
* `fmt_imported_unused` — a file whose only service has no methods imports `"fmt"` and uses
  nothing from it.
-/

namespace Sansshell
namespace Generator

/-- The hand-imported packages a body names. -/
def Body.refs : Body → List String
  | .recv _ _ => ["io", "fmt"]
  | .unaryOneMany _ _ => ["fmt"]
  | _ => []

/-- The hand-imported packages a declaration names. -/
def Decl.refs : Decl → List String
  | .func _ b => b.refs
  | .method _ _ b => b.refs
  | _ => []

/-- The hand-imported packages the emitted code names. -/
def GeneratedFile.refs (g : GeneratedFile) : List String :=
  g.decls.flatMap Decl.refs

/-- A method that is not unary gets a `Recv` or a `CloseAndRecv`. -/
theorem recv_of_not_unary {m : Method} (hu : m.unary = false) :
    (m.streamingServer || m.clientOnly) = true := by
  cases hc : m.streamingClient <;> cases hs : m.streamingServer <;>
    simp_all [Method.unary, Method.clientOnly]

/-- The loop's declarations name `io` exactly when some method streams. -/
theorem io_mem_methodDecls (svc : Service) (cs csp : String) :
    ∀ (n : Nat) (ms : List Method),
      "io" ∈ (methodDecls svc cs csp n ms).flatMap Decl.refs ↔ ∃ m ∈ ms, m.unary = false
  | _, [] => by simp [methodDecls]
  | n, m :: ms => by
      by_cases hu : m.unary
      · simp [methodDecls, hu, Decl.refs, Body.refs, io_mem_methodDecls svc cs csp n ms]
      · simp [methodDecls, hu, Decl.refs, Body.refs, streamingDecls, recv_of_not_unary (m := m)]

/-- The loop's declarations name `fmt` exactly when there is a method. -/
theorem fmt_mem_methodDecls (svc : Service) (cs csp : String) :
    ∀ (n : Nat) (ms : List Method),
      "fmt" ∈ (methodDecls svc cs csp n ms).flatMap Decl.refs ↔ ms ≠ []
  | _, [] => by simp [methodDecls]
  | n, m :: ms => by
      by_cases hu : m.unary
      · simp [methodDecls, hu, Decl.refs, Body.refs]
      · simp [methodDecls, hu, Decl.refs, Body.refs, streamingDecls, recv_of_not_unary (m := m)]

/-- The head of a service's declarations names no hand-imported package. -/
theorem refs_serviceDecls (svc : Service) :
    (serviceDecls svc).flatMap Decl.refs =
      (methodDecls svc (lowerFirst (svc.goName ++ "Client"))
        (lowerFirst (svc.goName ++ "Client") ++ "Proxy") 0 svc.methods).flatMap Decl.refs :=
  rfl

/-- A package is named in the generated file exactly when the loop of some service names it. -/
theorem mem_refs {file : File} {g : GeneratedFile} (hg : generate file = some g) (p : String) :
    p ∈ g.refs ↔ ∃ svc ∈ file.services,
      p ∈ (methodDecls svc (lowerFirst (svc.goName ++ "Client"))
        (lowerFirst (svc.goName ++ "Client") ++ "Proxy") 0 svc.methods).flatMap Decl.refs := by
  rw [GeneratedFile.refs, (generate_some hg).2, List.flatMap_assoc, List.mem_flatMap]
  refine exists_congr fun svc => and_congr_right fun _ => ?_
  split_ifs with h
  · simp [List.length_eq_zero.1 h, methodDecls]
  · rw [refs_serviceDecls]

/-- A method is not unary exactly when one of its sides streams. -/
theorem unary_eq_false {m : Method} :
    m.unary = false ↔ (m.streamingServer || m.streamingClient) = true := by
  obtain ⟨_, _, _, _, _ | _, _ | _⟩ := m <;> simp [Method.unary]

/-- The function `needIO` holds exactly when some service has a method that is not unary. -/
theorem needIO_iff (file : File) :
    needIO file = true ↔ ∃ svc ∈ file.services, ∃ m ∈ svc.methods, m.unary = false := by
  simp [ needIO, unary_eq_false]

/-- The import block lists `"io"` exactly when some emitted code names `io`. -/
theorem imports_io_iff {file : File} {g : GeneratedFile} (hg : generate file = some g) :
    "io" ∈ g.imports ↔ "io" ∈ g.refs := by
  rw [mem_refs hg, (generate_some hg).1]
  simp only [io_mem_methodDecls, ← needIO_iff]
  cases needIO file <;> decide

theorem imports_io_iff_alpha :
    ∃ g, generate alphaFile = some g ∧ ("io" ∈ g.imports ↔ "io" ∈ g.refs) :=
  ⟨_, rfl, imports_io_iff (rfl : generate alphaFile = some _)⟩

/-- Some emitted code names `fmt` exactly when some service has a method. -/
theorem fmt_used_iff {file : File} {g : GeneratedFile} (hg : generate file = some g) :
    "fmt" ∈ g.refs ↔ ∃ svc ∈ file.services, svc.methods ≠ [] := by
  simp only [mem_refs hg, fmt_mem_methodDecls]

theorem fmt_used_iff_alpha :
    ∃ g, generate alphaFile = some g ∧
      ("fmt" ∈ g.refs ↔ ∃ svc ∈ alphaFile.services, svc.methods ≠ []) :=
  ⟨_, rfl, fmt_used_iff (rfl : generate alphaFile = some _)⟩

/-- A proto file with one service `Empty` that has no methods. -/
def emptyServiceFile : File :=
  ⟨true, [⟨"Empty", "ping.Empty", []⟩], "ping", "example.com/ping", "ping"⟩

/-- A file whose only service has no methods gets a generated file that imports `"fmt"` and
names nothing from it. -/
theorem fmt_imported_unused :
    emptyServiceFile.services ≠ [] ∧
      ∃ g, generate emptyServiceFile = some g ∧ "fmt" ∈ g.imports ∧ "fmt" ∉ g.refs :=
  ⟨by decide, _, rfl, by decide, by decide⟩

end Generator
end Sansshell
