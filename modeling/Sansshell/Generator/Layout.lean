import Sansshell.Generator.Generate

/-!
# Layout — the names and stream indices `generate` emits

* `Decl.name?` — the package-level identifier a declaration introduces; methods on the
  generated structs introduce none.
* `streamBodies_serviceDecls` — the `NewStream` bodies of one service are its streaming
  methods in order, numbered from 0: the `k`-th streaming method uses `Streams[k]`.
* `newStream_stream_index` — the same read at a method's position in `service.Methods`.
* `many_response_collides` — two services of one file that share a method name both
  declare `<Method>ManyResponse`.
* `manyResponse_count` — in general, the file declares `n ++ "ManyResponse"` at least once for
  every method named `n`, whichever service holds it.
-/

namespace Sansshell
namespace Generator

/-! ## Package-level names -/

/-- The package-level identifier a declaration introduces. -/
def Decl.name? : Decl → Option String
  | .iface name _ => some name
  | .struct name _ => some name
  | .func name _ => some name
  | .method _ _ _ => none

/-- Every package-level identifier of a generated file, in order, with repetitions. -/
def GeneratedFile.declaredNames (g : GeneratedFile) : List String :=
  g.decls.filterMap Decl.name?

/-- The unexported struct that carries a service's `OneMany` methods. -/
def clientStructProxy (svc : Service) : String :=
  lowerFirst (svc.goName ++ "Client") ++ "Proxy"

/-- What `generate` returns when it writes a file. -/
theorem generate_some {file : File} {g : GeneratedFile} (hg : generate file = some g) :
    g.imports = "fmt" :: (if needIO file then ["io"] else []) ∧
      g.decls = file.services.flatMap fun svc =>
        if svc.methods.length = 0 then [] else serviceDecls svc := by
  unfold generate at hg
  split at hg
  · cases hg
  · cases hg
    exact ⟨rfl, rfl⟩

/-- A service with methods contributes its declarations to the generated file. -/
theorem serviceDecls_subset {file : File} {g : GeneratedFile} (hg : generate file = some g)
    {svc : Service} (hsvc : svc ∈ file.services) (hm : svc.methods ≠ []) :
    ∀ d ∈ serviceDecls svc, d ∈ g.decls := by
  intro d hd
  rw [(generate_some hg).2, List.mem_flatMap]
  exact ⟨svc, hsvc, by simpa [List.length_eq_zero, hm] using hd⟩

/-! ## Stream indices -/

/-- The `Streams` index and method of a `NewStream` body. -/
def Decl.streamIndex? : Decl → Option (Nat × Method)
  | .method _ _ (.streamOneMany _ m k) => some (k, m)
  | _ => none

/-- The extra declarations of a streaming method hold no `NewStream` body. -/
theorem streamingDecls_no_stream (svc : Service) (cs : String) (m : Method) :
    (streamingDecls svc cs m).filterMap Decl.streamIndex? = [] := by
  unfold streamingDecls
  split_ifs <;> rfl

/-- From a running count `n`, the loop numbers the streaming methods `n`, `n + 1`, ... -/
theorem streamBodies_methodDecls (svc : Service) (cs csp : String) :
    ∀ (n : Nat) (ms : List Method),
      (methodDecls svc cs csp n ms).filterMap Decl.streamIndex? =
        (ms.filter fun m => !m.unary).enumFrom n
  | _, [] => rfl
  | n, m :: ms => by
      by_cases hu : m.unary
      · simp [methodDecls, hu, Decl.streamIndex?, streamBodies_methodDecls svc cs csp n ms]
      · simp [methodDecls, hu, Decl.streamIndex?, List.filterMap_append,
          streamingDecls_no_stream, streamBodies_methodDecls svc cs csp (n + 1) ms]

/-- The `NewStream` bodies of a service are its streaming methods, in order, numbered from 0:
the position of each in the standard generator's `Streams` slice. -/
theorem streamBodies_serviceDecls (svc : Service) :
    (serviceDecls svc).filterMap Decl.streamIndex? =
      (svc.methods.filter fun m => !m.unary).enum := by
  simp [serviceDecls, Decl.streamIndex?, streamBodies_methodDecls, List.enum]

/-- A streaming method at position `i` gets the running count plus the number of streaming
methods before it. -/
theorem mem_methodDecls (svc : Service) (cs csp : String) :
    ∀ (n : Nat) (ms : List Method) (i : Nat) (hi : i < ms.length),
      (ms.get ⟨i, hi⟩).unary = false →
      Decl.method csp ((ms.get ⟨i, hi⟩).goName ++ "OneMany")
        (.streamOneMany svc (ms.get ⟨i, hi⟩) (n + (ms.take i).countP fun m => !m.unary)) ∈
        methodDecls svc cs csp n ms
  | _, [], _, hi, _ => absurd hi (Nat.not_lt_zero _)
  | n, m :: ms, 0, _, hu => by simp_all [methodDecls]
  | n, m :: ms, i + 1, hi, hu => by
      have ih := mem_methodDecls svc cs csp (if m.unary then n else n + 1) ms i
        (by simpa using hi) hu
      by_cases hm : m.unary <;>
        simp_all [methodDecls, List.countP_cons, Nat.add_assoc, Nat.add_comm 1]

/-- In `l1 ++ x :: l2` filtered by `p`, an `x` that passes sits at the count of `l1`. -/
theorem filter_getElem?_split {α : Type} {p : α → Bool} (l1 : List α) (x : α) (l2 : List α)
    (hx : p x = true) : ((l1 ++ x :: l2).filter p)[l1.countP p]? = some x := by
  simp [List.filter_append, List.filter_cons, hx, List.countP_eq_length_filter,
    List.getElem_append_right]

/-- For every streaming method at position `i` of a service, the generated file holds its
`OneMany`, whose `NewStream` uses `Streams[k]` with `k` the number of streaming methods before
position `i` in the same service; the standard generator's `Streams` slice, one entry per
streaming method in order, has this method at `k`. -/
theorem newStream_stream_index {file : File} {g : GeneratedFile} (hg : generate file = some g)
    {svc : Service} (hsvc : svc ∈ file.services) (i : Nat) (hi : i < svc.methods.length)
    (hu : (svc.methods.get ⟨i, hi⟩).unary = false) :
    Decl.method (clientStructProxy svc) ((svc.methods.get ⟨i, hi⟩).goName ++ "OneMany")
        (.streamOneMany svc (svc.methods.get ⟨i, hi⟩)
          ((svc.methods.take i).countP fun m => !m.unary)) ∈ g.decls ∧
      (svc.methods.filter fun m => !m.unary)[(svc.methods.take i).countP fun m => !m.unary]? =
        some (svc.methods.get ⟨i, hi⟩) := by
  refine ⟨serviceDecls_subset hg hsvc (List.ne_nil_of_length_pos (by omega)) _ ?_, ?_⟩
  · have h := mem_methodDecls svc (lowerFirst (svc.goName ++ "Client")) (clientStructProxy svc) 0
      svc.methods i hi hu
    rw [Nat.zero_add] at h
    exact List.mem_append_right _ h
  · have h := filter_getElem?_split (p := fun m => !m.unary) (svc.methods.take i)
      (svc.methods.get ⟨i, hi⟩) (svc.methods.drop (i + 1)) (by simpa using hu)
    rwa [List.get_eq_getElem, ← List.drop_eq_getElem_cons hi, List.take_append_drop] at h

/-! ## Examples -/

/-- A unary `Ping` method. -/
def ping : Method :=
  ⟨"Ping", "Ping", ⟨"example.com/ping", "PingRequest"⟩, ⟨"example.com/ping", "PingReply"⟩,
    false, false⟩

/-- A server-streaming `Watch` method. -/
def watch : Method :=
  ⟨"Watch", "Watch", ⟨"example.com/ping", "WatchRequest"⟩, ⟨"example.com/ping", "Event"⟩,
    false, true⟩

/-- One service `Alpha` with `Ping` then `Watch`. -/
def alphaFile : File :=
  ⟨true, [⟨"Alpha", "ping.Alpha", [ping, watch]⟩], "ping", "example.com/ping", "ping"⟩

theorem newStream_stream_index_alpha :
    ∃ g, generate alphaFile = some g ∧
      Decl.method (clientStructProxy ⟨"Alpha", "ping.Alpha", [ping, watch]⟩) "WatchOneMany"
        (.streamOneMany ⟨"Alpha", "ping.Alpha", [ping, watch]⟩ watch 0) ∈ g.decls :=
  ⟨_, rfl, (newStream_stream_index (rfl : generate alphaFile = some _)
    (List.mem_singleton_self _) 1 (by decide) rfl).1⟩

/-! ## Response types -/

/-- Two services of one file, each with a method `Ping`. -/
def pingFile : File :=
  ⟨true, [⟨"Alpha", "ping.Alpha", [ping]⟩, ⟨"Beta", "ping.Beta", [ping]⟩], "ping",
    "example.com/ping", "ping"⟩

/-- Two services with distinct names, each with distinct method names, that share the method
name `Ping`: both declare `PingManyResponse`, and the generated file redeclares it. -/
theorem many_response_collides :
    (pingFile.services.map Service.goName).Nodup ∧
      (∀ svc ∈ pingFile.services, (svc.methods.map Method.goName).Nodup) ∧
      ∃ g, generate pingFile = some g ∧ g.declaredNames.count "PingManyResponse" = 2 :=
  ⟨by decide, by decide, _, rfl, by decide⟩

/-- The declarations that introduce the name `n ++ "ManyResponse"`. -/
def declaresManyResponse (n : String) (d : Decl) : Bool :=
  d.name? == some (n ++ "ManyResponse")

/-- The loop declares `<Method>ManyResponse` once for each method. -/
theorem manyResponse_methodDecls (svc : Service) (cs csp n : String) :
    ∀ (k : Nat) (ms : List Method), (ms.countP fun m => m.goName = n) ≤
      (methodDecls svc cs csp k ms).countP (declaresManyResponse n)
  | _, [] => Nat.le_refl 0
  | k, m :: ms => by
      have ih := manyResponse_methodDecls svc cs csp n (if m.unary then k else k + 1) ms
      by_cases hu : m.unary <;> by_cases hn : m.goName = n <;>
        simp_all [methodDecls, List.countP_cons, List.countP_append, declaresManyResponse,
          Decl.name?] <;> omega

/-- Every service with methods declares `<Method>ManyResponse` once for each of its methods. -/
theorem manyResponse_services (n : String) :
    ∀ svcs : List Service, ((svcs.flatMap Service.methods).countP fun m => m.goName = n) ≤
      (svcs.flatMap fun svc => if svc.methods.length = 0 then [] else serviceDecls svc).countP
        (declaresManyResponse n)
  | [] => Nat.le_refl 0
  | svc :: svcs => by
      have ih := manyResponse_services n svcs
      have hsvc : (svc.methods.countP fun m => m.goName = n) ≤
          (if svc.methods.length = 0 then [] else serviceDecls svc).countP
            (declaresManyResponse n) := by
        split_ifs with h
        · simp [List.length_eq_zero.1 h]
        · rw [serviceDecls, List.countP_append]
          exact (manyResponse_methodDecls svc _ _ n 0 svc.methods).trans (Nat.le_add_left _ _)
      simp only [List.flatMap_cons, List.countP_append]
      omega

/-- Every method of every service with methods declares `<Method>ManyResponse`, whatever service
holds it: the generated file declares `n ++ "ManyResponse"` at least once for each method named
`n` in the file. -/
theorem manyResponse_count {file : File} {g : GeneratedFile} (hg : generate file = some g)
    (n : String) :
    ((file.services.flatMap Service.methods).countP fun m => m.goName = n) ≤
      g.declaredNames.count (n ++ "ManyResponse") := by
  rw [GeneratedFile.declaredNames, List.count_filterMap, (generate_some hg).2]
  exact manyResponse_services n file.services

theorem manyResponse_count_ping :
    ∃ g, generate pingFile = some g ∧
      ((pingFile.services.flatMap Service.methods).countP fun m => m.goName = "Ping") ≤
        g.declaredNames.count ("Ping" ++ "ManyResponse") :=
  ⟨_, rfl, manyResponse_count (rfl : generate pingFile = some _) "Ping"⟩

end Generator
end Sansshell
