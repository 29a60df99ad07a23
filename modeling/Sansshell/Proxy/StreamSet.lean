import Sansshell.Proxy.Wire

/-!
# StreamSet — the dispatcher's registry of target streams

`server.go` calls a `TargetStreamSet` that is not part of the source (`NewTargetStreamSet`,
`Add`, `Send`, `Cancel`, `ClientClose`, `Remove`, `ClientCloseAll`, `Wait`). This module models
its membership from the spec: a list from stream id to the client side of the stream's state,
and the id the next accepted `StartStream` receives.

* `Send`, `ClientClose` and `Cancel` fan one frame over its ids in order and stop at the first
  protocol error (`fan`); a missing id is always one.
* `Add` and `Wait` interact with the goroutines, so the session step function models them.
* Only `insert` and `remove` change which ids the set holds (`fan_keys`, `*_ids`), and a frame
  naming an id the set does not hold fails (`fan_unknown`).
* A stream that is not open never opens again (`*_not_opened`); a successful `ClientClose` or
  `Cancel` leaves the streams it names not open (`*_closes`), and `Send` to such a stream fails
  (`send_fails`).
-/

namespace Sansshell
namespace Proxy

/-- Modelled from the spec: the client side of a target stream's state machine. -/
inductive StreamState where
  | opened
  | halfClosedLocal
  | closed
  deriving DecidableEq, Repr

/-- Modelled from the spec: the `TargetStreamSet`, owned by the dispatcher alone. -/
structure TargetStreamSet where
  streams : List (Nat × StreamState)
  nextId : Nat
  deriving DecidableEq, Repr

namespace TargetStreamSet

/-- Modelled from the spec: the set `NewTargetStreamSet` returns; ids start at 1. -/
def empty : TargetStreamSet := ⟨[], 1⟩

/-- Replace the state of stream `id`. -/
def update (ss : List (Nat × StreamState)) (id : Nat) (st : StreamState) :
    List (Nat × StreamState) :=
  ss.map fun e => if e.1 = id then (id, st) else e

/-- Apply `f` to each listed stream in turn, stopping at the first protocol error. -/
def fan (f : Nat → StreamState → Except ProtocolError StreamState) :
    List Nat → List (Nat × StreamState) → List (Nat × StreamState) × Option ProtocolError
  | [], ss => (ss, none)
  | id :: ids, ss =>
      match ss.lookup id with
      | none => (ss, some (.unknownStream id))
      | some st =>
          match f id st with
          | .error e => (ss, some e)
          | .ok st' => fan f ids (update ss id st')

/-- Modelled from the spec: `Send` queues the payload on each listed open stream; data to a
stream that is not open is the protocol error `Send` returns. Left out: the spec's
`FAILED_PRECONDITION` `ServerClose` and removal of such a stream, and its rule that data beyond
the first is a protocol error for a method whose client does not stream. -/
def send (t : TargetStreamSet) (d : StreamData) : TargetStreamSet × Option ProtocolError :=
  let r := fan (fun id st => if st = .opened then .ok st else .error (.closedStream id))
    d.streamIds t.streams
  ({ t with streams := r.1 }, r.2)

/-- Modelled from the spec: `ClientClose` half-closes each listed open stream. -/
def clientClose (t : TargetStreamSet) (c : ClientClose) :
    TargetStreamSet × Option ProtocolError :=
  let r := fan (fun _ st => .ok (if st = .opened then .halfClosedLocal else st))
    c.streamIds t.streams
  ({ t with streams := r.1 }, r.2)

/-- Modelled from the spec: `Cancel` closes each listed stream. -/
def cancel (t : TargetStreamSet) (c : ClientCancel) : TargetStreamSet × Option ProtocolError :=
  let r := fan (fun _ _ => .ok .closed) c.streamIds t.streams
  ({ t with streams := r.1 }, r.2)

/-- Modelled from the spec: `ClientCloseAll` half-closes every open stream. -/
def clientCloseAll (t : TargetStreamSet) : TargetStreamSet :=
  { t with streams := t.streams.map fun e =>
      if e.2 = .opened then (e.1, .halfClosedLocal) else e }

/-- Modelled from the spec: `Remove` forgets a stream that has published its id on `done`. -/
def remove (t : TargetStreamSet) (id : Nat) : TargetStreamSet :=
  { t with streams := t.streams.filter fun e => e.1 ≠ id }

/-- Modelled from the spec: the bookkeeping half of a successful `Add`. -/
def insert (t : TargetStreamSet) : TargetStreamSet :=
  ⟨t.streams ++ [(t.nextId, .opened)], t.nextId + 1⟩

/-- The ids the set holds. -/
def ids (t : TargetStreamSet) : List Nat := t.streams.map Prod.fst

/-! ## Ids -/

/-- `update` changes states, never ids. -/
@[simp] theorem update_keys (ss : List (Nat × StreamState)) (id : Nat) (st : StreamState) :
    (update ss id st).map Prod.fst = ss.map Prod.fst := by
  simp only [update, List.map_map]
  exact List.map_congr_left fun e _ => by simp only [Function.comp]; split <;> simp_all

/-- Fanning a frame out changes states, never ids. -/
theorem fan_keys (f : Nat → StreamState → Except ProtocolError StreamState) :
    ∀ (ids : List Nat) (ss : List (Nat × StreamState)),
      (fan f ids ss).1.map Prod.fst = ss.map Prod.fst
  | [], _ => rfl
  | id :: ids, ss => by
      unfold fan
      split
      · rfl
      · split
        · rfl
        · rw [fan_keys f ids, update_keys]

@[simp] theorem lookup_cons_ne {ss : List (Nat × StreamState)} {k id : Nat} (v : StreamState)
    (h : id ≠ k) : ((k, v) :: ss).lookup id = ss.lookup id := by
  rw [List.lookup_cons, beq_eq_false_iff_ne.2 h]

/-- An id that no entry carries is not found. -/
theorem lookup_eq_none {id : Nat} :
    ∀ {ss : List (Nat × StreamState)}, id ∉ ss.map Prod.fst → ss.lookup id = none
  | [], _ => rfl
  | (k, v) :: ss, h => by
      have hk : id ≠ k := fun he => h (he ▸ List.mem_cons_self _ _)
      rw [lookup_cons_ne _ hk]
      exact lookup_eq_none fun hm => h (List.mem_cons_of_mem _ hm)

theorem lookup_update_ne {ss : List (Nat × StreamState)} {i k : Nat} (st : StreamState)
    (h : i ≠ k) : (update ss i st).lookup k = ss.lookup k := by
  induction ss with
  | nil => rfl
  | cons e ss ih =>
      obtain ⟨k', v⟩ := e
      simp only [update, List.map_cons] at ih ⊢
      by_cases h1 : k' = i <;> by_cases h2 : k = k' <;> simp_all

theorem lookup_update_self {ss : List (Nat × StreamState)} {id : Nat} {st : StreamState}
    (st' : StreamState) (h : ss.lookup id = some st) : (update ss id st').lookup id = some st' := by
  induction ss with
  | nil => cases h
  | cons e ss ih =>
      obtain ⟨k, v⟩ := e
      simp only [update, List.map_cons] at ih ⊢
      by_cases hk : k = id
      · simp [hk]
      · simp_all [Ne.symm hk]

/-- A frame fails when one of its ids names a stream that is missing or that `f` refuses, whatever
its other ids: the streams before it in the frame are other streams. -/
theorem fan_fails (f : Nat → StreamState → Except ProtocolError StreamState) {id : Nat}
    {ids : List Nat} {ss : List (Nat × StreamState)} (hid : id ∈ ids)
    (hf : ∀ st, ss.lookup id = some st → ∃ e, f id st = .error e) :
    (fan f ids ss).2.isSome = true := by
  induction ids, ss using fan.induct f with
  | case1 => cases hid
  | case2 i ids ss h => simp [fan, h]
  | case3 i ids ss st h e he => simp [fan, h, he]
  | case4 i ids ss st h st' hok ih =>
      have hne : i ≠ id := by
        rintro rfl
        obtain ⟨e, he⟩ := hf st h
        rw [hok] at he
        cases he
      simp only [fan, h, hok]
      exact ih ((List.mem_cons.1 hid).resolve_left (Ne.symm hne))
        fun st hst => hf st (by rwa [lookup_update_ne _ hne] at hst)

/-- A frame that names an id the set does not hold fails, whatever its other ids. -/
theorem fan_unknown (f : Nat → StreamState → Except ProtocolError StreamState) {id : Nat}
    {ids : List Nat} {ss : List (Nat × StreamState)} (h : id ∈ ids) (hn : id ∉ ss.map Prod.fst) :
    (fan f ids ss).2.isSome = true :=
  fan_fails f h fun st hst => by rw [lookup_eq_none hn] at hst; cases hst

/-- Every id a successful frame names is one the set holds. -/
theorem fan_ok_mem {f : Nat → StreamState → Except ProtocolError StreamState} {id : Nat}
    {ids : List Nat} {ss : List (Nat × StreamState)} (hid : id ∈ ids)
    (hok : (fan f ids ss).2 = none) : id ∈ ss.map Prod.fst :=
  Classical.byContradiction fun hn => by
    have h := fan_unknown f hid hn
    rw [hok] at h
    cases h

@[simp] theorem send_ids (t : TargetStreamSet) (d : StreamData) : (t.send d).1.ids = t.ids :=
  fan_keys _ _ _

@[simp] theorem cancel_ids (t : TargetStreamSet) (c : ClientCancel) :
    (t.cancel c).1.ids = t.ids :=
  fan_keys _ _ _

@[simp] theorem clientClose_ids (t : TargetStreamSet) (c : ClientClose) :
    (t.clientClose c).1.ids = t.ids :=
  fan_keys _ _ _

@[simp] theorem clientCloseAll_ids (t : TargetStreamSet) : t.clientCloseAll.ids = t.ids := by
  simp only [clientCloseAll, ids, List.map_map]
  exact List.map_congr_left fun e _ => by simp only [Function.comp]; split <;> rfl

theorem remove_ids (t : TargetStreamSet) (id : Nat) :
    (t.remove id).ids = t.ids.filter (· ≠ id) := by
  simp [remove, ids, List.filter_map, Function.comp_def]

/-! ## States -/

/-- A fan whose function never opens a stream leaves a stream that is not open so. -/
theorem fan_not_opened (f : Nat → StreamState → Except ProtocolError StreamState)
    (hf : ∀ i st st', f i st = .ok st' → st' = .opened → st = .opened) {id : Nat}
    {ids : List Nat} {ss : List (Nat × StreamState)} (h : ss.lookup id ≠ some .opened) :
    (fan f ids ss).1.lookup id ≠ some .opened := by
  induction ids, ss using fan.induct f with
  | case1 => exact h
  | case2 i ids ss hi => simpa [fan, hi] using h
  | case3 i ids ss st hi e he => simpa [fan, hi, he] using h
  | case4 i ids ss st hi st' hok ih =>
      simp only [fan, hi, hok]
      refine ih ?_
      by_cases hne : i = id
      · subst hne
        rw [lookup_update_self _ hi]
        intro he
        exact h (by rw [hi, hf _ _ _ hok (Option.some.inj he)])
      · rwa [lookup_update_ne _ hne]

/-- A successful fan whose function never leaves a stream open leaves no stream it names open. -/
theorem fan_closes (f : Nat → StreamState → Except ProtocolError StreamState)
    (hf : ∀ i st st', f i st = .ok st' → st' ≠ .opened) {id : Nat} {ids : List Nat}
    {ss : List (Nat × StreamState)} (hid : id ∈ ids) (hok : (fan f ids ss).2 = none) :
    (fan f ids ss).1.lookup id ≠ some .opened := by
  induction ids, ss using fan.induct f with
  | case1 => cases hid
  | case2 i ids ss hi => simp [fan, hi] at hok
  | case3 i ids ss st hi e he => simp [fan, hi, he] at hok
  | case4 i ids ss st hi st' hf' ih =>
      simp only [fan, hi, hf'] at hok ⊢
      by_cases hne : i = id
      · subst hne
        refine fan_not_opened f (fun _ _ _ h ho => absurd ho (hf _ _ _ h)) ?_
        rw [lookup_update_self _ hi]
        exact fun he => hf _ _ _ hf' (Option.some.inj he)
      · exact ih ((List.mem_cons.1 hid).resolve_left (Ne.symm hne)) hok

/-- `Send` fails on a frame that names a stream that is not open. -/
theorem send_fails (t : TargetStreamSet) (d : StreamData) {id : Nat} (hid : id ∈ d.streamIds)
    (h : t.streams.lookup id ≠ some .opened) : (t.send d).2.isSome = true :=
  fan_fails _ hid fun st hst =>
    ⟨.closedStream id, if_neg fun (ho : st = .opened) => h (ho ▸ hst)⟩

/-- A stream that is not open stays so through `Send`. -/
theorem send_not_opened (t : TargetStreamSet) (d : StreamData) {id : Nat}
    (h : t.streams.lookup id ≠ some .opened) : (t.send d).1.streams.lookup id ≠ some .opened :=
  fan_not_opened _ (fun _ st _ hok ho => by by_cases hs : st = .opened <;> simp_all) h

/-- A stream that is not open stays so through `ClientClose`. -/
theorem clientClose_not_opened (t : TargetStreamSet) (c : ClientClose) {id : Nat}
    (h : t.streams.lookup id ≠ some .opened) :
    (t.clientClose c).1.streams.lookup id ≠ some .opened :=
  fan_not_opened _ (fun _ st _ hok ho => by by_cases hs : st = .opened <;> simp_all) h

/-- A stream that is not open stays so through `Cancel`. -/
theorem cancel_not_opened (t : TargetStreamSet) (c : ClientCancel) {id : Nat}
    (h : t.streams.lookup id ≠ some .opened) : (t.cancel c).1.streams.lookup id ≠ some .opened :=
  fan_not_opened _ (fun _ _ _ hok ho => by simp_all) h

/-- A successful `ClientClose` leaves no stream it names open. -/
theorem clientClose_closes (t : TargetStreamSet) (c : ClientClose) {id : Nat}
    (hid : id ∈ c.streamIds) (hok : (t.clientClose c).2 = none) :
    (t.clientClose c).1.streams.lookup id ≠ some .opened :=
  fan_closes _ (fun _ st _ h => by cases h; split <;> simp_all) hid hok

/-- A successful `Cancel` leaves no stream it names open. -/
theorem cancel_closes (t : TargetStreamSet) (c : ClientCancel) {id : Nat}
    (hid : id ∈ c.streamIds) (hok : (t.cancel c).2 = none) :
    (t.cancel c).1.streams.lookup id ≠ some .opened :=
  fan_closes _ (fun _ _ _ h => by cases h; simp) hid hok

/-- After `ClientCloseAll` no stream is open. -/
theorem clientCloseAll_not_opened (t : TargetStreamSet) (id : Nat) :
    t.clientCloseAll.streams.lookup id ≠ some .opened := by
  simp only [clientCloseAll]
  induction t.streams with
  | nil => simp
  | cons e ss ih =>
      obtain ⟨k, v⟩ := e
      by_cases hv : v = .opened <;> by_cases hk : id = k <;> simp_all

/-- `Remove` forgets one stream and leaves the others as they were. -/
theorem remove_lookup (t : TargetStreamSet) (id k : Nat) :
    (t.remove id).streams.lookup k = if k = id then none else t.streams.lookup k := by
  simp only [remove]
  induction t.streams with
  | nil => simp
  | cons e ss ih =>
      obtain ⟨k', v⟩ := e
      by_cases h1 : k' = id <;> by_cases h2 : k = k' <;>
        simp_all [List.filter_cons, -List.lookup_eq_none_iff]

/-- `Add` leaves every other stream as it was. -/
theorem insert_lookup (t : TargetStreamSet) {k : Nat} (hk : k ≠ t.nextId) :
    t.insert.streams.lookup k = t.streams.lookup k := by
  simp [insert, List.lookup_append, hk]

end TargetStreamSet

end Proxy
end Sansshell
