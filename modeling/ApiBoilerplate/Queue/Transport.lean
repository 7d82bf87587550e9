import ApiBoilerplate.Foundation.Machine
import ApiBoilerplate.Queue.Registry

/-!
# A dispatcher before a backend, a registry behind it

Whatever the backend, callers reach it through the dispatcher and the tasks of its
workers get their handlers from the registry. `Transport` is a backend as these two
see it. A transport that keeps the envelopes of its orders routes each payload to the
handler that was registered last under its type.
-/

namespace ApiBoilerplate

open Foundation

/-- The envelope is that of the order, on whatever attempt. -/
structure JobOrder.Carries {Value : Type} (order : JobOrder Value) (e : JobEnvelope Value) :
    Prop where
  id : e.id = order.id
  jobType : e.jobType = order.jobType
  payload : e.payload = order.payload
  maxAttempts : e.maxAttempts = order.maxAttempts

theorem JobOrder.carries_envelope {Value : Type} (order : JobOrder Value) :
    order.Carries order.envelope :=
  ⟨order.envelope_id, order.envelope_jobType, order.envelope_payload, order.envelope_maxAttempts⟩

/-- A backend with its workers; `π` says who calls it. -/
structure Transport (σ ℓ π : Type) where
  machine : WorkerConfig → Machine σ ℓ
  tasks : σ → TaskId → Option (JobTask Json)
  enqueue : π → JobOrder Json → ℓ
  /-- The call of `enqueue` does not fail. -/
  accepts : σ → JobOrder Json → Bool
  /-- Exactly the envelope of the order is added. -/
  Adds : π → JobOrder Json → σ → σ → Prop
  handlerReturns : TaskId → Except QueueError Unit → ℓ
  /-- Neither a call of `enqueue` nor the return of a handler. -/
  internal : ℓ → Bool
  /-- The task whose failure is recorded, and the worker's clock. -/
  fails : ℓ → Option (TaskId × DateTime)
  /-- The job failed with this text, and is retried at that time or never again. -/
  Failed : σ → TaskId → JobEnvelope Json → String → Option DateTime → Prop

/-- What the application puts around a backend. -/
structure JobApp (J Context : Type) where
  dispatcher : Dispatcher
  toValue : J → Except String Json
  jobs : List (RegisteredJob Context)
  retryDelaySeconds : UInt64

inductive AppLabel (J Context ℓ π : Type) where
  | call (port : π) (stamp : Stamp) (entry : Dispatch J)
  | run (task : TaskId) (ctx : Context)
  | internal (l : ℓ)

namespace JobApp
variable {J Context : Type} (app : JobApp J Context)

def registry : JobRegistry Context := .registerAll app.jobs

def worker : WorkerConfig := app.registry.worker app.retryDelaySeconds

def order (stamp : Stamp) (entry : Dispatch J) : Except QueueError (JobOrder Json) :=
  app.dispatcher.order app.toValue stamp entry

end JobApp

namespace Transport
variable {σ ℓ π J Context : Type} (T : Transport σ ℓ π) (app : JobApp J Context)

def step (s : σ) : AppLabel J Context ℓ π → Option σ
  | .call port stamp entry =>
    match app.order stamp entry with
    | .error _ => some s
    | .ok order => (T.machine app.worker).step s (T.enqueue port order)
  | .run task ctx =>
    match T.tasks s task with
    | some ⟨envelope, none⟩ => (T.machine app.worker).step s
        (T.handlerReturns task (app.registry.call envelope ctx))
    | _ => none
  | .internal l => if T.internal l then (T.machine app.worker).step s l else none

/-- The calls that did not fail, with what they handed over. -/
def record (s : σ) (l : AppLabel J Context ℓ π) (sent : List (Dispatch J × JobOrder Json)) :
    List (Dispatch J × JobOrder Json) :=
  match l with
  | .call _ stamp entry =>
    match app.order stamp entry with
    | .error _ => sent
    | .ok order => if T.accepts s order then sent ++ [(entry, order)] else sent
  | _ => sent

def system : Machine (σ × List (Dispatch J × JobOrder Json)) (AppLabel J Context ℓ π) :=
  Machine.recording ⟨(T.machine app.worker).init, T.step app⟩ [] (T.record app)

/-- What is asked of a backend: its tasks have the envelopes of the orders it took. -/
structure Law (worker : WorkerConfig) where
  Keeps : σ → List (JobOrder Json) → Prop
  start : Keeps (T.machine worker).init []
  taken : ∀ {s t orders port order}, (T.machine worker).Reachable s → Keeps s orders →
    (T.machine worker).step s (T.enqueue port order) = some t → T.accepts s order = true →
      T.Adds port order s t ∧ Keeps t (orders ++ [order])
  rejected : ∀ {s t port order}, (T.machine worker).step s (T.enqueue port order) = some t →
    T.accepts s order = false → t = s
  worked : ∀ {s t orders l}, (T.machine worker).Reachable s → Keeps s orders →
    (T.machine worker).step s l = some t →
      (T.internal l = true ∨ ∃ task result, l = T.handlerReturns task result) → Keeps t orders
  returned : ∀ {s task envelope} result, T.tasks s task = some ⟨envelope, none⟩ →
    ∃ t, (T.machine worker).step s (T.handlerReturns task result) = some t ∧ T.tasks t task =
      some ⟨envelope, some (Worker.outcome worker.registered envelope.jobType result)⟩
  failed : ∀ {s orders l task now envelope error}, (T.machine worker).Reachable s →
    Keeps s orders → T.fails l = some (task, now) →
      T.tasks s task = some ⟨envelope, some (.error error)⟩ →
        T.internal l = true ∧ ∃ t, (T.machine worker).step s l = some t ∧
          T.Failed t task envelope error.text (Worker.retryAt worker.retryDelaySeconds
            envelope.attempts envelope.maxAttempts now)
  carried : ∀ {s orders task job}, Keeps s orders → T.tasks s task = some job →
    ∃ order ∈ orders, order.Carries job.envelope
  distinct : ∀ {s orders}, Keeps s orders → (orders.map JobOrder.id).Nodup

section Steps
variable {T app} {s t : σ} {stamp : Stamp} {entry : Dispatch J} {order : JobOrder Json}

theorem system_step {p q : σ × List (Dispatch J × JobOrder Json)} {l : AppLabel J Context ℓ π} :
    (T.system app).step p l = some q ↔
      T.step app p.1 l = some q.1 ∧ T.record app p.1 l p.2 = q.2 :=
  Machine.recording_step

theorem step_call (ordered : app.order stamp entry = .ok order) (port : π) :
    T.step app s (.call port stamp entry) =
      (T.machine app.worker).step s (T.enqueue port order) := by
  rw [step, ordered]

theorem record_call (ordered : app.order stamp entry = .ok order) (port : π)
    (sent : List (Dispatch J × JobOrder Json)) : T.record app s (.call port stamp entry) sent =
      if T.accepts s order then sent ++ [(entry, order)] else sent := by
  rw [record, ordered]

end Steps

namespace Law
variable {T app} (law : T.Law app.worker)

/-- The accepted calls handed over what they say, and the backend keeps it. -/
structure Consistent (s : σ) (sent : List (Dispatch J × JobOrder Json)) : Prop where
  reachable : (T.machine app.worker).Reachable s
  keeps : law.Keeps s (sent.map Prod.snd)
  handed : ∀ entry order, (entry, order) ∈ sent → ∃ stamp, app.order stamp entry = .ok order

theorem step_consistent {s t : σ} {sent : List (Dispatch J × JobOrder Json)}
    {l : AppLabel J Context ℓ π} (before : law.Consistent s sent)
    (stepped : T.step app s l = some t) : law.Consistent t (T.record app s l sent) := by
  obtain ⟨reach, keeps, handed⟩ := before
  cases l with
  | call port stamp entry =>
    cases ordered : app.order stamp entry with
    | error e =>
      simp only [step, record, ordered] at stepped ⊢
      obtain rfl := Option.some.inj stepped
      exact ⟨reach, keeps, handed⟩
    | ok order =>
      rw [step_call ordered] at stepped
      rw [record_call ordered]
      cases accepted : T.accepts s order with
      | false =>
        obtain rfl := law.rejected stepped accepted
        exact ⟨reach, keeps, handed⟩
      | true =>
        refine ⟨reach.next trivial stepped, ?_, fun entry' order' listed => ?_⟩
        · rw [if_pos rfl, List.map_append]
          exact (law.taken reach keeps stepped accepted).2
        · rcases List.mem_append.mp listed with old | new
          · exact handed entry' order' old
          · obtain ⟨rfl, rfl⟩ := Prod.mk.inj (List.mem_singleton.mp new)
            exact ⟨stamp, ordered⟩
  | run task ctx =>
    simp only [step] at stepped
    split at stepped
    · exact ⟨reach.next trivial stepped, law.worked reach keeps stepped (Or.inr ⟨task, _, rfl⟩),
        handed⟩
    · cases stepped
  | internal l =>
    simp only [step] at stepped
    split at stepped
    · rename_i inner
      exact ⟨reach.next trivial stepped, law.worked reach keeps stepped (Or.inl inner), handed⟩
    · cases stepped

theorem consistent {p : σ × List (Dispatch J × JobOrder Json)}
    (reach : (T.system app).Reachable p) : law.Consistent p.1 p.2 := by
  refine (Machine.ReachableWhere.recording (I := law.Consistent) ?_ ?_ reach).2
  · exact ⟨⟨[], .start⟩, law.start, fun _ _ listed => absurd listed List.not_mem_nil⟩
  · exact fun s sent l t _ before _ stepped => law.step_consistent before stepped

end Law
end Transport
end ApiBoilerplate
