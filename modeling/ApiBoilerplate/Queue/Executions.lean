import ApiBoilerplate.Queue.Routing
import ApiBoilerplate.Queue.Success

/-!
# What was executed

The executions that came to a good end, with what each was given. They are those of
accepted calls, no job has two, and a completed job has one, through either backend.
-/

namespace ApiBoilerplate

open Foundation
open Lifecycle (View Tracking successes results)

namespace Transport
variable {σ ℓ π J Context ρ : Type} (T : Transport σ ℓ π) (app : JobApp J Context)

/-- The envelopes whose handler came back with `Ok`, oldest first. -/
abbrev Done (Context : Type) := List (JobEnvelope Json × Context)

def recordDone (p : σ × List (Dispatch J × JobOrder Json)) (l : AppLabel J Context ℓ π)
    (done : Done Context) : Done Context :=
  match l with
  | .run task ctx =>
    match T.tasks p.1 task with
    | some ⟨envelope, none⟩ =>
      if (app.registry.call envelope ctx).isOk then done ++ [(envelope, ctx)] else done
    | _ => done
  | _ => done

def executing :
    Machine ((σ × List (Dispatch J × JobOrder Json)) × Done Context) (AppLabel J Context ℓ π) :=
  (T.system app).recording [] (T.recordDone app)

/-- The steps that are no handler's return. -/
def Quiet (l : ℓ) : Prop := T.internal l = true ∨ ∃ port order, l = T.enqueue port order

/-- A backend reports the returns of handlers, and makes none up. -/
structure Reports (worker : WorkerConfig) (v : View σ TaskId ρ) : Prop where
  silent : ∀ i, v.events (T.machine worker).init i = []
  counted : ∀ {s t task envelope result}, T.tasks s task = some ⟨envelope, none⟩ →
    (T.machine worker).step s (T.handlerReturns task result) = some t →
      ∀ i, successes (v.events t i) = successes (v.events s i) + if i = envelope.id ∧
        (Worker.outcome worker.registered envelope.jobType result).isOk = true then 1 else 0
  quiet : ∀ {s t l}, T.Quiet l → (T.machine worker).step s l = some t →
    ∀ i, successes (v.events t i) = successes (v.events s i)
  unanswered : ∀ task e r, T.tasks (T.machine worker).init task ≠ some ⟨e, some r⟩
  answered : ∀ {s t task envelope result}, T.tasks s task = some ⟨envelope, none⟩ →
    (T.machine worker).step s (T.handlerReturns task result) = some t →
      ∀ task' e r, T.tasks t task' = some ⟨e, some r⟩ → T.tasks s task' = some ⟨e, some r⟩ ∨
        e = envelope ∧ r = Worker.outcome worker.registered envelope.jobType result
  kept : ∀ {s t l}, T.Quiet l → (T.machine worker).step s l = some t →
    ∀ task e r, T.tasks t task = some ⟨e, some r⟩ → T.tasks s task = some ⟨e, some r⟩

section Steps
variable {T app} {s t : σ} {sent : List (Dispatch J × JobOrder Json)} {l : AppLabel J Context ℓ π}

/-- A step of the application is one of the backend, or a call that fails before it. -/
theorem step_cases (stepped : T.step app s l = some t) :
    ((∀ task ctx, l ≠ .run task ctx) ∧
      (t = s ∨ ∃ inner, T.Quiet inner ∧ (T.machine app.worker).step s inner = some t)) ∨
    ∃ task ctx envelope, l = .run task ctx ∧ T.tasks s task = some ⟨envelope, none⟩ ∧
      (T.machine app.worker).step s
        (T.handlerReturns task (app.registry.call envelope ctx)) = some t := by
  cases l with
  | call port stamp entry =>
    refine Or.inl ⟨by rintro _ _ ⟨⟩, ?_⟩
    cases ordered : app.order stamp entry with
    | error e =>
      simp only [step, ordered] at stepped
      exact Or.inl (Option.some.inj stepped).symm
    | ok order =>
      rw [step_call ordered] at stepped
      exact Or.inr ⟨_, Or.inr ⟨port, order, rfl⟩, stepped⟩
  | run task ctx =>
    simp only [step] at stepped
    split at stepped
    · rename_i envelope live
      exact Or.inr ⟨task, ctx, envelope, rfl, live, stepped⟩
    · cases stepped
  | internal l =>
    refine Or.inl ⟨by rintro _ _ ⟨⟩, ?_⟩
    simp only [step] at stepped
    split at stepped
    · rename_i inner
      exact Or.inr ⟨l, Or.inl inner, stepped⟩
    · cases stepped

theorem recordDone_of_other (other : ∀ task ctx, l ≠ .run task ctx) (done : Done Context) :
    T.recordDone app (s, sent) l done = done := by
  cases l with
  | run task ctx => exact absurd rfl (other task ctx)
  | call | internal => rfl

theorem recordDone_run {task : TaskId} {envelope : JobEnvelope Json} {ctx : Context}
    (live : T.tasks s task = some ⟨envelope, none⟩) (done : Done Context) :
    T.recordDone app (s, sent) (.run task ctx) done =
      if (app.registry.call envelope ctx).isOk then done ++ [(envelope, ctx)] else done := by
  simp only [recordDone, live]

theorem mem_record {e : Dispatch J × JobOrder Json} (listed : e ∈ sent) :
    e ∈ T.record app s l sent := by
  unfold record
  split
  · split
    · exact listed
    · split
      · exact List.mem_append_left _ listed
      · exact listed
  · exact listed

end Steps

namespace Law
variable {T app} {v : View σ TaskId ρ} (law : T.Law app.worker)

/-- What is known of the executions. -/
structure Executed (app : JobApp J Context) (v : View σ TaskId ρ)
    (p : σ × List (Dispatch J × JobOrder Json)) (done : Done Context) : Prop where
  counted : ∀ i, (done.map fun e => e.1.id).count i = successes (v.events p.1 i)
  carried : ∀ e ∈ done, ∃ entry order, (entry, order) ∈ p.2 ∧ order.Carries e.1
  succeeded : ∀ e ∈ done, app.registry.call e.1 e.2 = .ok ()

theorem isOk_iff {r : Except QueueError Unit} : r.isOk = true ↔ r = .ok () := by
  cases r with
  | ok => exact iff_of_true rfl rfl
  | error e => exact iff_of_false Bool.false_ne_true nofun

theorem executed_next (reports : T.Reports app.worker v) {s t : σ}
    {sent : List (Dispatch J × JobOrder Json)} {done : Done Context} {l : AppLabel J Context ℓ π}
    (consistent : law.Consistent s sent) (before : Executed app v (s, sent) done)
    (stepped : T.step app s l = some t) :
    Executed app v (t, T.record app s l sent) (T.recordDone app (s, sent) l done) := by
  obtain ⟨counted, carried, succeeded⟩ := before
  have carried' : ∀ e ∈ done, ∃ entry order, (entry, order) ∈ T.record app s l sent ∧
      order.Carries e.1 := by
    intro e listed
    obtain ⟨entry, order, sent, carries⟩ := carried e listed
    exact ⟨entry, order, mem_record sent, carries⟩
  obtain ⟨other, same | ⟨inner, quiet, moved⟩⟩ | ⟨task, ctx, envelope, rfl, live, moved⟩ :=
    step_cases stepped
  · subst same
    rw [recordDone_of_other other]
    exact ⟨counted, carried', succeeded⟩
  · rw [recordDone_of_other other]
    exact ⟨fun i => (counted i).trans (reports.quiet quiet moved i).symm, carried', succeeded⟩
  · have count := reports.counted live moved
    have outcome : Worker.outcome app.worker.registered envelope.jobType
        (app.registry.call envelope ctx) = app.registry.call envelope ctx :=
      JobRegistry.outcome_call ..
    rw [outcome] at count
    rw [recordDone_run live]
    split
    · rename_i good
      obtain ⟨_, listed, carries⟩ := law.carried consistent.keeps live
      obtain ⟨⟨entry, order⟩, handed, rfl⟩ := List.mem_map.mp listed
      have handed : (entry, order) ∈ T.record app s (.run task ctx) sent := mem_record handed
      refine ⟨fun i => ?_, fun e listed => ?_, fun e listed => ?_⟩
      · rw [List.map_append, List.count_append, counted i, count i]
        by_cases here : i = envelope.id
        · simp [here, good]
        · simp [here, Ne.symm here]
      · rcases List.mem_append.mp listed with old | new
        · exact carried' e old
        · obtain rfl := List.mem_singleton.mp new
          exact ⟨entry, order, handed, carries⟩
      · rcases List.mem_append.mp listed with old | new
        · exact succeeded e old
        · obtain rfl := List.mem_singleton.mp new
          exact isOk_iff.mp good
    · rename_i bad
      refine ⟨fun i => ?_, carried', succeeded⟩
      rw [count i, if_neg fun both => bad both.2, Nat.add_zero]
      exact counted i

theorem executed (reports : T.Reports app.worker v)
    {p : (σ × List (Dispatch J × JobOrder Json)) × Done Context}
    (reach : (T.executing app).Reachable p) :
    law.Consistent p.1.1 p.1.2 ∧ Executed app v p.1 p.2 := by
  have start : Executed app v (T.system app).init [] :=
    ⟨fun i => by rw [show v.events (T.system app).init.1 i = [] from reports.silent i]; rfl,
      nofun, nofun⟩
  refine And.imp_left law.consistent (Machine.ReachableWhere.recording
    (I := fun p done => Executed app v p done) start ?_ reach)
  rintro ⟨s, sent⟩ done l ⟨t, sent'⟩ reached executed _ stepped
  obtain ⟨moved, rfl⟩ := system_step.mp stepped
  exact law.executed_next reports (law.consistent reached) executed moved

end Law

/-- The result of a task is what the registry made of its envelope. -/
theorem Reports.called {T : Transport σ ℓ π} {app : JobApp J Context} {v : View σ TaskId ρ}
    (reports : T.Reports app.worker v) {p : σ × List (Dispatch J × JobOrder Json)}
    (reach : (T.system app).Reachable p) {task : TaskId} {e : JobEnvelope Json}
    {r : Except QueueError Unit} (live : T.tasks p.1 task = some ⟨e, some r⟩) :
    ∃ ctx, r = app.registry.call e ctx := by
  refine Machine.ReachableWhere.invariant (I := fun p => ∀ task e r,
    T.tasks p.1 task = some ⟨e, some r⟩ → ∃ ctx, r = app.registry.call e ctx)
    (fun task e r live => absurd live (reports.unanswered task e r)) ?_ reach task e r live
  rintro ⟨s, sent⟩ l ⟨t, sent'⟩ before _ stepped task e r live
  obtain ⟨_, same | ⟨inner, quiet, moved⟩⟩ | ⟨task', ctx, envelope, rfl, idle, moved⟩ :=
    step_cases (system_step.mp stepped).1
  · exact before task e r (same ▸ live)
  · exact before task e r (reports.kept quiet moved task e r live)
  · rcases reports.answered idle moved task e r live with old | ⟨rfl, rfl⟩
    · exact before task e r old
    · exact ⟨ctx, JobRegistry.outcome_call ..⟩

end Transport

/-- A handler's return counts once, if it was a good one. -/
theorem successes_returned (history : List (Uuid × Lifecycle.Event)) (i j : Uuid) (ok : Bool) :
    successes (Lifecycle.eventsOf (history ++ [(i, .returned ok)]) j) =
      successes (Lifecycle.eventsOf history j) + if j = i ∧ ok = true then 1 else 0 := by
  rw [Lifecycle.successes_eventsOf]
  by_cases here : j = i
  · cases ok with
    | true => simp only [here, and_self, if_true, Nat.add_left_cancel_iff]; rfl
    | false => simp only [here, Bool.false_eq_true, and_false, if_false, if_true]; rfl
  · simp only [here, false_and, if_false]

theorem successes_started (history : List (Uuid × Lifecycle.Event)) (i j : Uuid) (n : Nat) :
    successes (Lifecycle.eventsOf (history ++ [(i, .started n)]) j) =
      successes (Lifecycle.eventsOf history j) := by
  rw [Lifecycle.successes_eventsOf]
  split <;> rfl

theorem of_update_task {tasks : TaskId → Option (JobTask Json)} {task task' : TaskId}
    {new : Option (JobTask Json)} {job : JobTask Json}
    (entry : Function.update tasks task new task' = some job) :
    tasks task' = some job ∨ new = some job := by
  rw [Function.update_apply] at entry
  split at entry
  · exact Or.inr entry
  · exact Or.inl entry

theorem live_unique {tasks : Option (JobTask Json)} {e e' : JobEnvelope Json}
    (live : tasks = some ⟨e, none⟩) (live' : tasks = some ⟨e', none⟩) : e = e' := by
  have same := Option.some.inj (live.symm.trans live')
  injection same

namespace DatabaseQueue

theorem reports (codec : Codec Json) (worker : WorkerConfig) :
    (transport codec).Reports worker view where
  silent _ := rfl
  counted := by
    intro s t task envelope result live stepped i
    have stepped : step codec worker s (.handlerReturns task result) = some t := stepped
    cases step_moves stepped with
    | handled live' _ decided =>
      obtain rfl := live_unique live live'
      subst decided
      exact successes_returned ..
  quiet := by
    intro s t l quiet stepped i
    have stepped : step codec worker s l = some t := stepped
    cases step_moves stepped with
    | handled =>
      rcases quiet with internal | ⟨_, _, same⟩
      · cases internal
      · cases same
    | returned => exact successes_started ..
    | _ => rfl
  unanswered := nofun
  answered := by
    intro s t task envelope result live stepped task' e r answered
    have stepped : step codec worker s (.handlerReturns task result) = some t := stepped
    cases step_moves stepped with
    | handled live' _ decided =>
      obtain rfl := live_unique live live'
      subst decided
      rcases of_update_task answered with old | new
      · exact Or.inl old
      · cases new
        exact Or.inr ⟨rfl, rfl⟩
  kept := by
    intro s t l quiet stepped task e r answered
    have stepped : step codec worker s l = some t := stepped
    cases step_moves stepped with
    | handled =>
      rcases quiet with internal | ⟨_, _, same⟩
      · cases internal
      · cases same
    | returned =>
      rcases of_update_task answered with old | new
      · exact old
      · cases new
    | acknowledged | failed | vanished => exact (of_drop answered).2
    | crashed process =>
      dsimp only [transport] at answered ⊢
      split at answered
      · cases answered
      · exact answered
    | enqueued | misread | rolledBack => exact answered

end DatabaseQueue

namespace ChannelQueue

theorem reports (worker : WorkerConfig) (capacity : Nat) :
    (transport capacity).Reports worker view where
  silent _ := rfl
  counted := by
    intro s t task envelope result live stepped i
    have stepped : step worker s (.handlerReturns task result) = some t := stepped
    cases step_moves stepped with
    | returned live' _ decided =>
      obtain rfl := live_unique live live'
      subst decided
      exact successes_returned ..
  quiet := by
    intro s t l quiet stepped i
    have stepped : step worker s l = some t := stepped
    cases step_moves stepped with
    | returned =>
      rcases quiet with internal | ⟨_, _, same⟩
      · cases internal
      · cases same
    | dequeued => exact successes_started ..
    | _ => rfl
  unanswered := nofun
  answered := by
    intro s t task envelope result live stepped task' e r answered
    have stepped : step worker s (.handlerReturns task result) = some t := stepped
    cases step_moves stepped with
    | returned live' _ decided =>
      obtain rfl := live_unique live live'
      subst decided
      rcases of_update_task answered with old | new
      · exact Or.inl old
      · cases new
        exact Or.inr ⟨rfl, rfl⟩
  kept := by
    intro s t l quiet stepped task e r answered
    have stepped : step worker s l = some t := stepped
    cases step_moves stepped with
    | returned =>
      rcases quiet with internal | ⟨_, _, same⟩
      · cases internal
      · cases same
    | dequeued | acknowledged | resending | failed | vanished =>
      rcases of_update_task answered with old | new
      · exact old
      · cases new
    | enqueued | sent | cancelled => exact answered

end ChannelQueue
end ApiBoilerplate
