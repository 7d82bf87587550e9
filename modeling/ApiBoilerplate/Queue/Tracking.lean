import ApiBoilerplate.Queue.Lifecycle

/-!
# Backends tracked by job accounts

An observer's view of a backend, the two laws stated over it, and the tracking
relation that carries them: every step of the machine is a step of the accounts
of its jobs. The laws are proved here once for all tracked backends.
-/

namespace ApiBoilerplate
namespace Lifecycle

open Foundation

/-- What can be seen of a job from outside. `record` is what the backend keeps
about it, `budget` the `max_attempts` it was enqueued with. -/
structure View (σ Task ρ : Type) where
  holds : σ → Task → Uuid → Prop
  status : σ → Uuid → JobStatus → Prop
  record : σ → Uuid → ρ
  events : σ → Uuid → List Event
  budget : σ → Uuid → Option Nat
  counter : σ → Uuid → Int → Prop

section Laws
variable {σ ℓ Task ρ : Type}

/-- Exclusive execution and a lawful status graph, seen from the state `s`. -/
structure SafeFrom (M : Machine σ ℓ) (v : View σ Task ρ) (s : σ) : Prop where
  exclusive : ∀ i t t', v.holds s t i → v.holds s t' i → t = t'
  running : ∀ i t, v.holds s t i → v.status s i .running
  single : ∀ i x y, v.status s i x → v.status s i y → x = y
  opened : ∀ l s' i y, M.step s l = some s' → (∀ x, ¬ v.status s i x) → v.status s' i y →
    y = .pending ∧ v.budget s i = none
  edges : ∀ l s' i x y, M.step s l = some s' → v.status s i x → v.status s' i y →
    x = y ∨ StatusEdge x y
  final : ∀ i x, x = .completed ∨ x = .failed → v.status s i x →
    ∀ ls s', M.replay (fun _ _ => true) s ls = some s' →
      v.status s' i x ∧ v.record s' i = v.record s i ∧
        executions (v.events s' i) = executions (v.events s i) ∧ ∀ t, ¬ v.holds s' t i

def SafeExecution (M : Machine σ ℓ) (v : View σ Task ρ) : Prop :=
  ∀ s, M.Reachable s → SafeFrom M v s

/-- The index of the first successful outcome among the first `max 1 m`. -/
def firstSuccess (outcomes : Nat → Bool) (m : Nat) : Option Nat :=
  (List.range' 1 (max 1 m)).find? outcomes

/-- The number of the last attempt the outcomes lead to. -/
def lastAttempt (outcomes : Nat → Bool) (m : Nat) : Nat :=
  (firstSuccess outcomes m).getD (max 1 m)

/-- The law of attempts for one job with `max_attempts = m` in a state. -/
structure AttemptLaw (v : View σ Task ρ) (outcomes : Nat → Bool) (m : Nat) (s : σ)
    (i : Uuid) : Prop where
  gapless : ∃ j ≤ lastAttempt outcomes m, executions (v.events s i) = List.range' 1 j ∧
    (v.status s i .completed ∨ v.status s i .failed → j = lastAttempt outcomes m)
  succeeded : v.status s i .completed → firstSuccess outcomes m ≠ none
  exhausted : v.status s i .failed → firstSuccess outcomes m = none
  alive : ¬ v.status s i .completed → ¬ v.status s i .failed →
    v.status s i .pending ∨ v.status s i .retrying ∨ ∃ t, v.holds s t i
  counted : ∀ a, v.counter s i a → 0 ≤ a ∧ a ≤ max 1 m
  room : v.status s i .pending ∨ v.status s i .retrying →
    ∀ a, v.counter s i a → a + 1 ≤ max 1 m

end Laws

/-- The results are the outcomes from the first one on. -/
def Follows (outcomes : Nat → Bool) (results : List Bool) : Prop :=
  results = (List.range' 1 results.length).map outcomes

theorem Follows.snoc {outcomes : Nat → Bool} {results : List Bool}
    (follows : Follows outcomes results) {r : Bool}
    (next : outcomes (results.length + 1) = r) : Follows outcomes (results ++ [r]) := by
  have longer : (results ++ [r]).length = results.length + 1 := List.length_append
  rw [Follows, longer, ← range'_snoc, List.map_append, ← follows]
  rw [List.map_singleton, next]

theorem Follows.eq_of_append {outcomes : Nat → Bool} {before after : List Bool} {r : Bool}
    (follows : Follows outcomes (before ++ r :: after)) : outcomes (before.length + 1) = r := by
  have at_ := congrArg (fun l => l[before.length]?) follows
  have bound : before.length < (before ++ r :: after).length := by simp
  simp only [List.getElem?_append_right (Nat.le_refl _), Nat.sub_self, List.getElem?_cons_zero,
    List.getElem?_map, List.getElem?_range' bound] at at_
  rw [Nat.add_comm, ← Nat.one_mul before.length]
  exact (Option.some.inj at_).symm

/-- A run of failures pins the outcomes it followed. -/
theorem Follows.failures {outcomes : Nat → Bool} {n : Nat} {after : List Bool}
    (follows : Follows outcomes (List.replicate n false ++ after)) {j : Nat}
    (hj : 1 ≤ j) (within : j ≤ n) : outcomes j = false := by
  obtain ⟨a, b, rfl, rfl⟩ : ∃ a b, n = a + (1 + b) ∧ j = a + 1 := ⟨j - 1, n - j, by omega, by omega⟩
  rw [List.replicate_add, Nat.add_comm 1 b, List.replicate_succ, List.append_assoc,
    List.cons_append] at follows
  have found := follows.eq_of_append
  rwa [List.length_replicate] at found

theorem Follows.allFailures {outcomes : Nat → Bool} {n : Nat}
    (follows : Follows outcomes (List.replicate n false)) {j : Nat} (hj : 1 ≤ j)
    (within : j ≤ n) : outcomes j = false := by
  rw [← List.append_nil (List.replicate n false)] at follows
  exact follows.failures hj within

section Search
variable {outcomes : Nat → Bool} {m n : Nat}

theorem firstSuccess_eq_some (within : n ≤ max 1 m) (positive : 1 ≤ n)
    (failures : ∀ j, 1 ≤ j → j < n → outcomes j = false) (success : outcomes n = true) :
    firstSuccess outcomes m = some n := by
  rw [firstSuccess, List.find?_range'_eq_some]
  refine ⟨success, ?_, fun j low high => by simp [failures j low high]⟩
  rw [List.mem_range'_1]
  omega

theorem firstSuccess_eq_none
    (failures : ∀ j, 1 ≤ j → j ≤ max 1 m → outcomes j = false) :
    firstSuccess outcomes m = none := by
  rw [firstSuccess, List.find?_eq_none]
  intro j hj
  obtain ⟨low, high⟩ := List.mem_range'_1.mp hj
  simp [failures j low (by omega)]

/-- An attempt that only failures precede is not beyond the last one. -/
theorem le_lastAttempt (within : n ≤ max 1 m)
    (failures : ∀ j, 1 ≤ j → j < n → outcomes j = false) : n ≤ lastAttempt outcomes m := by
  rw [lastAttempt]
  cases found : firstSuccess outcomes m with
  | none => exact within
  | some k =>
    have success := List.find?_some found
    have listed := List.mem_range'_1.mp (List.mem_of_find?_eq_some found)
    by_contra beyond
    have failed := failures k listed.1 (by simpa using beyond)
    rw [success] at failed
    cases failed

end Search

section Tracked
variable {σ ℓ Place Task ρ : Type}

abbrev Ledger (Place Task : Type) := Uuid → Option (Job Place Task)

/-- Every account is sound for the events recorded of its job. -/
def SoundLedger (v : View σ Task ρ) (s : σ) (L : Ledger Place Task) : Prop :=
  ∀ i, match L i with
    | none => v.events s i = []
    | some job => Sound job.maxAttempts job.stage (v.events s i)

/-- `relates` ties the states of `M` to job accounts, step by step. A step
outside `disturbs` makes only regular moves. -/
structure Tracking (M : Machine σ ℓ) (v : View σ Task ρ) (disturbs : σ → ℓ → Prop)
    (relates : σ → Ledger Place Task → Prop) : Prop where
  start : relates M.init (fun _ => none)
  silent : ∀ i, v.events M.init i = []
  next : ∀ {s L l s'}, relates s L → SoundLedger v s L → M.step s l = some s' →
    ∃ L', relates s' L' ∧ ∀ i,
    (L' i = L i ∧ v.events s' i = v.events s i ∧ v.record s' i = v.record s i) ∨
    ∃ new, Advance (disturbs s l) (L i) (L' i) new ∧ v.events s' i = v.events s i ++ new
  holds : ∀ {s L}, relates s L → ∀ t i, v.holds s t i ↔ ∃ m n r, L i = some ⟨m, .held t n r⟩
  status : ∀ {s L}, relates s L → ∀ i x,
    v.status s i x ↔ ∃ m stage, L i = some ⟨m, stage⟩ ∧ stage.status = some x
  budget : ∀ {s L}, relates s L → ∀ i, v.budget s i = (L i).map Job.maxAttempts
  counter : ∀ {s L}, relates s L → ∀ i a, v.counter s i a →
    ∃ m stage, L i = some ⟨m, stage⟩ ∧ a = (stage.attempts : Int)

variable {M : Machine σ ℓ} {v : View σ Task ρ} {disturbs : σ → ℓ → Prop}
  {relates : σ → Ledger Place Task → Prop}

theorem SoundLedger.at {s : σ} {L : Ledger Place Task} (sound : SoundLedger v s L) {i : Uuid}
    {m : Nat} {stage : Stage Place Task} (account : L i = some ⟨m, stage⟩) :
    Sound m stage (v.events s i) := by
  have here := sound i
  rwa [account] at here

theorem SoundLedger.next {s s' : σ} {L L' : Ledger Place Task} {R : Prop}
    (sound : SoundLedger v s L)
    (step : ∀ i, (L' i = L i ∧ v.events s' i = v.events s i ∧ v.record s' i = v.record s i) ∨
      ∃ new, Advance R (L i) (L' i) new ∧ v.events s' i = v.events s i ++ new) :
    SoundLedger v s' L' := by
  intro i
  have before := sound i
  rcases step i with ⟨same, events, _⟩ | ⟨new, advance, events⟩
  · rw [same, events]
    exact before
  · rw [events]
    generalize L i = a at advance before
    generalize L' i = b at advance
    cases advance with
    | opened =>
      change v.events s i = [] at before
      rw [before]
      exact sound_opened _ _
    | moved move => exact move.sound before

theorem Tracking.reachable (tracking : Tracking M v disturbs relates) {s : σ}
    (reach : M.Reachable s) : ∃ L, relates s L ∧ SoundLedger v s L := by
  refine Machine.ReachableWhere.invariant (I := fun s => ∃ L, relates s L ∧ SoundLedger v s L)
    ⟨_, tracking.start, tracking.silent⟩ ?_ reach
  rintro s l s' ⟨L, related, sound⟩ _ step
  obtain ⟨L', related', moves⟩ := tracking.next related sound step
  exact ⟨L', related', sound.next moves⟩

/-- A terminal account is never touched again. -/
theorem Tracking.terminal_kept (tracking : Tracking M v disturbs relates) {s s' : σ}
    {L : Ledger Place Task} (related : relates s L) (sound : SoundLedger v s L) {i : Uuid}
    {m : Nat} {stage : Stage Place Task} (account : L i = some ⟨m, stage⟩)
    (terminal : stage.Terminal)
    (ls : List ℓ) (run : M.replay (fun _ _ => true) s ls = some s') :
    ∃ L', relates s' L' ∧ L' i = L i ∧ v.events s' i = v.events s i ∧
      v.record s' i = v.record s i := by
  induction ls generalizing s L with
  | nil =>
    obtain rfl := Option.some.inj run
    exact ⟨L, related, rfl, rfl, rfl⟩
  | cons l ls ih =>
    obtain ⟨r, step, rest⟩ := Option.bind_eq_some_iff.mp run
    obtain ⟨K, related', moves⟩ := tracking.next related sound step
    rcases moves i with ⟨same, events, record⟩ | ⟨new, advance, _⟩
    · obtain ⟨L', last, account', events', record'⟩ :=
        ih related' (sound.next moves) (same.trans account) rest
      exact ⟨L', last, account'.trans same, events'.trans events, record'.trans record⟩
    · rw [account] at advance
      generalize K i = b at advance
      cases advance with
      | moved move => exact absurd terminal move.not_terminal

theorem terminal_of_status {stage : Stage Place Task} {x : JobStatus}
    (status : stage.status = some x) (final : x = .completed ∨ x = .failed) :
    stage.Terminal := by
  rcases final with rfl | rfl
  · cases stage with
    | waiting p n => cases n <;> cases status
    | completed n => trivial
    | _ => cases status
  · cases stage with
    | waiting p n => cases n <;> cases status
    | failed n => trivial
    | _ => cases status

section Accounts
variable {s : σ} {L : Ledger Place Task} {i : Uuid} {m : Nat} {stage : Stage Place Task}

/-- The status of a job is that of the stage of its account. -/
theorem Tracking.status_at (tracking : Tracking M v disturbs relates) (related : relates s L)
    (account : L i = some ⟨m, stage⟩) (x : JobStatus) :
    v.status s i x ↔ stage.status = some x := by
  rw [tracking.status related i x]
  constructor
  · rintro ⟨_, _, account', same⟩
    rw [account] at account'
    cases account'
    exact same
  · exact fun same => ⟨m, stage, account, same⟩

theorem Tracking.counter_at (tracking : Tracking M v disturbs relates) (related : relates s L)
    (account : L i = some ⟨m, stage⟩) {a : Int} (counter : v.counter s i a) :
    a = (stage.attempts : Int) := by
  obtain ⟨_, _, account', same⟩ := tracking.counter related i a counter
  rw [account] at account'
  cases account'
  exact same

end Accounts

theorem Tracking.safe (tracking : Tracking M v disturbs relates) : SafeExecution M v := by
  intro s reach
  obtain ⟨L, related, sound⟩ := tracking.reachable reach
  refine ⟨?_, ?_, ?_, ?_, ?_, ?_⟩
  · intro i t t' first second
    obtain ⟨m, n, r, account⟩ := (tracking.holds related t i).mp first
    obtain ⟨m', n', r', account'⟩ := (tracking.holds related t' i).mp second
    rw [account] at account'
    cases account'
    rfl
  · intro i t held
    obtain ⟨m, n, r, account⟩ := (tracking.holds related t i).mp held
    exact (tracking.status_at related account .running).mpr rfl
  · intro i x y hx hy
    obtain ⟨m, stage, account, status⟩ := (tracking.status related i x).mp hx
    have status' := (tracking.status_at related account y).mp hy
    exact Option.some.inj (status.symm.trans status')
  · intro l s' i y step absent status
    obtain ⟨L', related', moves⟩ := tracking.next related sound step
    obtain ⟨m, stage, account, same⟩ := (tracking.status related' i y).mp status
    rcases moves i with ⟨kept, _⟩ | ⟨new, advance, _⟩
    · exact absurd ((tracking.status related i y).mpr ⟨m, stage, kept ▸ account, same⟩) (absent y)
    · rw [account] at advance
      generalize found : L i = a at advance
      cases advance with
      | opened =>
        rw [tracking.budget related, found]
        cases same
        exact ⟨rfl, rfl⟩
      | @moved _ before _ _ move =>
        cases before with
        | lost n => cases move
        | waiting p n =>
          cases n with
          | zero =>
            exact absurd ((tracking.status_at related found .pending).mpr rfl) (absent _)
          | succ n =>
            exact absurd ((tracking.status_at related found .retrying).mpr rfl) (absent _)
        | held t n r =>
          exact absurd ((tracking.status_at related found .running).mpr rfl) (absent _)
        | stranded n => cases move
        | completed n => cases move
        | failed n => cases move
  · intro l s' i x y step hx hy
    obtain ⟨L', related', moves⟩ := tracking.next related sound step
    obtain ⟨m, stage, account, before⟩ := (tracking.status related i x).mp hx
    obtain ⟨m', stage', account', after⟩ := (tracking.status related' i y).mp hy
    rcases moves i with ⟨kept, _⟩ | ⟨new, advance, _⟩
    · rw [kept, account] at account'
      cases account'
      exact Or.inl (Option.some.inj (before.symm.trans after))
    · rw [account, account'] at advance
      cases advance with
      | moved move => exact move.status (sound.at account) before after
  · intro i x final hx ls s' run
    obtain ⟨m, stage, account, status⟩ := (tracking.status related i x).mp hx
    have terminal := terminal_of_status status final
    obtain ⟨L', related', same, events, record⟩ :=
      tracking.terminal_kept related sound account terminal ls run
    refine ⟨(tracking.status_at related' (same.trans account) x).mpr status, record,
      by rw [events], ?_⟩
    intro t held
    obtain ⟨m', n, r, account'⟩ := (tracking.holds related' t i).mp held
    rw [same, account] at account'
    cases account'
    exact terminal

theorem Move.regular {m : Nat} {a b : Stage Place Task} {new : List Event}
    (move : Move False m a b new) : ¬ b.Irregular := by
  cases move with
  | misread h => exact h.elim
  | vanish h => exact h.elim
  | drop h => exact h.elim
  | _ => exact fun h => h

/-- No job is in an irregular stage. -/
def RegularLedger (L : Ledger Place Task) : Prop :=
  ∀ i m stage, L i = some ⟨m, stage⟩ → ¬ stage.Irregular

theorem Tracking.regular (tracking : Tracking M v disturbs relates) {C : σ → ℓ → Prop}
    (calm : ∀ s l, C s l → ¬ disturbs s l) {s : σ} (reach : M.ReachableWhere C s) :
    ∃ L, relates s L ∧ SoundLedger v s L ∧ RegularLedger L := by
  refine Machine.ReachableWhere.invariant
    (I := fun s => ∃ L, relates s L ∧ SoundLedger v s L ∧ RegularLedger L)
    ⟨_, tracking.start, tracking.silent, by simp [RegularLedger]⟩ ?_ reach
  rintro s l s' ⟨L, related, sound, regular⟩ cond step
  obtain ⟨L', related', moves⟩ := tracking.next related sound step
  have quietly : disturbs s l ↔ False := iff_false_intro (calm s l cond)
  refine ⟨L', related', sound.next moves, fun i m stage account => ?_⟩
  rcases moves i with ⟨same, _⟩ | ⟨new, advance, _⟩
  · exact regular i m stage (same ▸ account)
  · rw [quietly, account] at advance
    generalize L i = a at advance
    cases advance with
    | opened => exact fun h => h
    | moved move => exact move.regular

/-- When every report agrees with an outcome stream, so do the recorded results. -/
theorem Tracking.follows (tracking : Tracking M v disturbs relates)
    {C : σ → ℓ → Prop} {outcomes : Uuid → Nat → Bool}
    (reported : ∀ s l s' i r, C s l → M.step s l = some s' →
      v.events s' i = v.events s i ++ [.returned r] →
        outcomes i (executions (v.events s i)).length = r)
    {s : σ} (reach : M.ReachableWhere C s) :
    ∀ i, Follows (outcomes i) (results (v.events s i)) := by
  refine (Machine.ReachableWhere.invariant
    (I := fun s => (∃ L, relates s L ∧ SoundLedger v s L) ∧
      ∀ i, Follows (outcomes i) (results (v.events s i))) ?_ ?_ reach).2
  · refine ⟨⟨_, tracking.start, tracking.silent⟩, fun i => ?_⟩
    rw [tracking.silent]
    rfl
  rintro s l s' ⟨⟨L, related, sound⟩, follows⟩ cond step
  obtain ⟨L', related', moves⟩ := tracking.next related sound step
  refine ⟨⟨L', related', sound.next moves⟩, fun i => ?_⟩
  rcases moves i with ⟨_, events, _⟩ | ⟨new, advance, events⟩
  · rw [events]
    exact follows i
  have returned : results new = [] ∨ ∃ m t n r, new = [.returned r] ∧
      L i = some ⟨m, .held t n none⟩ := by
    generalize L i = a at advance
    generalize L' i = b at advance
    cases advance with
    | opened => exact Or.inl rfl
    | moved move =>
      cases move with
      | finish => exact Or.inr ⟨_, _, _, _, rfl, rfl⟩
      | _ => exact Or.inl rfl
  rcases returned with quiet | ⟨m, t, n, r, rfl, account⟩
  · rw [events, results_append, quiet, List.append_nil]
    exact follows i
  · have here := sound.at account
    have positive := here.positive _ _ _ rfl
    have started := here.executions (fun h => h)
    have earlier := here.results (fun h => h)
    have outcome := reported s l s' i r cond step events
    rw [started, List.length_range'] at outcome
    rw [events, results_append]
    apply (follows i).snoc
    rw [earlier]
    change outcomes i ((List.replicate (n - 1) false).length + 1) = r
    rw [List.length_replicate, Nat.sub_add_cancel positive]
    exact outcome

/-- The attempt law, for a job whose account is regular. -/
theorem Tracking.law (tracking : Tracking M v disturbs relates)
    {outcomes : Uuid → Nat → Bool} {s : σ} {L : Ledger Place Task} (related : relates s L)
    (soundL : SoundLedger v s L) (regularL : RegularLedger L)
    (followsAll : ∀ i, Follows (outcomes i) (results (v.events s i))) {i : Uuid} {m : Nat}
    (budget : v.budget s i = some m) : AttemptLaw v (outcomes i) m s i := by
  rw [tracking.budget related] at budget
  obtain ⟨⟨m', stage⟩, account, rfl⟩ := Option.map_eq_some_iff.mp budget
  have regular := regularL i _ stage account
  have sound := soundL.at account
  have started := sound.executions regular
  have follows := followsAll i
  rw [sound.results regular] at follows
  have within := sound.within
  have seen : ∀ x, v.status s i x → stage.status = some x :=
    fun x => (tracking.status_at related account x).mp
  have shown : ∀ x, stage.status = some x → v.status s i x :=
    fun x => (tracking.status_at related account x).mpr
  have counted : ∀ a, v.counter s i a → a = (stage.attempts : Int) :=
    fun _ => tracking.counter_at related account
  have bounded : ∀ a, v.counter s i a → 0 ≤ a ∧ a ≤ ((max 1 m' : Nat) : Int) := by
    intro a counter
    have same := counted a counter
    omega
  cases stage with
  | waiting p n =>
    have earlier : ∀ j, 1 ≤ j → j ≤ n → outcomes i j = false :=
      fun j low high => Follows.allFailures follows low high
    have unfinished : ∀ x, v.status s i x → x ≠ .completed ∧ x ≠ .failed := by
      intro x status
      have same := seen x status
      cases n <;> cases same <;> simp
    refine ⟨⟨n, le_lastAttempt within (fun j low high => earlier j low (by omega)), started, ?_⟩,
      ?_, ?_, fun _ _ => ?_, bounded, ?_⟩
    · rintro (status | status)
      · exact absurd rfl (unfinished _ status).1
      · exact absurd rfl (unfinished _ status).2
    · exact fun status => absurd rfl (unfinished _ status).1
    · exact fun status => absurd rfl (unfinished _ status).2
    · cases n with
      | zero => exact Or.inl (shown _ rfl)
      | succ n => exact Or.inr (Or.inl (shown _ rfl))
    · intro _ a counter
      have same : a = (n : Int) := counted a counter
      have room : n = 0 ∨ n < m' := sound.waiting p n rfl
      change a + 1 ≤ ((max 1 m' : Nat) : Int)
      omega
  | held t n r =>
    have unfinished : ∀ x, v.status s i x → x = .running :=
      fun x status => (Option.some.inj (seen x status)).symm
    have earlier : ∀ j, 1 ≤ j → j < n → outcomes i j = false := by
      intro j low high
      cases r with
      | none => exact Follows.allFailures (n := n - 1) follows low (by omega)
      | some ok => exact Follows.failures (n := n - 1) follows low (by omega)
    refine ⟨⟨n, le_lastAttempt within earlier, started, ?_⟩, ?_, ?_,
      fun _ _ => Or.inr (Or.inr ⟨t, (tracking.holds related t i).mpr ⟨_, n, r, account⟩⟩),
      bounded, ?_⟩
    · rintro (status | status) <;> cases unfinished _ status
    · intro status
      cases unfinished _ status
    · intro status
      cases unfinished _ status
    · rintro (status | status) <;> cases unfinished _ status
  | completed n =>
    have positive := sound.begun n rfl
    have earlier : ∀ j, 1 ≤ j → j < n → outcomes i j = false :=
      fun j low high => Follows.failures (n := n - 1) follows low (by omega)
    have success : outcomes i n = true := by
      have whole : Follows (outcomes i) (List.replicate (n - 1) false ++ [true]) := follows
      have last := whole.eq_of_append
      rwa [List.length_replicate, Nat.sub_add_cancel positive] at last
    have first := firstSuccess_eq_some within positive earlier success
    have last : lastAttempt (outcomes i) m' = n := by
      rw [lastAttempt, first]
      rfl
    have done : v.status s i .completed := shown _ rfl
    refine ⟨⟨n, le_of_eq last.symm, started, fun _ => last.symm⟩, ?_, ?_,
      fun h => absurd done h, bounded, ?_⟩
    · intro _
      rw [first]
      exact Option.some_ne_none n
    · intro status
      cases seen _ status
    · rintro (status | status) <;> cases seen _ status
  | failed n =>
    have spent := sound.spent n rfl
    have earlier : ∀ j, 1 ≤ j → j ≤ max 1 m' → outcomes i j = false :=
      fun j low high => Follows.allFailures follows low (by omega)
    have first := firstSuccess_eq_none earlier
    have last : lastAttempt (outcomes i) m' = n := by
      rw [lastAttempt, first, spent, Option.getD_none]
    have done : v.status s i .failed := shown _ rfl
    refine ⟨⟨n, le_of_eq last.symm, started, fun _ => last.symm⟩, ?_, fun _ => first,
      fun _ h => absurd done h, bounded, ?_⟩
    · intro status
      cases seen _ status
    · rintro (status | status) <;> cases seen _ status
  | stranded n => exact absurd trivial regular
  | lost n => exact absurd trivial regular

end Tracked
end Lifecycle
end ApiBoilerplate
