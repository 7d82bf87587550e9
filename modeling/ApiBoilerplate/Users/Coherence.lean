import ApiBoilerplate.Users.Service
import Mathlib.Data.List.Basic

/-!
# What a lookup may return after an update

A history numbers the states of the row. Once an update or a delete has
returned, every later lookup has to answer from its state of the row or a newer
one. It does if no lookup inserts a row into the cache that an update or a
delete has superseded and already taken out.
-/

namespace ApiBoilerplate.Users

open Foundation Http

structure History where
  /-- The states of the row, oldest first. -/
  rows : List (Option Model)
  /-- The number of the state that a lookup has read. -/
  read : Nat → Nat
  /-- The number of the state that an update or a delete has written. -/
  wrote : Nat → Nat
  /-- The states whose writers have invalidated the cache. -/
  invalidated : List Nat
  /-- The states whose writers have returned successfully. -/
  returned : List Nat
  /-- What had returned when a lookup started. -/
  since : Nat → List Nat

namespace History

def start (row : Option Model) : History where
  rows := [row]
  read := fun _ => 0
  wrote := fun _ => 0
  invalidated := []
  returned := []
  since := fun _ => []

def push (h : History) (row : Option Model) : History := { h with rows := h.rows ++ [row] }

def record (s : Service) (l : Label) (h : History) : History :=
  match l with
  | .start call .findById => { h with since := Function.update h.since call h.returned }
  | .start _ (.update _) | .start _ .delete => h
  | .advance call now =>
    match s.calls call with
    | .reading => { h with read := Function.update h.read call (h.rows.length - 1) }
    | .writing _ | .deleting =>
      match s.written call now with
      | some row => { h.push row with wrote := Function.update h.wrote call h.rows.length }
      | none => h
    | .invalidating _ | .forgetting => { h with invalidated := h.invalidated ++ [h.wrote call] }
    | .finishing _ => { h with returned := h.returned ++ [h.wrote call] }
    | _ => h
  | .lostReply call now _ =>
    match s.written call now with
    | some row => h.push row
    | none => h
  | .create model => h.push (some model)
  | .databaseError _ _ | .cancel _ | .expire => h

end History

def traced (codec : UserCodec) (id : Uuid) (row : Option Model) :
    Machine (Service × History) Label :=
  (Service.machine codec id row).recording (.start row) History.record

/-- No lookup puts a row into the cache that was superseded by an update or a
delete which has already invalidated the entry. -/
def InsertsFresh (p : Service × History) : Label → Prop
  | .advance call _ =>
    match p.1.calls call with
    | .caching _ => ∀ w ∈ p.2.invalidated, w ≤ p.2.read call
    | _ => True
  | _ => True

instance (p : Service × History) (l : Label) : Decidable (InsertsFresh p l) :=
  match l with
  | .advance call _ =>
    match h : p.1.calls call with
    | .caching _ =>
      decidable_of_iff (∀ w ∈ p.2.invalidated, w ≤ p.2.read call) (by simp [InsertsFresh, h])
    | .idle | .finding | .reading | .loading _ | .writing _ | .reloading | .invalidating _
    | .deleting | .forgetting | .finishing _ | .returned _ | .dropped =>
      .isTrue (by simp [InsertsFresh, h])
  | .start .. | .databaseError .. | .lostReply .. | .cancel _ | .expire | .create _ =>
    .isTrue trivial

/-- The answer comes from the state `w` of the row, or from a newer one. -/
def AtLeastAsNew (h : History) (w : Nat) : Except AppError UserResponse → Prop
  | .ok user => ∃ v model, w ≤ v ∧ h.rows[v]? = some (some model) ∧ user = model.response
  | .error (.notFound _) => ∃ v, w ≤ v ∧ h.rows[v]? = some none
  | .error _ => True

/-- What a lookup returned is at least as new as everything that had been
written by the calls which returned before it started, and no user once one of
them had deleted the row. -/
structure CacheCoherent (p : Service × History) : Prop where
  newer : ∀ call result, p.1.calls call = .returned (.user result) →
    ∀ w ∈ p.2.since call, AtLeastAsNew p.2 w result
  gone : ∀ call user, p.1.calls call = .returned (.user (.ok user)) →
    ∀ w ∈ p.2.since call, p.2.rows[w]? ≠ some none

/-- A row once deleted stays deleted, for its id is not given again. -/
structure Timeline (row : Option Model) (issued : Bool) (rows : List (Option Model)) : Prop where
  current : rows.getLast? = some row
  unissued : issued = false → ∀ r ∈ rows, r = none
  deleted : ∀ (i j k : Nat) model r, i ≤ j → j ≤ k → rows[i]? = some (some model) →
    rows[j]? = some none → rows[k]? = some r → r = none

namespace Timeline
variable {row : Option Model} {issued : Bool} {rows : List (Option Model)}

theorem nonempty (timeline : Timeline row issued rows) : 0 < rows.length := by
  cases rows with
  | nil => cases timeline.current
  | cons r rest => exact Nat.succ_pos _

theorem last (timeline : Timeline row issued rows) : rows[rows.length - 1]? = some row := by
  rw [← List.getLast?_eq_getElem?, timeline.current]

theorem start (row : Option Model) : Timeline row row.isSome [row] := by
  constructor
  · rfl
  · intro none r listed
    rw [List.mem_singleton.mp listed]
    cases row with
    | none => rfl
    | some model => cases none
  · intro i j k model r before after first missing found
    have only : ∀ (n : Nat) (x : Option Model), [row][n]? = some x → x = row := by
      intro n x found
      exact List.mem_singleton.mp (List.mem_of_getElem? found)
    rw [only k r found, ← only j none missing]

theorem push {model : Model} (timeline : Timeline (some model) issued rows) (r : Option Model) :
    Timeline r issued (rows ++ [r]) := by
  constructor
  · simp
  · intro unissued
    have listed := List.mem_of_getLast? timeline.current
    exact nomatch timeline.unissued unissued _ listed
  · intro i j k model' x before after first missing found
    have inside : j < rows.length → k = rows.length → x = none := by
      intro earlier _
      rw [List.getElem?_append_left earlier] at missing
      rw [List.getElem?_append_left (by omega)] at first
      have gone := timeline.deleted i j (rows.length - 1) model' (some model) before (by omega)
        first missing timeline.last
      cases gone
    by_cases within : k < rows.length
    · rw [List.getElem?_append_left within] at found
      rw [List.getElem?_append_left (by omega)] at missing first
      exact timeline.deleted i j k model' x before after first missing found
    · have bound := (List.getElem?_eq_some_iff.mp found).1
      rw [List.length_append, List.length_singleton] at bound
      have last : k = rows.length := by omega
      by_cases earlier : j < rows.length
      · exact inside earlier last
      · obtain rfl : j = k := by omega
        rw [found] at missing
        exact Option.some.inj missing

theorem create {model : Model} (timeline : Timeline row false rows) :
    Timeline (some model) true (rows ++ [some model]) := by
  have absent := timeline.unissued rfl
  constructor
  · simp
  · exact nofun
  · intro i j k model' x before after first missing found
    have bound := (List.getElem?_eq_some_iff.mp missing).1
    rw [List.length_append, List.length_singleton] at bound
    by_cases earlier : i < rows.length
    · rw [List.getElem?_append_left earlier] at first
      exact nomatch absent _ (List.mem_of_getElem? first)
    · obtain rfl : i = j := by
        have := (List.getElem?_eq_some_iff.mp first).1
        rw [List.length_append, List.length_singleton] at this
        omega
      rw [first] at missing
      cases missing

end Timeline

/-- A state that was written over an existing row. -/
def History.Overwrote (h : History) (w : Nat) : Prop :=
  w < h.rows.length ∧ ∃ i model, i ≤ w ∧ h.rows[i]? = some (some model)

/-- What is known of a call at each stage. Only lookups start after others. -/
def CallSound (h : History) (call : Nat) : Stage → Prop
  | .idle | .loading _ | .writing _ | .deleting => h.since call = []
  | .reloading | .invalidating _ | .forgetting => h.since call = [] ∧ h.Overwrote (h.wrote call)
  | .finishing _ => h.since call = [] ∧ h.wrote call ∈ h.invalidated
  | .finding | .reading | .dropped => True
  | .caching response => ∃ model, h.rows[h.read call]? = some (some model) ∧
      response = model.response ∧ ∀ w ∈ h.since call, w ≤ h.read call
  | .returned (.user result) => ∀ w ∈ h.since call, AtLeastAsNew h w result
  | .returned (.deleted _) => True

/-- The history goes on, with nothing new about one call. -/
structure History.Extends (h h' : History) (call : Nat) : Prop where
  rows : h.rows <+: h'.rows
  invalidated : h.invalidated ⊆ h'.invalidated
  read : h'.read call = h.read call
  wrote : h'.wrote call = h.wrote call
  since : h'.since call = h.since call

theorem getElem?_of_prefix {rows rows' : List (Option Model)} (longer : rows <+: rows') {n : Nat}
    {r : Option Model} (found : rows[n]? = some r) : rows'[n]? = some r := by
  obtain ⟨more, rfl⟩ := longer
  rw [List.getElem?_append_left (List.getElem?_eq_some_iff.mp found).1, found]

theorem AtLeastAsNew.longer {h h' : History} (longer : h.rows <+: h'.rows) {w : Nat}
    {result : Except AppError UserResponse} (new : AtLeastAsNew h w result) :
    AtLeastAsNew h' w result := by
  cases result with
  | ok user =>
    obtain ⟨v, model, after, found, same⟩ := new
    exact ⟨v, model, after, getElem?_of_prefix longer found, same⟩
  | error e =>
    cases e with
    | notFound message =>
      obtain ⟨v, after, found⟩ := new
      exact ⟨v, after, getElem?_of_prefix longer found⟩
    | database | ormError | unauthorized | forbidden | validation | internal => trivial

theorem History.Overwrote.longer {h h' : History} (longer : h.rows <+: h'.rows) {w : Nat}
    (overwrote : h.Overwrote w) : h'.Overwrote w := by
  obtain ⟨bound, i, model, before, found⟩ := overwrote
  exact ⟨Nat.lt_of_lt_of_le bound longer.length_le, i, model, before,
    getElem?_of_prefix longer found⟩

theorem CallSound.extends {h h' : History} {call : Nat} {stage : Stage}
    (sound : CallSound h call stage) (more : h.Extends h' call) : CallSound h' call stage := by
  cases stage with
  | idle | loading | writing | deleting => exact more.since.trans sound
  | reloading | invalidating | forgetting =>
    refine ⟨more.since.trans sound.1, ?_⟩
    rw [more.wrote]
    exact sound.2.longer more.rows
  | finishing =>
    refine ⟨more.since.trans sound.1, ?_⟩
    rw [more.wrote]
    exact more.invalidated sound.2
  | finding | reading | dropped => trivial
  | caching response =>
    obtain ⟨model, found, same, newer⟩ := sound
    rw [CallSound, more.read, more.since]
    exact ⟨model, getElem?_of_prefix more.rows found, same, newer⟩
  | returned outcome =>
    cases outcome with
    | user result =>
      intro w hw
      rw [more.since] at hw
      exact (sound w hw).longer more.rows
    | deleted => trivial

structure Sound (codec : UserCodec) (s : Service) (h : History) : Prop where
  timeline : Timeline s.row s.issued h.rows
  calls : ∀ call, CallSound h call (s.calls call)
  /-- The cached text is that of a row no writer that has invalidated the entry
  has superseded. -/
  cached : ∀ text, s.cached = some text → ∃ v model, h.rows[v]? = some (some model) ∧
    codec.toJson model.response = .ok text ∧ ∀ w ∈ h.invalidated, w ≤ v
  invalidated : ∀ w ∈ h.invalidated, h.Overwrote w
  returned : h.returned ⊆ h.invalidated
  since : ∀ call, h.since call ⊆ h.returned

section Steps
variable {codec : UserCodec} {id : Uuid} {s : Service} {h : History} {call : Nat}

theorem Sound.moved (sound : Sound codec s h) {stage : Stage} {s' : Service} {h' : History}
    (calls : s'.calls = Function.update s.calls call stage)
    (others : ∀ other, other ≠ call → h.Extends h' other) (here : CallSound h' call stage)
    (timeline : Timeline s'.row s'.issued h'.rows)
    (cached : ∀ text, s'.cached = some text → ∃ v model, h'.rows[v]? = some (some model) ∧
      codec.toJson model.response = .ok text ∧ ∀ w ∈ h'.invalidated, w ≤ v)
    (invalidated : ∀ w ∈ h'.invalidated, h'.Overwrote w)
    (returned : h'.returned ⊆ h'.invalidated) (since : ∀ call, h'.since call ⊆ h'.returned) :
    Sound codec s' h' := by
  refine ⟨timeline, fun other => ?_, cached, invalidated, returned, since⟩
  rw [calls]
  by_cases same : other = call
  · subst same
    rw [Function.update_self]
    exact here
  · rw [Function.update_of_ne same]
    exact (sound.calls other).extends (others other same)

/-- A call goes on and nothing else changes. -/
theorem Sound.setCall (sound : Sound codec s h) {stage : Stage} (here : CallSound h call stage) :
    Sound codec (s.setCall call stage) h :=
  sound.moved rfl (fun _ _ => ⟨List.prefix_refl _, List.Subset.refl _, rfl, rfl, rfl⟩) here
    sound.timeline sound.cached sound.invalidated sound.returned sound.since

/-- A state of the row, and the same cache entry. -/
theorem Sound.pushed (sound : Sound codec s h) {stage : Stage} {s' : Service} {h' : History}
    (calls : s'.calls = Function.update s.calls call stage) (cached : s'.cached = s.cached)
    {row : Option Model} (rows : h'.rows = h.rows ++ [row])
    (timeline : Timeline s'.row s'.issued h'.rows) (invalidated : h'.invalidated = h.invalidated)
    (returned : h'.returned = h.returned) (since : h'.since = h.since) (read : h'.read = h.read)
    (wrote : ∀ other, other ≠ call → h'.wrote other = h.wrote other)
    (here : CallSound h' call stage) : Sound codec s' h' := by
  have longer : h.rows <+: h'.rows := ⟨[row], rows.symm⟩
  refine sound.moved calls (fun other different => ?_) here timeline ?_ ?_ ?_ ?_
  · exact ⟨longer, by rw [invalidated]; exact List.Subset.refl _, by rw [read],
      wrote other different, by rw [since]⟩
  · intro text entry
    rw [cached] at entry
    obtain ⟨v, model, found, json, newest⟩ := sound.cached text entry
    exact ⟨v, model, getElem?_of_prefix longer found, json, by rw [invalidated]; exact newest⟩
  · rw [invalidated]
    exact fun w hw => (sound.invalidated w hw).longer longer
  · rw [returned, invalidated]
    exact sound.returned
  · rw [since, returned]
    exact sound.since

theorem start_sound (sound : Sound codec s h) (idle : s.calls call = .idle) (request : Request) :
    Sound codec (s.start codec call request) (History.record s (.start call request) h) := by
  have none : h.since call = [] := by
    have first := sound.calls call
    rwa [idle] at first
  cases request with
  | findById =>
    refine sound.moved rfl (fun other different => ?_) trivial sound.timeline sound.cached
      sound.invalidated sound.returned (fun other => ?_)
    · exact ⟨List.prefix_refl _, List.Subset.refl _, rfl, rfl, Function.update_of_ne different _ _⟩
    · by_cases same : other = call
      · subst same
        simp [History.record]
      · simpa [History.record, same] using sound.since other
  | update dto =>
    simp only [Service.start]
    cases codec.validate dto with
    | error e => exact sound.setCall (fun w _ => trivial)
    | ok => exact sound.setCall none
  | delete => exact sound.setCall none

/-- What the lookup knows of the entry it hits. -/
theorem cacheGet_sound (roundTrip : ∀ user text read, codec.toJson user = .ok text →
    codec.fromJson text = .ok read → read = user) (sound : Sound codec s h) :
    Sound codec (s.cacheGet codec call) h := by
  rw [Service.cacheGet]
  split
  · rename_i user hit
    obtain ⟨text, entry, read⟩ := Option.map_eq_some_iff.mp hit
    obtain ⟨v, model, found, json, newest⟩ := sound.cached text entry
    refine sound.setCall (fun w hw => ⟨v, model, ?_, found, roundTrip _ _ _ json read⟩)
    exact newest w (sound.returned (sound.since call hw))
  · exact sound.setCall trivial
  · exact sound.setCall trivial

/-- The state in the database is at least as new as everything returned so far. -/
theorem Sound.since_last (sound : Sound codec s h) {w : Nat} (hw : w ∈ h.since call) :
    w ≤ h.rows.length - 1 := by
  have bound := (sound.invalidated w (sound.returned (sound.since call hw))).1
  omega

theorem readUser_sound (sound : Sound codec s h) :
    Sound codec (s.readUser id call)
      { h with read := Function.update h.read call (h.rows.length - 1) } := by
  have last := sound.timeline.last
  have read : ∀ {stage},
      CallSound { h with read := Function.update h.read call (h.rows.length - 1) }
      call stage → Sound codec (s.setCall call stage)
        { h with read := Function.update h.read call (h.rows.length - 1) } := by
    intro stage here
    refine sound.moved rfl (fun other different => ?_) here sound.timeline sound.cached
      sound.invalidated sound.returned sound.since
    exact ⟨List.prefix_refl _, List.Subset.refl _, Function.update_of_ne different _ _, rfl, rfl⟩
  rw [Service.readUser]
  cases row : s.row with
  | none =>
    rw [row] at last
    exact read (fun w hw => ⟨h.rows.length - 1, sound.since_last hw, last⟩)
  | some model =>
    rw [row] at last
    refine read ⟨model, ?_, rfl, ?_⟩
    · simpa using last
    · intro w hw
      simpa using sound.since_last hw

/-- The one step that the condition is about. -/
theorem cacheInsert_sound (sound : Sound codec s h) {response : UserResponse}
    (stage : s.calls call = .caching response) (fresh : ∀ w ∈ h.invalidated, w ≤ h.read call) :
    Sound codec (s.cacheInsert codec call response) h := by
  have holds := sound.calls call
  rw [stage] at holds
  obtain ⟨model, found, rfl, newer⟩ := holds
  have here : CallSound h call (.returned (.user (.ok model.response))) :=
    fun w hw => ⟨h.read call, model, newer w hw, found, rfl⟩
  rw [Service.cacheInsert]
  cases json : codec.toJson model.response with
  | error e => exact sound.setCall here
  | ok text =>
    refine sound.moved rfl (fun _ _ => ⟨List.prefix_refl _, List.Subset.refl _, rfl, rfl, rfl⟩) here
      sound.timeline ?_ sound.invalidated sound.returned sound.since
    intro text' entry
    obtain rfl : text = text' := Option.some.inj entry
    exact ⟨h.read call, model, found, json, fresh⟩

/-- A write over the current row, by a call that has still to invalidate. -/
theorem write_sound (sound : Sound codec s h) {stage : Stage} {model : Model} {row : Option Model}
    (current : s.row = some model) (none : h.since call = [])
    (here : ∀ h' : History, h'.since call = [] → h'.Overwrote (h'.wrote call) →
      CallSound h' call stage) :
    Sound codec { s.setCall call stage with row := row }
      { h.push row with wrote := Function.update h.wrote call h.rows.length } := by
  have timeline := sound.timeline
  rw [current] at timeline
  have last := timeline.last
  have nonempty := timeline.nonempty
  refine sound.pushed rfl rfl rfl (timeline.push row) rfl rfl rfl rfl
    (fun other different => Function.update_of_ne different _ _) (here _ none ?_)
  dsimp only
  rw [Function.update_self]
  refine ⟨by simp [History.push], h.rows.length - 1, model, Nat.sub_le _ _, ?_⟩
  rw [History.push, List.getElem?_append_left (by omega)]
  exact last

/-- A write whose call has ended with an error. -/
theorem lost_sound (sound : Sound codec s h) {stage : Stage} {model : Model} {row : Option Model}
    (current : s.row = some model) (here : CallSound (h.push row) call stage) :
    Sound codec { s.setCall call stage with row := row } (h.push row) := by
  have timeline := sound.timeline
  rw [current] at timeline
  exact sound.pushed rfl rfl rfl (timeline.push row) rfl rfl rfl rfl (fun _ _ => rfl) here

theorem invalidate_sound (sound : Sound codec s h) {outcome : Outcome}
    (none : h.since call = []) (overwrote : h.Overwrote (h.wrote call)) :
    Sound codec (s.invalidate call outcome)
      { h with invalidated := h.invalidated ++ [h.wrote call] } := by
  refine sound.moved rfl (fun other _ => ?_) ⟨none, ?_⟩ sound.timeline nofun ?_ ?_ sound.since
  · exact ⟨List.prefix_refl _, List.subset_append_left _ _, rfl, rfl, rfl⟩
  · simp
  · intro w hw
    rcases List.mem_append.mp hw with earlier | this
    · exact sound.invalidated w earlier
    · rw [List.mem_singleton.mp this]
      exact overwrote
  · exact fun w hw => List.mem_append_left _ (sound.returned hw)

theorem finish_sound (sound : Sound codec s h) {outcome : Outcome} (none : h.since call = [])
    (invalidated : h.wrote call ∈ h.invalidated) :
    Sound codec (s.setCall call (.returned outcome))
      { h with returned := h.returned ++ [h.wrote call] } := by
  refine sound.moved rfl (fun other _ => ⟨List.prefix_refl _, List.Subset.refl _, rfl, rfl, rfl⟩)
    ?_ sound.timeline sound.cached sound.invalidated ?_ ?_
  · cases outcome with
    | user result =>
      intro w hw
      exact absurd (none ▸ hw) List.not_mem_nil
    | deleted => trivial
  · intro w hw
    rcases List.mem_append.mp hw with earlier | this
    · exact sound.returned earlier
    · rw [List.mem_singleton.mp this]
      exact invalidated
  · exact fun other w hw => List.mem_append_left _ (sound.since other hw)

theorem advance_sound (roundTrip : ∀ user text read, codec.toJson user = .ok text →
    codec.fromJson text = .ok read → read = user) (sound : Sound codec s h) {now : DateTime}
    {t : Service} (fresh : InsertsFresh (s, h) (.advance call now))
    (hs : s.advance codec id call now = some t) :
    Sound codec t (History.record s (.advance call now) h) := by
  have holds := sound.calls call
  simp only [Service.advance] at hs
  simp only [History.record]
  simp only [InsertsFresh] at fresh
  cases stage : s.calls call with
  | idle | returned | dropped =>
    rw [stage] at hs
    cases hs
  | finding =>
    rw [stage] at hs
    cases hs
    exact cacheGet_sound roundTrip sound
  | reading =>
    rw [stage] at hs
    cases hs
    exact readUser_sound sound
  | caching response =>
    rw [stage] at hs fresh
    cases hs
    exact cacheInsert_sound sound stage fresh
  | loading dto =>
    rw [stage] at hs holds
    cases hs
    rw [Service.loadUser]
    split
    · exact sound.setCall (fun w hw => absurd (holds ▸ hw) List.not_mem_nil)
    · exact sound.setCall holds
  | writing dto =>
    rw [stage] at hs holds
    cases hs
    rw [Service.writeUser]
    simp only [Service.written, stage]
    cases current : s.row with
    | none => exact sound.setCall (fun w _ => trivial)
    | some model =>
      exact write_sound sound current holds (fun _ none overwrote => ⟨none, overwrote⟩)
  | reloading =>
    rw [stage] at hs holds
    cases hs
    rw [Service.reloadUser]
    split
    · exact sound.setCall (fun w _ => trivial)
    · exact sound.setCall holds
  | invalidating updated =>
    rw [stage] at hs holds
    cases hs
    exact invalidate_sound sound holds.1 holds.2
  | deleting =>
    rw [stage] at hs holds
    cases hs
    rw [Service.deleteUser]
    simp only [Service.written, stage]
    cases current : s.row with
    | none => exact sound.setCall trivial
    | some model =>
      exact write_sound sound current holds (fun _ none overwrote => ⟨none, overwrote⟩)
  | forgetting =>
    rw [stage] at hs holds
    cases hs
    exact invalidate_sound sound holds.1 holds.2
  | finishing outcome =>
    rw [stage] at hs holds
    cases hs
    exact finish_sound sound holds.1 holds.2

theorem failed_sound (h : History) (call : Nat) (stage : Stage) (error : String) :
    CallSound h call (.returned (stage.failed (.ormError error))) := by
  cases stage with
  | deleting => trivial
  | _ => exact fun _ _ => trivial

theorem step_sound (roundTrip : ∀ user text read, codec.toJson user = .ok text →
    codec.fromJson text = .ok read → read = user) (sound : Sound codec s h) {l : Label}
    {t : Service} (fresh : InsertsFresh (s, h) l) (hs : s.step codec id l = some t) :
    Sound codec t (History.record s l h) := by
  cases l with
  | start call request =>
    simp only [Service.step] at hs
    split at hs
    · rename_i idle
      cases hs
      exact start_sound sound idle request
    · cases hs
  | advance call now => exact advance_sound roundTrip sound fresh hs
  | databaseError call error =>
    simp only [Service.step] at hs
    split at hs
    · cases hs
      exact sound.setCall (failed_sound _ _ _ _)
    · cases hs
  | lostReply call now error =>
    obtain ⟨row, written, rfl⟩ := Option.map_eq_some_iff.mp hs
    simp only [History.record, written]
    have current : ∃ model, s.row = some model := by
      rw [Service.written] at written
      split at written
      · rename_i current
        exact ⟨_, current⟩
      · rename_i current
        exact ⟨_, current⟩
      · cases written
    exact lost_sound sound current.choose_spec (failed_sound _ _ _ _)
  | cancel call =>
    simp only [Service.step] at hs
    split at hs
    · cases hs
      exact sound.setCall trivial
    · cases hs
  | expire =>
    cases hs
    exact ⟨sound.timeline, sound.calls, nofun, sound.invalidated, sound.returned, sound.since⟩
  | create model =>
    simp only [Service.step] at hs
    split at hs
    · cases hs
    · rename_i fresh
      cases hs
      have timeline := sound.timeline
      rw [Bool.not_eq_true] at fresh
      rw [fresh] at timeline
      have same : s.calls = Function.update s.calls 0 (s.calls 0) :=
        (Function.update_eq_self 0 s.calls).symm
      refine sound.pushed same rfl rfl timeline.create rfl rfl rfl rfl (fun _ _ => rfl) ?_
      exact (sound.calls 0).extends ⟨⟨_, rfl⟩, List.Subset.refl _, rfl, rfl, rfl⟩

end Steps

theorem init_sound (codec : UserCodec) (id : Uuid) (row : Option Model) :
    Sound codec (Service.machine codec id row).init (.start row) := by
  refine ⟨Timeline.start row, fun call => rfl, nofun, nofun, ?_, ?_⟩
  · exact List.Subset.refl _
  · exact fun call => List.Subset.refl _

theorem Sound.coherent {codec : UserCodec} {s : Service} {h : History} (sound : Sound codec s h) :
    CacheCoherent (s, h) := by
  constructor
  · intro call result stage
    have holds := sound.calls call
    rw [show s.calls call = .returned (.user result) from stage] at holds
    exact holds
  · intro call user stage w hw deleted
    have holds := sound.calls call
    rw [show s.calls call = .returned (.user (.ok user)) from stage] at holds
    obtain ⟨v, model, after, found, _⟩ := holds w hw
    obtain ⟨_, i, before, early, first⟩ :=
      sound.invalidated w (sound.returned (sound.since call hw))
    cases sound.timeline.deleted i w v before _ early after first deleted found

/-- No lookup returns a row that an earlier update or delete has superseded, as
long as none is inserted behind an invalidation. -/
theorem coherent_of_insertsFresh {codec : UserCodec} {id : Uuid} {row : Option Model}
    (roundTrip : ∀ user text read, codec.toJson user = .ok text →
      codec.fromJson text = .ok read → read = user)
    {p : Service × History} (reach : (traced codec id row).ReachableWhere InsertsFresh p) :
    CacheCoherent p := by
  have sound : Sound codec p.1 p.2 := by
    refine (reach.recording (I := Sound codec) (init_sound codec id row) ?_).2
    intro s h l t _ sound fresh stepped
    exact step_sound roundTrip sound fresh stepped
  exact sound.coherent

section Overtaken

def annId : Uuid := 7

/-- The row of user 7, created at the start of 2026. -/
def annRow : Model where
  id := annId
  email := "ann@example.com"
  name := "Ann"
  passwordHash := "$argon2id$v=19$m=19456,t=2,p=1$c2FsdHNhbHQ$aGFzaA"
  createdAt := 1767225600000000000
  updatedAt := 1767225600000000000

/-- The JSON text of `annRow` under a name. -/
def annJson (name updatedAt : String) : String :=
  "\x7b\"id\":\"00000000-0000-0000-0000-000000000007\",\"email\":\"ann@example.com\",\"name\":\"" ++
  name ++ "\",\"created_at\":\"2026-01-01T00:00:00Z\",\"updated_at\":\"" ++ updatedAt ++ "\"\x7d"

/-- Ann and her later self: what the text of each row is, and what is read back. -/
def annTexts : List (UserResponse × String) :=
  [(annRow.response, annJson "Ann" "2026-01-01T00:00:00Z"),
    ((annRow.updated ⟨some "Anna"⟩ 1767225660000000000).response,
      annJson "Anna" "2026-01-01T00:01:00Z")]

def annCodec : UserCodec where
  toJson user :=
    match annTexts.find? (fun e => e.1 = user) with
    | some e => .ok e.2
    | none => .error "another user"
  fromJson text :=
    match annTexts.find? (fun e => e.2 = text) with
    | some e => .ok e.1
    | none => .error "another text"
  validate _ := .ok ()

theorem annCodec_roundTrip {user read : UserResponse} {text : String}
    (written : annCodec.toJson user = .ok text) (parsed : annCodec.fromJson text = .ok read) :
    read = user := by
  simp only [annCodec] at written parsed
  split at written
  · rename_i e found
    cases written
    split at parsed
    · rename_i e' found'
      cases parsed
      have same : ∀ a ∈ annTexts, ∀ b ∈ annTexts, a.2 = b.2 → a = b := by decide +kernel
      have text := List.find?_some found'
      have known := List.find?_some found
      rw [same e' (List.mem_of_find?_eq_some found') e (List.mem_of_find?_eq_some found)
        (by simpa using text)]
      simpa using known
    · cases parsed
  · cases written

/-- An update while nobody reads, and a lookup after it. -/
def updatedThenFound : Service × History :=
  (traced annCodec annId (some annRow)).follow (fun p l => decide (InsertsFresh p l))
    [.start 1 .findById, .advance 1 0, .advance 1 0, .advance 1 0, .start 2 (.update ⟨some "Anna"⟩),
      .advance 2 0, .advance 2 1767225660000000000, .advance 2 0, .advance 2 0, .advance 2 0,
      .start 3 .findById, .advance 3 0, .advance 3 0, .advance 3 0]

theorem coherent_of_insertsFresh_updated :
    updatedThenFound.1.calls 3 =
      .returned (.user (.ok (annRow.updated ⟨some "Anna"⟩ 1767225660000000000).response)) ∧
    CacheCoherent updatedThenFound :=
  ⟨by decide +kernel, coherent_of_insertsFresh (fun _ _ _ => annCodec_roundTrip)
    ⟨_, Machine.run_follow (fun _ _ => of_decide_eq_true) (by decide +kernel)⟩⟩

/-- A lookup reads Ann's row, an update renames her and invalidates the entry,
and only then the lookup inserts what it has read. -/
def overtaken : Service × History :=
  (traced annCodec annId (some annRow)).follow (fun _ _ => true)
    [.start 1 .findById, .advance 1 0, .advance 1 0, .start 2 (.update ⟨some "Anna"⟩),
      .advance 2 0, .advance 2 1767225660000000000, .advance 2 0, .advance 2 0, .advance 1 0,
      .advance 2 0, .start 3 .findById, .advance 3 0]

theorem stale_row_returned :
    (traced annCodec annId (some annRow)).Reachable overtaken ∧ ¬ CacheCoherent overtaken := by
  refine ⟨⟨_, Machine.run_follow (fun _ _ _ => trivial) (by decide +kernel)⟩, fun coherent => ?_⟩
  have stage : overtaken.1.calls 3 = .returned (.user (.ok annRow.response)) := by decide +kernel
  have rows : overtaken.2.rows =
      [some annRow, some (annRow.updated ⟨some "Anna"⟩ 1767225660000000000)] := by
    decide +kernel
  obtain ⟨v, model, after, found, same⟩ := coherent.newer 3 _ stage 1 (by decide +kernel)
  rw [rows] at found
  obtain rfl : v = 1 := by
    have bound := (List.getElem?_eq_some_iff.mp found).1
    simp at bound
    omega
  cases found
  revert same
  decide

end Overtaken

end ApiBoilerplate.Users
