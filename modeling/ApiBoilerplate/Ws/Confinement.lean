import ApiBoilerplate.Ws.CallEffects
import ApiBoilerplate.Ws.Session

/-!
# What the policy confines

Every subscription a session makes has passed the policy, and the hub keeps
what the policy promised: through the connection entries, the indexes, the ids
a delivery has copied, and the log of everything ever enqueued. The invariant
says of each of them whom it may concern.
-/

namespace ApiBoilerplate

open Foundation
open WsHub (Op)
open AppWsPolicy (Permitted userTopic)

abbrev Owners := FinMap ConnectionId (Option Uuid)

/-- The connection was registered for someone who may have the topic. -/
def Entitled (owner : Owners) (id : ConnectionId) (topic : Topic) : Prop :=
  ∃ userId, owner.lookup id = some userId ∧ Permitted userId topic

/-- The connection may be served what is posted to the address. -/
def Reached (owner : Owners) (id : ConnectionId) : Address → Prop
  | .topic t => Entitled owner id t
  | .user u => owner.lookup id = some (some u)
  | .all => True
  | .only _ => True

/-- Connections keep their owner. -/
def OwnersGrow (owner owner' : Owners) : Prop :=
  ∀ id userId, owner.lookup id = some userId → owner'.lookup id = some userId

theorem Entitled.grow {owner owner' : Owners} (grow : OwnersGrow owner owner')
    {id : ConnectionId} {t : Topic}
    (entitled : Entitled owner id t) : Entitled owner' id t := by
  obtain ⟨userId, found, permitted⟩ := entitled
  exact ⟨userId, grow id userId found, permitted⟩

theorem Reached.grow {owner owner' : Owners} (grow : OwnersGrow owner owner')
    {id : ConnectionId} {addr : Address}
    (reached : Reached owner id addr) : Reached owner' id addr := by
  cases addr with
  | topic t => exact Entitled.grow grow reached
  | user u => exact grow id _ reached
  | all => trivial
  | only k => trivial

namespace Sessions
variable {Value : Type}

/-- The user the session of a connection speaks for. -/
def SpeaksFor (sessions : FinMap ConnectionId (Session Value)) (id : ConnectionId)
    (userId : Option Uuid) : Prop :=
  ∃ session, sessions.lookup id = some session ∧ session.ctx.userId = userId

/-- What a task may have to do: sessions register and drain their own connection
and post nothing, and every id in a call may be there. -/
def Lawful (owner : Owners) (sessions : FinMap ConnectionId (Session Value)) (name : TaskName) :
    Call Value → Prop
  | .connectionsLen id userId _ => name = .session id ∧ SpeaksFor sessions id userId
  | .connectionsInsert id userId _ => name = .session id ∧ SpeaksFor sessions id userId
  | .usersInsert u id => owner.lookup id = some (some u)
  | .subscribeConnection id t => Entitled owner id t
  | .topicsInsert t id => Entitled owner id t
  | .drain id => name = .session id
  | .dropReceiver id => name = .session id
  | .forwardToCluster _ _ _ => ∀ id, name ≠ .session id
  | .readAudience _ _ _ => ∀ id, name ≠ .session id
  | .deliver addr _ ids _ _ =>
    (∀ id, name ≠ .session id) ∧ ∀ id ∈ ids, Reached owner id addr
  | .relay => ∀ id, name ≠ .session id
  | _ => True

/-- What a session may have to do. -/
def LawfulOp (owner : Owners) (id : ConnectionId) (session : Session Value) : Op Value → Prop
  | .register k userId _ => k = id ∧ userId = session.ctx.userId
  | .subscribe k t => Entitled owner k t
  | .unsubscribe _ _ => True
  | .unregister _ => True
  | .drain k => k = id
  | .dropReceiver k => k = id
  | _ => False

structure Confined (s : Sessions Value) : Prop where
  topics : ∀ t id, id ∈ s.tasks.hub.topics.members t → Entitled s.tasks.owner id t
  entries : ∀ id conn, s.tasks.hub.connections.lookup id = some conn →
    s.tasks.owner.lookup id = some conn.userId ∧ ∀ t ∈ conn.topics, Permitted conn.userId t
  users : ∀ u id, id ∈ s.tasks.hub.users.members u → s.tasks.owner.lookup id = some (some u)
  log : ∀ addr id frame, (addr, id, frame) ∈ s.tasks.log → Reached s.tasks.owner id addr
  calls : ∀ name calls c, s.tasks.pending.lookup name = some calls → c ∈ calls →
    Lawful s.tasks.owner s.sessions name c
  todo : ∀ id session, s.sessions.lookup id = some session → session.ctx.connectionId = id ∧
    ∀ op ∈ session.todo, LawfulOp s.tasks.owner id session op
  owned : ∀ id userId, s.tasks.owner.lookup id = some userId →
    id ∈ s.tasks.hub.channels ∧ SpeaksFor s.sessions id userId
  running : ∀ id session, s.sessions.lookup id = some session → session.phase = .running →
    id ∈ s.tasks.owner

def SpeakersStay (sessions sessions' : FinMap ConnectionId (Session Value)) : Prop :=
  ∀ id userId, SpeaksFor sessions id userId → SpeaksFor sessions' id userId

section Grow
variable {owner owner' : Owners} {sessions sessions' : FinMap ConnectionId (Session Value)}

theorem Lawful.grow (grow : OwnersGrow owner owner') (stay : SpeakersStay sessions sessions')
    {name : TaskName} {c : Call Value} (lawful : Lawful owner sessions name c) :
    Lawful owner' sessions' name c := by
  cases c with
  | connectionsLen id userId now => exact ⟨lawful.1, stay id userId lawful.2⟩
  | connectionsInsert id userId now => exact ⟨lawful.1, stay id userId lawful.2⟩
  | usersInsert u id => exact grow id _ lawful
  | subscribeConnection id t => exact Entitled.grow grow lawful
  | topicsInsert t id => exact Entitled.grow grow lawful
  | deliver addr frame ids n slow =>
    exact ⟨lawful.1, fun id listed => Reached.grow grow (lawful.2 id listed)⟩
  | _ => exact lawful

theorem LawfulOp.grow (grow : OwnersGrow owner owner') {id : ConnectionId}
    {session : Session Value} {op : Op Value} (lawful : LawfulOp owner id session op) :
    LawfulOp owner' id session op := by
  cases op with
  | subscribe k t => exact Entitled.grow grow lawful
  | _ => exact lawful

end Grow

section Run
variable {encode : ServerMessage Value → Except WsError ByteString} {s : Sessions Value}
  {name : TaskName} {c : Call Value} {rest more : List (Call Value)} {h : WsHub Value}
  {ids : List ConnectionId} {topics : List Topic}

theorem owners_grow (confined : Confined s)
    (done : HubTasks.exec encode ids topics s.tasks.hub c = some (h, more)) :
    OwnersGrow s.tasks.owner (HubTasks.owned s.tasks.owner c) := by
  intro id userId found
  cases HubTasks.exec_made done with
  | registered fresh | registeredFor fresh =>
    refine (Finmap.lookup_insert_of_ne _ ?_).trans found
    rintro rfl
    exact fresh (confined.owned id userId found).1
  | _ => exact found

/-- The ids an address resolves to may be served what is posted to it. -/
theorem audience_reached (confined : Confined s) {addr : Address} {id : ConnectionId}
    (listed : id ∈ s.tasks.hub.audience addr) : Reached s.tasks.owner id addr := by
  cases addr with
  | topic t => exact confined.topics t id listed
  | user u => exact confined.users u id listed
  | all => trivial
  | only k => trivial

theorem lawful_more (confined : Confined s) (lawful : Lawful s.tasks.owner s.sessions name c)
    (done : HubTasks.exec encode ids topics s.tasks.hub c = some (h, more)) {d : Call Value}
    (hd : d ∈ more) : Lawful (HubTasks.owned s.tasks.owner c) s.sessions name d := by
  cases HubTasks.exec_puts done hd with
  | cleanup harmless => cases d <;> trivial
  | register => exact lawful
  | user => exact Finmap.lookup_insert _
  | topic => exact lawful
  | audience encoded order =>
    refine ⟨lawful, fun id listed => audience_reached confined ?_⟩
    rw [← order.2]
    exact List.mem_toFinset.mpr listed
  | deliver => exact ⟨lawful.1, fun id listed => lawful.2 id (List.mem_cons_of_mem _ listed)⟩

theorem confined_run (confined : Confined s)
    (found : s.tasks.pending.lookup name = some (c :: rest))
    (done : HubTasks.exec encode ids topics s.tasks.hub c = some (h, more)) :
    Confined { s with tasks :=
      ⟨h, HubTasks.setCalls s.tasks.pending name (more ++ rest),
        HubTasks.owned s.tasks.owner c, s.tasks.log ++ HubTasks.logged s.tasks.hub c⟩ } := by
  have grow := owners_grow confined done
  have touch := HubTasks.exec_touch done
  have lawful := confined.calls name _ c found List.mem_cons_self
  constructor
  · intro t id filed
    rcases touch.topics filed with ⟨before, _⟩ | rfl
    · exact Entitled.grow grow (confined.topics t id before)
    · exact Entitled.grow grow lawful
  · intro id conn' lookup
    rcases touch.gains lookup with ⟨now, rfl, empty⟩ | ⟨conn, before, user, gained⟩
    · refine ⟨Finmap.lookup_insert _, fun t ht => ?_⟩
      rw [empty] at ht
      cases ht
    · obtain ⟨owner, permitted⟩ := confined.entries id conn before
      rw [user]
      refine ⟨grow id _ owner, fun t ht => ?_⟩
      rcases gained t ht with old | rfl
      · exact permitted t old
      · obtain ⟨userId, held, allowed⟩ := lawful
        rw [owner] at held
        rwa [Option.some.inj held]
  · intro u id filed
    rcases touch.users filed with ⟨before, _⟩ | rfl
    · exact grow id _ (confined.users u id before)
    · exact grow id _ lawful
  · intro addr id frame entry
    rcases List.mem_append.mp entry with old | new
    · exact Reached.grow grow (confined.log addr id frame old)
    · obtain ⟨_, _, _, rfl⟩ := HubTasks.mem_logged new
      exact Reached.grow grow (lawful.2 id List.mem_cons_self)
  · intro m calls d lookup hd
    rw [HubTasks.lookup_setCalls] at lookup
    split_ifs at lookup with same empty
    · obtain rfl := Option.some.inj lookup
      subst same
      rcases List.mem_append.mp hd with put | kept
      · exact lawful_more confined lawful done put
      · exact (confined.calls m _ d found (List.mem_cons_of_mem _ kept)).grow grow
          (fun _ _ h => h)
    · exact (confined.calls m calls d lookup hd).grow grow (fun _ _ h => h)
  · intro id session lookup
    obtain ⟨own, ops⟩ := confined.todo id session lookup
    exact ⟨own, fun op listed => (ops op listed).grow grow⟩
  · intro id userId lookup
    cases c with
    | connectionsInsert k userId' now =>
      by_cases hk : id = k
      · subst hk
        obtain rfl := Option.some.inj ((Finmap.lookup_insert _).symm.trans lookup)
        refine ⟨?_, lawful.2⟩
        cases HubTasks.exec_made done with
        | registered | registeredFor => exact Finmap.mem_insert.mpr (Or.inl rfl)
      · have before := (Finmap.lookup_insert_of_ne _ hk).symm.trans lookup
        obtain ⟨opened, speaks⟩ := confined.owned id userId before
        exact ⟨touch.channels opened, speaks⟩
    | _ =>
      obtain ⟨opened, speaks⟩ := confined.owned id userId lookup
      exact ⟨touch.channels opened, speaks⟩
  · intro id session lookup phase
    obtain ⟨userId, found⟩ := Finmap.mem_iff.mp (confined.running id session lookup phase)
    exact Finmap.mem_iff.mpr ⟨userId, grow id userId found⟩

end Run

theorem confined_init (encode : ServerMessage Value → Except WsError ByteString) (nodeId : Uuid)
    (config : WebSocketConfig) (clusterTx : Option (Mpsc (ClusterFrame Value))) :
    Confined ⟨(HubTasks.machine encode nodeId config clusterTx).init, ∅⟩ where
  topics t id filed := by simp [HubTasks.machine, WsHub.new, Index.members] at filed
  entries id conn lookup := by simp [HubTasks.machine, WsHub.new] at lookup
  users u id filed := by simp [HubTasks.machine, WsHub.new, Index.members] at filed
  log addr id frame entry := by simp [HubTasks.machine] at entry
  calls name calls c lookup := by simp [HubTasks.machine] at lookup
  todo id session lookup := by simp at lookup
  owned id userId lookup := by simp [HubTasks.machine] at lookup
  running id session lookup := by simp at lookup

theorem lawful_session_calls {owner : Owners} {sessions : FinMap ConnectionId (Session Value)}
    {id : ConnectionId} {session : Session Value} (found : sessions.lookup id = some session)
    {op : Op Value} (lawful : LawfulOp owner id session op) {c : Call Value} (hc : c ∈ op.calls) :
    Lawful owner sessions (.session id) c := by
  cases op with
  | register k userId now =>
    obtain ⟨rfl, rfl⟩ := lawful
    obtain rfl := List.mem_singleton.mp hc
    exact ⟨rfl, session, found, rfl⟩
  | subscribe k t =>
    obtain rfl := List.mem_singleton.mp hc
    exact lawful
  | unsubscribe k t =>
    obtain rfl := List.mem_singleton.mp hc
    trivial
  | unregister k =>
    obtain rfl := List.mem_singleton.mp hc
    trivial
  | drain k =>
    obtain rfl := List.mem_singleton.mp hc
    exact congrArg TaskName.session lawful.symm
  | dropReceiver k =>
    obtain rfl := List.mem_singleton.mp hc
    exact congrArg TaskName.session lawful.symm
  | publish t payload => exact lawful.elim
  | publishToUser u t payload => exact lawful.elim
  | broadcast t payload => exact lawful.elim
  | sendTo k t payload => exact lawful.elim
  | dispatchClusterFrame frame => exact lawful.elim
  | relay => exact lawful.elim

theorem lawful_server_calls {owner : Owners} {sessions : FinMap ConnectionId (Session Value)}
    {n : Nat} {op : Op Value} (server : op.fromServer = true) {c : Call Value}
    (hc : c ∈ op.calls) : Lawful owner sessions (.other n) c := by
  have notSession : ∀ id, TaskName.other n ≠ .session id := fun _ same => by cases same
  have posted : ∀ scope addr topic value,
      c ∈ [Call.forwardToCluster scope topic value, .readAudience addr topic value] →
      Lawful owner sessions (.other n) c := by
    intro scope addr topic value hc
    rcases List.mem_cons.mp hc with rfl | hc
    · exact notSession
    · obtain rfl := List.mem_singleton.mp hc
      exact notSession
  cases op with
  | publish t payload =>
    cases payload with
    | error e => cases hc
    | ok value => exact posted _ _ _ _ hc
  | publishToUser u t payload =>
    cases payload with
    | error e => cases hc
    | ok value => exact posted _ _ _ _ hc
  | broadcast t payload =>
    cases payload with
    | error e => cases hc
    | ok value => exact posted _ _ _ _ hc
  | sendTo k t payload =>
    cases payload with
    | error e => cases hc
    | ok value =>
      obtain rfl := List.mem_singleton.mp hc
      exact notSession
  | dispatchClusterFrame frame =>
    obtain rfl := List.mem_singleton.mp hc
    exact notSession
  | unregister k =>
    obtain rfl := List.mem_singleton.mp hc
    trivial
  | relay =>
    obtain rfl := List.mem_singleton.mp hc
    exact notSession
  | register k userId now => cases server
  | subscribe k t => cases server
  | unsubscribe k t => cases server
  | drain k => cases server
  | dropReceiver k => cases server

section Labels
variable {s : Sessions Value}

theorem confined_start (confined : Confined s) (name : TaskName) (op : Op Value)
    (lawful : ∀ c ∈ op.calls, Lawful s.tasks.owner s.sessions name c) :
    Confined { s with tasks :=
      { s.tasks with pending := HubTasks.setCalls s.tasks.pending name op.calls } } := by
  refine { confined with calls := ?_ }
  intro m calls c lookup hc
  rw [HubTasks.lookup_setCalls] at lookup
  split_ifs at lookup with same empty
  · obtain rfl := Option.some.inj lookup
    subst same
    exact lawful c hc
  · exact confined.calls m calls c lookup hc

/-- A session turns to its next operations. -/
theorem confined_insert (confined : Confined s) {id : ConnectionId} (session : Session Value)
    (own : session.ctx.connectionId = id)
    (same : ∀ before, s.sessions.lookup id = some before → session.ctx = before.ctx)
    (ops : ∀ op ∈ session.todo, LawfulOp s.tasks.owner id session op)
    (registered : session.phase = .running → id ∈ s.tasks.owner) :
    Confined { s with sessions := s.sessions.insert id session } := by
  have stay : SpeakersStay s.sessions (s.sessions.insert id session) := by
    rintro k userId ⟨before, found, speaks⟩
    by_cases hk : k = id
    · subst hk
      exact ⟨session, Finmap.lookup_insert _, by rw [same before found, speaks]⟩
    · exact ⟨before, (Finmap.lookup_insert_of_ne _ hk).trans found, speaks⟩
  refine { confined with calls := ?_, todo := ?_, owned := ?_, running := ?_ }
  · intro name calls c lookup hc
    exact (confined.calls name calls c lookup hc).grow (fun _ _ h => h) stay
  · intro k other lookup
    by_cases hk : k = id
    · subst hk
      obtain rfl := Option.some.inj ((Finmap.lookup_insert _).symm.trans lookup)
      exact ⟨own, ops⟩
    · exact confined.todo k other ((Finmap.lookup_insert_of_ne _ hk).symm.trans lookup)
  · intro k userId lookup
    obtain ⟨opened, speaks⟩ := confined.owned k userId lookup
    exact ⟨opened, stay k userId speaks⟩
  · intro k other lookup phase
    by_cases hk : k = id
    · subst hk
      obtain rfl := Option.some.inj ((Finmap.lookup_insert _).symm.trans lookup)
      exact registered phase
    · exact confined.running k other ((Finmap.lookup_insert_of_ne _ hk).symm.trans lookup) phase

/-- The registered user of a connection is the one its session speaks for. -/
theorem owner_eq (confined : Confined s) {id : ConnectionId} {session : Session Value}
    (found : s.sessions.lookup id = some session) (registered : id ∈ s.tasks.owner) :
    s.tasks.owner.lookup id = some session.ctx.userId := by
  obtain ⟨userId, lookup⟩ := Finmap.mem_iff.mp registered
  obtain ⟨_, session', found', speaks⟩ := confined.owned id userId lookup
  rw [found] at found'
  obtain rfl := Option.some.inj found'
  rw [lookup, speaks]

theorem lawful_teardown (owner : Owners) (id : ConnectionId) (session : Session Value) :
    ∀ op ∈ (teardown id : List (Op Value)), LawfulOp owner id session op := by
  intro op listed
  rcases List.mem_cons.mp listed with rfl | listed
  · trivial
  · obtain rfl := List.mem_singleton.mp listed
    rfl

end Labels

section Step
variable {encode : ServerMessage Value → Except WsError ByteString}
  {parse : String → Except String (ClientMessage Value)} {parseStr : String → Option Uuid}
  {s t : Sessions Value}

theorem text_lawful (roundTrip : ∀ u : Uuid, parseStr u.hyphenated = some u)
    {id : ConnectionId} {session : Session Value} {userId : Option Uuid}
    (own : session.ctx.connectionId = id) (owner : s.tasks.owner.lookup id = some userId)
    (speaks : session.ctx.userId = userId) (text : String) :
    ∀ op ∈ textOps parse (AppWsPolicy.policy parseStr) session.ctx text,
      LawfulOp s.tasks.owner id session op := by
  intro op listed
  unfold textOps at listed
  split at listed
  · cases listed
  · split at listed
    · cases listed
    · rename_i topic _ allowed
      obtain rfl := List.mem_singleton.mp listed
      refine ⟨userId, by rw [own]; exact owner, ?_⟩
      rw [← speaks]
      exact AppWsPolicy.authorizeSubscribe_permitted roundTrip allowed
  · obtain rfl := List.mem_singleton.mp listed
    trivial
  · split at listed
    · cases listed
    · rename_i refused
      cases refused
  · cases listed

theorem onConnect_lawful {id : ConnectionId} {session : Session Value} {userId : Option Uuid}
    (own : session.ctx.connectionId = id) (owner : s.tasks.owner.lookup id = some userId)
    (speaks : session.ctx.userId = userId) :
    ∀ op ∈ (AppWsPolicy.onConnect session.ctx : List (Op Value) × Except String Unit).1,
      LawfulOp s.tasks.owner id session op := by
  intro op listed
  unfold AppWsPolicy.onConnect at listed
  split at listed
  · rename_i u user
    obtain rfl := List.mem_singleton.mp listed
    refine ⟨some u, by rw [own, owner, ← speaks, user], AppWsPolicy.permitted_own u⟩
  · cases listed

theorem confined_step (roundTrip : ∀ u : Uuid, parseStr u.hyphenated = some u)
    (confined : Confined s) {l : SessionLabel Value}
    (stepped : step encode parse (AppWsPolicy.policy parseStr) s l = some t) : Confined t := by
  cases step_move stepped with
  | connect fresh =>
    refine confined_insert confined _ rfl (fun before found => ?_) (fun op listed => ?_)
      (fun phase => by cases phase)
    · exact absurd (Finmap.mem_of_lookup_eq_some found) fresh
    · obtain rfl := List.mem_singleton.mp listed
      exact ⟨rfl, rfl⟩
  | @accepted id session ops found ready verdict =>
    obtain ⟨own, _⟩ := confined.todo id session found
    have lawful := onConnect_lawful own (owner_eq confined found ready.2.2) rfl
    have listed : (AppWsPolicy.onConnect session.ctx).1 = ops := congrArg Prod.fst verdict
    exact confined_insert confined _ own
      (fun before h => by rw [Option.some.inj (found.symm.trans h)]) (listed ▸ lawful)
      (fun _ => ready.2.2)
  | @rejected id session ops reason found ready verdict =>
    obtain ⟨own, _⟩ := confined.todo id session found
    have lawful := onConnect_lawful own (owner_eq confined found ready.2.2) rfl
    have listed : (AppWsPolicy.onConnect session.ctx).1 = ops := congrArg Prod.fst verdict
    refine confined_insert confined _ own
      (fun before h => by rw [Option.some.inj (found.symm.trans h)]) (fun op member => ?_)
      (fun phase => by cases phase)
    rcases List.mem_append.mp member with asked | rest
    · exact lawful op (by rw [listed]; exact asked)
    · exact lawful_teardown _ _ _ op rest
  | @text id session text found ready =>
    obtain ⟨own, _⟩ := confined.todo id session found
    have registered := confined.running id session found ready.2
    refine confined_insert confined _ own
      (fun before h => by rw [Option.some.inj (found.symm.trans h)]) ?_ (fun _ => registered)
    exact text_lawful roundTrip own (owner_eq confined found registered) rfl text
  | @outbound id session found ready =>
    obtain ⟨own, _⟩ := confined.todo id session found
    refine confined_insert confined _ own
      (fun before h => by rw [Option.some.inj (found.symm.trans h)]) (fun op listed => ?_)
      (fun _ => confined.running id session found ready.2)
    obtain rfl := List.mem_singleton.mp listed
    rfl
  | @close id session found _ =>
    obtain ⟨own, _⟩ := confined.todo id session found
    exact confined_insert confined _ own
      (fun before h => by rw [Option.some.inj (found.symm.trans h)]) (lawful_teardown _ _ _)
      (fun phase => by cases phase)
  | @next id session op rest tasks found todo started =>
    obtain ⟨own, ops⟩ := confined.todo id session found
    obtain ⟨_, _, rfl⟩ := HubTasks.start_cases started
    have lawful : LawfulOp s.tasks.owner id session op :=
      ops op (by rw [todo]; exact List.mem_cons_self)
    have begun := confined_start confined (.session id) op
      (fun c hc => lawful_session_calls found lawful hc)
    refine confined_insert begun { session with todo := rest } own
      (fun before h => by rw [Option.some.inj (found.symm.trans h)]) (fun later listed => ?_)
      (confined.running id session found)
    exact ops later (by rw [todo]; exact List.mem_cons_of_mem op listed)
  | @server n op tasks server started =>
    obtain ⟨_, _, rfl⟩ := HubTasks.start_cases started
    exact confined_start confined _ op (fun c hc => lawful_server_calls server hc)
  | run ran =>
    obtain ⟨c, rest, h, more, found, done, rfl⟩ := HubTasks.run_cases ran
    exact confined_run confined found done

end Step

end Sessions
end ApiBoilerplate
