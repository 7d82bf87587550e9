import ApiBoilerplate.Ws.SessionRun

/-!
# Which hooks a session calls on its way out

A session leaves by one of three ways: rejected by the policy, with the welcome
frame refused by the socket, or out of its loop. All three take the connection
out of the hub; only the last one tells the policy about it.
-/

namespace ApiBoilerplate

open Foundation
open WsHub (Op)

/-- The connection has been offered to the hub. -/
def Stage.registered {Value : Type} : Stage Value → Bool
  | .handshake => false
  | .refused => false
  | _ => true

/-- The session has taken its connection out of the hub. -/
def Stage.removed {Value : Type} : Stage Value → Bool
  | .disconnecting _ => true
  | .closing _ => true
  | .finishing => true
  | .returned => true
  | _ => false

namespace SessionTask
variable {Value : Type} {config : SessionConfig} {ctx : WsContext}
  {encode : ServerMessage Value → Except WsError ByteString}
  {parse : String → Except String (ClientMessage Value)} {hub : WsHub Value}
  {task task' : SessionTask Value} {event : SessionEvent Value}

theorem received_registered (message : AggregatedMessage) :
    (received parse message).registered = true ∧ (received parse message).removed = false := by
  cases message with
  | text text =>
    simp only [received, handling]
    rcases parse text with e | m
    · exact ⟨rfl, rfl⟩
    · cases m <;> exact ⟨rfl, rfl⟩
  | binary | ping | pong | close => exact ⟨rfl, rfl⟩

theorem written_registered {ok : Bool} {before after : Stage Value} {out : List (Sent Value)}
    (done : written config ctx encode ok before = some (after, out)) :
    before.registered = true ∧ after.removed = false := by
  cases before <;> cases done <;> refine ⟨rfl, ?_⟩ <;> split <;> rfl

/-- Without a hub operation a session is neither registered nor removed. -/
theorem Nexts.kept (nexts : Nexts config ctx encode parse hub task event task') :
    task.stage.registered = true ∧ (task'.stage.removed = true → task.stage.removed = true) := by
  cases nexts with
  | accepted here | rejected here | evicted here _ _ | ended here | protocolError here
  | authorized here | forbidden here | published here | unpublished here _ =>
    rw [here]
    exact ⟨rfl, fun removed => by cases removed⟩
  | onDisconnect here | close here =>
    rw [here]
    exact ⟨rfl, fun _ => rfl⟩
  | write done =>
    obtain ⟨registered, here⟩ := written_registered done
    refine ⟨registered, fun removed => ?_⟩
    rw [here] at removed
    cases removed
  | @message m now here =>
    refine ⟨by rw [here]; rfl, fun removed => ?_⟩
    rw [(received_registered m).2] at removed
    cases removed
  | tick here =>
    refine ⟨by rw [here]; rfl, fun removed => ?_⟩
    dsimp only at removed
    split at removed <;> cases removed

theorem afterUnregister_removed {before after : Stage Value}
    (leaves : afterUnregister before = some after) :
    before.registered = true ∧ after.removed = true := by
  cases before <;> cases leaves <;> exact ⟨rfl, rfl⟩

end SessionTask

namespace SessionRun
variable {Value : Type} {config : SessionConfig} {ctx : WsContext}
  {encode : ServerMessage Value → Except WsError ByteString}
  {parse : String → Except String (ClientMessage Value)} {s t : SessionRun Value}

/-- The connection of the session between its registration and its removal. -/
structure Kept (ctx : WsContext) (s : SessionRun Value) : Prop where
  opened : s.tasks.hub.ConnectionsHaveChannels
  registered : s.task.stage.registered = true →
    ctx.connectionId ∈ s.tasks.hub.channels ∨
      ∃ userId now, s.tasks.pending.lookup (.session ctx.connectionId) =
        some [.connectionsInsert ctx.connectionId userId now]
  removed : s.task.stage.removed = true →
    ctx.connectionId ∈ s.tasks.hub.channels ∧ ctx.connectionId ∉ s.tasks.hub.connections

/-- Between its operations a registered session has its channel. -/
theorem Kept.channel (kept : Kept ctx s) (idle : .session ctx.connectionId ∉ s.tasks.pending)
    (registered : s.task.stage.registered = true) :
    ctx.connectionId ∈ s.tasks.hub.channels := by
  rcases kept.registered registered with opened | ⟨userId, now, waiting⟩
  · exact opened
  · exact absurd (Finmap.mem_of_lookup_eq_some waiting) idle

theorem kept_init (nodeId : Uuid) (hubConfig : WebSocketConfig)
    (clusterTx : Option (Mpsc (ClusterFrame Value))) :
    Kept ctx (machine encode parse config ctx nodeId hubConfig clusterTx).init where
  opened _ present := absurd present Finmap.notMem_empty
  registered start := by cases start
  removed start := by cases start

/-- A call made by any task, while the session's own stage stands. -/
theorem kept_ran (kept : Kept ctx s) {name : TaskName} {ids : List ConnectionId}
    {topics : List Topic} {tasks : HubTasks Value}
    (ran : s.tasks.step encode (.run name ids topics) = some tasks) :
    Kept ctx (⟨tasks, s.task⟩ : SessionRun Value) := by
  obtain ⟨c, rest, h, more, found, done, rfl⟩ := HubTasks.run_cases ran
  have touch := HubTasks.exec_touch done
  constructor
  · exact fun _ present => touch.opened kept.opened present
  · intro registered
    rcases kept.registered registered with opened | ⟨userId, now, waiting⟩
    · exact Or.inl (touch.channels opened)
    · by_cases own : name = .session ctx.connectionId
      · rw [own, waiting] at found
        cases found
        cases HubTasks.exec_made done with
        | registered | registeredFor => exact Or.inl (Finmap.mem_insert.mpr (Or.inl rfl))
      · refine Or.inr ⟨userId, now, ?_⟩
        change (HubTasks.setCalls s.tasks.pending name (more ++ rest)).lookup _ = _
        rw [HubTasks.lookup_setCalls, if_neg (fun same => own same.symm), waiting]
  · intro removed
    obtain ⟨known, gone⟩ := kept.removed removed
    exact ⟨touch.channels known, touch.stays_away known gone⟩

theorem kept_requested (kept : Kept ctx s) {event : SessionEvent Value} {op : Op Value}
    {ids : List ConnectionId} {topics : List Topic} {task : SessionTask Value}
    {tasks : HubTasks Value} (idle : .session ctx.connectionId ∉ s.tasks.pending)
    (requests : s.task.Requests ctx s.tasks.hub event op task)
    (performed : s.tasks.perform encode (.session ctx.connectionId) op ids topics = some tasks) :
    Kept ctx ⟨tasks, task⟩ := by
  obtain ⟨c, rest, h, more, pending, calls, _, done, rfl, waiting⟩ :=
    HubTasks.perform_cases performed
  have touch := HubTasks.exec_touch done
  have opened : h.ConnectionsHaveChannels := fun _ present => touch.opened kept.opened present
  have stays : s.task.stage.registered = true → task.stage.removed = s.task.stage.removed →
      Kept ctx ⟨⟨h, pending, HubTasks.owned s.tasks.owner c,
        s.tasks.log ++ HubTasks.logged s.tasks.hub c⟩, task⟩ := by
    intro registered same
    refine ⟨opened, fun _ => Or.inl (touch.channels (kept.channel idle registered)), ?_⟩
    intro removed
    rw [same] at removed
    obtain ⟨known, gone⟩ := kept.removed removed
    exact ⟨touch.channels known, touch.stays_away known gone⟩
  cases requests with
  | @register now instant here =>
    cases calls
    refine ⟨opened, fun registered => ?_, fun removed => ?_⟩
    · cases HubTasks.exec_made done with
      | atCapacity full => simp [full, Stage.registered] at registered
      | admitted _ =>
        refine Or.inr ⟨ctx.userId, now, ?_⟩
        change pending.lookup _ = _
        rw [waiting, if_pos rfl]
        rfl
    · dsimp only at removed
      split at removed <;> cases removed
  | policy awaits _ =>
    refine stays ?_ rfl
    cases stage : s.task.stage <;> simp [stage, SessionTask.awaitsPolicy] at awaits <;> rfl
  | outbound here _ => exact stays (by rw [here]; rfl) (by rw [here]; rfl)
  | subscribe here | unsubscribe here | publish here =>
    exact stays (by rw [here]; rfl) (by rw [here]; rfl)
  | unregister leaves =>
    cases calls
    obtain ⟨registered, _⟩ := SessionTask.afterUnregister_removed leaves
    have known := kept.channel idle registered
    refine ⟨opened, fun _ => Or.inl (touch.channels known), fun _ => ⟨touch.channels known, ?_⟩⟩
    cases HubTasks.exec_made done with
    | removedGone absent => exact Finmap.lookup_eq_none.mp absent
    | removed _ _ => exact fun present => (Finmap.mem_erase.mp present).1 rfl
  | finish here =>
    obtain ⟨known, gone⟩ := kept.removed (by rw [here]; rfl)
    exact ⟨opened, fun _ => Or.inl (touch.channels known),
      fun _ => ⟨touch.channels known, touch.stays_away known gone⟩⟩

theorem kept_step {l : SessionRunLabel Value} (kept : Kept ctx s)
    (stepped : step encode parse config ctx s l = some t) : Kept ctx t := by
  cases step_moves stepped with
  | @started name op tasks other _ started =>
    obtain ⟨_, _, rfl⟩ := HubTasks.start_cases started
    refine ⟨kept.opened, fun registered => ?_, kept.removed⟩
    rcases kept.registered registered with opened | ⟨userId, now, waiting⟩
    · exact Or.inl opened
    · refine Or.inr ⟨userId, now, ?_⟩
      change (HubTasks.setCalls s.tasks.pending name op.calls).lookup _ = _
      rw [HubTasks.lookup_setCalls, if_neg (fun same => other same.symm), waiting]
  | ran ran => exact kept_ran kept ran
  | requested idle requests performed => exact kept_requested kept idle requests performed
  | moved idle nexts =>
    obtain ⟨registered, stays⟩ := nexts.kept
    exact ⟨kept.opened, fun _ => Or.inl (kept.channel idle registered),
      fun removed => kept.removed (stays removed)⟩

/-- What an observer of the policy and the hub sees of one session. -/
inductive Hook where
  /-- `on_connect` accepted the connection. -/
  | connected
  | rejected
  | welcomeFailed
  | unregistered
  /-- `on_disconnect` is called, with the connection still in the hub or not. -/
  | disconnected (registered : Bool)
  | returned
  deriving DecidableEq, Repr

def Hook.isDisconnected : Hook → Bool
  | .disconnected _ => true
  | _ => false

def Stage.isWelcoming : Stage Value → Bool
  | .welcoming => true
  | _ => false

variable (config ctx encode) in
/-- The hooks of one step. -/
def hooks (s : SessionRun Value) : SessionRunLabel Value → List Hook
  | .own (.onConnect (.ok ())) _ _ => [.connected]
  | .own (.onConnect (.error _)) _ _ => [.rejected]
  | .own (.write ok) _ _ =>
    if Stage.isWelcoming s.task.stage ∧
        (SessionTask.send encode (SessionTask.welcome config ctx) ok).1 = false
    then [.welcomeFailed] else []
  | .own .unregister _ _ => [.unregistered]
  | .own .onDisconnect _ _ => [.disconnected (ctx.connectionId ∈ s.tasks.hub.connections)]
  | .own .finish _ _ => [.returned]
  | _ => []

/-- `on_disconnect` was called once, after the connection was removed from the
hub and before `run` returned. -/
structure Paired (seen : List Hook) : Prop where
  once : seen.countP Hook.isDisconnected = 1
  inOrder : List.Sublist [.unregistered, .disconnected false, .returned] seen

/-- The three ways out. -/
inductive WayOut : List Hook → Prop where
  | rejected : WayOut [.rejected, .unregistered]
  | turnedAway : WayOut [.connected, .welcomeFailed, .unregistered]
  | left : WayOut [.connected, .unregistered, .disconnected false]

/-- What has been seen when a session stands at a stage. -/
def Shape : Stage Value → List Hook → Prop
  | .handshake, seen => seen = []
  | .refused, seen => seen = []
  | .connecting, seen => seen = []
  | .rejected _, seen => seen = [.rejected]
  | .turnedAway, seen => seen = [.connected, .welcomeFailed]
  | .disconnecting _, seen => seen = [.connected, .unregistered]
  | .closing _, seen => WayOut seen
  | .finishing, seen => WayOut seen
  | .returned, seen => ∃ way, WayOut way ∧ seen = way ++ [.returned]
  | _, seen => seen = [.connected]

theorem shape_received (message : AggregatedMessage) :
    Shape (SessionTask.received parse message) [.connected] := by
  cases message with
  | text text =>
    simp only [SessionTask.received, SessionTask.handling]
    rcases parse text with e | m
    · rfl
    · cases m <;> rfl
  | binary | ping | pong | close => rfl

theorem shape_written {ok : Bool} {stage : Stage Value} {out : List (Sent Value)}
    {seen : List Hook} {ids : List ConnectionId} {topics : List Topic}
    (done : SessionTask.written config ctx encode ok s.task.stage = some (stage, out))
    (shape : Shape s.task.stage seen) :
    Shape stage (seen ++ hooks config ctx encode s (.own (.write ok) ids topics)) := by
  cases before : s.task.stage with
  | welcoming =>
    rw [before] at done shape
    obtain rfl : seen = [.connected] := shape
    cases done
    cases sent : (SessionTask.send encode (SessionTask.welcome config ctx) ok).1 with
    | false => simp [hooks, before, Stage.isWelcoming, sent, Shape]
    | true => simp [hooks, before, Stage.isWelcoming, sent, Shape]
  | forwarding frame | responding request response | ponging bytes | pinging =>
    rw [before] at done shape
    obtain rfl : seen = [.connected] := shape
    cases done
    simp only [hooks, before, Stage.isWelcoming]
    split <;> simp [Shape]
  | _ =>
    rw [before] at done
    cases done

theorem shape_step {l : SessionRunLabel Value} {seen : List Hook} (kept : Kept ctx s)
    (shape : Shape s.task.stage seen) (stepped : step encode parse config ctx s l = some t) :
    Shape t.task.stage (seen ++ hooks config ctx encode s l) := by
  cases step_moves stepped with
  | started _ _ _ => simpa [hooks] using shape
  | ran _ => simpa [hooks] using shape
  | requested idle requests _ =>
    cases requests with
    | register here =>
      rw [here] at shape
      obtain rfl : seen = [] := shape
      simp only [hooks]
      split <;> rfl
    | policy _ _ => simpa [hooks] using shape
    | outbound here _ | subscribe here | unsubscribe here | publish here =>
      rw [here] at shape
      simpa [hooks, Shape] using shape
    | unregister leaves =>
      cases before : s.task.stage <;> rw [before] at leaves shape <;> cases leaves
      · obtain rfl : seen = [.rejected] := shape
        exact .rejected
      · obtain rfl : seen = [.connected, .welcomeFailed] := shape
        exact .turnedAway
      · obtain rfl : seen = [.connected] := shape
        rfl
    | finish here =>
      rw [here] at shape
      exact ⟨seen, shape, rfl⟩
  | moved idle nexts =>
    cases nexts with
    | accepted here | rejected here =>
      rw [here] at shape
      obtain rfl : seen = [] := shape
      rfl
    | write done => exact shape_written done shape
    | evicted here _ _ | ended here | protocolError here | authorized here | forbidden here
    | published here | unpublished here _ =>
      rw [here] at shape
      simpa [hooks, Shape] using shape
    | @message m now here =>
      rw [here] at shape
      obtain rfl : seen = [.connected] := shape
      exact shape_received m
    | tick here =>
      rw [here] at shape
      obtain rfl : seen = [.connected] := shape
      simp only [hooks]
      split <;> rfl
    | onDisconnect here =>
      rw [here] at shape
      obtain rfl : seen = [.connected, .unregistered] := shape
      obtain ⟨_, gone⟩ := kept.removed (by rw [here]; rfl)
      simpa [hooks, gone, Shape] using WayOut.left
    | close here =>
      rw [here] at shape
      simpa [hooks, Shape] using shape

section Runs
variable {nodeId : Uuid} {hubConfig : WebSocketConfig}
  {clusterTx : Option (Mpsc (ClusterFrame Value))}

theorem reachable_kept
    (reach : (machine encode parse config ctx nodeId hubConfig clusterTx).Reachable s) :
    Kept ctx s :=
  Machine.ReachableWhere.invariant (I := Kept ctx) (kept_init nodeId hubConfig clusterTx)
    (fun _ _ _ kept _ stepped => kept_step kept stepped) reach

/-- What has been seen of a session is one of its ways out, up to where it stands. -/
theorem run_shape {ls : List (SessionRunLabel Value)}
    (run : (machine encode parse config ctx nodeId hubConfig clusterTx).Run
      (fun _ _ => True) ls s) :
    Shape s.task.stage ((machine encode parse config ctx nodeId hubConfig clusterTx).notes
      (hooks config ctx encode) (machine encode parse config ctx nodeId hubConfig clusterTx).init
      ls) := by
  have both : Kept ctx s ∧ Shape s.task.stage
      ((machine encode parse config ctx nodeId hubConfig clusterTx).notes
        (hooks config ctx encode) (machine encode parse config ctx nodeId hubConfig clusterTx).init
        ls) :=
    run.noted (I := fun seen s => Kept ctx s ∧ Shape s.task.stage seen)
      ⟨kept_init nodeId hubConfig clusterTx, rfl⟩
      (fun seen s l t holds _ stepped =>
        ⟨kept_step holds.1 stepped, shape_step holds.1 holds.2 stepped⟩)
  exact both.2

/-- A returned session whose connection was accepted called `on_disconnect` as
promised exactly when the socket did not refuse the welcome frame. -/
theorem hooks_paired_iff {ls : List (SessionRunLabel Value)}
    (run : (machine encode parse config ctx nodeId hubConfig clusterTx).Run
      (fun _ _ => True) ls s)
    {seen : List Hook}
    (observed : seen = (machine encode parse config ctx nodeId hubConfig clusterTx).notes
      (hooks config ctx encode) (machine encode parse config ctx nodeId hubConfig clusterTx).init
      ls)
    (returned : s.task.stage = .returned) (accepted : .connected ∈ seen) :
    Paired seen ↔ .welcomeFailed ∉ seen := by
  have shape := run_shape run
  rw [← observed, returned] at shape
  obtain ⟨way, out, rfl⟩ := shape
  cases out with
  | rejected => simp at accepted
  | turnedAway =>
    refine ⟨fun paired => ?_, fun absent => by simp at absent⟩
    have called := paired.once
    simp [Hook.isDisconnected] at called
  | left =>
    refine ⟨fun _ => by simp, fun _ => ⟨rfl, ?_⟩⟩
    exact List.sublist_cons_self _ _

end Runs

section Examples

/-- Connection 1, anonymous, on a hub without limits. -/
def anonymous : Machine (SessionRun Nat) (SessionRunLabel Nat) :=
  machine WsHub.plainFrame (fun e => .error e) ⟨20, 60⟩ ⟨1, none, none⟩ 9 ⟨0, 0, 1⟩ none

/-- The handshake, up to the welcome frame. -/
def greeted (ok : Bool) : List (SessionRunLabel Nat) :=
  [.own (.register 0 0) [] [], .hub (.run (.session 1) [] []), .own (.onConnect (.ok ())) [] [],
    .own (.write ok) [] []]

/-- The stream ends after the welcome. -/
def hungUp : List (SessionRunLabel Nat) :=
  greeted true ++ [.own (.inbound none 5) [] [], .own .unregister [] [],
    .own .onDisconnect [] [], .own .close [] [], .own .finish [] []]

/-- The peer is gone before the welcome. -/
def neverGreeted : List (SessionRunLabel Nat) :=
  greeted false ++ [.own .unregister [] [], .own .finish [] []]

def hooksSeen (ls : List (SessionRunLabel Nat)) : List Hook :=
  anonymous.notes (hooks ⟨20, 60⟩ ⟨1, none, none⟩ WsHub.plainFrame) anonymous.init ls

theorem hooks_paired_iff_hungUp : Paired (hooksSeen hungUp) := by
  have run : anonymous.Run (fun _ _ => True) hungUp
      (anonymous.follow (fun _ _ => true) hungUp) :=
    Machine.run_follow (fun _ _ _ => trivial) (by decide +kernel)
  have returned : (anonymous.follow (fun _ _ => true) hungUp).task.stage = .returned := by rfl
  exact (hooks_paired_iff run rfl returned (by decide +kernel)).mpr (by decide +kernel)

/-- The welcome frame is refused: accepted by the policy, removed from the hub,
and the policy never told. -/
theorem hook_skipped :
    ¬ ∀ ls s, anonymous.Run (fun _ _ => True) ls s → s.task.stage = .returned →
      .connected ∈ hooksSeen ls → Paired (hooksSeen ls) := by
  intro claim
  have run : anonymous.Run (fun _ _ => True) neverGreeted
      (anonymous.follow (fun _ _ => true) neverGreeted) :=
    Machine.run_follow (fun _ _ _ => trivial) (by decide +kernel)
  have returned : (anonymous.follow (fun _ _ => true) neverGreeted).task.stage = .returned := by
    rfl
  have called := (claim _ _ run returned (by decide +kernel)).once
  have skipped : (hooksSeen neverGreeted).countP Hook.isDisconnected = 0 := by decide +kernel
  rw [skipped] at called
  cases called

end Examples

end SessionRun
end ApiBoilerplate
