import SmsPlatform.Lib.Records
import SmsPlatform.Messages.Preparation
import SmsPlatform.Pipeline.Events

/-!
# Requests and routes

The pipeline with the requests that feed it: a step serves a submission from its first check to its COMMIT, over the
compliance tables and the sender IDs as it finds them, or is a step of the handlers.  Beside it stands a record of the
routes that are chosen for messages and of the submits that go out to providers (`World.sees`), which the results about
routes speak of.
-/

namespace SmsPlatform

open Transition

/-! ### The platform -/

inductive PlatformRequest
  | submit (services : SubmissionServices) (context : SubmissionContext) (dto : SubmitMessageDto) (clock : TxClock)
  | handle (action : Action)

/-- A request, and the tables of the platform at its time. -/
structure PlatformAction where
  compliance : ComplianceDb
  senderIds : List SenderIdRow
  request : PlatformRequest

/-- The step of the pipeline that an action takes; a submission that does not pass its checks takes none. -/
def PlatformAction.action (a : PlatformAction) : Option Action :=
  match a.request with
  | .submit services context dto clock =>
    match MessagesService.prepareSubmission services a.compliance a.senderIds context dto with
    | .ok submission => some (.submit clock submission)
    | .error _ => none
  | .handle (.submit _ _) => none
  | .handle action => some action

def World.platformStep (world : World) (a : PlatformAction) : Option World :=
  match a.action with
  | some action => world.step action
  | none => some world

/-- Every step is one of the pipeline, or none. -/
theorem World.platformStep_cases {world world' : World} {a : PlatformAction} (h : world.platformStep a = some world') :
    (a.action = none ∧ world' = world) ∨ ∃ action, a.action = some action ∧ world.step action = some world' := by
  unfold World.platformStep at h
  split at h
  · rename_i action haction
    exact .inr ⟨action, haction, h⟩
  · rename_i haction
    cases h
    exact .inl ⟨haction, rfl⟩

theorem reaches_of_platform {ok : World → PlatformAction → Prop} {world world' : World}
    (h : Runs World.platformStep ok world world') : Reaches World.step world world' := by
  induction h with
  | refl => exact .refl
  | tail a _ _ hstep ih =>
    rcases World.platformStep_cases hstep with ⟨-, rfl⟩ | ⟨action, -, hmove⟩
    · exact ih
    · exact .tail action ih trivial hmove

/-- A submission that reaches the pipeline has passed its checks. -/
theorem PlatformAction.prepared {a : PlatformAction} {clock : TxClock} {submission : Submission}
    (h : a.action = some (.submit clock submission)) :
    ∃ services context dto, MessagesService.Prepared services a.compliance a.senderIds context dto submission := by
  unfold PlatformAction.action at h
  split at h
  · rename_i services context dto clock' hrequest
    split at h
    · rename_i prepared hprepare
      cases h
      exact ⟨services, context, dto, MessagesService.prepareSubmission_ok hprepare⟩
    · cases h
  · cases h
  · rename_i action hnot hrequest
    cases h
    exact (hnot _ _ rfl).elim

/-! ### Routes and submits -/

/-- A route that `selectRoute` has returned for a message, with the sender name it is to carry. -/
structure Selection where
  message : MessageRow
  senderName : String
  route : RouteDecision

/-- The route that the next step of the stage selects and writes: the row it has read is still the current one. -/
def Stage.selects (env : Environment) (db : Db) : Stage → Option Selection
  | .accepted job =>
    if job.message ∈ db.messages then
      (env.services.selectRoute job.message.tenantId job.message.phoneNumber job.message.trafficType
        (acceptedRouteOptions job.message)).toOption.map (⟨job.message, job.payload.senderId, ·⟩)
    else none
  | .result job =>
    if job.message ∈ db.messages ∧ job.payload.accepted.getD false = false ∧ job.payload.uncertain.getD false = false ∧
        shouldRetry job.payload job.message (env.services.getRetryPolicy job.message.tenantId
          (job.message.providerId.getD 0) job.message.trafficType) = true then
      (env.services.selectRoute job.message.tenantId job.message.phoneNumber job.message.trafficType
        (retryRouteOptions job.payload job.message)).toOption.map (⟨job.message, job.payload.senderId, ·⟩)
    else none
  | _ => none

/-- The provider that the next step of the stage submits to, and the SMPP config it submits through, if any. -/
def Stage.submitsVia (env : Environment) (db : Db) : Stage → Option (Nat × Option Nat)
  | .provider job _ =>
    match planDispatch env.services db job.payload with
    | .ok (.http _) => job.payload.providerId.map (·, none)
    | .ok (.smpp _) =>
      job.payload.providerId.map (·, (db.findMessage job.payload.toComposite).bind (·.smppConfigId))
    | _ => none
  | _ => none

inductive RouteEntry
  | selected (ref : MessageCompositeId) (senderName : String) (route : RouteDecision) (approved : Bool)
  | submitted (ref : MessageCompositeId) (senderName : String) (providerId : Nat) (smppConfigId : Option Nat)
  deriving DecidableEq

def Selection.entry (senderIds : List SenderIdRow) (selection : Selection) : RouteEntry :=
  .selected selection.message.composite selection.senderName selection.route
    (decide (Approved senderIds selection.message.tenantId selection.senderName selection.route.providerId))

/-- What the next step of the stage shows of routes. -/
def Stage.sees (senderIds : List SenderIdRow) (env : Environment) (db : Db) (stage : Stage) : List RouteEntry :=
  ((stage.selects env db).map (·.entry senderIds)).toList ++
    match stage.event, stage.submitsVia env db with
    | some payload, some (providerId, smppConfigId) =>
      [.submitted payload.toComposite payload.senderId providerId smppConfigId]
    | _, _ => []

/-- What a step shows of routes: the preview a new message is stored with, the route an execution writes, and its
submit. -/
def World.sees (world : World) (a : PlatformAction) (world' : World) : List RouteEntry :=
  match a.action with
  | some (.submit clock submission) =>
    let row := submission.row clock world.db.nextMessageId
    if row ∈ world'.db.messages then
      [Selection.entry a.senderIds ⟨row, submission.senderId, submission.routePreview⟩]
    else []
  | some (.advance index env) =>
    match world.executions[index]? with
    | some execution => execution.stage.sees a.senderIds env world.db
    | none => []
  | _ => []

abbrev RouteLog := Recorded World RouteEntry

abbrev RouteLog.step : RouteLog → PlatformAction → Option RouteLog := recorded World.platformStep World.sees

def RouteLog.initial (wallets : TenantId → Option WalletRow) : RouteLog := ⟨World.initial wallets, []⟩

end SmsPlatform
