import SmsPlatform.Messages.Workflow

/-!
# What the connectors answer

`HttpProviderService.submit` and `SmppConnectorService.submitSm` turn what the network brings back into a
`DispatchResult`.  Only a provider that says so has accepted a message; when nothing is known of the outcome the result
is `uncertain`, and never accepted.
-/

namespace SmsPlatform

/-! ### HttpProviderService -/

/-- The fields that are read of a response body, if they are there. -/
structure HttpResponseData where
  messageId : Option String
  id : Option String

/-- What `axios.post` ends with: `validateStatus` lets every response through. -/
inductive HttpReply
  | response (status : Nat) (data : HttpResponseData)
  | axiosError (message : String) (code : Option String) (hasResponse : Bool)
  | otherError

def HttpProviderService.submit (reply : HttpReply) (latencyMs : Nat) : Except String DispatchResult :=
  match reply with
  | .response status data =>
    if 200 ≤ status ∧ status < 300 then .ok {
      accepted := true
      providerMessageId := data.messageId.or data.id
      latencyMs := some latencyMs }
    else if status = 429 then .ok {
      accepted := false
      errorCode := some "throttle"
      errorMessage := some "HTTP provider throttled the request"
      latencyMs := some latencyMs
      retryable := some true }
    else if 500 ≤ status then .ok {
      accepted := false
      errorCode := some "http_provider_error"
      errorMessage := some "HTTP provider returned a server error"
      latencyMs := some latencyMs
      retryable := some true }
    else .ok {
      accepted := false
      errorCode := some ("http_" ++ status.repr)
      errorMessage := some "HTTP provider rejected the request"
      latencyMs := some latencyMs }
  | .axiosError message code hasResponse =>
    if hasResponse = false ∨ code = some "ECONNABORTED" then .ok {
      accepted := false
      errorCode := some "unknown_submit_outcome"
      errorMessage := some message
      latencyMs := some latencyMs
      retryable := some false
      uncertain := some true }
    else .ok {
      accepted := false
      errorCode := some "http_provider_error"
      errorMessage := some message
      latencyMs := some latencyMs
      retryable := some true }
  | .otherError => .error "HTTP provider request failed unexpectedly"

/-! ### SmppConnectorService -/

/-- What `submitSm` ends with: a bind that fails or a session over its limit throws, the timer may be first, or the
`submit_sm_resp` of the provider. -/
inductive SmppReply
  | thrown (message : String)
  | timedOut
  | response (commandStatus : Nat) (messageId : Option String)

def SmppConnectorService.submitSm (reply : SmppReply) (latencyMs : Nat) : Except String DispatchResult :=
  match reply with
  | .thrown message => .error message
  | .timedOut => .ok {
      accepted := false
      errorCode := some "unknown_submit_outcome"
      errorMessage := some "SMPP submit result timed out"
      latencyMs := some latencyMs
      uncertain := some true }
  | .response commandStatus messageId =>
    if commandStatus = 0 then .ok {
      accepted := true
      providerMessageId := messageId
      latencyMs := some latencyMs }
    else .ok {
      accepted := false
      errorCode := some (if commandStatus = 88 then "smpp_throttle" else "smpp_" ++ commandStatus.repr)
      errorMessage := some "SMPP submit_sm rejected"
      latencyMs := some latencyMs
      retryable := some (decide (commandStatus = 88)) }

/-! ### What a result says -/

/-- The provider has said that it took the message, under this id. -/
inductive Confirmed (answer : Except String DispatchResult) (providerMessageId : Option String) : Prop
  | http (status : Nat) (data : HttpResponseData) (latencyMs : Nat) (hstatus : 200 ≤ status ∧ status < 300)
      (hid : providerMessageId = data.messageId.or data.id)
      (h : answer = HttpProviderService.submit (.response status data) latencyMs)
  | smpp (messageId : Option String) (latencyMs : Nat) (hid : providerMessageId = messageId)
      (h : answer = SmppConnectorService.submitSm (.response 0 messageId) latencyMs)

theorem HttpProviderService.confirmed {reply : HttpReply} {latencyMs : Nat} {result : DispatchResult}
    (h : submit reply latencyMs = .ok result) (haccepted : result.accepted = true) :
    Confirmed (.ok result) result.providerMessageId := by
  cases reply with
  | response status data =>
    by_cases hstatus : 200 ≤ status ∧ status < 300
    · refine .http status data latencyMs hstatus ?_ h.symm
      unfold submit at h
      dsimp only at h
      rw [if_pos hstatus] at h
      cases h
      rfl
    · unfold submit at h
      dsimp only at h
      rw [if_neg hstatus] at h
      split at h
      · cases h
        cases haccepted
      · split at h <;> cases h <;> cases haccepted
  | axiosError message code hasResponse =>
    unfold submit at h
    dsimp only at h
    split at h <;> cases h <;> cases haccepted
  | otherError => cases h

theorem SmppConnectorService.confirmed {reply : SmppReply} {latencyMs : Nat} {result : DispatchResult}
    (h : submitSm reply latencyMs = .ok result) (haccepted : result.accepted = true) :
    Confirmed (.ok result) result.providerMessageId := by
  cases reply with
  | thrown message => cases h
  | timedOut =>
    cases h
    cases haccepted
  | response commandStatus messageId =>
    by_cases hstatus : commandStatus = 0
    · subst hstatus
      refine .smpp messageId latencyMs ?_ h.symm
      cases h
      rfl
    · unfold submitSm at h
      dsimp only at h
      rw [if_neg hstatus] at h
      cases h
      cases haccepted

/-- The submits of these services are those of the connectors, whatever the network does. -/
structure Services.Connected (services : Services) : Prop where
  submit : ∀ request, ∃ reply latencyMs, services.submit request = HttpProviderService.submit reply latencyMs
  submitSm : ∀ request, ∃ reply latencyMs, services.submitSm request = SmppConnectorService.submitSm reply latencyMs

end SmsPlatform
