import SmsPlatform.Compliance.OptOuts
import SmsPlatform.Lib.Expiring
import SmsPlatform.Messages.Workflow

/-!
# The fraud verdict

`evaluate` of `fraud.service.ts`: the rules of the tenant, two counters in Redis and a check of links, merged into one
action with its reasons.  The rules and the tier of the tenant enter as they are read, cached or not, and
`toLowerCase` as a function.  The score, which only goes into alerts, is left out.
-/

namespace SmsPlatform

open Expiring Segments

structure FraudRuleRow where
  ruleType : String
  action : FraudAction
  values : List String

/-- What Redis holds under its keys, and what an evaluation reads beside it. -/
abbrev Counters := String → Cell Nat

structure FraudPolicy where
  rules : List FraudRuleRow
  tenantPriorityTier : Int
  toLowerCase : String → String

/-- The process's clock and that of Redis, in milliseconds: each is read once for the velocity counter and once more for
the prefix counter, which comes some awaits later. -/
structure FraudClock where
  now : Nat
  redisNow : Int
  prefixNow : Nat
  prefixRedisNow : Int

namespace FraudService

def actionPriority : FraudAction → Nat
  | .block => 4
  | .throttle => 3
  | .alert => 2
  | .allow => 1

def mergeAction (current next : FraudAction) : FraudAction :=
  if actionPriority current < actionPriority next then next else current

/-- `text.includes(part)` -/
def includes (text part : String) : Bool := text.toList.tails.any fun rest => part.toList.isPrefixOf rest

/-- `/https?:\/\//i.test(body)` -/
def hasLink (body : String) : Bool :=
  body.toList.tails.any fun rest =>
    let lower := rest.map Char.toLower
    startsWith lower "http://" || startsWith lower "https://"

section Rules

variable (policy : FraudPolicy) (input : FraudEvaluationInput)

/-- The test that a type of rule makes of a value, and the word for it in a reason. -/
def matcher : String → Option (String × (String → Bool))
  | "keyword_block" =>
    some ("keyword", fun value => includes (policy.toLowerCase input.body) (policy.toLowerCase value))
  | "prefix_block" => some ("prefix", fun value => startsWith input.phoneNumber.toList value)
  | "sender_block" =>
    some ("sender", fun value => decide (policy.toLowerCase input.senderId = policy.toLowerCase value))
  | _ => none

/-- The reason of a rule.  The first value that matches is a hit unless it is empty. -/
def ruleReason (rule : FraudRuleRow) : Option String :=
  (matcher policy input rule.ruleType).bind fun (word, test) =>
    ((rule.values.find? test).filter fun hit => decide (hit ≠ "")).map fun hit => word ++ ":" ++ hit

def applyRule (result : FraudEvaluationResult) (rule : FraudRuleRow) : FraudEvaluationResult :=
  match ruleReason policy input rule with
  | none => result
  | some reason => ⟨mergeAction result.action rule.action, result.reasons ++ [reason]⟩

def applyRules : FraudEvaluationResult := policy.rules.foldl (applyRule policy input) ⟨.allow, []⟩

end Rules

/-- One more reason, if the condition holds. -/
def addReason (condition : Prop) [Decidable condition] (reason : String) (action : FraudAction)
    (result : FraudEvaluationResult) : FraudEvaluationResult :=
  if condition then ⟨mergeAction result.action action, result.reasons ++ [reason]⟩ else result

/-- `Math.floor(Date.now() / 60000)` -/
def minute (now : Nat) : Nat := now / 60000

def velocityKey (tenantId : TenantId) (senderId : String) (now : Nat) : String :=
  joinColon ["fraud", "velocity", tenantId.text, senderId, (minute now).repr]

def prefixKey (tenantId : TenantId) (phoneNumber : String) (now : Nat) : String :=
  joinColon ["fraud", "prefix", tenantId.text, .ofList (phoneNumber.toList.take 7), (minute now).repr]

/-- INCR, and EXPIRE in 60 seconds by the first. -/
def hit (counters : Counters) (key : String) (redisNow : Int) : Nat × Counters :=
  let counted := (counters key).hit redisNow 60000
  (counted.1, Function.update counters key counted.2)

def velocityThreshold : Nat := 5000

def prefixThreshold : Nat := 7500

def evaluate (policy : FraudPolicy) (clock : FraudClock) (counters : Counters) (input : FraudEvaluationInput) :
    FraudEvaluationResult × Counters :=
  let velocity := hit counters (velocityKey input.tenantId input.senderId clock.now) clock.redisNow
  let prefixes := hit velocity.2 (prefixKey input.tenantId input.phoneNumber clock.prefixNow) clock.prefixRedisNow
  let result := applyRules policy input
  let result := addReason (velocityThreshold < velocity.1) "velocity_threshold" .throttle result
  let result := addReason (prefixThreshold < prefixes.1) "prefix_velocity_threshold" .throttle result
  let result := addReason (policy.tenantPriorityTier ≤ 1 ∧ input.trafficType = .marketing ∧ hasLink input.body = true)
    "low_trust_marketing_url" .block result
  (result, prefixes.2)

/-! ### The velocity in the verdict -/

variable {policy : FraudPolicy} {clock : FraudClock} {counters : Counters} {input : FraudEvaluationInput}

/-- A rule gives its reason a word of its own. -/
theorem ruleReason_ne {rule : FraudRuleRow} {reason : String} (h : ruleReason policy input rule = some reason) :
    reason ≠ "velocity_threshold" := by
  obtain ⟨⟨word, test⟩, hmatcher, hreason⟩ := Option.bind_eq_some_iff.1 h
  obtain ⟨hit, -, rfl⟩ := Option.map_eq_some_iff.1 hreason
  have hword : word = "keyword" ∨ word = "prefix" ∨ word = "sender" := by
    unfold matcher at hmatcher
    split at hmatcher
    · cases hmatcher
      exact .inl rfl
    · cases hmatcher
      exact .inr (.inl rfl)
    · cases hmatcher
      exact .inr (.inr rfl)
    · cases hmatcher
  intro heq
  have hhead := congrArg (fun text => text.toList.head?) heq
  rcases hword with rfl | rfl | rfl
  all_goals
    rw [String.append_assoc] at hhead
    simp at hhead

theorem not_mem_applyRules : "velocity_threshold" ∉ (applyRules policy input).reasons := by
  have hfold : ∀ (rules : List FraudRuleRow) (result : FraudEvaluationResult),
      "velocity_threshold" ∉ result.reasons →
        "velocity_threshold" ∉ (rules.foldl (applyRule policy input) result).reasons := by
    intro rules
    induction rules with
    | nil => exact fun _ h => h
    | cons rule rules ih =>
      intro result h
      refine ih _ ?_
      unfold applyRule
      split
      · exact h
      · rename_i reason hreason
        have hne := ruleReason_ne hreason
        simp only [List.mem_append, List.mem_singleton, not_or]
        exact ⟨h, fun heq => hne heq.symm⟩
  exact hfold policy.rules ⟨.allow, []⟩ (by simp)

theorem mem_addReason {condition : Prop} [Decidable condition] {reason text : String} {action : FraudAction}
    {result : FraudEvaluationResult} :
    text ∈ (addReason condition reason action result).reasons ↔
      text ∈ result.reasons ∨ (condition ∧ text = reason) := by
  unfold addReason
  by_cases hcondition : condition
  · rw [if_pos hcondition]
    simp [hcondition]
  · rw [if_neg hcondition]
    simp [hcondition]

/-- The verdict names the velocity if and only if the counter is beyond the threshold. -/
theorem mem_reasons_evaluate : "velocity_threshold" ∈ (evaluate policy clock counters input).1.reasons ↔
    velocityThreshold < (hit counters (velocityKey input.tenantId input.senderId clock.now) clock.redisNow).1 := by
  unfold evaluate
  dsimp only
  rw [mem_addReason, mem_addReason, mem_addReason]
  simp [not_mem_applyRules]

/-! ### The keys -/

/-- The sender may contain colons; it stands between segments that do not. -/
theorem velocityKey_inj {tenantId tenantId' : TenantId} {senderId senderId' : String} {now now' : Nat}
    (h : velocityKey tenantId senderId now = velocityKey tenantId' senderId' now') :
    tenantId = tenantId' ∧ senderId = senderId' ∧ minute now = minute now' := by
  obtain ⟨-, h⟩ := joinColon_cons_inj (by decide) (by decide) (by simp) (by simp) h
  obtain ⟨-, h⟩ := joinColon_cons_inj (by decide) (by decide) (by simp) (by simp) h
  obtain ⟨htenant, h⟩ := joinColon_cons_inj tenantId.colonFree tenantId'.colonFree (by simp) (by simp) h
  have hlast : joinColon ([senderId] ++ [(minute now).repr]) = joinColon ([senderId'] ++ [(minute now').repr]) := h
  obtain ⟨hminute, hsender⟩ :=
    joinColon_snoc_inj (colon_not_mem_repr _) (colon_not_mem_repr _) (by simp) (by simp) hlast
  exact ⟨Segment.ext_text htenant, by simpa [joinColon] using hsender, repr_injective hminute⟩

theorem velocityKey_ne_prefixKey (tenantId tenantId' : TenantId) (senderId phoneNumber : String) (now now' : Nat) :
    velocityKey tenantId senderId now ≠ prefixKey tenantId' phoneNumber now' := by
  intro h
  obtain ⟨-, h⟩ := joinColon_cons_inj (by decide) (by decide) (by simp) (by simp) h
  obtain ⟨hword, -⟩ := joinColon_cons_inj (by decide) (by decide) (by simp) (by simp) h
  exact absurd hword (by decide)

/-- An evaluation counts once under its velocity key and leaves the other velocity keys alone. -/
theorem evaluate_velocity (tenantId : TenantId) (senderId : String) (now : Nat) :
    (evaluate policy clock counters input).2 (velocityKey tenantId senderId now) =
      if velocityKey input.tenantId input.senderId clock.now = velocityKey tenantId senderId now then
        ((counters (velocityKey tenantId senderId now)).hit clock.redisNow 60000).2
      else counters (velocityKey tenantId senderId now) := by
  have hother := velocityKey_ne_prefixKey tenantId input.tenantId senderId input.phoneNumber now clock.prefixNow
  unfold evaluate hit
  dsimp only
  rw [Function.update_of_ne hother]
  split
  · rename_i hsame
    rw [hsame, Function.update_self]
  · rename_i hne
    rw [Function.update_of_ne (Ne.symm hne)]

end FraudService

end SmsPlatform
