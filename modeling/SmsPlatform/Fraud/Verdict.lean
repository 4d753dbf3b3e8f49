import Mathlib.Order.Bounds.Basic
import SmsPlatform.Fraud.Fraud

/-!
# The fraud verdict as a join

`evaluate` merges the actions of the rules that fire and of three more checks.  By severity the actions are a linear
order, `mergeAction` is its maximum, and the verdict is the greatest of what contributes to it, in whatever order the
rules are read.  A rule whose first match is the empty value does not fire, whatever else matches.
-/

namespace SmsPlatform

/-- A policy with other rules. -/
def FraudPolicy.withRules (policy : FraudPolicy) (rules : List FraudRuleRow) : FraudPolicy :=
  { policy with rules := rules }

namespace FraudService

theorem actionPriority_injective : Function.Injective actionPriority := by
  intro action action' h
  cases action <;> cases action' <;> first | rfl | exact absurd h (by decide)

/-- Actions by their severity. -/
instance : LinearOrder FraudAction := LinearOrder.lift' actionPriority actionPriority_injective

example : FraudAction.allow < .alert ∧ FraudAction.alert < .throttle ∧ FraudAction.throttle < .block := by decide

theorem action_le_iff {action action' : FraudAction} :
    action ≤ action' ↔ actionPriority action ≤ actionPriority action' :=
  Iff.rfl

theorem allow_le (action : FraudAction) : FraudAction.allow ≤ action := by
  rw [action_le_iff]
  cases action <;> decide

theorem mergeAction_eq_max (current next : FraudAction) : mergeAction current next = max current next := by
  unfold mergeAction
  by_cases h : actionPriority current < actionPriority next
  · rw [if_pos h]
    exact (max_eq_right (action_le_iff.2 h.le)).symm
  · rw [if_neg h]
    exact (max_eq_left (action_le_iff.2 (not_lt.1 h))).symm

/-! ### The rules -/

section Rules

variable {policy : FraudPolicy} {input : FraudEvaluationInput} {rule : FraudRuleRow}

/-- The loop over the rules takes this one: the value that is found for it is truthy. -/
def Fires (policy : FraudPolicy) (input : FraudEvaluationInput) (rule : FraudRuleRow) : Prop :=
  ∃ word test hit, matcher policy input rule.ruleType = some (word, test) ∧ rule.values.find? test = some hit ∧ hit ≠ ""

theorem fires_iff_ruleReason : Fires policy input rule ↔ ∃ reason, ruleReason policy input rule = some reason := by
  unfold Fires ruleReason
  constructor
  · rintro ⟨word, test, hit, hmatcher, hfind, hne⟩
    exact ⟨word ++ ":" ++ hit, by simp [hmatcher, hfind, hne]⟩
  · rintro ⟨reason, hreason⟩
    obtain ⟨⟨word, test⟩, hmatcher, hreason⟩ := Option.bind_eq_some_iff.1 hreason
    obtain ⟨hit, hhit, -⟩ := Option.map_eq_some_iff.1 hreason
    obtain ⟨hfind, hne⟩ := Option.filter_eq_some_iff.1 hhit
    exact ⟨word, test, hit, hmatcher, hfind, of_decide_eq_true hne⟩

theorem applyRule_of_not_fires (h : ¬ Fires policy input rule) (result : FraudEvaluationResult) :
    applyRule policy input result rule = result := by
  have hnone : ruleReason policy input rule = none := by
    rw [Option.eq_none_iff_forall_ne_some]
    exact fun reason hreason => h (fires_iff_ruleReason.2 ⟨reason, hreason⟩)
  unfold applyRule
  rw [hnone]

/-- What the loop does with a rule that fires. -/
theorem applyRule_of_fires (h : Fires policy input rule) : ∃ reason, ∀ result,
    applyRule policy input result rule = ⟨mergeAction result.action rule.action, result.reasons ++ [reason]⟩ := by
  obtain ⟨reason, hreason⟩ := fires_iff_ruleReason.1 h
  refine ⟨reason, fun result => ?_⟩
  unfold applyRule
  rw [hreason]

theorem applyRule_action_le_iff {result : FraudEvaluationResult} {bound : FraudAction} :
    (applyRule policy input result rule).action ≤ bound ↔
      result.action ≤ bound ∧ (Fires policy input rule → rule.action ≤ bound) := by
  by_cases h : Fires policy input rule
  · obtain ⟨reason, happly⟩ := applyRule_of_fires h
    rw [happly, mergeAction_eq_max]
    simp [h]
  · rw [applyRule_of_not_fires h]
    simp [h]

/-- The bounds of the loop's action are those of the actions that it merges. -/
theorem foldl_applyRule_le_iff {rules : List FraudRuleRow} {result : FraudEvaluationResult} {bound : FraudAction} :
    (rules.foldl (applyRule policy input) result).action ≤ bound ↔
      result.action ≤ bound ∧ ∀ rule ∈ rules, Fires policy input rule → rule.action ≤ bound := by
  induction rules generalizing result with
  | nil => simp
  | cons rule rules ih => simp only [List.foldl_cons, ih, applyRule_action_le_iff, List.forall_mem_cons, and_assoc]

/-- What holds of the action that the loop starts with and of those of the rules that fire holds of its action. -/
theorem foldl_applyRule_action {p : FraudAction → Prop} {rules : List FraudRuleRow} {result : FraudEvaluationResult}
    (hstart : p result.action) (hrules : ∀ rule ∈ rules, Fires policy input rule → p rule.action) :
    p (rules.foldl (applyRule policy input) result).action := by
  induction rules generalizing result with
  | nil => exact hstart
  | cons rule rules ih =>
    rw [List.forall_mem_cons] at hrules
    refine ih ?_ hrules.2
    by_cases h : Fires policy input rule
    · obtain ⟨reason, happly⟩ := applyRule_of_fires h
      rw [happly, mergeAction_eq_max]
      rcases max_choice result.action rule.action with hmax | hmax
      · rw [hmax]
        exact hstart
      · rw [hmax]
        exact hrules.1 h
    · rw [applyRule_of_not_fires h]
      exact hstart

/-- The loop's reasons are those of the rules, in their order. -/
theorem foldl_applyRule_reasons (rules : List FraudRuleRow) (result : FraudEvaluationResult) :
    (rules.foldl (applyRule policy input) result).reasons =
      result.reasons ++ rules.filterMap (ruleReason policy input) := by
  induction rules generalizing result with
  | nil => simp
  | cons rule rules ih =>
    rw [List.foldl_cons, ih, List.filterMap_cons]
    unfold applyRule
    split
    · rename_i hreason
      simp [hreason]
    · rename_i reason hreason
      simp [hreason]

end Rules

/-! ### The verdict -/

section Verdict

variable {policy : FraudPolicy} {clock : FraudClock} {counters : Counters} {input : FraudEvaluationInput}

theorem addReason_le_iff {condition : Prop} [Decidable condition] {reason : String} {action bound : FraudAction}
    {result : FraudEvaluationResult} :
    (addReason condition reason action result).action ≤ bound ↔
      result.action ≤ bound ∧ (condition → action ≤ bound) := by
  unfold addReason
  by_cases h : condition
  · rw [if_pos h, mergeAction_eq_max]
    simp [h]
  · rw [if_neg h]
    simp [h]

theorem addReason_action {p : FraudAction → Prop} {condition : Prop} [Decidable condition] {reason : String}
    {action : FraudAction} {result : FraudEvaluationResult} (hresult : p result.action)
    (hadded : condition → p action) : p (addReason condition reason action result).action := by
  unfold addReason
  by_cases h : condition
  · rw [if_pos h, mergeAction_eq_max]
    rcases max_choice result.action action with hmax | hmax
    · rw [hmax]
      exact hresult
    · rw [hmax]
      exact hadded h
  · rw [if_neg h]
    exact hresult

/-- The messages of the sender in this minute, and those to the prefix, as `evaluate` counts them. -/
def velocityCount (clock : FraudClock) (counters : Counters) (input : FraudEvaluationInput) : Nat :=
  (hit counters (velocityKey input.tenantId input.senderId clock.now) clock.redisNow).1

def prefixCount (clock : FraudClock) (counters : Counters) (input : FraudEvaluationInput) : Nat :=
  let velocity := hit counters (velocityKey input.tenantId input.senderId clock.now) clock.redisNow
  (hit velocity.2 (prefixKey input.tenantId input.phoneNumber clock.prefixNow) clock.prefixRedisNow).1

/-- A link in a marketing message of a tenant of the lowest tier. -/
def LowTrustUrl (policy : FraudPolicy) (input : FraudEvaluationInput) : Prop :=
  policy.tenantPriorityTier ≤ 1 ∧ input.trafficType = .marketing ∧ hasLink input.body = true

/-- The actions that a verdict is the most severe of. -/
inductive Contributes (policy : FraudPolicy) (clock : FraudClock) (counters : Counters) (input : FraudEvaluationInput) :
    FraudAction → Prop
  | start : Contributes policy clock counters input .allow
  | rule {rule : FraudRuleRow} (mem : rule ∈ policy.rules) (fires : Fires policy input rule) :
    Contributes policy clock counters input rule.action
  | velocity (exceeds : velocityThreshold < velocityCount clock counters input) :
    Contributes policy clock counters input .throttle
  | prefixes (exceeds : prefixThreshold < prefixCount clock counters input) :
    Contributes policy clock counters input .throttle
  | lowTrustUrl (url : LowTrustUrl policy input) : Contributes policy clock counters input .block

/-- The bounds of a verdict are those of what contributes to it. -/
theorem evaluate_le_iff {bound : FraudAction} :
    (evaluate policy clock counters input).1.action ≤ bound ↔
      ∀ action, Contributes policy clock counters input action → action ≤ bound := by
  unfold evaluate
  dsimp only
  rw [addReason_le_iff, addReason_le_iff, addReason_le_iff]
  unfold applyRules
  rw [foldl_applyRule_le_iff]
  constructor
  · rintro ⟨⟨⟨⟨-, hrules⟩, hvelocity⟩, hprefix⟩, hurl⟩ action hcontributes
    cases hcontributes with
    | start => exact allow_le bound
    | rule mem fires => exact hrules _ mem fires
    | velocity exceeds => exact hvelocity exceeds
    | prefixes exceeds => exact hprefix exceeds
    | lowTrustUrl url => exact hurl url
  · intro h
    exact ⟨⟨⟨⟨h _ .start, fun rule mem fires => h _ (.rule mem fires)⟩, fun exceeds => h _ (.velocity exceeds)⟩,
      fun exceeds => h _ (.prefixes exceeds)⟩, fun url => h _ (.lowTrustUrl url)⟩

theorem evaluate_contributes :
    Contributes policy clock counters input (evaluate policy clock counters input).1.action := by
  have hrules : Contributes policy clock counters input (applyRules policy input).action :=
    foldl_applyRule_action .start fun _ mem fires => .rule mem fires
  exact addReason_action (addReason_action (addReason_action hrules .velocity) .prefixes) .lowTrustUrl

theorem evaluate_isGreatest : IsGreatest {action | Contributes policy clock counters input action}
    (evaluate policy clock counters input).1.action :=
  ⟨evaluate_contributes, fun action h => evaluate_le_iff.1 le_rfl action h⟩

/-- If the rules that fire have their like among the others, the others' verdict is not less severe. -/
theorem evaluate_le_of_fires {rules : List FraudRuleRow}
    (h : ∀ rule ∈ policy.rules, Fires policy input rule →
      ∃ rule' ∈ rules, Fires policy input rule' ∧ rule'.action = rule.action) :
    (evaluate policy clock counters input).1.action ≤
      (evaluate (policy.withRules rules) clock counters input).1.action := by
  have hgreatest : IsGreatest {action | Contributes (policy.withRules rules) clock counters input action}
    (evaluate (policy.withRules rules) clock counters input).1.action := evaluate_isGreatest
  rw [evaluate_le_iff]
  intro action hcontributes
  apply hgreatest.2
  cases hcontributes with
  | start => exact .start
  | rule mem fires =>
    obtain ⟨rule', mem', fires', haction⟩ := h _ mem fires
    rw [← haction]
    exact .rule mem' fires'
  | velocity exceeds => exact .velocity exceeds
  | prefixes exceeds => exact .prefixes exceeds
  | lowTrustUrl url => exact .lowTrustUrl url

/-- With more rules, in any order, a verdict is not less severe. -/
theorem evaluate_withRules_le {rules : List FraudRuleRow} (h : policy.rules ⊆ rules) :
    (evaluate policy clock counters input).1.action ≤
      (evaluate (policy.withRules rules) clock counters input).1.action :=
  evaluate_le_of_fires fun rule mem fires => ⟨rule, h mem, fires, rfl⟩

theorem addReason_reasons {condition : Prop} [Decidable condition] {reason : String} {action : FraudAction}
    {result : FraudEvaluationResult} : (addReason condition reason action result).reasons =
      result.reasons ++ if condition then [reason] else [] := by
  unfold addReason
  by_cases h : condition
  · rw [if_pos h, if_pos h]
  · rw [if_neg h, if_neg h, List.append_nil]

/-- Rules in another order give the same reasons in another order. -/
theorem evaluate_reasons_perm {rules : List FraudRuleRow} (h : policy.rules.Perm rules) :
    (evaluate policy clock counters input).1.reasons.Perm
      (evaluate (policy.withRules rules) clock counters input).1.reasons := by
  have hrules : (applyRules policy input).reasons.Perm (applyRules (policy.withRules rules) input).reasons := by
    unfold applyRules
    rw [foldl_applyRule_reasons, foldl_applyRule_reasons]
    exact (h.filterMap (ruleReason policy input)).append_left []
  unfold evaluate
  dsimp only
  simp only [addReason_reasons]
  exact ((hrules.append_right _).append_right _).append_right _

/-- The verdict is the most severe of what contributes to it.  It is so whatever the order of the rules, which is that
of the reasons; and with another rule anywhere among them it is not less severe. -/
theorem evaluate_join (policy : FraudPolicy) (clock : FraudClock) (counters : Counters) (input : FraudEvaluationInput) :
    IsGreatest {action | Contributes policy clock counters input action}
        (evaluate policy clock counters input).1.action ∧
      (∀ rules, policy.rules.Perm rules →
        (evaluate (policy.withRules rules) clock counters input).1.action =
            (evaluate policy clock counters input).1.action ∧
          (evaluate (policy.withRules rules) clock counters input).1.reasons.Perm
            (evaluate policy clock counters input).1.reasons) ∧
      ∀ before rule after, policy.rules = before ++ after →
        (evaluate policy clock counters input).1.action ≤
          (evaluate (policy.withRules (before ++ rule :: after)) clock counters input).1.action := by
  refine ⟨evaluate_isGreatest, ?_, ?_⟩
  · intro rules hperm
    refine ⟨le_antisymm ?_ (evaluate_withRules_le hperm.subset), (evaluate_reasons_perm hperm).symm⟩
    have hback : policy = (policy.withRules rules).withRules policy.rules := rfl
    conv_rhs => rw [hback]
    exact evaluate_withRules_le hperm.symm.subset
  · intro before rule after hrules
    apply evaluate_withRules_le
    rw [hrules]
    intro other hother
    rcases List.mem_append.1 hother with hmem | hmem
    · simp [hmem]
    · simp [hmem]

end Verdict

/-! ### Values that match -/

section Values

variable {policy : FraudPolicy} {input : FraudEvaluationInput} {rule : FraudRuleRow} {test : String → Bool}
  {values : List String}

/-- The loop merges the action of the rule and gives a reason. -/
def Applies (policy : FraudPolicy) (input : FraudEvaluationInput) (rule : FraudRuleRow) : Prop :=
  ∃ reason, ∀ result, applyRule policy input result rule =
    ⟨mergeAction result.action rule.action, result.reasons ++ [reason]⟩

theorem applies_iff_fires : Applies policy input rule ↔ Fires policy input rule := by
  constructor
  · rintro ⟨reason, happly⟩
    by_contra h
    have hsame := happly ⟨.allow, []⟩
    rw [applyRule_of_not_fires h] at hsame
    have hreasons := congrArg FraudEvaluationResult.reasons hsame
    simp at hreasons
  · exact applyRule_of_fires

/-- One of the values matches, and it is not the empty one. -/
def Matched (test : String → Bool) (values : List String) : Prop := ∃ value ∈ values, value ≠ "" ∧ test value = true

/-- Where the empty value matches, no other match stands behind it without one before it. -/
def Unmasked (test : String → Bool) (values : List String) : Prop :=
  ∀ before after, values = before ++ "" :: after → test "" = true → ¬ Matched test before → ¬ Matched test after

/-- A list with a match has a truthy first match if and only if no empty value masks one. -/
theorem find?_truthy_iff : (Matched test values → ∃ hit, values.find? test = some hit ∧ hit ≠ "") ↔
    Unmasked test values := by
  constructor
  · rintro h before after rfl hempty hbefore ⟨value, hmem, hmatch⟩
    obtain ⟨hit, hfind, hne⟩ := h ⟨value, by simp [hmem], hmatch⟩
    rw [List.find?_append, List.find?_cons_of_pos hempty] at hfind
    -- the search ends at the empty value or before it
    cases hfirst : before.find? test with
    | none => simp [hfirst, Ne.symm hne] at hfind
    | some first =>
      have hfirst' : first = hit := by simpa [hfirst] using hfind
      subst hfirst'
      exact hbefore ⟨first, List.mem_of_find?_eq_some hfirst, hne, List.find?_some hfirst⟩
  · rintro h ⟨value, hmem, hmatch⟩
    obtain ⟨hit, hfind⟩ := Option.isSome_iff_exists.1 (List.find?_isSome.2 ⟨value, hmem, hmatch.2⟩)
    refine ⟨hit, hfind, ?_⟩
    rintro rfl
    obtain ⟨hempty, before, after, rfl, hbefore⟩ := List.find?_eq_some_iff_append.1 hfind
    have hbefore' : ¬ Matched test before := by
      rintro ⟨other, hother, -, htest⟩
      simpa [htest] using hbefore other hother
    -- the match stands behind the empty value that has been found
    have hafter := h before after rfl hempty hbefore'
    rcases List.mem_append.1 hmem with hmem | hmem
    · exact hbefore' ⟨value, hmem, hmatch⟩
    · rcases List.mem_cons.1 hmem with rfl | hmem
      · exact hmatch.1 rfl
      · exact hafter ⟨value, hmem, hmatch⟩

/-- A rule with a match fires if and only if its matches are not masked. -/
theorem fires_of_matched_iff (rule : FraudRuleRow) {word : String}
    (hmatcher : matcher policy input rule.ruleType = some (word, test)) :
    (Matched test rule.values → Fires policy input rule) ↔ Unmasked test rule.values := by
  rw [← find?_truthy_iff]
  constructor
  · intro h hmatched
    obtain ⟨word', test', hit, hmatcher', hfind, hne⟩ := h hmatched
    obtain ⟨-, rfl⟩ := Prod.mk.inj (Option.some.inj (hmatcher.symm.trans hmatcher'))
    exact ⟨hit, hfind, hne⟩
  · intro h hmatched
    obtain ⟨hit, hfind, hne⟩ := h hmatched
    exact ⟨word, test, hit, hmatcher, hfind, hne⟩

theorem matched_of_fires {word : String} (hmatcher : matcher policy input rule.ruleType = some (word, test))
    (h : Fires policy input rule) : Matched test rule.values := by
  obtain ⟨word', test', hit, hmatcher', hfind, hne⟩ := h
  obtain ⟨-, rfl⟩ := Prod.mk.inj (Option.some.inj (hmatcher.symm.trans hmatcher'))
  exact ⟨hit, List.mem_of_find?_eq_some hfind, hne, List.find?_some hfind⟩

theorem Matched.mono {values' : List String} (h : Matched test values) (hvalues : values ⊆ values') :
    Matched test values' := by
  obtain ⟨value, hmem, hmatch⟩ := h
  exact ⟨value, hvalues hmem, hmatch⟩

/-- A rule whose values are among others applies with those, too, if and only if their matches are not masked. -/
theorem applies_withValues_iff {word : String} (hmatcher : matcher policy input rule.ruleType = some (word, test))
    (hvalues : rule.values ⊆ values) (h : Applies policy input rule) :
    Applies policy input { rule with values := values } ↔ Unmasked test values := by
  have hmatched : Matched test values := (matched_of_fires hmatcher (applies_iff_fires.1 h)).mono hvalues
  have hiff : (Matched test values → Fires policy input { rule with values := values }) ↔ Unmasked test values :=
    fires_of_matched_iff { rule with values := values } hmatcher
  rw [applies_iff_fires, ← hiff]
  exact ⟨fun hfires _ => hfires, fun hfires => hfires hmatched⟩

/-- A rule of which a value other than the empty one matches applies if and only if no empty value masks the match.  More
values, in any order, keep the rule applying exactly when they are not masked, and then the verdict is not less
severe. -/
theorem applies_of_matched_iff (rule : FraudRuleRow) {word : String}
    (hmatcher : matcher policy input rule.ruleType = some (word, test)) :
    ((Matched test rule.values → Applies policy input rule) ↔ Unmasked test rule.values) ∧
      ∀ values, rule.values ⊆ values →
        (Applies policy input rule → (Applies policy input { rule with values := values } ↔ Unmasked test values)) ∧
        (Unmasked test values → ∀ clock counters before after,
          (evaluate (policy.withRules (before ++ rule :: after)) clock counters input).1.action ≤
            (evaluate (policy.withRules (before ++ { rule with values := values } :: after)) clock counters
              input).1.action) := by
  refine ⟨by rw [applies_iff_fires, fires_of_matched_iff rule hmatcher], ?_⟩
  intro values hvalues
  refine ⟨applies_withValues_iff hmatcher hvalues, ?_⟩
  intro hunmasked clock counters before after
  have hback : policy.withRules (before ++ { rule with values := values } :: after) =
    (policy.withRules (before ++ rule :: after)).withRules (before ++ { rule with values := values } :: after) := rfl
  rw [hback]
  apply evaluate_le_of_fires
  intro other hother hfires
  rcases List.mem_append.1 hother with hmem | hmem
  · exact ⟨other, by simp [hmem], hfires, rfl⟩
  · rcases List.mem_cons.1 hmem with rfl | hmem
    · have happlies := (applies_withValues_iff hmatcher hvalues (applies_iff_fires.2 hfires)).2 hunmasked
      exact ⟨{ other with values := values }, by simp, applies_iff_fires.1 happlies, rfl⟩
    · exact ⟨other, by simp [hmem], hfires, rfl⟩

end Values

namespace Sample

open SmsPlatform.Sample (tenant)

def winCash : FraudEvaluationInput := ⟨tenant, "+251911234567", "win cash now", "MYAPP", .marketing⟩

def keywordBlock (values : List String) : FraudRuleRow := ⟨"keyword_block", .block, values⟩

def keywordPolicy (values : List String) : FraudPolicy := ⟨[keywordBlock values], 2, id⟩

/-- Behind the empty value, a keyword of the message does not block it. -/
theorem empty_masks_keyword :
    Matched (fun value => includes "win cash now" value) ["", "win cash"] ∧
      ¬ Applies (keywordPolicy []) winCash (keywordBlock ["", "win cash"]) ∧
      (evaluate (keywordPolicy ["win cash"]) ⟨0, 0, 0, 0⟩ (fun _ => none) winCash).1.action = .block ∧
      (evaluate (keywordPolicy ["", "win cash"]) ⟨0, 0, 0, 0⟩ (fun _ => none) winCash).1.action = .allow := by
  refine ⟨⟨"win cash", by simp, by decide, by decide +kernel⟩, ?_, by decide +kernel, by decide +kernel⟩
  rintro ⟨reason, happly⟩
  have hreasons := congrArg FraudEvaluationResult.reasons (happly ⟨.allow, []⟩)
  have hnone : (applyRule (keywordPolicy []) winCash ⟨.allow, []⟩ (keywordBlock ["", "win cash"])).reasons = [] := by
    decide +kernel
  rw [hnone] at hreasons
  simp at hreasons

/-- Before it, the keyword does. -/
theorem keyword_before_empty : Applies (keywordPolicy []) winCash (keywordBlock ["win cash", ""]) ∧
    (evaluate (keywordPolicy ["win cash"]) ⟨0, 0, 0, 0⟩ (fun _ => none) winCash).1.action ≤
      (evaluate (keywordPolicy ["win cash", ""]) ⟨0, 0, 0, 0⟩ (fun _ => none) winCash).1.action := by
  have hmatcher : matcher (keywordPolicy []) winCash "keyword_block" =
    some ("keyword", fun value => includes "win cash now" value) := rfl
  have hunmasked : Unmasked (fun value => includes "win cash now" value) ["win cash", ""] :=
    find?_truthy_iff.1 fun _ => ⟨"win cash", by decide +kernel, by decide⟩
  have hmatched : Matched (fun value => includes "win cash now" value) ["win cash", ""] :=
    ⟨"win cash", by simp, by decide, by decide +kernel⟩
  refine ⟨(applies_of_matched_iff (keywordBlock ["win cash", ""]) hmatcher).1.2 hunmasked hmatched, ?_⟩
  have hmore := (applies_of_matched_iff (keywordBlock ["win cash"]) hmatcher).2 ["win cash", ""] (by simp [keywordBlock])
  exact hmore.2 hunmasked ⟨0, 0, 0, 0⟩ (fun _ => none) [] []

end Sample

end FraudService

end SmsPlatform
