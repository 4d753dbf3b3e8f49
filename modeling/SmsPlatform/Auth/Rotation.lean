import Mathlib.Logic.Relation
import SmsPlatform.Auth.ApiKeys
import SmsPlatform.Lib.Runs

/-!
# Rotating API keys

A rotated key should be a replacement of the old one.  `rotateApiKey` asks nothing of the old row but that it is there,
and its INSERT has neither the limits nor the date of the old row.  So what a rotation gives is no wider than what was
rotated if and only if that was an active key without limits (`rotation_narrows`).  The old key is dead in any case.
-/

namespace SmsPlatform

namespace ApiKeys

/-- A limit that is no larger than another, where `none` is no limit. -/
def Within {α : Type} [LE α] (limit other : Option α) : Prop := ∀ bound ∈ other, ∃ own ∈ limit, own ≤ bound

theorem within_none {α : Type} [LE α] (limit : Option α) : Within limit none := fun _ h => (nomatch h)

theorem none_within_iff {α : Type} [LE α] {other : Option α} : Within none other ↔ other = none := by
  constructor
  · intro h
    cases other with
    | none => rfl
    | some bound =>
      obtain ⟨_, hown, -⟩ := h bound rfl
      cases hown
  · rintro rfl
    exact within_none none

/-- `old` is the row as the rotation found it. -/
structure Rotation where
  old : ApiKeyRow
  rotatedAt : Int
  newId : String

/-- The key was disabled or had expired when it was rotated. -/
def Rotation.OfUnusable (rotation : Rotation) : Prop :=
  rotation.old.isActive = false ∨ ∃ expiresAt ∈ rotation.old.expiresAt, expiresAt < rotation.rotatedAt

/-- The table, the ids and texts of the keys issued, the rotations, and the ids of the keys rotated or disabled. -/
structure ApiKeyHistory where
  rows : List ApiKeyRow
  issued : List (String × String)
  rotations : List Rotation
  retired : List String

inductive ApiKeyCall
  | createApiKey (tenantId : TenantId) (dto : CreateApiKeyDto) (secret : ApiKeySecret) (id : String) (now : Int)
  | rotateApiKey (tenantId : TenantId) (apiKeyId : String) (dto : RotateApiKeyDto) (secret : ApiKeySecret)
      (id : String) (now : Int)
  | disableApiKey (tenantId : TenantId) (apiKeyId : String)
  | validateApiKey (apiKey : String) (now : Int)

namespace ApiKeyHistory

def start : ApiKeyHistory := ⟨[], [], [], []⟩

variable (scrypt : String → List UInt8 → List UInt8) (history : ApiKeyHistory)

/-- A call that throws is rolled back. -/
def step : ApiKeyCall → Option ApiKeyHistory
  | .createApiKey tenantId dto secret id now =>
    match createApiKey scrypt history.rows tenantId dto secret id now with
    | .error _ => some history
    | .ok rows => some { history with rows := rows, issued := (id, secret.rawKey) :: history.issued }
  | .rotateApiKey tenantId apiKeyId dto secret id now =>
    match findKey history.rows tenantId apiKeyId, rotateApiKey scrypt history.rows tenantId apiKeyId dto secret id with
    | some old, .ok rows =>
      some {
        rows := rows
        issued := (id, secret.rawKey) :: history.issued
        rotations := ⟨old, now, id⟩ :: history.rotations
        retired := apiKeyId :: history.retired }
    | _, _ => some history
  | .disableApiKey tenantId apiKeyId =>
    match disableApiKey history.rows tenantId apiKeyId with
    | .error _ => some history
    | .ok rows => some { history with rows := rows, retired := apiKeyId :: history.retired }
  | .validateApiKey _ _ => some history

/-- Someone can use the key of this id. -/
def Validates (rows : List ApiKeyRow) (id : String) (principal : ApiPrincipal) : Prop :=
  principal.apiKeyId = id ∧ ∃ apiKey now, validateApiKey scrypt rows now apiKey = .ok principal

/-- Whoever uses the new key has no more than the old key had. -/
def Narrow (rows : List ApiKeyRow) (old : ApiKeyRow) (newId : String) : Prop :=
  ∀ principal, Validates scrypt rows newId principal →
    Within principal.rateLimitRps old.rateLimitRps ∧ Within principal.dailyQuota old.dailyQuota ∧
      ∀ row ∈ rows, row.id = newId → Within row.expiresAt old.expiresAt

/-- Nobody can use what was made of a dead key. -/
def LeavesDead (rows : List ApiKeyRow) (rotation : Rotation) : Prop :=
  rotation.OfUnusable → ∀ principal, ¬ Validates scrypt rows rotation.newId principal

def RotatedTo (id newId : String) : Prop :=
  ∃ rotation ∈ history.rotations, rotation.old.id = id ∧ rotation.newId = newId

/-- Along any chain of rotations. -/
structure NeverWidens : Prop where
  narrow : ∀ id newId, Relation.TransGen history.RotatedTo id newId → ∀ row ∈ history.rows, row.id = id →
    Narrow scrypt history.rows row newId
  leavesDead : ∀ rotation ∈ history.rotations, LeavesDead scrypt history.rows rotation

/-- The keys that have been rotated or disabled do not validate, and neither do their texts. -/
structure RetiredStayDead : Prop where
  ids : ∀ id ∈ history.retired, ∀ principal, ¬ Validates scrypt history.rows id principal
  texts : ∀ entry ∈ history.issued, entry.1 ∈ history.retired →
    ∀ now principal, validateApiKey scrypt history.rows now entry.2 ≠ .ok principal

/-- An active key without limits and without a date. -/
structure Unlimited (row : ApiKeyRow) : Prop where
  isActive : row.isActive = true
  rateLimitRps : row.rateLimitRps = none
  dailyQuota : row.dailyQuota = none
  expiresAt : row.expiresAt = none

instance (row : ApiKeyRow) : Decidable (Unlimited row) :=
  decidable_of_iff (row.isActive = true ∧ row.rateLimitRps = none ∧ row.dailyQuota = none ∧ row.expiresAt = none)
    ⟨fun ⟨h₁, h₂, h₃, h₄⟩ => ⟨h₁, h₂, h₃, h₄⟩, fun h => ⟨h.isActive, h.rateLimitRps, h.dailyQuota, h.expiresAt⟩⟩

theorem Unlimited.not_ofUnusable {rotation : Rotation} (h : Unlimited rotation.old) : ¬ rotation.OfUnusable := by
  rintro (hinactive | ⟨expiresAt, hexpires, -⟩)
  · rw [h.isActive] at hinactive
    cases hinactive
  · rw [h.expiresAt] at hexpires
    cases hexpires

def RotatesUnlimited : ApiKeyCall → Prop
  | .rotateApiKey tenantId apiKeyId _ _ _ _ => ∀ old, findKey history.rows tenantId apiKeyId = some old → Unlimited old
  | _ => True

/-! ### What always holds -/

structure Inv : Prop where
  ids : Rows.Keyed ApiKeyRow.id history.rows
  prefixes : Rows.Keyed ApiKeyRow.keyPrefix history.rows
  known : ∀ id ∈ history.retired, id ∈ history.rows.map ApiKeyRow.id
  retired : ∀ row ∈ history.rows, row.id ∈ history.retired → row.isActive = false
  issued : ∀ entry ∈ history.issued, ∃ row ∈ history.rows, row.id = entry.1 ∧ Names entry.2 row.keyPrefix

variable {scrypt history} {history' : ApiKeyHistory} {call : ApiKeyCall}

theorem Inv.disable (h : history.Inv) (p : ApiKeyRow → Bool) {id : String}
    (hid : id ∈ history.rows.map ApiKeyRow.id) (hp : ∀ row ∈ history.rows, row.id = id → p row = true) :
    Inv { history with
      rows := Rows.update p ApiKeyRow.disabled history.rows, retired := id :: history.retired } := by
  have hids := @map_disabled _ ApiKeyRow.id (fun _ => rfl) p history.rows
  have hprefixes := @map_disabled _ ApiKeyRow.keyPrefix (fun _ => rfl) p history.rows
  refine ⟨?_, ?_, ?_, ?_, ?_⟩
  · show List.Nodup _
    rw [hids]
    exact h.ids
  · show List.Nodup _
    rw [hprefixes]
    exact h.prefixes
  · dsimp only
    rw [hids]
    exact List.forall_mem_cons.2 ⟨hid, h.known⟩
  · intro row hrow hretired
    obtain ⟨old, hold, ⟨-, rfl⟩ | ⟨hnot, rfl⟩⟩ := Rows.mem_update.1 hrow
    · rfl
    · rcases List.mem_cons.1 hretired with heq | hretired
      · rw [hp _ hold heq] at hnot
        cases hnot
      · exact h.retired _ hold hretired
  · intro entry hentry
    obtain ⟨row, hrow, hid, hnames⟩ := h.issued entry hentry
    cases hrow' : p row with
    | true => exact ⟨row.disabled, Rows.mem_update.2 ⟨row, hrow, .inl ⟨hrow', rfl⟩⟩, hid, hnames⟩
    | false => exact ⟨row, Rows.mem_update.2 ⟨row, hrow, .inr ⟨hrow', rfl⟩⟩, hid, hnames⟩

theorem Inv.add (h : history.Inv) (row : ApiKeyRow) (hid : row.id ∉ history.rows.map ApiKeyRow.id)
    (hkeyPrefix : row.keyPrefix ∉ history.rows.map ApiKeyRow.keyPrefix) {rawKey : String}
    (hnames : Names rawKey row.keyPrefix) (rotations : List Rotation) :
    Inv ⟨history.rows ++ [row], (row.id, rawKey) :: history.issued, rotations, history.retired⟩ := by
  refine ⟨?_, ?_, ?_, ?_, ?_⟩
  · exact h.ids.append_fresh fun other hother heq => hid (heq ▸ List.mem_map_of_mem hother)
  · exact h.prefixes.append_fresh fun other hother heq => hkeyPrefix (heq ▸ List.mem_map_of_mem hother)
  · intro id hretired
    rw [List.map_append]
    exact List.mem_append_left _ (h.known id hretired)
  · intro other hother hretired
    rcases List.mem_append.1 hother with hother | hother
    · exact h.retired other hother hretired
    · rw [List.mem_singleton.1 hother] at hretired
      exact absurd (h.known _ hretired) hid
  · refine List.forall_mem_cons.2 ⟨⟨row, List.mem_append_right _ (List.mem_singleton_self _), rfl, hnames⟩, ?_⟩
    intro entry hentry
    obtain ⟨other, hother, hid, hnames⟩ := h.issued entry hentry
    exact ⟨other, List.mem_append_left _ hother, hid, hnames⟩

/-- What a rotation that succeeds has done. -/
theorem rotate_spec {tenantId : TenantId} {apiKeyId : String} {dto : RotateApiKeyDto} {secret : ApiKeySecret}
    {id : String} {now : Int}
    (hstep : history.step scrypt (.rotateApiKey tenantId apiKeyId dto secret id now) = some history') :
    history' = history ∨ ∃ old, findKey history.rows tenantId apiKeyId = some old ∧
      id ∉ history.rows.map ApiKeyRow.id ∧ secret.keyPrefix ∉ history.rows.map ApiKeyRow.keyPrefix ∧
      history' = {
        rows := Rows.update (fun row => decide (row.id = apiKeyId)) ApiKeyRow.disabled history.rows ++
          [rotatedRow scrypt tenantId dto secret id]
        issued := (id, secret.rawKey) :: history.issued
        rotations := ⟨old, now, id⟩ :: history.rotations
        retired := apiKeyId :: history.retired } := by
  unfold step at hstep
  dsimp only at hstep
  split at hstep
  · rename_i old rows hfound hrotated
    cases hstep
    obtain ⟨-, -, hinserted⟩ := rotateApiKey_eq_ok hrotated
    obtain ⟨rfl, hid, hkeyPrefix⟩ := insertRow_eq_ok hinserted
    rw [map_disabled (fun _ => rfl)] at hid hkeyPrefix
    exact .inr ⟨old, hfound, hid, hkeyPrefix, rfl⟩
  · cases hstep
    exact .inl rfl

theorem create_spec {tenantId : TenantId} {dto : CreateApiKeyDto} {secret : ApiKeySecret} {id : String} {now : Int}
    (hstep : history.step scrypt (.createApiKey tenantId dto secret id now) = some history') :
    history' = history ∨
      id ∉ history.rows.map ApiKeyRow.id ∧ secret.keyPrefix ∉ history.rows.map ApiKeyRow.keyPrefix ∧
      history' = { history with
        rows := history.rows ++ [createdRow scrypt tenantId dto secret id now]
        issued := (id, secret.rawKey) :: history.issued } := by
  unfold step at hstep
  dsimp only at hstep
  split at hstep
  · cases hstep
    exact .inl rfl
  · rename_i rows hcreated
    cases hstep
    obtain ⟨rfl, hid, hkeyPrefix⟩ := insertRow_eq_ok hcreated
    exact .inr ⟨hid, hkeyPrefix, rfl⟩

theorem disable_spec {tenantId : TenantId} {apiKeyId : String}
    (hstep : history.step scrypt (.disableApiKey tenantId apiKeyId) = some history') :
    history' = history ∨ ∃ old, findKey history.rows tenantId apiKeyId = some old ∧
      history' = { history with
        rows := Rows.update (fun row => decide (row.id = apiKeyId ∧ row.tenantId = tenantId)) ApiKeyRow.disabled
          history.rows
        retired := apiKeyId :: history.retired } := by
  unfold step at hstep
  dsimp only at hstep
  split at hstep
  · cases hstep
    exact .inl rfl
  · rename_i rows hdisabled
    cases hstep
    obtain ⟨old, hfound, rfl⟩ := disableApiKey_eq_ok hdisabled
    exact .inr ⟨old, hfound, rfl⟩

theorem mem_ids_of_findKey {tenantId : TenantId} {apiKeyId : String} {old : ApiKeyRow}
    (h : findKey history.rows tenantId apiKeyId = some old) : apiKeyId ∈ history.rows.map ApiKeyRow.id := by
  obtain ⟨hmem, rfl, -⟩ := findKey_eq_some h
  exact List.mem_map_of_mem hmem

theorem Inv.start : ApiKeyHistory.start.Inv :=
  ⟨List.nodup_nil, List.nodup_nil, fun _ h => (nomatch h), fun _ h => (nomatch h), fun _ h => (nomatch h)⟩

theorem Inv.step (h : history.Inv) (hstep : history.step scrypt call = some history') : history'.Inv := by
  cases call with
  | createApiKey tenantId dto secret id now =>
    rcases create_spec hstep with rfl | ⟨hid, hkeyPrefix, rfl⟩
    · exact h
    · exact h.add (createdRow scrypt tenantId dto secret id now) hid hkeyPrefix (names_rawKey secret) _
  | rotateApiKey tenantId apiKeyId dto secret id now =>
    rcases rotate_spec hstep with rfl | ⟨old, hfound, hid, hkeyPrefix, rfl⟩
    · exact h
    · have hdisabled := h.disable (fun row => decide (row.id = apiKeyId)) (mem_ids_of_findKey hfound)
        fun row _ hrow => decide_eq_true hrow
      rw [← map_disabled (fun _ => rfl) fun row => decide (row.id = apiKeyId)] at hid hkeyPrefix
      exact hdisabled.add (rotatedRow scrypt tenantId dto secret id) hid hkeyPrefix (names_rawKey secret) _
  | disableApiKey tenantId apiKeyId =>
    rcases disable_spec hstep with rfl | ⟨old, hfound, rfl⟩
    · exact h
    · refine h.disable _ (mem_ids_of_findKey hfound) fun row hrow hid => ?_
      obtain ⟨hmem, hold, htenant⟩ := findKey_eq_some hfound
      rw [h.ids.unique hrow hmem (hid.trans hold.symm)]
      exact decide_eq_true ⟨hold, htenant⟩
  | validateApiKey apiKey now =>
    cases hstep
    exact h

theorem Inv.retiredStayDead (h : history.Inv) : history.RetiredStayDead scrypt := by
  constructor
  · rintro id hretired principal ⟨rfl, apiKey, now, hvalid⟩
    obtain ⟨row, hrow, hactive, -, rfl⟩ := validateApiKey_eq_ok hvalid
    rw [h.retired row hrow hretired] at hactive
    cases hactive
  · intro entry hentry hretired now principal hvalid
    obtain ⟨row, hrow, hid, hnames⟩ := h.issued entry hentry
    have hdead : row.isActive = false := h.retired row hrow (hid ▸ hretired)
    rw [validateApiKey_of_names h.prefixes hrow hnames, if_pos hdead] at hvalid
    cases hvalid

/-! ### One rotation -/

/-- A new key can be used at once, and it has nothing of the limits of the old one. -/
theorem Inv.validates_rotated (h : history.Inv) {tenantId : TenantId} {dto : RotateApiKeyDto} {secret : ApiKeySecret}
    {id : String} (hrow : rotatedRow scrypt tenantId dto secret id ∈ history.rows) :
    ∃ principal, Validates scrypt history.rows id principal ∧ principal.rateLimitRps = none ∧
      principal.dailyQuota = none :=
  ⟨_, ⟨rfl, secret.rawKey, 0, validateApiKey_rawKey h.prefixes hrow rfl rfl rfl rfl rfl 0⟩, rfl, rfl⟩

theorem Inv.narrow_iff (h : history.Inv) {tenantId : TenantId} {dto : RotateApiKeyDto} {secret : ApiKeySecret}
    {id : String} (hrow : rotatedRow scrypt tenantId dto secret id ∈ history.rows) (old : ApiKeyRow) (now : Int) :
    Narrow scrypt history.rows old id ∧ LeavesDead scrypt history.rows ⟨old, now, id⟩ ↔ Unlimited old := by
  obtain ⟨principal, hvalid, hlimit, hquota⟩ := h.validates_rotated hrow
  constructor
  · rintro ⟨hnarrow, hdead⟩
    obtain ⟨hlimits, hquotas, hexpires⟩ := hnarrow principal hvalid
    rw [hlimit, none_within_iff] at hlimits
    rw [hquota, none_within_iff] at hquotas
    refine ⟨?_, hlimits, hquotas, none_within_iff.1 (hexpires _ hrow rfl)⟩
    by_contra hinactive
    exact hdead (.inl (by simpa using hinactive)) principal hvalid
  · intro hold
    constructor
    · intro _ _
      rw [hold.rateLimitRps, hold.dailyQuota, hold.expiresAt]
      exact ⟨within_none _, within_none _, fun _ _ _ => within_none _⟩
    · exact fun hunusable => absurd hunusable hold.not_ofUnusable

/-! ### Chains of rotations -/

variable (history) in
/-- The keys that have been rotated had no limits, and have none. -/
def RotatedUnlimited : Prop :=
  ∀ rotation ∈ history.rotations, Unlimited rotation.old ∧ rotation.old.id ∈ history.rows.map ApiKeyRow.id ∧
    ∀ row ∈ history.rows, row.id = rotation.old.id →
      row.rateLimitRps = none ∧ row.dailyQuota = none ∧ row.expiresAt = none

theorem RotatedUnlimited.disable (h : history.RotatedUnlimited) (p : ApiKeyRow → Bool) (retired : List String) :
    RotatedUnlimited { history with rows := Rows.update p ApiKeyRow.disabled history.rows, retired := retired } := by
  intro rotation hrotation
  obtain ⟨hold, hid, hrows⟩ := h rotation hrotation
  refine ⟨hold, ?_, ?_⟩
  · rw [map_disabled fun _ => rfl]
    exact hid
  · intro row hrow
    obtain ⟨before, hbefore, ⟨-, rfl⟩ | ⟨-, rfl⟩⟩ := Rows.mem_update.1 hrow
    · exact hrows before hbefore
    · exact hrows _ hbefore

/-- A new key has an id of its own. -/
theorem RotatedUnlimited.add (h : history.RotatedUnlimited) {row : ApiKeyRow}
    (hid : row.id ∉ history.rows.map ApiKeyRow.id) (issued : List (String × String)) :
    RotatedUnlimited { history with rows := history.rows ++ [row], issued := issued } := by
  intro rotation hrotation
  obtain ⟨hold, hknown, hrows⟩ := h rotation hrotation
  refine ⟨hold, ?_, ?_⟩
  · rw [List.map_append]
    exact List.mem_append_left _ hknown
  · intro other hother hsame
    rcases List.mem_append.1 hother with hother | hother
    · exact hrows other hother hsame
    · rw [List.mem_singleton.1 hother] at hsame
      exact absurd (hsame ▸ hknown) hid

/-- The rotation of a key without limits. -/
theorem RotatedUnlimited.rotated (h : history.RotatedUnlimited) (hinv : history.Inv) {tenantId : TenantId}
    {apiKeyId : String} {old : ApiKeyRow} (hfound : findKey history.rows tenantId apiKeyId = some old)
    (hold : Unlimited old) (now : Int) (id : String) :
    RotatedUnlimited { history with rotations := ⟨old, now, id⟩ :: history.rotations } := by
  obtain ⟨hmem, -, -⟩ := findKey_eq_some hfound
  refine List.forall_mem_cons.2 ⟨⟨hold, List.mem_map_of_mem hmem, ?_⟩, h⟩
  intro row hrow hsame
  rw [hinv.ids.unique hrow hmem hsame]
  exact ⟨hold.rateLimitRps, hold.dailyQuota, hold.expiresAt⟩

theorem RotatedUnlimited.step (h : history.RotatedUnlimited) (hinv : history.Inv)
    (hunlimited : history.RotatesUnlimited call) (hstep : history.step scrypt call = some history') :
    history'.RotatedUnlimited := by
  cases call with
  | createApiKey tenantId dto secret id now =>
    rcases create_spec hstep with rfl | ⟨hid, -, rfl⟩
    · exact h
    · exact h.add hid _
  | rotateApiKey tenantId apiKeyId dto secret id now =>
    rcases rotate_spec hstep with rfl | ⟨old, hfound, hid, -, rfl⟩
    · exact h
    · have hrotated := h.rotated hinv hfound (hunlimited old hfound) now id
      have hdisabled := hrotated.disable (fun row => decide (row.id = apiKeyId)) (apiKeyId :: history.retired)
      rw [← map_disabled (fun _ => rfl) fun row => decide (row.id = apiKeyId)] at hid
      exact hdisabled.add hid _
  | disableApiKey tenantId apiKeyId =>
    rcases disable_spec hstep with rfl | ⟨old, -, rfl⟩
    · exact h
    · exact h.disable _ _
  | validateApiKey apiKey now =>
    cases hstep
    exact h

theorem RotatedUnlimited.neverWidens (h : history.RotatedUnlimited) : history.NeverWidens scrypt := by
  constructor
  · intro id newId hchain row hrow hid principal _
    -- the first key of the chain has been rotated
    obtain ⟨_, ⟨rotation, hrotation, hold, -⟩, -⟩ := Relation.TransGen.head'_iff.1 hchain
    obtain ⟨-, -, hrows⟩ := h rotation hrotation
    obtain ⟨hlimit, hquota, hexpires⟩ := hrows row hrow (hid.trans hold.symm)
    rw [hlimit, hquota, hexpires]
    exact ⟨within_none _, within_none _, fun _ _ _ => within_none _⟩
  · intro rotation hrotation hunusable
    exact absurd hunusable (h rotation hrotation).1.not_ofUnusable

end ApiKeyHistory

/-- A rotated or disabled key is dead in every run.  A rotation gives no more than the old key had if and only if the
old key was active, without limits and without a date; and where all rotations are such, no chain of them gives more. -/
theorem rotation_narrows (scrypt : String → List UInt8 → List UInt8) :
    (∀ history, Transition.Reaches (ApiKeyHistory.step scrypt) .start history → history.RetiredStayDead scrypt ∧
      ∀ tenantId apiKeyId dto secret id now old rows, findKey history.rows tenantId apiKeyId = some old →
        rotateApiKey scrypt history.rows tenantId apiKeyId dto secret id = .ok rows →
          (ApiKeyHistory.Narrow scrypt rows old id ∧ ApiKeyHistory.LeavesDead scrypt rows ⟨old, now, id⟩ ↔
            ApiKeyHistory.Unlimited old)) ∧
    (∀ history, Transition.Runs (ApiKeyHistory.step scrypt) ApiKeyHistory.RotatesUnlimited .start history →
      history.NeverWidens scrypt) := by
  constructor
  · intro history hrun
    have hinv : history.Inv := hrun.invariant .start fun _ _ _ h _ hstep => h.step hstep
    refine ⟨hinv.retiredStayDead, ?_⟩
    intro tenantId apiKeyId dto secret id now old rows hfound hrotated
    obtain ⟨_, _, hinserted⟩ := rotateApiKey_eq_ok hrotated
    have hrow : rotatedRow scrypt tenantId dto secret id ∈ rows := by
      rw [(insertRow_eq_ok hinserted).1]
      exact List.mem_append_right _ (List.mem_singleton_self _)
    have hafter : history.step scrypt (.rotateApiKey tenantId apiKeyId dto secret id now) = some {
        rows := rows
        issued := (id, secret.rawKey) :: history.issued
        rotations := ⟨old, now, id⟩ :: history.rotations
        retired := apiKeyId :: history.retired } := by
      unfold ApiKeyHistory.step
      dsimp only
      rw [hfound, hrotated]
    exact (hinv.step hafter).narrow_iff hrow old now
  · intro history hrun
    have hstart : ApiKeyHistory.start.Inv ∧ ApiKeyHistory.start.RotatedUnlimited := ⟨.start, fun _ h => (nomatch h)⟩
    have hboth := hrun.invariant (P := fun history => history.Inv ∧ history.RotatedUnlimited) hstart
      fun _ _ _ h hunlimited hstep => ⟨h.1.step hstep, h.2.step h.1 hunlimited hstep⟩
    exact hboth.2.neverWidens

namespace Sample

/-- Keeps the text, so that distinct keys have distinct hashes. -/
def scrypt (apiKey : String) (salt : List UInt8) : List UInt8 := salt ++ apiKey.toList.map fun c => .ofNat c.toNat

def firstSecret : ApiKeySecret := ⟨[161, 178, 195, 212, 229, 246], "abcd_efgh", [1]⟩

def secondSecret : ApiKeySecret := ⟨[0, 17, 34, 51, 68, 85], "ijkl-mnop", [2]⟩

def createFirst (dto : CreateApiKeyDto) : ApiKeyCall :=
  .createApiKey SmsPlatform.Sample.tenant dto firstSecret "key-1" 0

def rotateFirst : ApiKeyCall := .rotateApiKey SmsPlatform.Sample.tenant "key-1" {} secondSecret "key-2" 1000

/-- A key that may send ten messages a second, a hundred a day, for one day. -/
def trial : CreateApiKeyDto :=
  { name := "Trial", rateLimitRps := some 10, dailyQuota := some 100, expiresInDays := some 1 }

end Sample

theorem rotation_narrows_unlimited : ∃ history,
    Transition.Runs (ApiKeyHistory.step Sample.scrypt) ApiKeyHistory.RotatesUnlimited .start history ∧
      history.rotations.length = 1 ∧ history.retired = ["key-1"] ∧ history.NeverWidens Sample.scrypt ∧
      history.RetiredStayDead Sample.scrypt := by
  have h : (Transition.execute (ApiKeyHistory.step Sample.scrypt) .start
      [Sample.createFirst ⟨"Primary", none, none, none, none⟩]).any fun history =>
        (findKey history.rows SmsPlatform.Sample.tenant "key-1").all
            (fun old => decide (ApiKeyHistory.Unlimited old)) &&
          (history.step Sample.scrypt Sample.rotateFirst).any fun after =>
            decide (after.rotations.length = 1 ∧ after.retired = ["key-1"]) := by
    decide +kernel
  obtain ⟨history, hcreated, hboth⟩ := (Option.any_eq_true _ _).1 h
  rw [Bool.and_eq_true, Option.all_eq_true] at hboth
  obtain ⟨hunlimited, hrotated⟩ := hboth
  obtain ⟨after, hstep, hafter⟩ := (Option.any_eq_true _ _).1 hrotated
  obtain ⟨hlength, hretired⟩ := of_decide_eq_true hafter
  obtain ⟨created, hcreate, hnil⟩ := Option.bind_eq_some_iff.1 hcreated
  cases hnil
  have hruns : Transition.Runs (ApiKeyHistory.step Sample.scrypt) ApiKeyHistory.RotatesUnlimited .start after :=
    .tail Sample.rotateFirst (.tail (Sample.createFirst ⟨"Primary", none, none, none, none⟩) .refl trivial hcreate)
      (fun old hfound => of_decide_eq_true (hunlimited old hfound)) hstep
  exact ⟨after, hruns, hlength, hretired, (rotation_narrows Sample.scrypt).2 after hruns,
    ((rotation_narrows Sample.scrypt).1 after hruns.reaches).1⟩

/-- The trial key is rotated, and its successor has no limits at all. -/
theorem rotation_drops_limits : ∃ history,
    Transition.Reaches (ApiKeyHistory.step Sample.scrypt) .start history ∧ ¬ history.NeverWidens Sample.scrypt := by
  have h : (Transition.execute (ApiKeyHistory.step Sample.scrypt) .start
      [Sample.createFirst Sample.trial, Sample.rotateFirst]).any fun history =>
        decide ((history.rotations.map fun rotation => (rotation.old.id, rotation.newId)) = [("key-1", "key-2")] ∧
          (∃ row ∈ history.rows, row.id = "key-1" ∧ row.rateLimitRps = some 10) ∧
          rotatedRow Sample.scrypt SmsPlatform.Sample.tenant {} Sample.secondSecret "key-2" ∈ history.rows) := by
    decide +kernel
  obtain ⟨history, hrun, hfacts⟩ := (Option.any_eq_true _ _).1 h
  obtain ⟨hrotations, ⟨row, hrow, hid, hlimit⟩, hnew⟩ := of_decide_eq_true hfacts
  have hreaches := Transition.reaches_of_execute hrun
  have hinv : history.Inv := hreaches.invariant .start fun _ _ _ h _ hstep => h.step hstep
  refine ⟨history, hreaches, fun hnever => ?_⟩
  have hrotated : history.RotatedTo "key-1" "key-2" := by
    have hpair : ("key-1", "key-2") ∈ history.rotations.map fun rotation => (rotation.old.id, rotation.newId) := by
      rw [hrotations]
      exact List.mem_singleton_self _
    obtain ⟨rotation, hmem, hsame⟩ := List.mem_map.1 hpair
    exact ⟨rotation, hmem, congrArg Prod.fst hsame, congrArg Prod.snd hsame⟩
  obtain ⟨principal, hvalid, hnone, -⟩ := hinv.validates_rotated hnew
  have hwithin := (hnever.narrow _ _ (.single hrotated) row hrow hid principal hvalid).1
  rw [hnone, none_within_iff, hlimit] at hwithin
  cases hwithin

end ApiKeys

end SmsPlatform
