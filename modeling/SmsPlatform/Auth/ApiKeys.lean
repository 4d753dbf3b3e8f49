import SmsPlatform.Auth.Guards
import SmsPlatform.Lib.Rows

/-!
# The life of an API key

A key is created, rotated and disabled in the table that `validateApiKey` reads.  Its text is shown once, when it is
issued; the row holds a hash of it and its prefix, which is unique.  The random bytes, the id of a new row and the time
of a call are arguments.
-/

namespace SmsPlatform

/-! ### Hexadecimal texts -/

/-- `bytes.toString('hex')` -/
def hexText (bytes : List UInt8) : List Char :=
  bytes.flatMap fun byte => [Nat.digitChar (byte.toNat / 16), Nat.digitChar (byte.toNat % 16)]

theorem hexDigit_digitChar : ∀ n < 16, hexDigit (Nat.digitChar n) = some n := by decide

theorem hexBytes_hexText (bytes : List UInt8) : hexBytes (hexText bytes) = bytes := by
  induction bytes with
  | nil => rfl
  | cons byte bytes ih =>
    have hlt : byte.toNat < 256 := byte.toNat_lt
    have hhigh := hexDigit_digitChar (byte.toNat / 16) (by omega)
    have hlow := hexDigit_digitChar (byte.toNat % 16) (by omega)
    show hexBytes (_ :: _ :: hexText bytes) = _
    unfold hexBytes
    rw [hhigh, hlow]
    dsimp only
    rw [ih, Nat.div_add_mod, UInt8.ofNat_toNat]

theorem underscore_not_mem_hexText (bytes : List UInt8) : '_' ∉ hexText bytes := by
  intro h
  obtain ⟨byte, -, hmem⟩ := List.mem_flatMap.1 h
  have hdigit : ∀ n < 16, '_' ≠ Nat.digitChar n := by decide
  have hlt : byte.toNat < 256 := byte.toNat_lt
  simp only [List.mem_cons, List.not_mem_nil, or_false] at hmem
  rcases hmem with hmem | hmem
  · exact hdigit _ (by omega) hmem
  · exact hdigit _ (by omega) hmem

/-! ### Issuing, rotating and disabling -/

/-- What `issueApiKeySecret` draws. -/
structure ApiKeySecret where
  prefixBytes : List UInt8
  secret : String
  salt : List UInt8

namespace ApiKeySecret

def keyPrefix (issued : ApiKeySecret) : String := .ofList (hexText issued.prefixBytes)

def rawKey (issued : ApiKeySecret) : String := "sk_live_" ++ issued.keyPrefix ++ "_" ++ issued.secret

end ApiKeySecret

structure CreateApiKeyDto where
  name : String
  scopes : Option (List String) := none
  rateLimitRps : Option Nat := none
  dailyQuota : Option Nat := none
  expiresInDays : Option Nat := none

structure RotateApiKeyDto where
  name : Option String := none
  scopes : Option (List String) := none

def ApiKeyRow.disabled (row : ApiKeyRow) : ApiKeyRow := { row with isActive := false }

namespace ApiKeys

variable (scrypt : String → List UInt8 → List UInt8)

def hashApiKey (apiKey : String) (salt : List UInt8) : String := .ofList (hexText (scrypt apiKey salt))

/-- The INSERT, with the checks of the columns. -/
def insertRow (rows : List ApiKeyRow) (row : ApiKeyRow) : Except Failure (List ApiKeyRow) :=
  if 100 < row.name.length then .error (.valueTooLong 100)
  else if row.dailyQuota.any fun quota => decide (2 ^ 63 ≤ quota) then
    .error (.error "value is out of range for type bigint")
  -- a date after this one is no date in JavaScript
  else if row.expiresAt.any fun expiresAt => decide (8640000000000000 < expiresAt) then
    .error (.error "invalid input syntax for type timestamp with time zone")
  else if row.id ∈ rows.map ApiKeyRow.id then .error (.uniqueViolation "api_keys_pkey")
  else if row.keyPrefix ∈ rows.map ApiKeyRow.keyPrefix then .error (.uniqueViolation "api_keys_key_prefix_key")
  else .ok (rows ++ [row])

def createdRow (tenantId : TenantId) (dto : CreateApiKeyDto) (issued : ApiKeySecret) (id : String) (now : Int) :
    ApiKeyRow where
  id := id
  tenantId := tenantId
  keyPrefix := issued.keyPrefix
  keyHash := hashApiKey scrypt issued.rawKey issued.salt
  keySalt := issued.salt
  name := dto.name
  scopes := dto.scopes.getD ["sms:send"]
  rateLimitRps := dto.rateLimitRps
  dailyQuota := dto.dailyQuota
  isActive := true
  expiresAt := (dto.expiresInDays.filter fun days => decide (days ≠ 0)).map fun days =>
    now + days * (24 * 60 * 60 * 1000)

def createApiKey (rows : List ApiKeyRow) (tenantId : TenantId) (dto : CreateApiKeyDto) (issued : ApiKeySecret)
    (id : String) (now : Int) : Except Failure (List ApiKeyRow) :=
  insertRow rows (createdRow scrypt tenantId dto issued id now)

/-- The row of the new key takes nothing from the old one. -/
def rotatedRow (tenantId : TenantId) (dto : RotateApiKeyDto) (issued : ApiKeySecret) (id : String) : ApiKeyRow where
  id := id
  tenantId := tenantId
  keyPrefix := issued.keyPrefix
  keyHash := hashApiKey scrypt issued.rawKey issued.salt
  keySalt := issued.salt
  name := dto.name.getD "Rotated key"
  scopes := dto.scopes.getD ["sms:send"]
  rateLimitRps := none
  dailyQuota := none
  isActive := true
  expiresAt := none

def findKey (rows : List ApiKeyRow) (tenantId : TenantId) (apiKeyId : String) : Option ApiKeyRow :=
  rows.find? fun row => decide (row.id = apiKeyId ∧ row.tenantId = tenantId)

def rotateApiKey (rows : List ApiKeyRow) (tenantId : TenantId) (apiKeyId : String) (dto : RotateApiKeyDto)
    (issued : ApiKeySecret) (id : String) : Except Failure (List ApiKeyRow) :=
  match findKey rows tenantId apiKeyId with
  | none => .error (.notFound "API key not found")
  | some _ =>
    insertRow (Rows.update (fun row => decide (row.id = apiKeyId)) ApiKeyRow.disabled rows)
      (rotatedRow scrypt tenantId dto issued id)

def disableApiKey (rows : List ApiKeyRow) (tenantId : TenantId) (apiKeyId : String) : Except Failure (List ApiKeyRow) :=
  match findKey rows tenantId apiKeyId with
  | none => .error (.notFound "API key not found")
  | some _ =>
    .ok (Rows.update (fun row => decide (row.id = apiKeyId ∧ row.tenantId = tenantId)) ApiKeyRow.disabled rows)

/-! ### What they do to the table -/

variable {scrypt} {rows rows' : List ApiKeyRow}

theorem insertRow_eq_ok {row : ApiKeyRow} (h : insertRow rows row = .ok rows') :
    rows' = rows ++ [row] ∧ row.id ∉ rows.map ApiKeyRow.id ∧ row.keyPrefix ∉ rows.map ApiKeyRow.keyPrefix := by
  unfold insertRow at h
  split at h
  · cases h
  split at h
  · cases h
  split at h
  · cases h
  split at h
  · cases h
  rename_i hid
  split at h
  · cases h
  rename_i hkeyPrefix
  cases h
  exact ⟨rfl, hid, hkeyPrefix⟩

/-- Disabling keys keeps all columns but one. -/
theorem map_disabled {κ : Type} {column : ApiKeyRow → κ} (hcolumn : ∀ row, column (ApiKeyRow.disabled row) = column row)
    (p : ApiKeyRow → Bool) (rows : List ApiKeyRow) :
    (Rows.update p ApiKeyRow.disabled rows).map column = rows.map column :=
  Rows.map_update hcolumn rows

theorem findKey_eq_some {tenantId : TenantId} {apiKeyId : String} {row : ApiKeyRow}
    (h : findKey rows tenantId apiKeyId = some row) : row ∈ rows ∧ row.id = apiKeyId ∧ row.tenantId = tenantId :=
  ⟨List.mem_of_find?_eq_some h, by simpa using List.find?_some h⟩

theorem rotateApiKey_eq_ok {tenantId : TenantId} {apiKeyId : String} {dto : RotateApiKeyDto} {issued : ApiKeySecret}
    {id : String} (h : rotateApiKey scrypt rows tenantId apiKeyId dto issued id = .ok rows') :
    ∃ old, findKey rows tenantId apiKeyId = some old ∧
      insertRow (Rows.update (fun row => decide (row.id = apiKeyId)) ApiKeyRow.disabled rows)
        (rotatedRow scrypt tenantId dto issued id) = .ok rows' := by
  unfold rotateApiKey at h
  split at h
  · cases h
  · rename_i old hfound
    exact ⟨old, hfound, h⟩

theorem disableApiKey_eq_ok {tenantId : TenantId} {apiKeyId : String}
    (h : disableApiKey rows tenantId apiKeyId = .ok rows') : ∃ old, findKey rows tenantId apiKeyId = some old ∧
      rows' = Rows.update (fun row => decide (row.id = apiKeyId ∧ row.tenantId = tenantId)) ApiKeyRow.disabled
        rows := by
  unfold disableApiKey at h
  split at h
  · cases h
  · rename_i old hfound
    cases h
    exact ⟨old, hfound, rfl⟩

/-! ### What the validation reads -/

/-- A text that names a prefix. -/
def Names (apiKey : String) (keyPrefix : String) : Prop :=
  ∃ first second fourth rest, apiKey.toList.splitOn '_' = first :: second :: keyPrefix.toList :: fourth :: rest

theorem names_rawKey (issued : ApiKeySecret) : Names issued.rawKey issued.keyPrefix := by
  have htext : issued.rawKey.toList =
      "sk".toList ++ '_' :: ("live".toList ++ '_' :: (issued.keyPrefix.toList ++ '_' :: issued.secret.toList)) := by
    unfold ApiKeySecret.rawKey
    rw [String.toList_append, String.toList_append, String.toList_append, List.append_assoc, List.append_assoc]
    rfl
  have hplain : '_' ∉ issued.keyPrefix.toList := by
    unfold ApiKeySecret.keyPrefix
    rw [String.toList_ofList]
    exact underscore_not_mem_hexText _
  unfold Names
  rw [htext, List.splitOn_append_cons_self_of_not_mem (by decide), List.splitOn_append_cons_self_of_not_mem (by decide),
    List.splitOn_append_cons_self_of_not_mem hplain]
  cases hlast : issued.secret.toList.splitOn '_' with
  | nil => exact absurd hlast (List.splitOn_ne_nil _ _)
  | cons fourth rest => exact ⟨_, _, fourth, rest, rfl⟩

theorem validateApiKey_eq_ok {now : Int} {apiKey : String} {principal : ApiPrincipal}
    (h : validateApiKey scrypt rows now apiKey = .ok principal) :
    ∃ row ∈ rows, row.isActive = true ∧ (row.expiresAt.any fun expiresAt => decide (expiresAt < now)) = false ∧
      principal = ⟨row.id, row.tenantId, row.name, row.scopes, row.rateLimitRps, row.dailyQuota⟩ := by
  unfold validateApiKey at h
  split at h
  · split at h
    · cases h
    · rename_i row hfound
      split at h
      · cases h
      rename_i hactive
      split at h
      · cases h
      rename_i hexpired
      split at h
      · cases h
      cases h
      exact ⟨row, List.mem_of_find?_eq_some hfound, by simpa using hactive, by simpa using hexpired, rfl⟩
  · cases h

/-- The row of a prefix, which is unique, decides. -/
theorem validateApiKey_of_names (hkeyed : Rows.Keyed ApiKeyRow.keyPrefix rows) {row : ApiKeyRow} (hrow : row ∈ rows)
    {apiKey : String} (hnames : Names apiKey row.keyPrefix) (now : Int) :
    validateApiKey scrypt rows now apiKey =
      if row.isActive = false then .error (.unauthorized "API key is not active")
      else if row.expiresAt.any fun expiresAt => decide (expiresAt < now) then
        .error (.unauthorized "API key has expired")
      else if scrypt apiKey row.keySalt ≠ hexBytes row.keyHash.toList then .error (.unauthorized "Invalid API key")
      else .ok ⟨row.id, row.tenantId, row.name, row.scopes, row.rateLimitRps, row.dailyQuota⟩ := by
  obtain ⟨first, second, fourth, rest, hsplit⟩ := hnames
  have hfind : rows.find? (fun other => decide (other.keyPrefix = .ofList row.keyPrefix.toList)) = some row := by
    rw [String.ofList_toList]
    cases hfound : rows.find? fun other => decide (other.keyPrefix = row.keyPrefix) with
    | none =>
      have := List.find?_eq_none.1 hfound row hrow
      simp at this
    | some found =>
      have hsame : found.keyPrefix = row.keyPrefix := by simpa using List.find?_some hfound
      rw [hkeyed.unique (List.mem_of_find?_eq_some hfound) hrow hsame]
  unfold validateApiKey
  rw [hsplit]
  dsimp only
  rw [hfind]

/-- The text of a key validates as long as its row is active and has no date. -/
theorem validateApiKey_rawKey (hkeyed : Rows.Keyed ApiKeyRow.keyPrefix rows) {row : ApiKeyRow} (hrow : row ∈ rows)
    {issued : ApiKeySecret} (hkeyPrefix : row.keyPrefix = issued.keyPrefix) (hsalt : row.keySalt = issued.salt)
    (hhash : row.keyHash = hashApiKey scrypt issued.rawKey issued.salt) (hactive : row.isActive = true)
    (hexpires : row.expiresAt = none) (now : Int) : validateApiKey scrypt rows now issued.rawKey =
      .ok ⟨row.id, row.tenantId, row.name, row.scopes, row.rateLimitRps, row.dailyQuota⟩ := by
  have hnames : Names issued.rawKey row.keyPrefix := hkeyPrefix ▸ names_rawKey issued
  rw [validateApiKey_of_names hkeyed hrow hnames, hactive, hexpires, hhash, hsalt, if_neg Bool.noConfusion]
  have hmatches : hexBytes (hashApiKey scrypt issued.rawKey issued.salt).toList = scrypt issued.rawKey issued.salt := by
    unfold hashApiKey
    rw [String.toList_ofList, hexBytes_hexText]
  rw [hmatches]
  simp

end ApiKeys

end SmsPlatform
