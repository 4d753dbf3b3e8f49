import Mathlib.Data.List.Induction
import Mathlib.Data.Nat.Digits.Defs
import SmsPlatform.Compliance.Spelling
import SmsPlatform.Connectors.Smpp
import SmsPlatform.Lib.Binary64
import SmsPlatform.Lib.Decimal

/-!
# The slot of a destination

`computeSessionSlot` hashes the digits of a destination with numbers that are binary64: the two bitwise operators make
signed 32-bit integers, and the difference and the sum between them are rounded.  No number on the way needs rounding
(`ExactStep`), so the hash is the polynomial of the digits' codes at 31, as a signed 32-bit integer, and the slot is its
absolute value modulo the number of sessions.
-/

namespace SmsPlatform

namespace Smpp

/-! ### The loop on numbers -/

/-- `hash << 5`. -/
def shiftLeft (hash : Int) : Int := toInt32 (toInt32 hash * 2 ^ 5)

/-- The body of the loop, where `-` and `+` round. -/
def hashStep (hash : Int) (digit : Char) : Int :=
  toInt32 (Binary64.round (Binary64.round (shiftLeft hash - hash) + digit.toNat))

/-- `computeSessionSlot` with the numbers as they are; `Math.abs`, `Math.max` and `%` are exact on integers. -/
def computeSessionSlotJs (destinationAddr : String) (maxSessions : Int) : Int :=
  let normalized := destinationAddr.toList.filter Char.isDigit
  let safeSessions := max maxSessions 1
  let hash := normalized.foldl hashStep 0
  hash.natAbs % safeSessions

/-! ### The polynomial -/

/-- The codes of the digits as coefficients of a polynomial at 31, the last one without a factor. -/
def digitPolynomial (digits : List Char) : Nat := Nat.ofDigits 31 (digits.reverse.map Char.toNat)

theorem digitPolynomial_concat (digits : List Char) (digit : Char) :
    digitPolynomial (digits ++ [digit]) = digitPolynomial digits * 31 + digit.toNat := by
  unfold digitPolynomial
  rw [List.reverse_append, List.reverse_singleton, List.singleton_append, List.map_cons, Nat.ofDigits_cons]
  omega

/-! ### One step -/

/-- The values that the bitwise operators yield. -/
def IsInt32 (n : Int) : Prop := -(2 ^ 31) ≤ n ∧ n < 2 ^ 31

theorem isInt32_toInt32 (n : Int) : IsInt32 (toInt32 n) := by
  have hlow := Int.le_bmod (x := n) (m := 2 ^ 32) (by decide)
  have hhigh := Int.bmod_lt (x := n) (m := 2 ^ 32) (by decide)
  unfold IsInt32 toInt32
  omega

theorem toInt32_of_isInt32 {n : Int} (h : IsInt32 n) : toInt32 n = n := by
  unfold IsInt32 at h
  apply Int.bmod_eq_of_le <;> omega

/-- The numbers of a step are integers that binary64 represents, so nothing is rounded. -/
structure ExactStep (hash : Int) (digit : Char) : Prop where
  shift : (shiftLeft hash).natAbs < 2 ^ 53
  difference : (shiftLeft hash - hash).natAbs < 2 ^ 53
  sum : (shiftLeft hash - hash + digit.toNat).natAbs < 2 ^ 53

theorem exactStep {hash : Int} {digit : Char} (hhash : IsInt32 hash) (hdigit : digit.isDigit = true) :
    ExactStep hash digit := by
  have hshift : IsInt32 (shiftLeft hash) := isInt32_toInt32 _
  have hcode := Decimal.digit_bounds hdigit
  unfold IsInt32 at hhash hshift
  constructor <;> omega

/-- A step multiplies by 31 and adds the code, modulo `2 ^ 32`. -/
theorem hashStep_eq {hash : Int} {digit : Char} (h : ExactStep hash digit) :
    hashStep hash digit = toInt32 (hash * 31 + digit.toNat) := by
  unfold hashStep
  rw [Binary64.round_of_natAbs_lt h.difference, Binary64.round_of_natAbs_lt h.sum]
  have hregroup : shiftLeft hash - hash + digit.toNat = shiftLeft hash - (hash - digit.toNat) := by omega
  have hfactor : hash * 2 ^ 5 - (hash - digit.toNat) = hash * 31 + digit.toNat := by omega
  rw [hregroup, ← hfactor]
  unfold shiftLeft toInt32
  rw [Int.bmod_mul_bmod, Int.bmod_sub_bmod]

/-- The step of the exact loop is the same. -/
theorem hashStep_eq_exact {hash : Int} {digit : Char} (hhash : IsInt32 hash) (h : ExactStep hash digit) :
    hashStep hash digit = toInt32 (toInt32 (hash * 2 ^ 5) - hash + digit.toNat) := by
  unfold hashStep
  rw [Binary64.round_of_natAbs_lt h.difference, Binary64.round_of_natAbs_lt h.sum]
  unfold shiftLeft
  rw [toInt32_of_isInt32 hhash]

/-! ### The loop -/

section Digits

variable {digits : List Char} (hdigits : ∀ c ∈ digits, c.isDigit = true)
include hdigits

/-- After every digit the hash is the polynomial of the digits so far. -/
theorem foldl_hashStep : digits.foldl hashStep 0 = toInt32 (digitPolynomial digits) := by
  induction digits using List.reverseRecOn with
  | nil => rfl
  | append_singleton digits digit ih =>
    have hhash := ih fun c hc => hdigits c (List.mem_append_left _ hc)
    have hint : IsInt32 (toInt32 (digitPolynomial digits)) := isInt32_toInt32 _
    have hstep := exactStep hint (hdigits digit (by simp))
    rw [List.foldl_append, List.foldl_cons, List.foldl_nil, hhash, hashStep_eq hstep, digitPolynomial_concat]
    push_cast
    unfold toInt32
    rw [Int.add_bmod, Int.bmod_mul_bmod, ← Int.add_bmod]

/-- No step of the loop rounds. -/
theorem exactStep_of_split {before after : List Char} {digit : Char} (hsplit : digits = before ++ digit :: after) :
    ExactStep (before.foldl hashStep 0) digit := by
  have hbefore : ∀ c ∈ before, c.isDigit = true := fun c hc => hdigits c (by simp [hsplit, hc])
  have hhash : IsInt32 (before.foldl hashStep 0) := by
    rw [foldl_hashStep hbefore]
    exact isInt32_toInt32 _
  exact exactStep hhash (hdigits digit (by simp [hsplit]))

/-- The loop without rounding yields the same hash. -/
theorem foldl_exact : digits.foldl (fun hash digit => toInt32 (toInt32 (hash * 2 ^ 5) - hash + digit.toNat)) 0 =
    digits.foldl hashStep 0 := by
  induction digits using List.reverseRecOn with
  | nil => rfl
  | append_singleton digits digit ih =>
    have hbefore : ∀ c ∈ digits, c.isDigit = true := fun c hc => hdigits c (List.mem_append_left _ hc)
    have hhash : IsInt32 (digits.foldl hashStep 0) := by
      rw [foldl_hashStep hbefore]
      exact isInt32_toInt32 _
    have hstep := exactStep hhash (hdigits digit (by simp))
    simp only [List.foldl_append, List.foldl_cons, List.foldl_nil]
    rw [ih hbefore, hashStep_eq_exact hhash hstep]

end Digits

/-! ### The slot -/

theorem isDigit_of_mem_filter {text : List Char} : ∀ c ∈ text.filter Char.isDigit, c.isDigit = true :=
  fun _ hc => (List.mem_filter.1 hc).2

/-- The signed 32-bit integer that a destination is hashed to. -/
def destinationHash (destinationAddr : String) : Int :=
  toInt32 (digitPolynomial (destinationAddr.toList.filter Char.isDigit))

theorem computeSessionSlotJs_eq (destinationAddr : String) (maxSessions : Int) :
    computeSessionSlotJs destinationAddr maxSessions =
      (destinationHash destinationAddr).natAbs % max maxSessions 1 := by
  unfold computeSessionSlotJs
  dsimp only
  rw [foldl_hashStep isDigit_of_mem_filter]
  rfl

theorem computeSessionSlot_eq (destinationAddr : String) (maxSessions : Int) :
    computeSessionSlot destinationAddr maxSessions = computeSessionSlotJs destinationAddr maxSessions := by
  unfold computeSessionSlot computeSessionSlotJs
  dsimp only
  rw [foldl_exact isDigit_of_mem_filter]

/-- Requests for one account reach one session when their destinations have the same digits. -/
theorem getSessionKey_congr {request request' : SmppDispatchRequest} (haccount : request.account = request'.account)
    (hsessions : request.maxSessions = request'.maxSessions)
    (hdigits : request.destinationAddr.toList.filter Char.isDigit = request'.destinationAddr.toList.filter Char.isDigit) :
    getSessionKey request = getSessionKey request' := by
  have hslot : request.slot = request'.slot := by
    unfold SmppDispatchRequest.slot
    rw [computeSessionSlot_eq, computeSessionSlot_eq, computeSessionSlotJs_eq, computeSessionSlotJs_eq, hsessions]
    unfold destinationHash
    rw [hdigits]
  unfold getSessionKey
  rw [haccount, hslot]

/-- The numbers that a submission makes of two plain spellings of a subscriber are the same. -/
theorem normalized_eq_of_sameSubscriber {p q number number' : String} (hsame : SameSubscriber p q) (hp : Plain p)
    (hq : Plain q) (h : MessagesService.normalizePhoneNumber p = .ok number)
    (h' : MessagesService.normalizePhoneNumber q = .ok number') : number = number' := by
  obtain ⟨digits, hwrites, rfl⟩ := MessagesService.normalizePhoneNumber_ok.1 h
  obtain ⟨digits', hwrites', rfl⟩ := MessagesService.normalizePhoneNumber_ok.1 h'
  rw [hwrites.unique (hsame.writes hp hq _ hwrites')]

/-- The slot is a number from 0 up to the number of sessions, and the absolute value of the hash modulo that number; no
number of the loop is rounded.  The destination counts with its digits only, so all spellings of a number that differ in
other characters have one session, and so have all plain spellings of a subscriber once they are normalised. -/
theorem computeSessionSlot_spec :
    (∀ destinationAddr maxSessions,
      (0 ≤ computeSessionSlotJs destinationAddr maxSessions ∧
        computeSessionSlotJs destinationAddr maxSessions < max maxSessions 1) ∧
      computeSessionSlotJs destinationAddr maxSessions =
        (destinationHash destinationAddr).natAbs % max maxSessions 1 ∧
      IsInt32 (destinationHash destinationAddr) ∧
      (destinationHash destinationAddr = -(2 ^ 31) →
        computeSessionSlotJs destinationAddr maxSessions = 2 ^ 31 % max maxSessions 1) ∧
      (∀ before digit after, destinationAddr.toList.filter Char.isDigit = before ++ digit :: after →
        ExactStep (before.foldl hashStep 0) digit) ∧
      computeSessionSlot destinationAddr maxSessions = computeSessionSlotJs destinationAddr maxSessions) ∧
    (∀ request request', request.account = request'.account → request.maxSessions = request'.maxSessions →
      (request.destinationAddr.toList.filter Char.isDigit = request'.destinationAddr.toList.filter Char.isDigit →
        getSessionKey request = getSessionKey request') ∧
      ∀ p q, SameSubscriber p q → Plain p → Plain q →
        MessagesService.normalizePhoneNumber p = .ok request.destinationAddr →
        MessagesService.normalizePhoneNumber q = .ok request'.destinationAddr →
          getSessionKey request = getSessionKey request') := by
  refine ⟨fun destinationAddr maxSessions => ⟨?_, ?_, ?_, ?_, ?_, ?_⟩, fun request request' haccount hsessions => ⟨?_, ?_⟩⟩
  · rw [← computeSessionSlot_eq]
    exact ⟨computeSessionSlot_nonneg _ _, computeSessionSlot_lt _ _⟩
  · exact computeSessionSlotJs_eq destinationAddr maxSessions
  · exact isInt32_toInt32 _
  · intro hlowest
    rw [computeSessionSlotJs_eq, hlowest]
    rfl
  · intro before digit after hsplit
    exact exactStep_of_split isDigit_of_mem_filter hsplit
  · exact computeSessionSlot_eq destinationAddr maxSessions
  · exact getSessionKey_congr haccount hsessions
  · intro p q hsame hp hq h h'
    apply getSessionKey_congr haccount hsessions
    rw [normalized_eq_of_sameSubscriber hsame hp hq h h']

end Smpp

end SmsPlatform
