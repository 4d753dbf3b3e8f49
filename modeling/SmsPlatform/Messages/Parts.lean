import SmsPlatform.Messages.Preparation

/-!
# Parts of a message

`computeMessageParts` counts a message in parts of 160 code units, or of 153 each when there are several.  A carrier counts
septets of the GSM 03.38 alphabet, two for a character of the extension table, and for a message with any other character
UTF-16 code units in parts of 70 or 67.  `parts_suffice_iff` says for which messages the first number is enough.
-/

namespace SmsPlatform

/-! ### What it takes to carry a message -/

/-- The default alphabet of GSM 03.38: line feed and carriage return, the printable characters of ASCII but the grave
accent and those of the extension table, some signs, and letters with accents and of Greek. -/
def isGsmDefault (c : Char) : Bool :=
  decide (0x20 ≤ c.toNat ∧ c.toNat ≤ 0x5A) || decide (0x61 ≤ c.toNat ∧ c.toNat ≤ 0x7A) ||
    c.toNat ∈ [0x0A, 0x0D, 0x5F, 0xA1, 0xA3, 0xA4, 0xA5, 0xA7, 0xBF, 0xC4, 0xC5, 0xC6, 0xC7, 0xC9, 0xD1, 0xD6, 0xD8, 0xDC,
      0xDF, 0xE0, 0xE4, 0xE5, 0xE6, 0xE8, 0xE9, 0xEC, 0xF1, 0xF2, 0xF6, 0xF8, 0xF9, 0xFC, 0x393, 0x394, 0x398, 0x39B, 0x39E,
      0x3A0, 0x3A3, 0x3A6, 0x3A8, 0x3A9]

/-- The extension table: form feed, brackets, braces, backslash, caret, tilde, bar and the euro sign. -/
def isGsmExtension (c : Char) : Bool :=
  c.toNat ∈ [0x0C, 0x5B, 0x5C, 0x5D, 0x5E, 0x7B, 0x7C, 0x7D, 0x7E, 0x20AC]

def GsmEncodable (body : String) : Prop := ∀ c ∈ body.toList, (isGsmDefault c || isGsmExtension c) = true

instance (body : String) : Decidable (GsmEncodable body) :=
  inferInstanceAs (Decidable (∀ c ∈ body.toList, _))

/-- The length in septets. -/
def septets (body : String) : Nat := (body.toList.map fun c => if isGsmExtension c then 2 else 1).sum

/-- The number of SMS segments that carry a message. -/
def segmentsNeeded (body : String) : Nat :=
  if GsmEncodable body then
    if septets body ≤ 160 then 1 else (septets body + 152) / 153
  else if MessagesService.utf16Length body ≤ 70 then 1 else (MessagesService.utf16Length body + 66) / 67

namespace MessagesService

/-- The number of characters that cost two septets. -/
def extensionCount (body : String) : Nat := body.toList.countP isGsmExtension

/-- The characters of the two tables are single code units. -/
theorem toNat_of_gsm {c : Char} (h : (isGsmDefault c || isGsmExtension c) = true) : c.toNat < 0x10000 := by
  simp only [isGsmDefault, isGsmExtension, Bool.or_eq_true, decide_eq_true_eq, List.mem_cons, List.not_mem_nil, or_false] at h
  omega

/-- Each character of the extension table adds a septet to the length in code units. -/
theorem septets_eq {body : String} (h : GsmEncodable body) : septets body = utf16Length body + extensionCount body := by
  unfold GsmEncodable at h
  unfold septets utf16Length extensionCount
  generalize body.toList = text at h ⊢
  induction text with
  | nil => rfl
  | cons c text ih =>
    have hc := toNat_of_gsm (h c (by simp))
    have hrest := ih fun d hd => h d (by simp [hd])
    by_cases hext : isGsmExtension c = true
    · simp [hext, hc, hrest]
      omega
    · simp [hext, hc, hrest]
      omega

/-- The parts are enough exactly if the message is in the GSM alphabet and its extension characters fit beside it in one
segment or in the last of several, or else if it has at most 70 code units. -/
theorem parts_suffice_iff (body : String) : segmentsNeeded body ≤ computeMessageParts body ↔
    (GsmEncodable body ∧ (utf16Length body + extensionCount body ≤ 160 ∨ (160 < utf16Length body ∧
      utf16Length body + extensionCount body ≤ 153 * ((utf16Length body + 152) / 153)))) ∨
      (¬ GsmEncodable body ∧ utf16Length body ≤ 70) := by
  unfold segmentsNeeded computeMessageParts
  by_cases hgsm : GsmEncodable body
  · rw [if_pos hgsm, septets_eq hgsm]
    simp only [hgsm, true_and, not_true_eq_false, false_and, or_false]
    generalize utf16Length body = units
    generalize extensionCount body = extra
    split <;> split <;> omega
  · rw [if_neg hgsm]
    simp only [hgsm, false_and, not_false_eq_true, true_and, false_or]
    generalize utf16Length body = units
    split <;> split <;> omega

/-- Eighty letters of Amharic take two segments and are counted as one part. -/
theorem amharic_undercounted : computeMessageParts (String.ofList (List.replicate 80 (Char.ofNat 0x1200))) <
    segmentsNeeded (String.ofList (List.replicate 80 (Char.ofNat 0x1200))) := by
  have htext := @String.toList_ofList (List.replicate 80 (Char.ofNat 0x1200))
  have hunits : utf16Length (String.ofList (List.replicate 80 (Char.ofNat 0x1200))) = 80 := by
    unfold utf16Length
    rw [htext]
    decide
  have hgsm : ¬ GsmEncodable (String.ofList (List.replicate 80 (Char.ofNat 0x1200))) := by
    intro hall
    have hletter := hall (Char.ofNat 0x1200) (by rw [htext]; exact List.mem_replicate.2 ⟨by decide, rfl⟩)
    exact absurd hletter (by decide)
  unfold computeMessageParts segmentsNeeded
  rw [if_neg hgsm, hunits]
  decide

end MessagesService

end SmsPlatform
