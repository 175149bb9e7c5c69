/-
# Session keys

A session key holds only letters, digits, `_` and `-` of ASCII, so that it can stand in a
file name.  `sanitize` writes `_` for every other character.
-/
namespace SessionTasks

/-- A character that may stand in a session key. -/
def isKeyChar (c : Char) : Bool := c.isAlphanum || c = '_' || c = '-'

/-- The name of a session. -/
structure SessionKey where
  /-- The key as text. -/
  text : String
  /-- Every character may stand in a key. -/
  allowed : ∀ c ∈ text.toList, isKeyChar c = true
  deriving DecidableEq

namespace SessionKey

/-- What is written for a character of a raw key. -/
def sanitizeChar (c : Char) : Char := if isKeyChar c then c else '_'

theorem isKeyChar_sanitizeChar (c : Char) : isKeyChar (sanitizeChar c) = true := by
  unfold sanitizeChar
  split
  · assumption
  · rfl

/-- The key for a raw text. -/
def sanitize (raw : String) : SessionKey where
  text := String.ofList (raw.toList.map sanitizeChar)
  allowed := by
    intro c hc
    rw [String.toList_ofList] at hc
    obtain ⟨d, _, rfl⟩ := List.mem_map.1 hc
    exact isKeyChar_sanitizeChar d

theorem sanitizeChar_eq {c : Char} (h : isKeyChar c = true) : sanitizeChar c = c := by
  simp [sanitizeChar, h]

theorem text_injective : Function.Injective SessionKey.text := by
  rintro ⟨a, ha⟩ ⟨b, hb⟩ h
  cases h
  rfl

/-- A key is the key for its own text. -/
theorem sanitize_text (key : SessionKey) : sanitize key.text = key := by
  obtain ⟨text, allowed⟩ := key
  have h : text.toList.map sanitizeChar = text.toList := by
    conv => rhs; rw [← List.map_id text.toList]
    exact List.map_congr_left fun c hc => sanitizeChar_eq (allowed c hc)
  simp [sanitize, h]

instance : Inhabited SessionKey := ⟨sanitize ""⟩

end SessionKey

end SessionTasks
