/-
# Letter case

Only the letters `A` to `Z` have a lower case here; every other character is its own.
-/
namespace SessionTasks.Text

/-- The lower case of a letter. -/
def lowerChar (c : Char) : Char :=
  if 'A' ≤ c ∧ c ≤ 'Z' then Char.ofNat (c.toNat + 32) else c

/-- A text in lower case. -/
def lower (text : String) : String := String.ofList (text.toList.map lowerChar)

/-- The texts differ in letter case at most. -/
def equalIgnoringCase (a b : String) : Bool := lower a = lower b

end SessionTasks.Text
