/-
# Identifiers

The identifiers that a server gives out are numbered: the first of the five groups of
hexadecimal digits counts them, and the others are fixed.
-/
import SessionTasks.Text.Digits
namespace SessionTasks

/-- The `n`-th identifier. -/
def identifier (n : Nat) : String :=
  String.ofList (Text.hex 8 n) ++ "-0000-4000-8000-000000000000"

end SessionTasks
