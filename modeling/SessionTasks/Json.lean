/-
# JSON values

A value keeps the members of an object as a list.  `Canonical` values are those that other
programs can tell apart: whole numbers between `-2 ^ 63` and `2 ^ 64`, finite doubles, and
objects whose names are distinct and in order.  `Json.canonical` sorts the members of every
object, and of a repeated name keeps the last value.
-/
import SessionTasks.KeyMap
import SessionTasks.Binary64
namespace SessionTasks

/-- A JSON value. -/
inductive Json where
  /-- The value `null`. -/
  | null
  /-- A truth value. -/
  | bool (b : Bool)
  /-- A whole number. -/
  | int (n : Int)
  /-- A number with a point or an exponent. -/
  | double (x : Binary64)
  /-- A text. -/
  | str (s : String)
  /-- A list of values. -/
  | arr (items : List Json)
  /-- Values under names. -/
  | obj (members : List (String × Json))
  deriving Inhabited

namespace Json

/-! ## Equality is decidable -/

mutual
/-- Tells whether two values are the same. -/
def same : Json → Json → Bool
  | .null, .null => true
  | .bool a, .bool b => a == b
  | .int a, .int b => a == b
  | .double a, .double b => a == b
  | .str a, .str b => a == b
  | .arr a, .arr b => sameItems a b
  | .obj a, .obj b => sameMembers a b
  | _, _ => false

/-- Tells whether two lists of values are the same. -/
def sameItems : List Json → List Json → Bool
  | [], [] => true
  | a :: as, b :: bs => same a b && sameItems as bs
  | _, _ => false

/-- Tells whether two lists of members are the same. -/
def sameMembers : List (String × Json) → List (String × Json) → Bool
  | [], [] => true
  | (k, a) :: as, (l, b) :: bs => k == l && same a b && sameMembers as bs
  | _, _ => false
end

mutual
theorem eq_of_same : (a b : Json) → same a b = true → a = b
  | .null, b, h => by cases b <;> simp_all [same]
  | .bool _, b, h => by cases b <;> simp_all [same]
  | .int _, b, h => by cases b <;> simp_all [same]
  | .double _, b, h => by cases b <;> simp_all [same]
  | .str _, b, h => by cases b <;> simp_all [same]
  | .arr as, b, h => by
    cases b with
    | arr bs => exact congrArg Json.arr (eq_of_sameItems as bs (by simpa [same] using h))
    | _ => simp [same] at h
  | .obj as, b, h => by
    cases b with
    | obj bs => exact congrArg Json.obj (eq_of_sameMembers as bs (by simpa [same] using h))
    | _ => simp [same] at h

theorem eq_of_sameItems : (as bs : List Json) → sameItems as bs = true → as = bs
  | [], bs, h => by cases bs <;> simp_all [sameItems]
  | a :: as, bs, h => by
    cases bs with
    | nil => simp [sameItems] at h
    | cons b bs =>
      simp only [sameItems, Bool.and_eq_true] at h
      rw [eq_of_same a b h.1, eq_of_sameItems as bs h.2]

theorem eq_of_sameMembers :
    (as bs : List (String × Json)) → sameMembers as bs = true → as = bs
  | [], bs, h => by cases bs <;> simp_all [sameMembers]
  | (k, a) :: as, bs, h => by
    cases bs with
    | nil => simp [sameMembers] at h
    | cons b bs =>
      obtain ⟨l, b⟩ := b
      simp only [sameMembers, Bool.and_eq_true, beq_iff_eq] at h
      rw [h.1.1, eq_of_same a b h.1.2, eq_of_sameMembers as bs h.2]
end

mutual
theorem same_self : (a : Json) → same a a = true
  | .null | .bool _ | .int _ | .double _ | .str _ => by simp [same]
  | .arr as => by simp [same, sameItems_self as]
  | .obj as => by simp [same, sameMembers_self as]

theorem sameItems_self : (as : List Json) → sameItems as as = true
  | [] => rfl
  | a :: as => by simp [sameItems, same_self a, sameItems_self as]

theorem sameMembers_self : (as : List (String × Json)) → sameMembers as as = true
  | [] => rfl
  | (_, a) :: as => by simp [sameMembers, same_self a, sameMembers_self as]
end

instance : DecidableEq Json := fun a b =>
  if h : same a b = true then isTrue (eq_of_same a b h)
  else isFalse fun e => h (e ▸ same_self a)

/-! ## Canonical values -/

mutual
/-- Every number can be written, and the names of every object grow strictly. -/
def Canonical : Json → Prop
  | .null | .bool _ | .str _ => True
  | .int n => -Int.pow 2 63 ≤ n ∧ n < Int.pow 2 64
  | .double x => x.isFinite = true
  | .arr items => CanonicalItems items
  | .obj members => Entries.Sorted members ∧ CanonicalMembers members

/-- Every item is canonical. -/
def CanonicalItems : List Json → Prop
  | [] => True
  | v :: rest => Canonical v ∧ CanonicalItems rest

/-- The value of every member is canonical. -/
def CanonicalMembers : List (String × Json) → Prop
  | [] => True
  | (_, v) :: rest => Canonical v ∧ CanonicalMembers rest
end

mutual
/-- Orders the members of every object; of a repeated name the last value stays. -/
def canonical : Json → Json
  | .arr items => .arr (canonicalItems items)
  | .obj members => .obj (canonicalMembers [] members)
  | v => v

/-- Orders the objects inside a list. -/
def canonicalItems : List Json → List Json
  | [] => []
  | v :: rest => canonical v :: canonicalItems rest

/-- Puts the members, one after the other, into an ordered list. -/
def canonicalMembers (done : List (String × Json)) :
    List (String × Json) → List (String × Json)
  | [] => done
  | (k, v) :: rest => canonicalMembers (Entries.insert k (canonical v) done) rest
end

/-! ## Building and taking apart -/

/-- An object of these members; of a repeated name the last value stays. -/
def object (members : List (String × Json)) : Json :=
  .obj (members.foldl (fun done e => Entries.insert e.1 e.2 done) [])

/-- The object that lists a map. -/
def ofMap (m : KeyMap Json) : Json := .obj m.entries

/-- A text, or `null`. -/
def ofText? (s : Option String) : Json := (s.map Json.str).getD .null

/-- A count. -/
def ofNat (n : Nat) : Json := .int n

/-- A number, or `null` for what is not finite. -/
def ofDouble (x : Binary64) : Json := if x.isFinite then .double x else .null

/-- The members of an object. -/
def members? : Json → Option (List (String × Json))
  | .obj members => some members
  | _ => none

/-- The value under a name of an object. -/
def field? (name : String) : Json → Option Json
  | .obj members => Entries.get? name members
  | _ => none

end Json

end SessionTasks
