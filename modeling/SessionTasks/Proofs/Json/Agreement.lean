/-
# Agreement of values

Agreement is checked from the left: of two objects with equally many members each member of the
first has to be found in the second.  As no name occurs twice in an object, none is left over, so
that the members agree pair by pair, in the order of their names.  Whatever relates values one
inside the other is told from there by structural recursion.

* `Json.scalarAgrees_iff` : when two values agree that hold no others;
* `Json.agrees_obj_iff` : two objects agree if they have the same names and the values agree;
* `Json.agreementLaws` : a value agrees with itself, the order of two values does not matter, and
  without doubles only equal values agree.
-/
import SessionTasks.Proofs.KeyMap
import SessionTasks.Example
namespace SessionTasks

/-! ## Equal doubles -/

namespace Binary64

theorem eqv_comm (x y : Binary64) : x.eqv y = y.eqv x := by
  unfold eqv
  rw [Bool.and_comm (!x.isNaN), decide_eq_decide.2 (eq_comm (a := x.scaled))]

/-- A finite double is equal to itself. -/
theorem eqv_self {x : Binary64} (h : x.isFinite = true) : x.eqv x = true := by
  have hrank : x.rank < infiniteRank := by simpa [isFinite] using h
  have hnan : x.isNaN = false := decide_eq_false (Nat.not_lt.2 (Nat.le_of_lt hrank))
  simp [eqv, hnan]

end Binary64

namespace Json

/-! ## Values that hold no others -/

/-- The double nearest to a number. -/
def nearest? : Json → Option Binary64
  | .int n => some (.ofInt n)
  | .double x => some x
  | _ => none

/-- Equality of values that hold no others.  Whole numbers are compared as they are, and only
beside a double a number counts as the double nearest to it. -/
inductive ScalarEqual : Json → Json → Prop
  | null : ScalarEqual .null .null
  | bool (b : Bool) : ScalarEqual (.bool b) (.bool b)
  | int (n : Int) : ScalarEqual (.int n) (.int n)
  | str (s : String) : ScalarEqual (.str s) (.str s)
  | left {x y : Binary64} {v : Json} (hv : v.nearest? = some y) (h : x.eqv y = true) :
      ScalarEqual (.double x) v
  | right {x y : Binary64} {v : Json} (hv : v.nearest? = some x) (h : x.eqv y = true) :
      ScalarEqual v (.double y)

/-- **Values that hold no others agree if they are equal.** -/
theorem scalarAgrees_iff {a b : Json} : scalarAgrees a b = true ↔ ScalarEqual a b := by
  constructor
  · intro h
    cases a with
    | null => cases b <;> simp [scalarAgrees] at h; exact .null
    | bool c => cases b <;> simp [scalarAgrees] at h; exact h ▸ .bool c
    | str s => cases b <;> simp [scalarAgrees] at h; exact h ▸ .str s
    | int n =>
      cases b with
      | int m => exact (show n = m by simpa [scalarAgrees] using h) ▸ .int n
      | double y => exact .right (v := .int n) rfl h
      | _ => simp [scalarAgrees] at h
    | double x =>
      cases b with
      | int m => exact .left (v := .int m) rfl h
      | double y => exact .left (v := .double y) rfl h
      | _ => simp [scalarAgrees] at h
    | arr items => simp [scalarAgrees] at h
    | obj members => simp [scalarAgrees] at h
  · intro h
    cases h with
    | null => rfl
    | bool c => simp [scalarAgrees]
    | int n => simp [scalarAgrees]
    | str s => simp [scalarAgrees]
    | left hv h => cases b <;> cases hv <;> exact h
    | right hv h => cases a <;> cases hv <;> exact h

theorem scalarAgrees_comm (a b : Json) : scalarAgrees a b = scalarAgrees b a := by
  cases a <;> cases b <;> simp [scalarAgrees, Binary64.eqv_comm, eq_comm]

/-! ## Objects -/

theorem agreesMembers_iff {as bs : List (String × Json)} :
    agreesMembers as bs = true ↔
      ∀ e ∈ as, ∃ b, Entries.get? e.1 bs = some b ∧ e.2.agrees b = true := by
  induction as with
  | nil => simp [agreesMembers]
  | cons e rest ih =>
    rw [agreesMembers, Bool.and_eq_true, ih, List.forall_mem_cons]
    refine and_congr_left fun _ => ?_
    cases Entries.get? e.1 bs <;> simp

/-- Equally many members of which each is found have the same names: none is left over. -/
theorem keys_eq_of_agreesMembers {as bs : List (String × Json)} (ha : Entries.Sorted as)
    (hb : Entries.Sorted bs) (hlength : as.length = bs.length) (h : agreesMembers as bs = true) :
    as.map Prod.fst = bs.map Prod.fst := by
  have hkeys : ∀ {l : List (String × Json)}, Entries.Sorted l → (l.map Prod.fst).Pairwise (· < ·) :=
    fun hl => List.pairwise_map.2 hl
  have hsubset : as.map Prod.fst ⊆ bs.map Prod.fst := by
    intro key hkey
    obtain ⟨e, he, rfl⟩ := List.mem_map.1 hkey
    obtain ⟨b, hfound, -⟩ := agreesMembers_iff.1 h e he
    exact List.mem_map.2 ⟨_, Entries.mem_of_get? hfound, rfl⟩
  have hsublist : (as.map Prod.fst).Sublist (bs.map Prod.fst) :=
    List.sublist_of_subperm_of_pairwise (List.subperm_of_subset (hkeys ha).nodup hsubset)
      (hkeys ha) (hkeys hb)
  exact hsublist.eq_of_length (by rw [List.length_map, List.length_map, hlength])

/-- **Two objects agree if they have the same names and the values agree**, name by name. -/
theorem agrees_obj_iff {as bs : List (String × Json)} (ha : Entries.Sorted as)
    (hb : Entries.Sorted bs) :
    agrees (.obj as) (.obj bs) = true ↔
      List.Forall₂ (fun a b => a.1 = b.1 ∧ a.2.agrees b.2 = true) as bs := by
  rw [agrees, Bool.and_eq_true, decide_eq_true_eq, List.forall₂_iff_zip]
  refine and_congr_right fun hlength => ⟨fun h a b hab => ?_, fun h => ?_⟩
  · have hnames : List.Forall₂ (fun a b => a.1 = b.1) as bs := by
      have hkeys := keys_eq_of_agreesMembers ha hb hlength h
      rwa [← List.forall₂_eq_eq_eq, List.forall₂_map_left_iff, List.forall₂_map_right_iff] at hkeys
    have hname : a.1 = b.1 := (List.forall₂_iff_zip.1 hnames).2 hab
    obtain ⟨hmem, hmem'⟩ := List.of_mem_zip hab
    obtain ⟨c, hfound, hagrees⟩ := agreesMembers_iff.1 h a hmem
    rw [hname, hb.get?_eq_some_iff.2 hmem'] at hfound
    exact ⟨hname, Option.some.inj hfound ▸ hagrees⟩
  · refine agreesMembers_iff.2 fun a hmem => ?_
    obtain ⟨i, hi, rfl⟩ := List.getElem_of_mem hmem
    have hi' : i < bs.length := hlength ▸ hi
    have hzip : (as[i], bs[i]) ∈ as.zip bs := by
      rw [← List.getElem_zip]
      exact List.getElem_mem (by rw [List.length_zip]; omega)
    obtain ⟨hname, hagrees⟩ := h hzip
    rw [hname]
    exact ⟨bs[i].2, hb.get?_eq_some_iff.2 (List.getElem_mem hi'), hagrees⟩

/-! ## Values all the way down -/

mutual
/-- A value agrees with itself. -/
theorem agrees_self : (v : Json) → v.Canonical → v.agrees v = true
  | .null, _ => rfl
  | .bool b, _ => by simp [agrees, scalarAgrees]
  | .int n, _ => by simp [agrees, scalarAgrees]
  | .double x, h => Binary64.eqv_self h
  | .str s, _ => by simp [agrees, scalarAgrees]
  | .arr items, h => by
    rw [agrees]
    exact agreesItems_self items h
  | .obj members, h =>
    (agrees_obj_iff h.1 h.1).2 (List.forall₂_same.2 (agreesMembers_self members h.2))

theorem agreesItems_self : (items : List Json) → CanonicalItems items →
    agreesItems items items = true
  | [], _ => rfl
  | v :: rest, h => by rw [agreesItems, agrees_self v h.1, agreesItems_self rest h.2]; rfl

theorem agreesMembers_self : (members : List (String × Json)) → CanonicalMembers members →
    ∀ e ∈ members, e.1 = e.1 ∧ e.2.agrees e.2 = true
  | [], _ => by simp
  | (_, v) :: rest, h =>
    List.forall_mem_cons.2 ⟨⟨rfl, agrees_self v h.1⟩, agreesMembers_self rest h.2⟩
end

/-- A value that holds no others agrees only with such values. -/
theorem agrees_comm_of_scalar {a : Json} (hlist : ∀ items, a ≠ .arr items)
    (hobject : ∀ members, a ≠ .obj members) (b : Json) : a.agrees b = b.agrees a := by
  have hleft : a.agrees b = scalarAgrees a b := by
    cases a with
    | arr items => exact absurd rfl (hlist items)
    | obj members => exact absurd rfl (hobject members)
    | _ => cases b <;> rfl
  have hright : b.agrees a = scalarAgrees b a := by
    cases a with
    | arr items => exact absurd rfl (hlist items)
    | obj members => exact absurd rfl (hobject members)
    | _ => cases b <;> rfl
  rw [hleft, hright, scalarAgrees_comm]

mutual
/-- The order of two values does not matter. -/
theorem agrees_symm : (a b : Json) → a.Canonical → b.Canonical → a.agrees b = true →
    b.agrees a = true
  | .arr as, b, ha, hb, h => by
    cases b with
    | arr bs =>
      rw [agrees] at h ⊢
      exact agreesItems_symm as bs ha hb h
    | _ => cases h
  | .obj as, b, ha, hb, h => by
    cases b with
    | obj bs =>
      have hpairs := (agrees_obj_iff ha.1 hb.1).1 h
      exact (agrees_obj_iff hb.1 ha.1).2 (agreesMembers_symm as bs ha.2 hb.2 hpairs)
    | _ => cases h
  | .null, b, _, _, h | .bool _, b, _, _, h | .int _, b, _, _, h | .double _, b, _, _, h
  | .str _, b, _, _, h => by rwa [← agrees_comm_of_scalar (by simp) (by simp) b]

theorem agreesItems_symm : (as bs : List Json) → CanonicalItems as → CanonicalItems bs →
    agreesItems as bs = true → agreesItems bs as = true
  | [], bs, _, _, h => by
    cases bs with
    | nil => rfl
    | cons b bs => cases h
  | a :: as, bs, ha, hb, h => by
    cases bs with
    | nil => cases h
    | cons b bs =>
      rw [agreesItems, Bool.and_eq_true] at h ⊢
      exact ⟨agrees_symm a b ha.1 hb.1 h.1, agreesItems_symm as bs ha.2 hb.2 h.2⟩

theorem agreesMembers_symm : (as bs : List (String × Json)) → CanonicalMembers as →
    CanonicalMembers bs → List.Forall₂ (fun a b => a.1 = b.1 ∧ a.2.agrees b.2 = true) as bs →
    List.Forall₂ (fun b a => b.1 = a.1 ∧ b.2.agrees a.2 = true) bs as
  | [], bs, _, _, h => by
    cases h
    exact .nil
  | (k, a) :: as, bs, ha, hb, h => by
    cases h with
    | @cons _ b _ bs hfirst hrest =>
      exact .cons ⟨hfirst.1.symm, agrees_symm a b.2 ha.1 hb.1 hfirst.2⟩
        (agreesMembers_symm as bs ha.2 hb.2 hrest)
end

/-! ## Values without doubles -/

mutual
/-- Every number of the value is a whole number. -/
def Whole : Json → Prop
  | .double _ => False
  | .arr items => WholeItems items
  | .obj members => WholeMembers members
  | _ => True

/-- Every number of the items is a whole number. -/
def WholeItems : List Json → Prop
  | [] => True
  | v :: rest => Whole v ∧ WholeItems rest

/-- Every number of the members is a whole number. -/
def WholeMembers : List (String × Json) → Prop
  | [] => True
  | (_, v) :: rest => Whole v ∧ WholeMembers rest
end

mutual
/-- Without doubles only equal values agree. -/
theorem eq_of_agrees : (a b : Json) → a.Canonical → b.Canonical → a.Whole → b.Whole →
    a.agrees b = true → a = b
  | .arr as, b, ha, hb, hwa, hwb, h => by
    cases b with
    | arr bs =>
      rw [agrees] at h
      exact congrArg Json.arr (eq_of_agreesItems as bs ha hb hwa hwb h)
    | _ => cases h
  | .obj as, b, ha, hb, hwa, hwb, h => by
    cases b with
    | obj bs =>
      have hpairs := (agrees_obj_iff ha.1 hb.1).1 h
      exact congrArg Json.obj (eq_of_agreesMembers as bs ha.2 hb.2 hwa hwb hpairs)
    | _ => cases h
  | .double _, _, _, _, hwa, _, _ => hwa.elim
  | .null, b, _, _, _, hwb, h | .bool _, b, _, _, _, hwb, h | .int _, b, _, _, _, hwb, h
  | .str _, b, _, _, _, hwb, h => by
    cases b with
    | double _ => exact hwb.elim
    | _ => simp_all [agrees, scalarAgrees]

theorem eq_of_agreesItems : (as bs : List Json) → CanonicalItems as → CanonicalItems bs →
    WholeItems as → WholeItems bs → agreesItems as bs = true → as = bs
  | [], bs, _, _, _, _, h => by
    cases bs with
    | nil => rfl
    | cons b bs => cases h
  | a :: as, bs, ha, hb, hwa, hwb, h => by
    cases bs with
    | nil => cases h
    | cons b bs =>
      rw [agreesItems, Bool.and_eq_true] at h
      rw [eq_of_agrees a b ha.1 hb.1 hwa.1 hwb.1 h.1,
        eq_of_agreesItems as bs ha.2 hb.2 hwa.2 hwb.2 h.2]

theorem eq_of_agreesMembers : (as bs : List (String × Json)) → CanonicalMembers as →
    CanonicalMembers bs → WholeMembers as → WholeMembers bs →
    List.Forall₂ (fun a b => a.1 = b.1 ∧ a.2.agrees b.2 = true) as bs → as = bs
  | [], bs, _, _, _, _, h => by
    cases h
    rfl
  | (k, a) :: as, bs, ha, hb, hwa, hwb, h => by
    cases h with
    | @cons _ b _ bs hfirst hrest =>
      obtain ⟨l, b⟩ := b
      obtain ⟨hname, hagrees⟩ := hfirst
      rw [show k = l from hname, eq_of_agrees a b ha.1 hb.1 hwa.1 hwb.1 hagrees,
        eq_of_agreesMembers as bs ha.2 hb.2 hwa.2 hwb.2 hrest]
end

/-- What agreement is among canonical values. -/
structure AgreementLaws : Prop where
  refl : ∀ v : Json, v.Canonical → v.agrees v = true
  symm : ∀ a b : Json, a.Canonical → b.Canonical → a.agrees b = b.agrees a
  /-- Between values without doubles it is equality. -/
  eq : ∀ a b : Json, a.Canonical → b.Canonical → a.Whole → b.Whole → (a.agrees b = true ↔ a = b)

/-- **Agreement is reflexive and symmetric, and without doubles it is equality.** -/
theorem agreementLaws : AgreementLaws where
  refl := agrees_self
  symm a b ha hb := Bool.eq_iff_iff.2 ⟨agrees_symm a b ha hb, agrees_symm b a hb ha⟩
  eq a b ha hb hwa hwb :=
    ⟨eq_of_agrees a b ha hb hwa hwb, fun h => h ▸ agrees_self a ha⟩

end Json

end SessionTasks
