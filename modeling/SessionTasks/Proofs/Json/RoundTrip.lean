/-
# Printing and reading back

A value that is printed in either layout is read back as it is, if its whole numbers fit
sixty-four bits, its containers are not nested too deeply, and each of its doubles is read back
from its own text.  The last is a condition, since the reader rounds a double twice.

* `Json.spells_spell` : the tokens that spell a value follow the grammar;
* `Json.written?_pretty` : a printed value is read back as it was;
* `Json.ordered_canonical` : what is read has whole numbers that fit and objects in order.
-/
import SessionTasks.Proofs.KeyMap
import SessionTasks.Proofs.Json.Grammar
import SessionTasks.Proofs.Json.Lexing
namespace SessionTasks.Json

/-! ## What a value holds -/

mutual
/-- How deeply containers are nested. -/
def depth : Json → Nat
  | .arr items => depthItems items + 1
  | .obj members => depthMembers members + 1
  | _ => 0

/-- The greatest depth of the items. -/
def depthItems : List Json → Nat
  | [] => 0
  | v :: rest => max (depth v) (depthItems rest)

/-- The greatest depth of the values of the members. -/
def depthMembers : List (String × Json) → Nat
  | [] => 0
  | (_, v) :: rest => max (depth v) (depthMembers rest)
end

mutual
/-- The doubles in a value. -/
def doubles : Json → List Binary64
  | .double x => [x]
  | .arr items => doublesItems items
  | .obj members => doublesMembers members
  | _ => []

/-- The doubles in the items. -/
def doublesItems : List Json → List Binary64
  | [] => []
  | v :: rest => doubles v ++ doublesItems rest

/-- The doubles in the values of the members. -/
def doublesMembers : List (String × Json) → List Binary64
  | [] => []
  | (_, v) :: rest => doubles v ++ doublesMembers rest
end

mutual
/-- Every whole number fits sixty-four bits. -/
def Fits : Json → Prop
  | .int n => -Int.pow 2 63 ≤ n ∧ n < Int.pow 2 64
  | .arr items => FitsItems items
  | .obj members => FitsMembers members
  | _ => True

/-- The whole numbers of every item fit. -/
def FitsItems : List Json → Prop
  | [] => True
  | v :: rest => Fits v ∧ FitsItems rest

/-- The whole numbers in the value of every member fit. -/
def FitsMembers : List (String × Json) → Prop
  | [] => True
  | (_, v) :: rest => Fits v ∧ FitsMembers rest
end

/-- The elements fit when each of them does. -/
theorem fitsItems_iff {items : List Json} : FitsItems items ↔ ∀ v ∈ items, Fits v := by
  induction items with
  | nil => exact iff_of_true trivial fun v hv => by cases hv
  | cons v rest ih => rw [FitsItems, ih, List.forall_mem_cons]

theorem fitsMembers_iff {members : List (String × Json)} :
    FitsMembers members ↔ ∀ e ∈ members, Fits e.2 := by
  induction members with
  | nil => exact iff_of_true trivial fun e he => by cases he
  | cons e rest ih => rw [FitsMembers, ih, List.forall_mem_cons]

/-! ## Tokens to values -/

/-- The double is read back from its own text. -/
def IsRead (x : Binary64) : Prop := parse? (compact (.double x)) = some (.double x)

/-- A single word is read as what it stands for. -/
theorem ofTokens?_word (w : List Char) : ofTokens? [.word w] = ofWord? w := by
  have hstep : (Draft.value []).step (.word w) = (ofWord? w).map (Draft.read []) := rfl
  unfold ofTokens?
  rw [List.foldlM_cons, hstep]
  cases ofWord? w <;> rfl

/-- A double that is read back is finite, and its text is read as a word. -/
theorem IsRead.ofWord? {x : Binary64} (h : IsRead x) :
    Json.ofWord? (if x.isFinite then x.write else "null".toList) = some (.double x) := by
  have htokens := tokens?_write isBlank_compact (.double x)
  unfold IsRead parse? written? compact at h
  rw [String.toList_ofList, htokens, spell, Option.bind_some, ofTokens?_word] at h
  obtain ⟨v, hv, hcanonical⟩ := Option.map_eq_some_iff.1 h
  rw [hv]
  cases v <;> unfold canonical at hcanonical <;> cases hcanonical
  rfl

mutual
/-- **The tokens that spell a value follow the grammar.** -/
theorem spells_spell : (v : Json) → Fits v → (∀ x ∈ doubles v, IsRead x) → {n : Nat} →
    depth v ≤ n → Spells n (spell v) v
  | .null, _, _, n, _ => by
    rw [spell]
    exact .word n rfl
  | .bool true, _, _, n, _ => by
    rw [spell]
    exact .word n rfl
  | .bool false, _, _, n, _ => by
    rw [spell]
    exact .word n rfl
  | .int _, h, _, n, _ => by
    rw [spell]
    exact .word n (ofWord?_signedDecimal h.1 h.2)
  | .double x, _, hx, n, _ => by
    rw [spell]
    exact .word n (hx x (by simp [doubles])).ofWord?
  | .str s, _, _, n, _ => by
    rw [spell]
    exact .text n s
  | .arr [], _, _, n + 1, _ => by
    rw [spell]
    exact .emptyList n
  | .arr (v :: items), h, hx, n + 1, hdepth => by
    simp only [depth, depthItems] at hdepth
    simp only [doubles, doublesItems, List.forall_mem_append] at hx
    rw [spell]
    exact .list (spellsItems_spellItems items h.2 hx.2 (by omega)
      (.one (spells_spell v h.1 hx.1 (by omega))))
  | .obj [], _, _, n + 1, _ => by
    rw [spell]
    exact .emptyObject n
  | .obj ((k, v) :: members), h, hx, n + 1, hdepth => by
    simp only [depth, depthMembers] at hdepth
    simp only [doubles, doublesMembers, List.forall_mem_append] at hx
    rw [spell]
    exact .object (spellsMembers_spellMembers members h.2 hx.2 (by omega)
      (.one k (spells_spell v h.1 hx.1 (by omega))))

/-- The tokens of some elements spell them, after those that were spelled before. -/
theorem spellsItems_spellItems : (items : List Json) → FitsItems items →
    (∀ x ∈ doublesItems items, IsRead x) → {n : Nat} → depthItems items ≤ n →
    {before : List Token} → {done : List Json} → SpellsItems n before done →
      SpellsItems n (before ++ spellItems items) (done ++ items)
  | [], _, _, _, _, _, _, hdone => by
    rw [spellItems, List.append_nil, List.append_nil]
    exact hdone
  | v :: items, h, hx, n, hdepth, before, done, hdone => by
    simp only [depthItems] at hdepth
    simp only [doublesItems, List.forall_mem_append] at hx
    rw [spellItems, List.append_cons done, ← List.append_assoc before]
    exact spellsItems_spellItems items h.2 hx.2 (by omega)
      (hdone.more (spells_spell v h.1 hx.1 (by omega)))

theorem spellsMembers_spellMembers : (members : List (String × Json)) → FitsMembers members →
    (∀ x ∈ doublesMembers members, IsRead x) → {n : Nat} → depthMembers members ≤ n →
    {before : List Token} → {done : List (String × Json)} → SpellsMembers n before done →
      SpellsMembers n (before ++ spellMembers members) (done ++ members)
  | [], _, _, _, _, _, _, hdone => by
    rw [spellMembers, List.append_nil, List.append_nil]
    exact hdone
  | (k, v) :: members, h, hx, n, hdepth, before, done, hdone => by
    simp only [depthMembers] at hdepth
    simp only [doublesMembers, List.forall_mem_append] at hx
    rw [spellMembers, List.append_cons done, ← List.append_assoc before]
    exact spellsMembers_spellMembers members h.2 hx.2 (by omega)
      (hdone.more k (spells_spell v h.1 hx.1 (by omega)))
end

/-- **A printed value is read back as it was.** -/
theorem written?_pretty {v : Json} (hv : Fits v) (hdouble : ∀ x ∈ doubles v, IsRead x)
    (hdepth : depth v ≤ depthLimit) : written? (pretty v) = some v := by
  unfold written? pretty
  rw [String.toList_ofList, tokens?_write isBlank_pretty, Option.bind_some, ofTokens?_eq_some_iff]
  exact spells_spell v hv hdouble hdepth

/-! ## What is read fits -/

/-- A word stands for a value that fits. -/
theorem fits_ofWord? {w : List Char} {v : Json} (h : ofWord? w = some v) : v.Fits := by
  unfold ofWord? at h
  split at h
  · cases h
    trivial
  · split at h
    · cases h
      trivial
    · split at h
      · cases h
        trivial
      · obtain ⟨n, -, hn⟩ := Option.bind_eq_some_iff.1 h
        unfold NumberText.value? at hn
        dsimp only at hn
        have hnat63 : Nat.pow 2 63 = 9223372036854775808 := rfl
        have hnat64 : Nat.pow 2 64 = 18446744073709551616 := rfl
        have hpow63 : Int.pow 2 63 = 9223372036854775808 := rfl
        have hpow64 : Int.pow 2 64 = 18446744073709551616 := rfl
        rw [hnat63, hnat64] at hn
        split at hn
        · cases hn
          unfold Json.Fits
          rw [hpow63, hpow64]
          omega
        · split at hn
          · cases hn
            unfold Json.Fits
            rw [hpow63, hpow64]
            omega
          · obtain ⟨x, -, rfl⟩ := Option.map_eq_some_iff.1 hn
            trivial

mutual
/-- What is spelled by tokens fits. -/
theorem Spells.fits : {n : Nat} → {tokens : List Token} → {v : Json} → Spells n tokens v →
    Fits v
  | _, _, _, .text _ _ => trivial
  | _, _, _, .word _ hv => fits_ofWord? hv
  | _, _, _, .emptyList _ => trivial
  | _, _, _, .list h => h.fits
  | _, _, _, .emptyObject _ => trivial
  | _, _, _, .object h => h.fits

theorem SpellsItems.fits : {n : Nat} → {tokens : List Token} → {items : List Json} →
    SpellsItems n tokens items → FitsItems items
  | _, _, _, .one hv => ⟨hv.fits, trivial⟩
  | _, _, _, .more h hv => by
    rw [fitsItems_iff, List.forall_mem_append, List.forall_mem_singleton]
    exact ⟨fitsItems_iff.1 h.fits, hv.fits⟩

theorem SpellsMembers.fits : {n : Nat} → {tokens : List Token} →
    {members : List (String × Json)} → SpellsMembers n tokens members → FitsMembers members
  | _, _, _, .one _ hv => ⟨hv.fits, trivial⟩
  | _, _, _, .more _ h hv => by
    rw [fitsMembers_iff, List.forall_mem_append, List.forall_mem_singleton]
    exact ⟨fitsMembers_iff.1 h.fits, hv.fits⟩
end

/-- **The whole numbers of what is read fit sixty-four bits.** -/
theorem fits_written? {text : String} {v : Json} (h : written? text = some v) : v.Fits := by
  obtain ⟨tokens, -, htokens⟩ := Option.bind_eq_some_iff.1 h
  exact (ofTokens?_eq_some_iff.1 htokens).fits

/-! ## Order -/

mutual
/-- Every whole number fits sixty-four bits, and the names of every object grow strictly. -/
def Ordered : Json → Prop
  | .int n => -Int.pow 2 63 ≤ n ∧ n < Int.pow 2 64
  | .arr items => OrderedItems items
  | .obj members => Entries.Sorted members ∧ OrderedMembers members
  | _ => True

/-- Every item is ordered. -/
def OrderedItems : List Json → Prop
  | [] => True
  | v :: rest => Ordered v ∧ OrderedItems rest

/-- The value of every member is ordered. -/
def OrderedMembers : List (String × Json) → Prop
  | [] => True
  | (_, v) :: rest => Ordered v ∧ OrderedMembers rest
end

/-- The members are in order when the value of each of them is. -/
theorem orderedMembers_iff {members : List (String × Json)} :
    OrderedMembers members ↔ ∀ e ∈ members, Ordered e.2 := by
  induction members with
  | nil => exact iff_of_true trivial fun e he => by cases he
  | cons e rest ih => rw [OrderedMembers, ih, List.forall_mem_cons]

mutual
/-- A value that is in order fits. -/
theorem Ordered.fits : (v : Json) → Ordered v → Fits v
  | .null, _ | .bool _, _ | .str _, _ | .double _, _ => trivial
  | .int _, h => h
  | .arr items, h => OrderedItems.fits items h
  | .obj members, h => OrderedMembers.fits members h.2

theorem OrderedItems.fits : (items : List Json) → OrderedItems items → FitsItems items
  | [], _ => trivial
  | v :: rest, h => ⟨Ordered.fits v h.1, OrderedItems.fits rest h.2⟩

theorem OrderedMembers.fits :
    (members : List (String × Json)) → OrderedMembers members → FitsMembers members
  | [], _ => trivial
  | (_, v) :: rest, h => ⟨Ordered.fits v h.1, OrderedMembers.fits rest h.2⟩
end

/-- A member that is in order may be put among others. -/
theorem OrderedMembers.insert {members : List (String × Json)} (h : OrderedMembers members)
    (k : String) {v : Json} (hv : Ordered v) : OrderedMembers (Entries.insert k v members) := by
  rw [orderedMembers_iff] at h ⊢
  intro e he
  rcases Entries.mem_insert he with rfl | he
  · exact hv
  · exact h e he

mutual
/-- **Ordering a value whose whole numbers fit makes it ordered.** -/
theorem ordered_canonical : (v : Json) → Fits v → Ordered (canonical v)
  | .null, _ | .bool _, _ | .str _, _ | .double _, _ => trivial
  | .int _, h => h
  | .arr items, h => orderedItems_canonicalItems items h
  | .obj members, h =>
    sorted_canonicalMembers members h [] List.Pairwise.nil trivial

/-- The elements are put in order one by one. -/
theorem orderedItems_canonicalItems :
    (items : List Json) → FitsItems items → OrderedItems (canonicalItems items)
  | [], _ => trivial
  | v :: rest, h => ⟨ordered_canonical v h.1, orderedItems_canonicalItems rest h.2⟩

theorem sorted_canonicalMembers : (members : List (String × Json)) → FitsMembers members →
    (done : List (String × Json)) → Entries.Sorted done → OrderedMembers done →
      Entries.Sorted (canonicalMembers done members) ∧
        OrderedMembers (canonicalMembers done members)
  | [], _, _, hsorted, hdone => ⟨hsorted, hdone⟩
  | (k, v) :: rest, h, done, hsorted, hdone =>
    sorted_canonicalMembers rest h.2 (Entries.insert k (canonical v) done)
      (hsorted.insert k (canonical v)) (hdone.insert k (ordered_canonical v h.1))
end

mutual
/-- An ordered value is as it was after it is ordered. -/
theorem canonical_of_ordered : (v : Json) → Ordered v → canonical v = v
  | .null, _ | .bool _, _ | .str _, _ | .double _, _ => rfl
  | .int _, _ => rfl
  | .arr items, h => congrArg Json.arr (canonicalItems_of_ordered items h)
  | .obj members, h => by
    rw [canonical, canonicalMembers_of_ordered members h.2, h.1.foldl_insert]

/-- Elements that are in order stay as they are. -/
theorem canonicalItems_of_ordered :
    (items : List Json) → OrderedItems items → canonicalItems items = items
  | [], _ => rfl
  | v :: rest, h => by
    rw [canonicalItems, canonical_of_ordered v h.1, canonicalItems_of_ordered rest h.2]

theorem canonicalMembers_of_ordered : (members : List (String × Json)) → OrderedMembers members →
    (done : List (String × Json)) →
      canonicalMembers done members =
        members.foldl (fun done e => Entries.insert e.1 e.2 done) done
  | [], _, _ => rfl
  | (k, v) :: rest, h, done => by
    rw [canonicalMembers, canonical_of_ordered v h.1, canonicalMembers_of_ordered rest h.2]
    rfl
end

end SessionTasks.Json
