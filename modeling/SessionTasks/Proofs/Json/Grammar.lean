/-
# The grammar of JSON

The reader of values keeps a stack of containers.  It accepts exactly the lists of tokens that
the grammar of JSON allows, nested to a limited depth, and reads the values that they spell.

* `Json.Spells` : the grammar;
* `Json.drafts_step` : the stack says what the tokens that were read are a beginning of;
* `Json.ofTokens?_eq_some_iff` : the reader and the grammar agree.
-/
import SessionTasks.Json.Reader
namespace SessionTasks.Json

/-! ## The grammar -/

mutual
/-- The tokens spell the value, which has containers in one another `n` deep at most. -/
inductive Spells : Nat → List Token → Json → Prop
  /-- A text. -/
  | text (n : Nat) (s : String) : Spells n [.text s] (.str s)
  /-- A number or a name. -/
  | word (n : Nat) {w : List Char} {v : Json} (hv : ofWord? w = some v) : Spells n [.word w] v
  /-- A list without items. -/
  | emptyList (n : Nat) : Spells (n + 1) [.openList, .closeList] (.arr [])
  /-- A list. -/
  | list {n : Nat} {tokens : List Token} {items : List Json} (h : SpellsItems n tokens items) :
      Spells (n + 1) (.openList :: (tokens ++ [.closeList])) (.arr items)
  /-- An object without members. -/
  | emptyObject (n : Nat) : Spells (n + 1) [.openObject, .closeObject] (.obj [])
  /-- An object. -/
  | object {n : Nat} {tokens : List Token} {members : List (String × Json)}
      (h : SpellsMembers n tokens members) :
      Spells (n + 1) (.openObject :: (tokens ++ [.closeObject])) (.obj members)

/-- The tokens spell the items, at least one, with commas between them. -/
inductive SpellsItems : Nat → List Token → List Json → Prop
  /-- One item. -/
  | one {n : Nat} {tokens : List Token} {v : Json} (hv : Spells n tokens v) :
      SpellsItems n tokens [v]
  /-- One more item. -/
  | more {n : Nat} {before tokens : List Token} {items : List Json} {v : Json}
      (h : SpellsItems n before items) (hv : Spells n tokens v) :
      SpellsItems n (before ++ .comma :: tokens) (items ++ [v])

/-- The tokens spell the members, at least one, with commas between them. -/
inductive SpellsMembers : Nat → List Token → List (String × Json) → Prop
  /-- One member. -/
  | one {n : Nat} {tokens : List Token} (k : String) {v : Json} (hv : Spells n tokens v) :
      SpellsMembers n (.text k :: .colon :: tokens) [(k, v)]
  /-- One more member. -/
  | more {n : Nat} {before tokens : List Token} {members : List (String × Json)} (k : String)
      {v : Json} (h : SpellsMembers n before members) (hv : Spells n tokens v) :
      SpellsMembers n (before ++ .comma :: .text k :: .colon :: tokens) (members ++ [(k, v)])
end

/-! ## What is read follows the grammar

A frame keeps what is done of a container, the last item first, and the grammar adds items at the
end.  So each step of the reader is one constructor of the grammar or of the two relations here. -/

/-- The tokens open the containers, and containers may follow in one another `n` deep. -/
inductive Opens : Nat → List Frame → List Token → Prop
  /-- No container is open. -/
  | outside : Opens depthLimit [] []
  /-- A list was opened. -/
  | firstItem {n : Nat} {outer : List Frame} {before : List Token}
      (h : Opens (n + 1) outer before) : Opens n (.items [] :: outer) (before ++ [.openList])
  /-- Items of a list were read. -/
  | nextItem {n : Nat} {outer : List Frame} {before tokens : List Token} {items : List Json}
      (h : Opens (n + 1) outer before) (hitems : SpellsItems n tokens items) :
      Opens n (.items items.reverse :: outer) (before ++ .openList :: (tokens ++ [.comma]))
  /-- An object was opened, and the name of a member was read. -/
  | firstMember {n : Nat} {outer : List Frame} {before : List Token}
      (h : Opens (n + 1) outer before) (k : String) :
      Opens n (.member [] k :: outer) (before ++ [.openObject, .text k, .colon])
  /-- Members of an object were read, and the name of another one. -/
  | nextMember {n : Nat} {outer : List Frame} {before tokens : List Token}
      {members : List (String × Json)} (h : Opens (n + 1) outer before)
      (hmembers : SpellsMembers n tokens members) (k : String) :
      Opens n (.member members.reverse k :: outer)
        (before ++ .openObject :: (tokens ++ [.comma, .text k, .colon]))

/-- The tokens were read, and what is read so far is the draft. -/
inductive Drafts : Draft → List Token → Prop
  /-- A value comes next. -/
  | value {n : Nat} {outer : List Frame} {before : List Token} (h : Opens n outer before) :
      Drafts (.value outer) before
  /-- A list was opened. -/
  | firstItem {n : Nat} {outer : List Frame} {before : List Token}
      (h : Opens (n + 1) outer before) : Drafts (.firstItem outer) (before ++ [.openList])
  /-- An object was opened. -/
  | firstName {n : Nat} {outer : List Frame} {before : List Token}
      (h : Opens (n + 1) outer before) : Drafts (.firstName outer) (before ++ [.openObject])
  /-- Members of an object were read. -/
  | nextName {n : Nat} {outer : List Frame} {before tokens : List Token}
      {members : List (String × Json)} (h : Opens (n + 1) outer before)
      (hmembers : SpellsMembers n tokens members) :
      Drafts (.nextName outer members.reverse) (before ++ .openObject :: (tokens ++ [.comma]))
  /-- The name of the first member was read. -/
  | firstColon {n : Nat} {outer : List Frame} {before : List Token}
      (h : Opens (n + 1) outer before) (k : String) :
      Drafts (.colon outer [] k) (before ++ [.openObject, .text k])
  /-- The name of another member was read. -/
  | nextColon {n : Nat} {outer : List Frame} {before tokens : List Token}
      {members : List (String × Json)} (h : Opens (n + 1) outer before)
      (hmembers : SpellsMembers n tokens members) (k : String) :
      Drafts (.colon outer members.reverse k)
        (before ++ .openObject :: (tokens ++ [.comma, .text k]))
  /-- A value was read. -/
  | read {n : Nat} {outer : List Frame} {before tokens : List Token} {v : Json}
      (h : Opens n outer before) (hv : Spells n tokens v) :
      Drafts (.read outer v) (before ++ tokens)

theorem Opens.length_add {n : Nat} {outer : List Frame} {before : List Token}
    (h : Opens n outer before) : outer.length + n = depthLimit := by
  induction h with
  | outside => rfl
  | firstItem _ ih => rw [List.length_cons]; omega
  | nextItem _ _ ih => rw [List.length_cons]; omega
  | firstMember _ _ ih => rw [List.length_cons]; omega
  | nextMember _ _ _ ih => rw [List.length_cons]; omega

/-- A container may be opened where there is room for it. -/
theorem Opens.exists_succ {n : Nat} {outer : List Frame} {before : List Token}
    (h : Opens n outer before) (hroom : outer.length < depthLimit) : ∃ m, n = m + 1 := by
  have hlength := h.length_add
  exact ⟨n - 1, by omega⟩

theorem drafts_start? {n : Nat} {outer : List Frame} {before : List Token} {t : Token} {d : Draft}
    (h : Opens n outer before) (hd : Draft.start? outer t = some d) : Drafts d (before ++ [t]) := by
  unfold Draft.start? at hd
  split at hd
  · cases hd
    exact .read h (.text n _)
  · obtain ⟨v, hv, rfl⟩ := Option.map_eq_some_iff.1 hd
    exact .read h (.word n hv)
  · split at hd
    · rename_i hroom
      cases hd
      obtain ⟨m, rfl⟩ := h.exists_succ hroom
      exact .firstItem h
    · cases hd
  · split at hd
    · rename_i hroom
      cases hd
      obtain ⟨m, rfl⟩ := h.exists_succ hroom
      exact .firstName h
    · cases hd
  · cases hd

/-- **Step lemma.**  One token more. -/
theorem drafts_step {d d' : Draft} {before : List Token} {t : Token} (h : Drafts d before)
    (hd : d.step t = some d') : Drafts d' (before ++ [t]) := by
  cases h with
  | value h => exact drafts_start? h hd
  | @firstItem n outer before h =>
    cases t with
    | closeList =>
      cases hd
      simpa using Drafts.read h (.emptyList n)
    | _ => exact drafts_start? h.firstItem hd
  | @firstName n outer before h =>
    cases t with
    | closeObject =>
      cases hd
      simpa using Drafts.read h (.emptyObject n)
    | text k =>
      cases hd
      simpa using Drafts.firstColon h k
    | _ => cases hd
  | @nextName n outer before tokens members h hmembers =>
    cases t with
    | text k =>
      cases hd
      simpa using Drafts.nextColon h hmembers k
    | _ => cases hd
  | @firstColon n outer before h k =>
    cases t with
    | colon =>
      cases hd
      simpa using Drafts.value (h.firstMember k)
    | _ => cases hd
  | @nextColon n outer before tokens members h hmembers k =>
    cases t with
    | colon =>
      cases hd
      simpa using Drafts.value (h.nextMember hmembers k)
    | _ => cases hd
  | @read n outer before tokens v h hv =>
    -- the innermost container takes the value, and goes on or is closed
    cases h with
    | outside => cases t <;> cases hd
    | @firstItem _ outer before h =>
      cases t with
      | comma =>
        cases hd
        simpa using Drafts.value (h.nextItem (.one hv))
      | closeList =>
        cases hd
        simpa using Drafts.read h (.list (.one hv))
      | _ => cases hd
    | @nextItem _ outer before tokens' items h hitems =>
      cases t with
      | comma =>
        cases hd
        simpa using Drafts.value (h.nextItem (hitems.more hv))
      | closeList =>
        cases hd
        simpa using Drafts.read h (.list (hitems.more hv))
      | _ => cases hd
    | @firstMember _ outer before h k =>
      cases t with
      | comma =>
        cases hd
        simpa using Drafts.nextName h (.one k hv)
      | closeObject =>
        cases hd
        simpa using Drafts.read h (.object (.one k hv))
      | _ => cases hd
    | @nextMember _ outer before tokens' members h hmembers k =>
      cases t with
      | comma =>
        cases hd
        simpa using Drafts.nextName h (hmembers.more k hv)
      | closeObject =>
        cases hd
        simpa using Drafts.read h (.object (hmembers.more k hv))
      | _ => cases hd

/-- **Run lemma.**  Any number of tokens more. -/
theorem drafts_foldlM {d d' : Draft} {before tokens : List Token} (h : Drafts d before)
    (hd : tokens.foldlM Draft.step d = some d') : Drafts d' (before ++ tokens) := by
  induction tokens generalizing d before with
  | nil =>
    cases hd
    rwa [List.append_nil]
  | cons t rest ih =>
    rw [List.foldlM_cons] at hd
    obtain ⟨next, hnext, hrest⟩ := Option.bind_eq_some_iff.1 hd
    rw [List.append_cons]
    exact ih (drafts_step h hnext) hrest

/-- What is read outside every container was spelled. -/
theorem Drafts.spells {tokens : List Token} {v : Json} (h : Drafts (.read [] v) tokens) :
    Spells depthLimit tokens v := by
  cases h with
  | read h hv =>
    cases h
    exact hv

/-! ## What follows the grammar is read -/

theorem foldlM_step {d d' : Draft} {t : Token} (h : d.step t = some d') (rest : List Token) :
    (t :: rest).foldlM Draft.step d = rest.foldlM Draft.step d' := by
  rw [List.foldlM_cons, h]
  rfl

theorem step_word {w : List Char} {v : Json} (h : ofWord? w = some v) (outer : List Frame) :
    Draft.step (.value outer) (.word w) = some (.read outer v) := by
  show (ofWord? w).map (Draft.read outer) = _
  rw [h]
  rfl

theorem step_openList {outer : List Frame} (h : outer.length < depthLimit) :
    Draft.step (.value outer) .openList = some (.firstItem outer) :=
  if_pos h

theorem step_openObject {outer : List Frame} (h : outer.length < depthLimit) :
    Draft.step (.value outer) .openObject = some (.firstName outer) :=
  if_pos h

/-- No value begins with the end of a list. -/
theorem Spells.eq_cons {n : Nat} {tokens : List Token} {v : Json} (h : Spells n tokens v) :
    ∃ t tail, tokens = t :: tail ∧ t ≠ .closeList := by
  cases h
  all_goals exact ⟨_, _, rfl, Token.noConfusion⟩

/-- The first item of a list is read like any value inside the list. -/
theorem Spells.foldlM_firstItem {n : Nat} {tokens : List Token} {v : Json}
    (h : Spells n tokens v) (outer : List Frame) (rest : List Token) :
    (tokens ++ rest).foldlM Draft.step (.firstItem outer) =
      (tokens ++ rest).foldlM Draft.step (.value (.items [] :: outer)) := by
  have hstep : ∀ t, t ≠ .closeList →
      Draft.step (.firstItem outer) t = Draft.step (.value (.items [] :: outer)) t := by
    intro t ht
    cases t with
    | closeList => exact absurd rfl ht
    | _ => rfl
  obtain ⟨t, tail, rfl, ht⟩ := h.eq_cons
  rw [List.cons_append, List.foldlM_cons, List.foldlM_cons, hstep t ht]

mutual
/-- The tokens that spell a value are put together to this value. -/
theorem Spells.foldlM : {n : Nat} → {tokens : List Token} → {v : Json} → Spells n tokens v →
    (outer : List Frame) → outer.length + n = depthLimit → (rest : List Token) →
      (tokens ++ rest).foldlM Draft.step (.value outer) = rest.foldlM Draft.step (.read outer v)
  | _, _, _, .text _ _, _, _, rest => foldlM_step rfl rest
  | _, _, _, .word _ hv, outer, _, rest => foldlM_step (step_word hv outer) rest
  | _, _, _, .emptyList _, _, hroom, rest =>
    (foldlM_step (step_openList (by omega)) _).trans (foldlM_step rfl rest)
  | _, _, _, .list h, outer, hroom, rest => by
    obtain ⟨done, v, hitems, hfold⟩ := h.foldlM outer (by omega)
    rw [List.cons_append, List.append_assoc, foldlM_step (step_openList (by omega)), hfold, hitems]
    exact foldlM_step rfl rest
  | _, _, _, .emptyObject _, _, hroom, rest =>
    (foldlM_step (step_openObject (by omega)) _).trans (foldlM_step rfl rest)
  | _, _, _, .object h, outer, hroom, rest => by
    obtain ⟨done, k, v, hmembers, hfold⟩ := h.foldlM outer (by omega)
    rw [List.cons_append, List.append_assoc, foldlM_step (step_openObject (by omega)), hfold,
      hmembers]
    exact foldlM_step rfl rest

/-- The last item is read, and the others are done. -/
theorem SpellsItems.foldlM : {n : Nat} → {tokens : List Token} → {items : List Json} →
    SpellsItems n tokens items → (outer : List Frame) → outer.length + (n + 1) = depthLimit →
      ∃ done v, items = (v :: done).reverse ∧ ∀ rest,
        (tokens ++ rest).foldlM Draft.step (.firstItem outer) =
          rest.foldlM Draft.step (.read (.items done :: outer) v)
  | _, _, _, .one hv, outer, hroom => by
    -- inside the list there is one frame more, and a value may be one less deep
    refine ⟨[], _, rfl, fun rest => ?_⟩
    rw [hv.foldlM_firstItem, hv.foldlM _ (by rw [List.length_cons]; omega)]
  | _, _, _, .more (v := w) h hw, outer, hroom => by
    obtain ⟨done, v, rfl, hfold⟩ := h.foldlM outer hroom
    refine ⟨v :: done, w, (List.reverse_cons ..).symm, fun rest => ?_⟩
    rw [List.append_assoc, hfold, List.cons_append, foldlM_step rfl,
      hw.foldlM (.items (v :: done) :: outer) (by rw [List.length_cons]; omega)]

/-- The value of the last member is read, and the other members are done. -/
theorem SpellsMembers.foldlM : {n : Nat} → {tokens : List Token} →
    {members : List (String × Json)} → SpellsMembers n tokens members → (outer : List Frame) →
      outer.length + (n + 1) = depthLimit →
      ∃ done k v, members = ((k, v) :: done).reverse ∧ ∀ rest,
        (tokens ++ rest).foldlM Draft.step (.firstName outer) =
          rest.foldlM Draft.step (.read (.member done k :: outer) v)
  | _, _, _, .one k hv, outer, hroom => by
    refine ⟨[], k, _, rfl, fun rest => ?_⟩
    simp only [List.cons_append]
    rw [foldlM_step rfl, foldlM_step rfl, hv.foldlM _ (by rw [List.length_cons]; omega)]
  | _, _, _, .more (v := w) l h hw, outer, hroom => by
    obtain ⟨done, k, v, rfl, hfold⟩ := h.foldlM outer hroom
    refine ⟨(k, v) :: done, l, w, (List.reverse_cons ..).symm, fun rest => ?_⟩
    rw [List.append_assoc, hfold]
    simp only [List.cons_append]
    rw [foldlM_step rfl, foldlM_step rfl, foldlM_step rfl,
      hw.foldlM (.member ((k, v) :: done) l :: outer) (by rw [List.length_cons]; omega)]
end

/-- **The reader and the grammar agree.** -/
theorem ofTokens?_eq_some_iff {tokens : List Token} {v : Json} :
    ofTokens? tokens = some v ↔ Spells depthLimit tokens v := by
  unfold ofTokens?
  constructor
  · intro h
    split at h
    · rename_i w hread
      cases h
      have hdrafts := drafts_foldlM (.value .outside) hread
      rw [List.nil_append] at hdrafts
      exact hdrafts.spells
    · cases h
  · intro h
    have hfold := h.foldlM [] (Nat.zero_add _) []
    rw [List.append_nil] at hfold
    rw [hfold]
    rfl

end SessionTasks.Json
