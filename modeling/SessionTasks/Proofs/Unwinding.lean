/-
# Two runs side by side

A run serves several parties.  To compare what one of them gets in two runs, the runs are taken
along together: a step that is not for the party is taken by one run alone, and a step that is for
it by both at once.

* `unwind` : what every such step keeps, two runs keep that are the same for the party;
* `Mates` : what the party is given for the `n`-th time by one run corresponds to what it is given
  for the `n`-th time by the other.
-/
import Mathlib
namespace SessionTasks

universe u v

variable {α : Type u} {σ : Type v}

/-! ## Steps of one run or of both -/

/-- Steps that are not for the party, taken by the second run alone. -/
theorem unwind_right {T : σ → σ → Prop} {step : σ → α → σ} {mine : α → Bool} {steps : List α}
    (right : ∀ s s' a, a ∈ steps → mine a = false → T s s' → T s (step s' a))
    (hsteps : ∀ a ∈ steps, mine a = false) {s s' : σ} (h : T s s') :
    T s (steps.foldl step s') := by
  induction steps generalizing s' with
  | nil => exact h
  | cons a rest ih =>
    refine ih (fun s s' b hb => right s s' b (List.mem_cons_of_mem a hb))
      (fun b hb => hsteps b (List.mem_cons_of_mem a hb)) ?_
    exact right s s' a List.mem_cons_self (hsteps a List.mem_cons_self) h

/-- **Unwinding.**  Two runs take the same steps for the party, and any others.  What is kept by a
step of one run that is not for the party, and by one step of both that is, the runs keep. -/
theorem unwind {T : σ → σ → Prop} {step : σ → α → σ} {mine : α → Bool} {steps steps' : List α}
    (left : ∀ s s' a, a ∈ steps → mine a = false → T s s' → T (step s a) s')
    (right : ∀ s s' a, a ∈ steps' → mine a = false → T s s' → T s (step s' a))
    (both : ∀ s s' a, a ∈ steps → mine a = true → T s s' → T (step s a) (step s' a))
    (hsteps : steps.filter mine = steps'.filter mine) {s s' : σ} (h : T s s') :
    T (steps.foldl step s) (steps'.foldl step s') := by
  induction steps generalizing steps' s s' with
  | nil =>
    refine unwind_right right (fun a ha => ?_) h
    simpa using List.filter_eq_nil_iff.1 hsteps.symm a ha
  | cons a rest ih =>
    have hleft : ∀ s s' b, b ∈ rest → mine b = false → T s s' → T (step s b) s' :=
      fun s s' b hb => left s s' b (List.mem_cons_of_mem a hb)
    have hboth : ∀ s s' b, b ∈ rest → mine b = true → T s s' → T (step s b) (step s' b) :=
      fun s s' b hb => both s s' b (List.mem_cons_of_mem a hb)
    cases ha : mine a with
    | false =>
      rw [List.filter_cons_of_neg (by rw [ha]; exact Bool.false_ne_true)] at hsteps
      exact ih hleft right hboth hsteps (left s s' a List.mem_cons_self ha h)
    | true =>
      rw [List.filter_cons_of_pos ha] at hsteps
      -- the second run takes the step too, after others that are not for the party
      obtain ⟨before, after, rfl, hbefore, -, hafter⟩ := List.filter_eq_cons_iff.1 hsteps.symm
      rw [List.foldl_append]
      have hcaught : T s (before.foldl step s') :=
        unwind_right (fun s s' b hb => right s s' b (List.mem_append_left _ hb))
          (fun b hb => by simpa using hbefore b hb) h
      refine ih hleft (fun s s' b hb => right s s' b ?_) hboth hafter.symm
        (both s _ a List.mem_cons_self ha hcaught)
      exact List.mem_append_right before (List.mem_cons_of_mem a hb)

/-! ## Occurrences that correspond -/

variable {a b : α} {l l' m m' : List α} {i i' j j' : Nat}

theorem lt_of_getElem?_eq_some (h : l[i]? = some a) : i < l.length :=
  (List.getElem?_eq_some_iff.1 h).1

theorem getElem?_of_grown (hl : l <+: m) (h : l[i]? = some a) : m[i]? = some a := by
  obtain ⟨rest, rfl⟩ := hl
  rw [List.getElem?_append_left (lt_of_getElem?_eq_some h), h]

variable [DecidableEq α]

/-- The places `i` and `j` of the lists hold `a`, and as often as before `i` it stands before
`j`. -/
structure Mates (a : α) (l l' : List α) (i j : Nat) : Prop where
  left : l[i]? = some a
  right : l'[j]? = some a
  rank : (l.take i).count a = (l'.take j).count a

theorem Mates.symm (h : Mates a l l' i j) : Mates a l' l j i := ⟨h.right, h.left, h.rank.symm⟩

/-- A place that holds something else corresponds to nothing. -/
theorem Mates.ne_of_other (h : Mates a l l' i j) {k : Nat} (hk : l[k]? = some b) (hb : b ≠ a) :
    i ≠ k := by
  rintro rfl
  exact hb (Option.some.inj (hk.symm.trans h.left))

/-- What corresponds does so still when the lists have grown. -/
theorem Mates.mono (h : Mates a l l' i j) (hl : l <+: m) (hl' : l' <+: m') :
    Mates a m m' i j := by
  refine ⟨getElem?_of_grown hl h.left, getElem?_of_grown hl' h.right, ?_⟩
  obtain ⟨rest, rfl⟩ := hl
  obtain ⟨rest', rfl⟩ := hl'
  rw [List.take_append_of_le_length (lt_of_getElem?_eq_some h.left).le,
    List.take_append_of_le_length (lt_of_getElem?_eq_some h.right).le, h.rank]

/-- A later place comes after more occurrences. -/
theorem count_take_lt_of_lt (h : l[i]? = some a) (hij : i < j) :
    (l.take i).count a < (l.take j).count a := by
  have hsucc : (l.take (i + 1)).count a = (l.take i).count a + 1 := by
    rw [List.take_add_one, h, List.count_append]
    simp
  have hle := (List.take_sublist_take_left hij : (l.take (i + 1)).Sublist (l.take j)).count_le a
  omega

theorem eq_of_count_take_eq (hi : l[i]? = some a) (hi' : l[i']? = some a)
    (h : (l.take i).count a = (l.take i').count a) : i = i' := by
  rcases lt_trichotomy i i' with hlt | heq | hlt
  · exact absurd h (count_take_lt_of_lt hi hlt).ne
  · exact heq
  · exact absurd h (count_take_lt_of_lt hi' hlt).ne'

/-- **A place corresponds to one place only**, in either direction. -/
theorem Mates.eq_iff (h : Mates a l l' i j) (h' : Mates a l l' i' j') : i = i' ↔ j = j' := by
  constructor
  · rintro rfl
    exact eq_of_count_take_eq h.right h'.right (h.rank.symm.trans h'.rank)
  · rintro rfl
    exact eq_of_count_take_eq h.left h'.left (h.rank.trans h'.rank.symm)

/-- One more entry that is not `a` corresponds to nothing. -/
theorem mates_concat_iff_of_ne (hb : b ≠ a) :
    Mates a (l ++ [b]) l' i j ↔ Mates a l l' i j := by
  constructor
  · intro h
    have hi : i < l.length := by
      have hlt := lt_of_getElem?_eq_some h.left
      rw [List.length_append, List.length_singleton] at hlt
      refine (Nat.lt_succ_iff_lt_or_eq.1 hlt).resolve_right fun heq => hb ?_
      have hleft := h.left
      rw [heq, List.getElem?_concat_length] at hleft
      exact Option.some.inj hleft
    refine ⟨?_, h.right, ?_⟩
    · rw [← h.left, List.getElem?_append_left hi]
    · rw [← h.rank, List.take_append_of_le_length hi.le]
  · exact fun h => h.mono (List.prefix_append l [b]) (List.prefix_refl l')

/-- One more `a` on both sides: the new places correspond to each other. -/
theorem mates_concat (hcount : l.count a = l'.count a) :
    Mates a (l ++ [a]) (l' ++ [a]) l.length l'.length :=
  ⟨List.getElem?_concat_length, List.getElem?_concat_length, by simpa using hcount⟩

/-- One more `a` on both sides: nothing else corresponds anew. -/
theorem Mates.of_concat (hcount : l.count a = l'.count a) (h : Mates a (l ++ [a]) (l' ++ [a]) i j) :
    Mates a l l' i j ∨ i = l.length ∧ j = l'.length := by
  have hnew := mates_concat hcount
  by_cases hi : i = l.length
  · exact Or.inr ⟨hi, (h.eq_iff hnew).1 hi⟩
  · left
    have hj : j ≠ l'.length := fun hj => hi ((h.eq_iff hnew).2 hj)
    have hlt := lt_of_getElem?_eq_some h.left
    have hlt' := lt_of_getElem?_eq_some h.right
    rw [List.length_append, List.length_singleton] at hlt hlt'
    have hil : i < l.length := by omega
    have hjl : j < l'.length := by omega
    refine ⟨?_, ?_, ?_⟩
    · rw [← h.left, List.getElem?_append_left hil]
    · rw [← h.right, List.getElem?_append_left hjl]
    · have hrank := h.rank
      rw [List.take_append_of_le_length hil.le, List.take_append_of_le_length hjl.le] at hrank
      exact hrank

end SessionTasks
