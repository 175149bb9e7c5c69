/-
# The sessions of a pool by rank

The pool keeps its sessions by their keys and marks each with the count of lookups at its last
one.  Read off by falling counts they are a list, and each operation of the pool is an
operation of that list.

* `SessionPool.Ranked` : the list is the sessions of the pool, the one looked up last first;
* `Ranked.evict` : the session that is evicted is the last of the list.
-/
import Mathlib
import SessionTasks.SessionPool
namespace SessionTasks

namespace SessionPool

/-- The list is the sessions of the pool, the one that was looked up last first. -/
structure Ranked (p : SessionPool) (sessions : List Session) : Prop where
  /-- The pool has these sessions and no others, each under its own key. -/
  listed : p.sessions.entries.Perm (sessions.map fun s => (s.key.text, s))
  /-- No two were last looked up at one count. -/
  falling : sessions.Pairwise fun a b => b.turn < a.turn
  /-- The pool has counted every lookup. -/
  counted : ∀ s ∈ sessions, s.turn ≤ p.turns

theorem Ranked.empty (settings : PoolSettings) : (SessionPool.empty settings).Ranked [] where
  listed := List.Perm.refl _
  falling := List.Pairwise.nil
  counted := by simp

variable {p : SessionPool} {sessions : List Session}

/-! ## Reading -/

theorem Ranked.size (h : p.Ranked sessions) : p.sessions.size = sessions.length := by
  have hlength := h.listed.length_eq
  rw [List.length_map] at hlength
  exact hlength

theorem Ranked.mem_entries_iff (h : p.Ranked sessions) {key : String} {s : Session} :
    (key, s) ∈ p.sessions.entries ↔ s ∈ sessions ∧ s.key.text = key := by
  rw [h.listed.mem_iff, List.mem_map]
  constructor
  · rintro ⟨t, ht, heq⟩
    cases heq
    exact ⟨ht, rfl⟩
  · rintro ⟨hs, rfl⟩
    exact ⟨s, hs, rfl⟩

theorem Ranked.values (h : p.Ranked sessions) : p.sessions.values.Perm sessions := by
  have hmap := h.listed.map Prod.snd
  have hlist : (sessions.map fun s => (s.key.text, s)).map Prod.snd = sessions := by
    rw [List.map_map]
    exact List.map_id sessions
  rw [hlist] at hmap
  exact hmap

/-- No two sessions have one key. -/
theorem Ranked.nodup_keys (h : p.Ranked sessions) : (sessions.map Session.key).Nodup := by
  have hentries : (p.sessions.entries.map Prod.fst).Nodup := by
    rw [List.Nodup, List.pairwise_map]
    refine List.Pairwise.imp ?_ p.sessions.sorted
    intro a b hlt
    exact ne_of_lt hlt
  have htexts : (sessions.map fun s => s.key.text).Nodup := by
    have hperm := h.listed.map Prod.fst
    rw [List.map_map] at hperm
    exact hperm.nodup_iff.1 hentries
  rw [List.Nodup, List.pairwise_map] at htexts ⊢
  exact htexts.imp fun hne heq => hne (congrArg SessionKey.text heq)

theorem Ranked.find? (h : p.Ranked sessions) (key : SessionKey) :
    p.find? key = sessions.find? fun s => s.key = key := by
  unfold SessionPool.find?
  cases hs : sessions.find? (fun s => s.key = key) with
  | some s =>
    have hkey : s.key = key := by simpa using List.find?_some hs
    rw [KeyMap.get?_eq_some_iff, h.mem_entries_iff, hkey]
    exact ⟨List.mem_of_find?_eq_some hs, rfl⟩
  | none =>
    rw [List.find?_eq_none] at hs
    by_contra hne
    obtain ⟨s, hget⟩ := Option.ne_none_iff_exists'.1 hne
    rw [KeyMap.get?_eq_some_iff, h.mem_entries_iff] at hget
    have hkey : s.key = key := SessionKey.text_injective hget.2
    exact hs s hget.1 (by simpa using hkey)

/-- The keys of the pool are those of the list, sorted. -/
theorem Ranked.keys (h : p.Ranked sessions) :
    p.keys = (sessions.map Session.key).mergeSort fun a b => a.text ≤ b.text := by
  have htrans : ∀ a b c : SessionKey, decide (a.text ≤ b.text) = true →
      decide (b.text ≤ c.text) = true → decide (a.text ≤ c.text) = true := by
    intro a b c hab hbc
    rw [decide_eq_true_eq] at hab hbc ⊢
    exact String.le_trans hab hbc
  have htotal : ∀ a b : SessionKey,
      (decide (a.text ≤ b.text) || decide (b.text ≤ a.text)) = true := by
    intro a b
    rw [Bool.or_eq_true, decide_eq_true_eq, decide_eq_true_eq]
    exact String.le_total a.text b.text
  have hkeys : p.keys.Pairwise fun a b => decide (a.text ≤ b.text) = true := by
    show (List.map Session.key (p.sessions.entries.map Prod.snd)).Pairwise _
    rw [List.map_map, List.pairwise_map]
    refine List.Pairwise.imp_of_mem ?_ p.sessions.sorted
    intro a b ha hb hlt
    have hka := (h.mem_entries_iff.1 (show (a.1, a.2) ∈ _ from ha)).2
    have hkb := (h.mem_entries_iff.1 (show (b.1, b.2) ∈ _ from hb)).2
    show decide (a.2.key.text ≤ b.2.key.text) = true
    rw [hka, hkb, decide_eq_true_eq]
    exact le_of_lt hlt
  refine List.Perm.eq_of_pairwise ?_ hkeys (List.pairwise_mergeSort htrans htotal _) ?_
  · intro a b _ _ hab hba
    rw [decide_eq_true_eq] at hab hba
    exact SessionKey.text_injective (String.le_antisymm hab hba)
  · exact (h.values.map Session.key).trans (List.mergeSort_perm _ _).symm

/-! ## Dropping -/

/-- A pool that keeps some of the sessions keeps their ranks. -/
theorem Ranked.filter (h : p.Ranked sessions) {q : SessionPool} (test : String × Session → Bool)
    (hturns : q.turns = p.turns) (hentries : q.sessions.entries = p.sessions.entries.filter test) :
    q.Ranked (sessions.filter fun s => test (s.key.text, s)) where
  listed := by
    have hfilter := h.listed.filter test
    rw [List.filter_map] at hfilter
    rw [hentries]
    exact hfilter
  falling := h.falling.filter _
  counted := by
    intro s hs
    rw [hturns]
    exact h.counted s (List.mem_of_mem_filter hs)

theorem Ranked.drop (h : p.Ranked sessions) (key : SessionKey) :
    (p.drop key).Ranked (sessions.filter fun s => s.key ≠ key) := by
  have hfilter := h.filter (q := p.drop key) (fun e => decide (e.1 ≠ key.text)) rfl rfl
  have htest : ∀ s ∈ sessions, decide (s.key.text ≠ key.text) = decide (s.key ≠ key) := by
    intro s _
    rw [decide_eq_decide]
    exact not_congr SessionKey.text_injective.eq_iff
  rw [List.filter_congr htest] at hfilter
  exact hfilter

theorem Ranked.expire (h : p.Ranked sessions) (now : Nat) :
    (p.expire now).Ranked (sessions.filter fun s => !p.isExpired now s) :=
  h.filter (fun e => !p.isExpired now e.2) rfl rfl

/-! ## Evicting -/

/-- Of some sessions the earliest is one of them, and none was looked up before it. -/
theorem foldl_earlier (rest : List Session) (s : Session) :
    rest.foldl earlier s ∈ s :: rest ∧ ∀ t ∈ s :: rest, (rest.foldl earlier s).turn ≤ t.turn := by
  induction rest generalizing s with
  | nil => simp
  | cons r rest ih =>
    obtain ⟨hmem, hle⟩ := ih (earlier s r)
    rw [List.foldl_cons]
    -- the earlier of the first two stands for both
    have hchoice : earlier s r = s ∨ earlier s r = r := by
      unfold earlier
      split
      · exact Or.inr rfl
      · exact Or.inl rfl
    have hs : (earlier s r).turn ≤ s.turn ∧ (earlier s r).turn ≤ r.turn := by
      unfold earlier
      split <;> omega
    constructor
    · rcases List.mem_cons.1 hmem with hm | hm
      · rw [hm]
        rcases hchoice with hc | hc <;> rw [hc] <;> simp
      · exact List.mem_cons_of_mem _ (List.mem_cons_of_mem _ hm)
    · intro t ht
      have hhead := hle (earlier s r) List.mem_cons_self
      rcases List.mem_cons.1 ht with rfl | ht
      · omega
      · rcases List.mem_cons.1 ht with rfl | ht
        · omega
        · exact hle t (List.mem_cons_of_mem _ ht)

/-- **The session that was looked up least recently is the last of the list.** -/
theorem Ranked.oldest? (h : p.Ranked sessions) : p.oldest? = sessions.getLast? := by
  unfold SessionPool.oldest?
  have hvalues := h.values
  cases hv : p.sessions.values with
  | nil =>
    rw [hv] at hvalues
    rw [hvalues.symm.eq_nil]
    rfl
  | cons s rest =>
    rw [hv] at hvalues
    obtain ⟨hmem, hle⟩ := foldl_earlier rest s
    rcases List.eq_nil_or_concat sessions with hnil | ⟨init, last, rfl⟩
    · rw [hnil] at hvalues
      cases hvalues.eq_nil
    · rw [List.concat_eq_append] at hvalues h ⊢
      rw [List.getLast?_append]
      have hlast : (rest.foldl earlier s).turn ≤ last.turn :=
        hle last (hvalues.mem_iff.2 (by simp))
      have hfalling := (List.pairwise_append.1 h.falling).2.2
      -- a session before the last has a greater count, so the earliest is the last
      rcases List.mem_append.1 (hvalues.mem_iff.1 hmem) with hinit | hinit
      · have hlt := hfalling _ hinit last (List.mem_singleton_self last)
        omega
      · show some (rest.foldl earlier s) = _
        rw [List.mem_singleton.1 hinit]
        rfl

/-- What is evicted is the last of the list, and nothing else. -/
theorem Ranked.evict (h : p.Ranked sessions) : p.evict.Ranked sessions.dropLast := by
  unfold SessionPool.evict
  rw [h.oldest?]
  rcases List.eq_nil_or_concat sessions with rfl | ⟨init, last, rfl⟩
  · exact h
  · rw [List.concat_eq_append] at h ⊢
    have hnodup := h.nodup_keys
    rw [List.map_append, List.nodup_append] at hnodup
    have hdrop := h.drop last.key
    -- no other session has the key of the last, so only the last is dropped with its key
    have hinit : init.filter (fun s => decide (s.key ≠ last.key)) = init := by
      rw [List.filter_eq_self]
      intro s hs
      have hne := hnodup.2.2 s.key (List.mem_map_of_mem hs) last.key (by simp)
      simpa using hne
    rw [List.filter_append, hinit] at hdrop
    simpa using hdrop

/-! ## Inserting -/

/-- A session that was looked up just now comes first. -/
theorem Ranked.insert (h : p.Ranked sessions) {s : Session} (hturn : p.turns < s.turn) :
    ({ p with turns := s.turn, sessions := p.sessions.insert s.key.text s } : SessionPool).Ranked
      (s :: sessions.filter fun t => t.key ≠ s.key) where
  listed := by
    have hinsert := p.sessions.sorted.insert_perm s.key.text s
    exact hinsert.trans ((h.drop s.key).listed.cons (s.key.text, s))
  falling := by
    refine List.pairwise_cons.2 ⟨?_, h.falling.filter _⟩
    intro t ht
    have hcounted := h.counted t (List.mem_of_mem_filter ht)
    omega
  counted := by
    intro t ht
    rcases List.mem_cons.1 ht with rfl | ht
    · exact le_rfl
    · have hcounted := h.counted t (List.mem_of_mem_filter ht)
      show t.turn ≤ s.turn
      omega

end SessionPool

end SessionTasks
