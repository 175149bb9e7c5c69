/-
# Servers that one session cannot tell apart

Two servers are twins for a session if it is live in both or in neither, has idled as long, and
finds the same in its stores, in its file and in its runs.  Other sessions may differ.  While there
is room for all sessions, what is done for another session in one of the servers leaves them twins,
and so does what is done for the session, or for all sessions, in both.

* `Server.Twin` : the servers are twins;
* `Server.Twin.lookup_left`, `Server.Twin.lookup` : lookups of another session and of the session;
* `Server.Twin.sweep` : a cycle of retention.
-/
import SessionTasks.Proofs.FileTree.Siblings
import SessionTasks.Proofs.Sessions.Owners
namespace SessionTasks

/-! ## Twins -/

/-- The session has the same runs that hold their tasks, and the same runs that were cancelled. -/
structure RunLedger.Alike (A : SessionKey) (asked asked' : List SessionKey) (l l' : RunLedger) :
    Prop where
  holder : ∀ key, key.session = A →
    Option.Rel (Mates A asked asked') (l.holder? key) (l'.holder? key)
  cancelled : ∀ n n', Mates A asked asked' n n' → (n ∈ l.cancelled ↔ n' ∈ l'.cancelled)
  count : asked.count A = asked'.count A

namespace Server

/-- The session `A` cannot tell the servers apart.  Its stores correspond in the order in which
they were made, and its runs in the order in which they were asked for. -/
structure Twin (A : SessionKey) (keys own own' asked asked' : List SessionKey) (s s' : Server) :
    Prop where
  owned : s.Owned keys own asked
  owned' : s'.Owned keys own' asked'
  epoch : s.epoch = s'.epoch
  now : s.now = s'.now
  settings : s.pool.settings = s'.pool.settings
  options : s.sweeper.options = s'.sweeper.options
  timer : s.sweeper.timer = s'.sweeper.timer
  /-- The session is live in both or in neither, and was last looked up at one time. -/
  session : Option.Rel
    (fun x x' => x.lastAccess = x'.lastAccess ∧ Mates A own own' x.store x'.store)
    (s.pool.find? A) (s'.pool.find? A)
  stores : ∀ i i', Mates A own own' i i' → s.store i = s'.store i'
  count : own.count A = own'.count A
  files : ∀ path, s.pool.pathFor A = some path → FileTree.SameAt path s.files s'.files
  ledger : s.ledger.Alike A asked asked' s'.ledger

/-- The servers are twins, and stores may have been made. -/
def TwinFrom (A : SessionKey) (keys own own' asked asked' : List SessionKey) (s s' : Server) :
    Prop :=
  ∃ own₁ own₁', own <+: own₁ ∧ own' <+: own₁' ∧ Twin A keys own₁ own₁' asked asked' s s'

end Server

variable {A B : SessionKey} {keys own own' asked asked' : List SessionKey}

/-- A relation of optional values may be read from the other side. -/
theorem rel_symm {α β : Type} {r : α → β → Prop} {q : β → α → Prop} (h : ∀ a b, r a b → q b a)
    {a : Option α} {b : Option β} (hab : Option.Rel r a b) : Option.Rel q b a := by
  cases hab with
  | some hr => exact .some (h _ _ hr)
  | none => exact .none

/-- A relation of optional values follows from a stronger one. -/
theorem rel_mono {α β : Type} {r q : α → β → Prop} (h : ∀ a b, r a b → q a b)
    {a : Option α} {b : Option β} (hab : Option.Rel r a b) : Option.Rel q a b := by
  cases hab with
  | some hr => exact .some (h _ _ hr)
  | none => exact .none

/-- Related optional values are both absent, or both present and related. -/
theorem rel_cases {α β : Type} {r : α → β → Prop} {a : Option α} {b : Option β}
    (h : Option.Rel r a b) :
    (a = none ∧ b = none) ∨ ∃ x y, a = some x ∧ b = some y ∧ r x y := by
  cases h with
  | some hr => exact Or.inr ⟨_, _, rfl, rfl, hr⟩
  | none => exact Or.inl ⟨rfl, rfl⟩

/-- Related optional values are both present, or neither is. -/
theorem rel_isSome {α β : Type} {r : α → β → Prop} {a : Option α} {b : Option β}
    (h : Option.Rel r a b) : a.isSome = b.isSome := by
  cases h <;> rfl

/-- A session is found among those that are kept when it passes the test. -/
theorem SessionPool.find?_keep (p : SessionPool) (test : Session → Bool) (key : SessionKey) :
    (p.keep test).find? key = (p.find? key).filter test :=
  KeyMap.get?_keep p.sessions test key.text

theorem RunLedger.Alike.symm {l l' : RunLedger} (h : l.Alike A asked asked' l') :
    l'.Alike A asked' asked l :=
  ⟨fun key hkey => rel_symm (fun _ _ => Mates.symm) (h.holder key hkey),
    fun n n' hn => (h.cancelled n' n hn.symm).symm, h.count.symm⟩

namespace Server

variable {s s' t t' : Server}

/-- Servers are twins in either order. -/
theorem Twin.symm (h : Twin A keys own own' asked asked' s s') :
    Twin A keys own' own asked' asked s' s where
  owned := h.owned'
  owned' := h.owned
  epoch := h.epoch.symm
  now := h.now.symm
  settings := h.settings.symm
  options := h.options.symm
  timer := h.timer.symm
  session := rel_symm (fun _ _ hx => ⟨hx.1.symm, hx.2.symm⟩) h.session
  stores := fun i i' hi => (h.stores i' i hi.symm).symm
  count := h.count.symm
  files := by
    intro path hpath
    refine (h.files path ?_).symm
    rw [← hpath]
    unfold SessionPool.pathFor
    rw [h.settings]
  ledger := h.ledger.symm

theorem Twin.clock (h : Twin A keys own own' asked asked' s s') : s.clock = s'.clock := by
  unfold Server.clock
  rw [h.epoch, h.now]

theorem Twin.from (h : Twin A keys own own' asked asked' s s') :
    TwinFrom A keys own own' asked asked' s s' :=
  ⟨own, own', List.prefix_refl own, List.prefix_refl own', h⟩

/-- Twins with new stores may be read in either order. -/
theorem TwinFrom.symm (h : TwinFrom A keys own own' asked asked' s s') :
    TwinFrom A keys own' own asked' asked s' s := by
  obtain ⟨own₁, own₁', hown, hown', htwin⟩ := h
  exact ⟨own₁', own₁, hown', hown, htwin.symm⟩

/-- What leaves twins twins does so too after stores were made. -/
theorem TwinFrom.bind (h : TwinFrom A keys own own' asked asked' s s')
    (hnext : ∀ own₁ own₁', own <+: own₁ → own' <+: own₁' →
      Twin A keys own₁ own₁' asked asked' s s' →
      TwinFrom A keys own₁ own₁' asked asked' t t') :
    TwinFrom A keys own own' asked asked' t t' := by
  obtain ⟨own₁, own₁', hown, hown', htwin⟩ := h
  obtain ⟨own₂, own₂', hown₂, hown₂', htwin₂⟩ := hnext own₁ own₁' hown hown' htwin
  exact ⟨own₂, own₂', hown.trans hown₂, hown'.trans hown₂', htwin₂⟩

/-! ## Parts of twins -/

/-- Other pools. -/
theorem Twin.setPools (h : Twin A keys own own' asked asked' s s') {p p' : SessionPool}
    (howned : Owned keys own asked { s with pool := p })
    (howned' : Owned keys own' asked' { s' with pool := p' })
    (hsettings : p.settings = s.pool.settings) (hsettings' : p'.settings = s'.pool.settings)
    (hsession : Option.Rel
      (fun x x' => x.lastAccess = x'.lastAccess ∧ Mates A own own' x.store x'.store)
      (p.find? A) (p'.find? A)) :
    Twin A keys own own' asked asked' { s with pool := p } { s' with pool := p' } :=
  { h with
    owned := howned
    owned' := howned'
    settings := hsettings.trans (h.settings.trans hsettings'.symm)
    session := hsession
    files := by
      intro path hpath
      refine h.files path ?_
      rw [← hpath]
      unfold SessionPool.pathFor
      rw [hsettings] }

/-- Other ledgers. -/
theorem Twin.setLedgers (h : Twin A keys own own' asked asked' s s') {l l' : RunLedger}
    (howned : l.Owned asked) (howned' : l'.Owned asked') (hl : l.Alike A asked asked' l') :
    Twin A keys own own' asked asked' { s with ledger := l } { s' with ledger := l' } :=
  { h with
    owned := h.owned.setLedger howned
    owned' := h.owned'.setLedger howned'
    ledger := hl }

/-- Another content of a store of the session. -/
theorem Twin.setStores (h : Twin A keys own own' asked asked' s s') {i i' : StoreId}
    (hi : Mates A own own' i i') {store : Store}
    (hsettings : store.settings = (s.store i).settings) :
    Twin A keys own own' asked asked' (s.setStore i store) (s'.setStore i' store) :=
  { h with
    owned := h.owned.setStore i hsettings
    owned' := h.owned'.setStore i' (hsettings.trans (congrArg Store.settings (h.stores i i' hi)))
    stores := by
      intro j j' hj
      have hlt : j < s.stores.length := by
        rw [← h.owned.made]
        exact lt_of_getElem?_eq_some hj.left
      have hlt' : j' < s'.stores.length := by
        rw [← h.owned'.made]
        exact lt_of_getElem?_eq_some hj.right
      rw [store_setStore, store_setStore]
      by_cases heq : j = i
      · rw [if_pos ⟨heq, hlt⟩, if_pos ⟨(hj.eq_iff hi).1 heq, hlt'⟩]
      · rw [if_neg fun hc => heq hc.1, if_neg fun hc => heq ((hj.eq_iff hi).2 hc.1)]
        exact h.stores j j' hj }

/-- Another content of a store of another session. -/
theorem Twin.setStore_left (h : Twin A keys own own' asked asked' s s') (hB : B ≠ A)
    {i : StoreId} (hi : own[i]? = some B) {store : Store}
    (hsettings : store.settings = (s.store i).settings) :
    Twin A keys own own' asked asked' (s.setStore i store) s' :=
  { h with
    owned := h.owned.setStore i hsettings
    stores := by
      intro j j' hj
      rw [store_setStore, if_neg fun hc => hj.ne_of_other hi hB hc.1]
      exact h.stores j j' hj }

/-- A store is made for the session. -/
theorem Twin.addStores (h : Twin A keys own own' asked asked' s s') (loads : Bool) :
    Twin A keys (own ++ [A]) (own' ++ [A]) asked asked'
      (s.addStore ⟨s.pool.pathFor A, loads⟩).2 (s'.addStore ⟨s'.pool.pathFor A, loads⟩).2 :=
  { h with
    owned := h.owned.addStore A loads
    owned' := h.owned'.addStore A loads
    session := rel_mono (fun _ _ hx =>
      ⟨hx.1, hx.2.mono (List.prefix_append own [A]) (List.prefix_append own' [A])⟩) h.session
    stores := by
      intro j j' hj
      rw [store_addStore, store_addStore, ← h.owned.made, ← h.owned'.made]
      rcases hj.of_concat h.count with hj | ⟨rfl, rfl⟩
      · rw [if_neg (lt_of_getElem?_eq_some hj.left).ne, if_neg (lt_of_getElem?_eq_some hj.right).ne]
        exact h.stores j j' hj
      · rw [if_pos rfl, if_pos rfl]
        unfold SessionPool.pathFor
        rw [h.settings]
    count := by
      rw [List.count_append, List.count_append, h.count] }

/-- A store is made for another session. -/
theorem Twin.addStore_left (h : Twin A keys own own' asked asked' s s') (hB : B ≠ A)
    (loads : Bool) :
    Twin A keys (own ++ [B]) own' asked asked' (s.addStore ⟨s.pool.pathFor B, loads⟩).2 s' :=
  { h with
    owned := h.owned.addStore B loads
    session := rel_mono (fun _ _ hx =>
      ⟨hx.1, hx.2.mono (List.prefix_append own [B]) (List.prefix_refl own')⟩) h.session
    stores := by
      intro j j' hj
      rw [mates_concat_iff_of_ne hB] at hj
      rw [store_addStore, ← h.owned.made, if_neg (lt_of_getElem?_eq_some hj.left).ne]
      exact h.stores j j' hj
    count := by
      rw [List.count_append, List.count_singleton, if_neg (by simpa using hB), Nat.add_zero, h.count] }

/-- The clocks show another time. -/
theorem Twin.setClock (h : Twin A keys own own' asked asked' s s') (now : Nat) :
    Twin A keys own own' asked asked' { s with now } { s' with now } :=
  { h with
    owned := h.owned.of_eq rfl rfl rfl
    owned' := h.owned'.of_eq rfl rfl rfl
    now := rfl }

/-- Identifiers were given out. -/
theorem Twin.setIssued (h : Twin A keys own own' asked asked' s s') (issued issued' : Nat) :
    Twin A keys own own' asked asked' { s with issued } { s' with issued := issued' } :=
  { h with
    owned := h.owned.of_eq rfl rfl rfl
    owned' := h.owned'.of_eq rfl rfl rfl }

/-! ## Lookups -/

/-- The session is live in both or in neither. -/
theorem Twin.live (h : Twin A keys own own' asked asked' s s') {x : Session}
    (hx : s.pool.IsLive s.now A x) :
    ∃ x', s'.pool.IsLive s'.now A x' ∧ Mates A own own' x.store x'.store := by
  obtain ⟨hfind, hidle⟩ := hx
  have hsession := h.session
  rw [hfind] at hsession
  rcases rel_cases hsession with ⟨hnone, -⟩ | ⟨y, x', heq, hx', haccess, hmates⟩
  · cases hnone
  · cases heq
    refine ⟨x', ⟨hx', ?_⟩, hmates⟩
    rw [← hidle]
    unfold SessionPool.isExpired
    rw [haccess, h.now, h.settings]

/-- **A lookup of another session**, which leads to a store of this session. -/
theorem Twin.lookup_left (h : Twin A keys own own' asked asked' s s') (hB : B ≠ A)
    (hkey : B ∈ keys) :
    ∃ own₁, own <+: own₁ ∧ Twin A keys own₁ own' asked asked' (s.lookup B).2 s' ∧
      own₁[(s.lookup B).1.store]? = some B ∧ (s.lookup B).1.key = B := by
  by_cases hlive : ∃ x, s.pool.IsLive s.now B x
  · obtain ⟨x, hx⟩ := hlive
    obtain ⟨p, heq, howned, hsettings, hfind⟩ := h.owned.lookup_eq_of_live hx
    rw [heq]
    refine ⟨own, List.prefix_refl own, ?_, (h.owned.live B x hx.1).2, rfl⟩
    refine h.setPools howned h.owned' hsettings rfl ?_
    rw [hfind, if_neg hB.symm]
    exact h.session
  · obtain ⟨p, heq, howned, hsettings, hfind⟩ :=
      h.owned.lookup_eq_of_not_live hkey (not_exists.1 hlive)
    rw [heq]
    have hadd := h.addStore_left hB s.pool.settings.loadOnStartup
    refine ⟨own ++ [B], List.prefix_append own [B], ?_, ?_, rfl⟩
    · refine hadd.setPools howned hadd.owned' hsettings rfl ?_
      rw [hfind, if_neg hB.symm]
      exact hadd.session
    · rw [← h.owned.made]
      exact List.getElem?_concat_length

/-- **A lookup of the session** in both servers makes it in both or in neither, and leads to
stores that correspond. -/
theorem Twin.lookup (h : Twin A keys own own' asked asked' s s') (hkey : A ∈ keys) :
    ∃ own₁ own₁', own <+: own₁ ∧ own' <+: own₁' ∧
      Twin A keys own₁ own₁' asked asked' (s.lookup A).2 (s'.lookup A).2 ∧
      Mates A own₁ own₁' (s.lookup A).1.store (s'.lookup A).1.store ∧
      (s.lookup A).1.created = (s'.lookup A).1.created ∧
      (s.lookup A).1.key = A ∧ (s'.lookup A).1.key = A := by
  by_cases hlive : ∃ x, s.pool.IsLive s.now A x
  · obtain ⟨x, hx⟩ := hlive
    obtain ⟨x', hx', hmates⟩ := h.live hx
    obtain ⟨p, heq, howned, hsettings, hfind⟩ := h.owned.lookup_eq_of_live hx
    obtain ⟨p', heq', howned', hsettings', hfind'⟩ := h.owned'.lookup_eq_of_live hx'
    rw [heq, heq']
    refine ⟨own, own', List.prefix_refl own, List.prefix_refl own', ?_, hmates, rfl, rfl, rfl⟩
    refine h.setPools howned howned' hsettings hsettings' ?_
    rw [hfind, if_pos rfl, hfind', if_pos rfl]
    exact .some ⟨h.now, hmates⟩
  · have hlive' : ∀ x', ¬ s'.pool.IsLive s'.now A x' := by
      intro x' hx'
      obtain ⟨x, hx, -⟩ := h.symm.live hx'
      exact hlive ⟨x, hx⟩
    obtain ⟨p, heq, howned, hsettings, hfind⟩ :=
      h.owned.lookup_eq_of_not_live hkey (not_exists.1 hlive)
    obtain ⟨p', heq', howned', hsettings', hfind'⟩ := h.owned'.lookup_eq_of_not_live hkey hlive'
    rw [heq, heq']
    -- the new store is the last of each server, and the session has had as many before it in both
    have hadd := h.addStores s.pool.settings.loadOnStartup
    rw [← h.settings] at howned' heq' ⊢
    have hnew := mates_concat h.count
    rw [h.owned.made, h.owned'.made] at hnew
    refine ⟨own ++ [A], own' ++ [A], List.prefix_append own [A], List.prefix_append own' [A], ?_,
      hnew, rfl, rfl, rfl⟩
    refine hadd.setPools howned howned' hsettings hsettings' ?_
    rw [hfind, if_pos rfl, hfind', if_pos rfl]
    exact .some ⟨h.now, hnew⟩

/-! ## Stores and files -/

variable {i i' : StoreId} {α : Type} {f : Store → α × Store}

/-- What is done with a store of the session has the same result in both servers. -/
theorem Twin.onStore (h : Twin A keys own own' asked asked' s s') (hi : Mates A own own' i i')
    (hf : ∀ store, (f store).2.settings = store.settings) :
    (s.onStore i f).1 = (s'.onStore i' f).1 ∧
      Twin A keys own own' asked asked' (s.onStore i f).2 (s'.onStore i' f).2 := by
  unfold Server.onStore
  dsimp only
  rw [← h.stores i i' hi]
  exact ⟨rfl, h.setStores hi (hf _)⟩

/-- A session does not notice what is done to a store of another one. -/
theorem Twin.onStore_left (h : Twin A keys own own' asked asked' s s') (hB : B ≠ A)
    (hi : own[i]? = some B) (hf : ∀ store, (f store).2.settings = store.settings) :
    Twin A keys own own' asked asked' (s.onStore i f).2 s' :=
  h.setStore_left hB hi (hf _)

/-- The files may change as long as the file of the session is the same in both. -/
theorem Twin.setFiles (h : Twin A keys own own' asked asked' s s') {files files' : FileTree}
    (hfiles : ∀ path, s.pool.pathFor A = some path → FileTree.SameAt path files files') :
    Twin A keys own own' asked asked' { s with files } { s' with files := files' } :=
  { h with
    owned := h.owned.of_eq rfl rfl rfl
    owned' := h.owned'.of_eq rfl rfl rfl
    files := hfiles }

/-- The session saves its store. -/
theorem Twin.save (h : Twin A keys own own' asked asked' s s') (hi : Mates A own own' i i') :
    (s.save i).1 = (s'.save i').1 ∧
      Twin A keys own own' asked asked' (s.save i).2 (s'.save i').2 := by
  have hpath := h.owned.path i A hi.left
  unfold Server.save Store.save
  rw [← h.stores i i' hi]
  cases hp : (s.store i).settings.path with
  | none => exact ⟨rfl, h⟩
  | some path =>
    cases (s.store i).access with
    | error f => exact ⟨rfl, h⟩
    | ok tables =>
      have hfiles := h.files path (hpath.symm.trans hp)
      dsimp only
      rcases hfiles.write tables.toText.toUTF8 with
        ⟨fault, hwrite, hwrite'⟩ | ⟨after, after', hwrite, hwrite', hsame⟩
      · rw [hwrite, hwrite']
        exact ⟨rfl, h⟩
      · rw [hwrite, hwrite']
        refine ⟨rfl, h.setFiles fun other hother => ?_⟩
        rw [← hpath, hp] at hother
        cases hother
        exact hsame

/-- Another session saves its store, in a file of its own. -/
theorem Twin.save_left (h : Twin A keys own own' asked asked' s s') (hB : B ≠ A)
    (hi : own[i]? = some B) : Twin A keys own own' asked asked' (s.save i).2 s' := by
  unfold Server.save
  cases hsave : (s.store i).save s.files with
  | error f => exact h
  | ok files =>
    have hsame : ∀ path, s.pool.pathFor A = some path →
        FileTree.SameAt path files s'.files := by
      intro path hpath
      have hfiles := h.files path hpath
      unfold SessionPool.pathFor at hpath
      obtain ⟨base, hbase, rfl⟩ := Option.map_eq_some_iff.1 hpath
      have hother : (s.store i).settings.path = some (FileTree.sessionPath base B) := by
        rw [h.owned.path i B hi]
        unfold SessionPool.pathFor
        rw [hbase]
        rfl
      obtain ⟨-, hwrite⟩ := Store.save_eq_ok hsave hother
      exact (FileTree.sameAt_write_of_ne (Ne.symm hB) hwrite).symm.trans hfiles
    exact h.setFiles hsame

/-- The file of a store of the session is the same for both servers. -/
theorem Twin.load_eq (h : Twin A keys own own' asked asked' s s') (hi : Mates A own own' i i') :
    (s.store i).load s.files = (s'.store i').load s'.files := by
  have hpath := h.owned.path i A hi.left
  unfold Store.load
  rw [← h.stores i i' hi]
  cases hp : (s.store i).settings.path with
  | none => rfl
  | some path =>
    dsimp only
    rw [(h.files path (hpath.symm.trans hp)).readText]

/-- The session loads its store. -/
theorem Twin.load (h : Twin A keys own own' asked asked' s s') (hi : Mates A own own' i i') :
    (s.load i).1 = (s'.load i').1 ∧
      Twin A keys own own' asked asked' (s.load i).2 (s'.load i').2 := by
  unfold Server.load
  rw [← h.load_eq hi]
  cases hload : (s.store i).load s.files with
  | error f => exact ⟨rfl, h⟩
  | ok store => exact ⟨rfl, h.setStores hi (Store.settings_load hload)⟩

/-- A session does not notice that a store of another one is loaded. -/
theorem Twin.load_left (h : Twin A keys own own' asked asked' s s') (hB : B ≠ A)
    (hi : own[i]? = some B) : Twin A keys own own' asked asked' (s.load i).2 s' := by
  unfold Server.load
  cases hload : (s.store i).load s.files with
  | error f => exact h
  | ok store => exact h.setStore_left hB hi (Store.settings_load hload)

/-- The session starts its store. -/
theorem Twin.start (h : Twin A keys own own' asked asked' s s') (hi : Mates A own own' i i') :
    (s.start i).1 = (s'.start i').1 ∧
      Twin A keys own own' asked asked' (s.start i).2 (s'.start i').2 := by
  have hstart : (s.store i).start s.files = (s'.store i').start s'.files := by
    unfold Store.start
    rw [h.load_eq hi, h.stores i i' hi]
  unfold Server.start Server.startFrom
  rw [← hstart]
  cases hresult : (s.store i).start s.files with
  | error f => exact ⟨rfl, h⟩
  | ok result => exact ⟨rfl, h.setStores hi (Store.settings_start hresult)⟩

/-- A session does not notice that a store of another one is started. -/
theorem Twin.start_left (h : Twin A keys own own' asked asked' s s') (hB : B ≠ A)
    (hi : own[i]? = some B) : Twin A keys own own' asked asked' (s.start i).2 s' := by
  unfold Server.start Server.startFrom
  cases hresult : (s.store i).start s.files with
  | error f => exact h
  | ok result => exact h.setStore_left hB hi (Store.settings_start hresult)

/-- The session is opened. -/
theorem Twin.openSession (h : Twin A keys own own' asked asked' s s') (hkey : A ∈ keys) :
    ∃ own₁ own₁', own <+: own₁ ∧ own' <+: own₁' ∧
      Twin A keys own₁ own₁' asked asked' (s.openSession A).2 (s'.openSession A).2 ∧
      ((∃ f, (s.openSession A).1 = .error f ∧ (s'.openSession A).1 = .error f) ∨
        ∃ o o', (s.openSession A).1 = .ok o ∧ (s'.openSession A).1 = .ok o' ∧
          Mates A own₁ own₁' o.store o'.store ∧ o.created = o'.created) := by
  obtain ⟨own₁, own₁', hown, hown', htwin, hmates, hcreated, -⟩ := h.lookup hkey
  refine ⟨own₁, own₁', hown, hown', ?_⟩
  unfold Server.openSession Server.finishOpening
  dsimp only
  rw [← hcreated]
  generalize (s.lookup A).1 = o at hmates hcreated ⊢
  generalize (s'.lookup A).1 = o' at hmates hcreated ⊢
  generalize (s.lookup A).2 = t at htwin ⊢
  generalize (s'.lookup A).2 = t' at htwin ⊢
  by_cases hc : o.created = true
  · rw [if_pos hc, if_pos hc]
    obtain ⟨hresult, hstart⟩ := htwin.start hmates
    unfold Server.start at hresult hstart
    generalize t.startFrom t.files o.store = r at hresult hstart ⊢
    generalize t'.startFrom t'.files o'.store = r' at hresult hstart ⊢
    obtain ⟨result, u⟩ := r
    obtain ⟨result', u'⟩ := r'
    dsimp only at hresult
    subst hresult
    cases result with
    | error f => exact ⟨hstart, Or.inl ⟨f, rfl, rfl⟩⟩
    | ok loaded => exact ⟨hstart, Or.inr ⟨o, o', rfl, rfl, hmates, hcreated⟩⟩
  · rw [if_neg hc, if_neg hc]
    exact ⟨htwin, Or.inr ⟨o, o', rfl, rfl, hmates, hcreated⟩⟩

/-- Another session is opened. -/
theorem Twin.openSession_left (h : Twin A keys own own' asked asked' s s') (hB : B ≠ A)
    (hkey : B ∈ keys) :
    ∃ own₁, own <+: own₁ ∧ Twin A keys own₁ own' asked asked' (s.openSession B).2 s' ∧
      ∀ o, (s.openSession B).1 = .ok o → own₁[o.store]? = some B := by
  obtain ⟨own₁, hown, htwin, hstore, -⟩ := h.lookup_left hB hkey
  refine ⟨own₁, hown, ?_, fun o ho => ?_⟩
  · rw [openSession_snd]
    split
    · exact htwin.start_left hB hstore
    · exact htwin
  · unfold Server.openSession Server.finishOpening at ho
    dsimp only at ho
    split at ho
    · split at ho
      · cases ho
        exact hstore
      · cases ho
    · cases ho
      exact hstore

/-! ## Sessions that are dropped -/

/-- The session is removed from both servers, with the same answer. -/
theorem Twin.removeSession (h : Twin A keys own own' asked asked' s s') :
    (s.removeSession A).1 = (s'.removeSession A).1 ∧
      Twin A keys own own' asked asked' (s.removeSession A).2 (s'.removeSession A).2 := by
  refine ⟨?_, ?_⟩
  · exact rel_isSome h.session
  · refine h.setPools (h.owned.within (s.pool.within_drop A) (h.owned.keyed.drop A))
      (h.owned'.within (s'.pool.within_drop A) (h.owned'.keyed.drop A)) rfl rfl ?_
    rw [SessionPool.find?_drop, if_pos rfl, SessionPool.find?_drop, if_pos rfl]
    exact .none

/-- A session does not notice that another one is removed. -/
theorem Twin.removeSession_left (h : Twin A keys own own' asked asked' s s') (hB : B ≠ A) :
    Twin A keys own own' asked asked' (s.removeSession B).2 s' := by
  refine h.setPools (h.owned.within (s.pool.within_drop B) (h.owned.keyed.drop B)) h.owned' rfl
    rfl ?_
  rw [SessionPool.find?_drop, if_neg hB.symm]
  exact h.session

/-- Sessions that idled for too long are dropped in both servers. -/
theorem Twin.expireSessions (h : Twin A keys own own' asked asked' s s') :
    Twin A keys own own' asked asked' s.expireSessions.2 s'.expireSessions.2 := by
  refine h.setPools (h.owned.within (s.pool.within_expire s.now) (h.owned.keyed.keep _))
    (h.owned'.within (s'.pool.within_expire s'.now) (h.owned'.keyed.keep _)) rfl rfl ?_
  show Option.Rel _ ((s.pool.keep _).find? A) ((s'.pool.keep _).find? A)
  rw [SessionPool.find?_keep, SessionPool.find?_keep]
  rcases rel_cases h.session with ⟨hx, hx'⟩ | ⟨x, x', hx, hx', hidle, hmates⟩
  · rw [hx, hx']
    exact .none
  · have hexpired : s.pool.isExpired s.now x = s'.pool.isExpired s'.now x' := by
      unfold SessionPool.isExpired
      rw [hidle, h.now, h.settings]
    rw [hx, hx', Option.filter_some, Option.filter_some, hexpired]
    split
    · exact .some ⟨hidle, hmates⟩
    · exact .none

/-! ## Retention -/

/-- Trims the finished tasks of one session. -/
def trimSession (limits : RetentionLimits) (s : Server) (key : SessionKey) : Server :=
  match s.existing? key with
  | none => s
  | some opened => (s.onStore opened.store fun store => store.trimTasks key limits).2

/-- Trimming some sessions is trimming one after the other. -/
theorem trimSessions_snd (limits : RetentionLimits) (sessions : List SessionKey) (s : Server) :
    (s.trimSessions limits sessions).2 = sessions.foldl (trimSession limits) s := by
  induction sessions generalizing s with
  | nil => rfl
  | cons key rest ih =>
    rw [List.foldl_cons, ← ih, trimSessions, trimSession]
    cases s.existing? key with
    | none => rfl
    | some opened =>
      dsimp only
      split <;> rfl

/-- A session does not notice that another one is trimmed. -/
theorem Twin.trimSession_left (h : Twin A keys own own' asked asked' s s') (hB : B ≠ A)
    (limits : RetentionLimits) :
    Twin A keys own own' asked asked' (s.trimSession limits B) s' := by
  unfold Server.trimSession Server.existing?
  cases hx : s.pool.find? B with
  | none => exact h
  | some x =>
    exact h.onStore_left hB (h.owned.live B x hx).2 fun store => store.settings_trimTasks B limits

/-- The session is trimmed in both servers alike. -/
theorem Twin.trimSession (h : Twin A keys own own' asked asked' s s')
    (limits : RetentionLimits) :
    Twin A keys own own' asked asked' (s.trimSession limits A) (s'.trimSession limits A) := by
  unfold Server.trimSession Server.existing?
  rcases rel_cases h.session with ⟨hx, hx'⟩ | ⟨x, x', hx, hx', -, hmates⟩
  · rw [hx, hx']
    exact h
  · rw [hx, hx']
    exact (h.onStore hmates fun store => store.settings_trimTasks A limits).2

/-- Sessions are trimmed in both servers. -/
theorem Twin.trimSessions (h : Twin A keys own own' asked asked' s s')
    (limits : RetentionLimits) {sessions sessions' : List SessionKey}
    (hsessions : sessions.filter (fun k => decide (k = A)) =
      sessions'.filter fun k => decide (k = A)) :
    Twin A keys own own' asked asked' (s.trimSessions limits sessions).2
      (s'.trimSessions limits sessions').2 := by
  rw [trimSessions_snd, trimSessions_snd]
  refine unwind (T := Twin A keys own own' asked asked') ?_ ?_ ?_ hsessions h
  · intro s s' B _ hB h
    exact h.trimSession_left (of_decide_eq_false hB) limits
  · intro s s' B _ hB h
    exact (h.symm.trimSession_left (of_decide_eq_false hB) limits).symm
  · intro s s' B _ hB h
    rw [of_decide_eq_true hB]
    exact h.trimSession limits

/-- Only the options and the timer of a sweeper matter. -/
theorem Twin.setSweepers (h : Twin A keys own own' asked asked' s s') {w w' : Sweeper}
    (hoptions : w.options = w'.options) (htimer : w.timer = w'.timer) :
    Twin A keys own own' asked asked' { s with sweeper := w } { s' with sweeper := w' } :=
  { h with
    owned := h.owned.of_eq rfl rfl rfl
    owned' := h.owned'.of_eq rfl rfl rfl
    options := hoptions
    timer := htimer }

/-- **A cycle of retention in both servers.** -/
theorem Twin.sweep (h : Twin A keys own own' asked asked' s s') :
    Twin A keys own own' asked asked' s.sweep.2 s'.sweep.2 := by
  have hexpire := h.expireSessions
  -- other sessions are trimmed in between, so only the place of this one among them is compared
  have hkeys : s.expireSessions.2.pool.keys.filter (fun k => decide (k = A)) =
      s'.expireSessions.2.pool.keys.filter fun k => decide (k = A) := by
    rw [hexpire.owned.keyed.filter_keys, hexpire.owned'.keyed.filter_keys]
    rw [rel_isSome hexpire.session]
  have htrim := hexpire.trimSessions s.expireSessions.2.sweeper.options.limits hkeys
  unfold Server.sweep
  dsimp only
  rw [← hexpire.options]
  exact htrim.setSweepers htrim.options htrim.timer

/-- The timer of both sweepers is set alike. -/
theorem Twin.withTimer (h : Twin A keys own own' asked asked' s s') (timer : Option SweepTimer) :
    Twin A keys own own' asked asked' (s.withTimer timer) (s'.withTimer timer) :=
  h.setSweepers h.options rfl

/-- The timer of both sweepers is started alike. -/
theorem Twin.startTimer (h : Twin A keys own own' asked asked' s s') :
    Twin A keys own own' asked asked' s.startTimer.2 s'.startTimer.2 := by
  unfold Server.startTimer
  rw [← h.timer]
  cases s.sweeper.timer with
  | some timer => exact h
  | none =>
    dsimp only
    rw [← h.options, ← h.now]
    exact h.withTimer _

/-- The timer of retention goes off in both servers. -/
theorem Twin.tick (h : Twin A keys own own' asked asked' s s') :
    Twin A keys own own' asked asked' s.tick s'.tick := by
  unfold Server.tick
  rw [← h.timer]
  cases s.sweeper.timer with
  | none => exact h
  | some timer => exact (h.withTimer _).sweep

/-- The options of both sweepers are changed alike. -/
theorem Twin.updateOptions (h : Twin A keys own own' asked asked' s s')
    (u : RetentionOptionsUpdate) :
    Twin A keys own own' asked asked' (s.updateOptions u).2 (s'.updateOptions u).2 := by
  refine h.setSweepers ?_ h.timer
  show u.apply s.sweeper.options = u.apply s'.sweeper.options
  rw [h.options]

/-! ## Tasks -/

/-- A write for a task of the session has the same result in both servers. -/
theorem Twin.writeUpdate (h : Twin A keys own own' asked asked' s s') {key : TaskKey}
    (hA : key.session = A) (hkey : A ∈ keys) (u : TaskUpdate) :
    (s.writeUpdate key u).1 = (s'.writeUpdate key u).1 ∧
      TwinFrom A keys own own' asked asked' (s.writeUpdate key u).2 (s'.writeUpdate key u).2 := by
  obtain ⟨own₁, own₁', hown, hown', htwin, hmates, -, ho, ho'⟩ := h.lookup hkey
  unfold Server.writeUpdate
  dsimp only
  rw [hA, ho, ho', ← htwin.clock]
  obtain ⟨hresult, hafter⟩ := htwin.onStore hmates fun store => store.settings_modifyTask A key.task
    fun task => u.apply task (s.lookup A).2.clock
  exact ⟨hresult, own₁, own₁', hown, hown', hafter⟩

/-- A write for a task of another session. -/
theorem Twin.writeUpdate_left (h : Twin A keys own own' asked asked' s s') {key : TaskKey}
    (hB : key.session ≠ A) (hkey : key.session ∈ keys) (u : TaskUpdate) :
    TwinFrom A keys own own' asked asked' (s.writeUpdate key u).2 s' := by
  obtain ⟨own₁, hown, htwin, hstore, -⟩ := h.lookup_left hB hkey
  refine ⟨own₁, own', hown, List.prefix_refl own', ?_⟩
  exact htwin.onStore_left hB hstore fun store => store.settings_modifyTask _ key.task _

end Server

end SessionTasks
