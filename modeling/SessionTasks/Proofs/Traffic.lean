/-
# Sessions that are being opened

A session that is opened is looked up, and if it is made just then its file is read and its store
loaded.  Between these parts anything may happen: the session is live from the lookup on, so that
others who open it are handed its store as it is, and a caller may stop waiting.

* `Traffic` : a schedule of runs together with the calls that open sessions;
* `Traffic.handsOut_of_answer` : how a session is handed out;
* `Traffic.exists_play` : such calls bring a server nowhere that moves do not bring it;
* `Traffic.finish_of_play_read` : if nothing comes between its parts, an opening is one step.
-/
import SessionTasks.Proofs.Schedule.Loading
namespace SessionTasks

/-! ## Calls that open sessions -/

/-- Where a call is that made the session that it opens. -/
inductive OpeningStage where
  /-- The file of the session is to be read. -/
  | made
  /-- The file was read, when the files were these. -/
  | read (files : FileTree)
  /-- The call has returned, or was dropped. -/
  | over

/-- A call that made the session that it opens. -/
structure Opening where
  /-- What its lookup led to. -/
  session : Opened
  /-- Where the call is. -/
  stage : OpeningStage := .made

/-- What such a call may do next. -/
inductive OpeningStep where
  /-- The file of the session is read. -/
  | read
  /-- The store is loaded with what was read, and the call returns. -/
  | finish
  /-- The call is dropped where it waits. -/
  | drop

namespace Opening

/-- The step of a call.  A step that cannot be taken changes nothing. -/
def step (w : Opening) (s : Server) : OpeningStep → Server × Opening
  | .read =>
    match w.stage with
    | .made => (s, { w with stage := .read s.files })
    | .read _ | .over => (s, w)
  | .finish =>
    match w.stage with
    | .read files => ((s.finishOpening files w.session).2, { w with stage := .over })
    | .made | .over => (s, w)
  | .drop => (s, { w with stage := .over })

/-- The answer of a call, if it returns in this step. -/
def answer? (w : Opening) (s : Server) : OpeningStep → Option (Except Failure Opened)
  | .finish =>
    match w.stage with
    | .read files => some (s.finishOpening files w.session).1
    | .made | .over => none
  | .read | .drop => none

/-- A call opens the session that it has made. -/
theorem session_step (w : Opening) (s : Server) (a : OpeningStep) :
    (w.step s a).2.session = w.session := by
  obtain ⟨opened, stage⟩ := w
  cases a <;> cases stage <;> rfl

/-- No session is made or dropped once it was looked up. -/
theorem pool_step (w : Opening) (s : Server) (a : OpeningStep) : (w.step s a).1.pool = s.pool := by
  obtain ⟨opened, stage⟩ := w
  cases a with
  | finish =>
    cases stage with
    | read files =>
      show (s.finishOpening files opened).2.pool = s.pool
      rw [Server.finishOpening_snd]
      split
      · exact s.startFrom_pool files opened.store
      · rfl
    | _ => rfl
  | read => cases stage <;> rfl
  | drop => rfl

end Opening

/-- Loading from files that were read before is loading from the files, while they are as they were
then. -/
theorem Server.startFrom_snd (s : Server) (files : FileTree) (id : StoreId) :
    (s.startFrom files id).2 = { (Server.start { s with files } id).2 with files := s.files } := by
  unfold start startFrom
  dsimp only [store]
  cases (s.stores[id]?.getD {}).start files <;> rfl

/-- What a call does to the server moves could do: they put the files back as they were when they
were read. -/
theorem Opening.exists_play_step (w : Opening) (s : Schedule) (a : OpeningStep) :
    ∃ moves, { s with server := (w.step s.server a).1 } = s.play moves := by
  have hstay : ∃ moves, s = s.play moves := ⟨[], rfl⟩
  obtain ⟨opened, stage⟩ := w
  cases a with
  | finish =>
    cases stage with
    | read files =>
      show ∃ moves, { s with server := (s.server.finishOpening files opened).2 } = s.play moves
      rw [Server.finishOpening_snd]
      split
      · rw [Server.startFrom_snd]
        exact ⟨[.operate (.changeFiles files), .operate (.useStore opened.store .start),
          .operate (.changeFiles s.server.files)], rfl⟩
      · exact hstay
    | _ => exact hstay
  | read => cases stage <;> exact hstay
  | drop => exact hstay

/-! ## Traffic -/

/-- A schedule of runs, and every call that made the session that it opens, by their numbers. -/
structure Traffic where
  /-- The server and the runs. -/
  schedule : Schedule
  /-- The calls. -/
  openings : List Opening := []

namespace Traffic

/-- What happens next. -/
inductive Event where
  /-- A move; if it opens a session, nothing comes between the lookup and the end. -/
  | move (m : Move)
  /-- A caller opens a session: it is looked up. -/
  | openSession (raw : String)
  /-- A call that opens a session goes on. -/
  | step (n : Nat) (a : OpeningStep)

/-- The server. -/
abbrev server (t : Traffic) : Server := t.schedule.server

/-- A server of which nothing was asked yet. -/
def ofServer (server : Server) : Traffic := { schedule := .ofServer server }

/-- The traffic after an event.  A call that finds its session live returns at once. -/
def next (t : Traffic) : Event → Traffic
  | .move m => { t with schedule := t.schedule.move m }
  | .openSession raw =>
    let o := (t.server.lookup (.sanitize raw)).1
    { schedule := t.schedule.move (.operate (.lookup raw))
      openings := t.openings ++ if o.created then [{ session := o }] else [] }
  | .step n a =>
    match t.openings[n]? with
    | some w =>
      { schedule := { t.schedule with server := (w.step t.server a).1 }
        openings := t.openings.set n (w.step t.server a).2 }
    | none => t

/-- The answer of a call that opens a session, if it returns in this event. -/
def answer? (t : Traffic) : Event → Option (Except Failure Opened)
  | .move (.operate (.openSession raw)) => some (t.server.openSession (.sanitize raw)).1
  | .move _ => none
  | .openSession raw =>
    let o := (t.server.lookup (.sanitize raw)).1
    if o.created then none else some (.ok o)
  | .step n a => t.openings[n]?.bind fun w => w.answer? t.server a

/-- The traffic after some events. -/
def play (t : Traffic) (events : List Event) : Traffic := events.foldl next t

/-- At one of the events `P` was the case, of the traffic before the event and of the event. -/
def Happens (P : Traffic → Event → Prop) (t : Traffic) (events : List Event) : Prop :=
  ∃ before e after, events = before ++ e :: after ∧ P (t.play before) e

variable {t : Traffic} {e : Event} {o : Opened} {P : Traffic → Event → Prop} {events : List Event}

theorem play_concat (t : Traffic) (events : List Event) (e : Event) :
    t.play (events ++ [e]) = (t.play events).next e :=
  List.foldl_append

/-- What happened has happened later too. -/
theorem Happens.concat (h : t.Happens P events) (e : Event) : t.Happens P (events ++ [e]) := by
  obtain ⟨before, d, after, rfl, hd⟩ := h
  exact ⟨before, d, after ++ [e], by rw [List.append_assoc, List.cons_append], hd⟩

theorem happens_concat_self (h : P (t.play events) e) : t.Happens P (events ++ [e]) :=
  ⟨events, e, [], rfl, h⟩

/-- Something happens at the first event or after it. -/
theorem happens_cons_iff :
    t.Happens P (e :: events) ↔ P t e ∨ (t.next e).Happens P events := by
  constructor
  · rintro ⟨before, d, after, heq, hd⟩
    rcases List.cons_eq_append_iff.1 heq with ⟨rfl, hrest⟩ | ⟨rest, rfl, rfl⟩
    · cases hrest
      exact Or.inl hd
    · exact Or.inr ⟨rest, d, after, rfl, hd⟩
  · rintro (he | ⟨before, d, after, rfl, hd⟩)
    · exact ⟨[], e, events, rfl, he⟩
    · exact ⟨e :: before, d, after, rfl, hd⟩

theorem not_happens_nil : ¬ t.Happens P [] := by
  rintro ⟨before, d, after, heq, -⟩
  exact absurd heq.symm (List.append_ne_nil_of_right_ne_nil before (List.cons_ne_nil d after))

/-- **How a session is handed out.**  It is opened and nothing comes between, or it is live when it
is looked up, or its store is loaded with what was read of its file. -/
inductive HandsOut (t : Traffic) : Event → Opened → Prop
  /-- Nothing comes between the lookup and the end. -/
  | atOnce {raw : String} {o : Opened} (h : (t.server.openSession (.sanitize raw)).1 = .ok o) :
      HandsOut t (.move (.operate (.openSession raw))) o
  /-- The session is live. -/
  | live {raw : String} (h : (t.server.lookup (.sanitize raw)).1.created = false) :
      HandsOut t (.openSession raw) (t.server.lookup (.sanitize raw)).1
  /-- The call that made the session returns. -/
  | loaded {n : Nat} {opened o : Opened} {files : FileTree}
      (hopening : t.openings[n]? = some ⟨opened, .read files⟩)
      (h : (t.server.finishOpening files opened).1 = .ok o) : HandsOut t (.step n .finish) o

/-- **Inversion.**  There is no other way. -/
theorem handsOut_of_answer (h : t.answer? e = some (.ok o)) : t.HandsOut e o := by
  cases e with
  | move m =>
    cases m with
    | operate operation =>
      cases operation with
      | openSession raw => exact .atOnce (Option.some.inj h)
      | _ => cases h
    | _ => cases h
  | openSession raw =>
    dsimp only [answer?] at h
    split at h
    · cases h
    · rename_i hcreated
      cases h
      exact .live (Bool.eq_false_iff.2 hcreated)
  | step n a =>
    obtain ⟨⟨opened, stage⟩, hopening, hanswer⟩ := Option.bind_eq_some_iff.1 h
    cases a with
    | finish =>
      cases stage with
      | read files => exact .loaded hopening (Option.some.inj hanswer)
      | _ => cases hanswer
    | _ => cases hanswer

/-! ## Traffic as a schedule -/

/-- What one event does to the server and the runs moves could do. -/
theorem exists_play_next (t : Traffic) (e : Event) :
    ∃ moves, (t.next e).schedule = t.schedule.play moves := by
  cases e with
  | move m => exact ⟨[m], rfl⟩
  | openSession raw => exact ⟨[.operate (.lookup raw)], rfl⟩
  | step n a =>
    dsimp only [next]
    split
    · rename_i w hw
      exact w.exists_play_step t.schedule a
    · exact ⟨[], rfl⟩

/-- **Calls that open sessions bring a server nowhere that moves do not bring it.** -/
theorem exists_play (t : Traffic) (events : List Event) :
    ∃ moves, (t.play events).schedule = t.schedule.play moves := by
  induction events using List.reverseRecOn with
  | nil => exact ⟨[], rfl⟩
  | append_singleton events e ih =>
    obtain ⟨moves, hmoves⟩ := ih
    obtain ⟨more, hmore⟩ := (t.play events).exists_play_next e
    refine ⟨moves ++ more, ?_⟩
    rw [play_concat, hmore, hmoves, Schedule.play_append]

/-- Only stores are added and sessions made, and none is given another store. -/
theorem extends_play (t : Traffic) (events : List Event) :
    t.server.Extends (t.play events).server := by
  obtain ⟨moves, hmoves⟩ := t.exists_play events
  show t.schedule.server.Extends (t.play events).schedule.server
  rw [hmoves]
  exact t.schedule.extends_play moves

/-! ## Undisturbed calls -/

/-- A call that finds its session live returns at once. -/
theorem answer_of_live {raw : String} (h : (t.server.lookup (.sanitize raw)).1 = o)
    (ho : o.created = false) : t.answer? (.openSession raw) = some (.ok o) := by
  dsimp only [answer?]
  rw [h, ho, if_neg Bool.false_ne_true]

/-- A call that makes its session, until its file is read. -/
theorem play_read {raw : String} (hmade : (t.server.lookup (.sanitize raw)).1.created = true) :
    t.play [.openSession raw, .step t.openings.length .read] =
      { schedule := t.schedule.move (.operate (.lookup raw))
        openings := t.openings ++
          [⟨(t.server.lookup (.sanitize raw)).1, .read t.server.files⟩] } := by
  have hbegun : t.next (.openSession raw) =
      { schedule := t.schedule.move (.operate (.lookup raw))
        openings := t.openings ++ [{ session := (t.server.lookup (.sanitize raw)).1 }] } := by
    dsimp only [next]
    rw [if_pos hmade]
  show (t.next (.openSession raw)).next (.step t.openings.length .read) = _
  rw [hbegun]
  dsimp only [next, Opening.step]
  rw [List.getElem?_concat_length]
  dsimp only
  rw [List.set_append_right _ _ le_rfl, Nat.sub_self]
  show Traffic.mk _ (t.openings ++ [⟨_, .read (t.server.lookup (.sanitize raw)).2.files⟩]) = _
  rw [Server.lookup_files]

/-- **If nothing comes between** the parts of an opening, they are one step. -/
theorem finish_of_play_read {raw : String}
    (hmade : (t.server.lookup (.sanitize raw)).1.created = true) :
    (t.play [.openSession raw, .step t.openings.length .read]).answer?
        (.step t.openings.length .finish) = some (t.server.openSession (.sanitize raw)).1 ∧
      ((t.play [.openSession raw, .step t.openings.length .read]).next
        (.step t.openings.length .finish)).server = (t.server.openSession (.sanitize raw)).2 := by
  have hfiles := t.server.lookup_files (.sanitize raw)
  rw [play_read hmade]
  unfold Server.openSession
  dsimp only [answer?, next]
  rw [List.getElem?_concat_length, hfiles]
  exact ⟨rfl, rfl⟩

end Traffic

end SessionTasks
