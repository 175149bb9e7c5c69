/-
# How the session of a request is found

* `Sha256.length_hexDigest` : a digest has sixty-four digits, so the key of an address has sixteen;
* `ResolverSettings.Chooses` : the session that some settings choose, by the first place that says
  something;
* `Resolver.resolve_eq_iff` : this is the session that is found;
* `Resolver.resolve_congr` : a place below the one that decides does not count, nor one that says
  nothing;
* `Resolver.get?_mappings_after` : the addresses that are noted;
* `ResolverSettings.finds_sessions` : all of this, for every sequence of calls.
-/
import SessionTasks.Proofs.KeyMap
import SessionTasks.Proofs.Request
namespace SessionTasks

/-! ## Digests -/

namespace Text

/-- A number is written with as many digits as are asked for. -/
theorem length_hex (width n : Nat) : (hex width n).length = width := by
  induction width generalizing n with
  | zero => rfl
  | succ width ih => rw [hex, List.length_append, ih, List.length_singleton]

/-- The digits of numbers below sixteen. -/
def hexDigits : List Char := "0123456789abcdef".toList

/-- A number is written with hexadecimal digits. -/
theorem mem_hexDigits_of_mem_hex {width n : Nat} {c : Char} (h : c ∈ hex width n) :
    c ∈ hexDigits := by
  induction width generalizing n with
  | zero => cases h
  | succ width ih =>
    rw [hex, List.mem_append, List.mem_singleton] at h
    rcases h with h | rfl
    · exact ih h
    · have hall : ∀ d < 16, Nat.digitChar d ∈ hexDigits := by decide
      exact hall (n % 16) (Nat.mod_lt n (by decide))

end Text

namespace Sha256

/-- A round keeps the eight words of the state. -/
theorem length_round {state : List UInt32} (h : state.length = 8) (input : UInt32 × UInt32) :
    (round state input).length = 8 := by
  unfold round
  split
  · rfl
  · exact h

theorem length_mix {state : List UInt32} (h : state.length = 8) (block : List UInt32) :
    (mix state block).length = 8 := by
  have hrounds : ∀ (inputs : List (UInt32 × UInt32)) (state : List UInt32), state.length = 8 →
      (inputs.foldl round state).length = 8 := by
    intro inputs
    induction inputs with
    | nil => exact fun _ h => h
    | cons input rest ih => exact fun state h => ih _ (length_round h input)
  unfold mix
  rw [List.length_zipWith, h, hrounds _ _ h, min_self]

theorem length_mixBlocks (n : Nat) {state : List UInt32} (h : state.length = 8)
    (words : List UInt32) : (mixBlocks n state words).length = 8 := by
  induction n generalizing state words with
  | zero => exact h
  | succ n ih => exact ih (length_mix h _) _

/-- **A digest has sixty-four digits.** -/
theorem length_hexDigest (message : List UInt8) : (hexDigest message).length = 64 := by
  have hwords : (digest message).length = 8 := length_mixBlocks _ rfl _
  unfold hexDigest
  rw [List.length_flatMap]
  simp only [Text.length_hex, List.map_const', List.sum_replicate, hwords]
  rfl

/-- A digest is written with hexadecimal digits. -/
theorem mem_hexDigits_of_mem_hexDigest {message : List UInt8} {c : Char}
    (h : c ∈ hexDigest message) : c ∈ Text.hexDigits := by
  obtain ⟨word, -, hc⟩ := List.mem_flatMap.1 h
  exact Text.mem_hexDigits_of_mem_hex hc

end Sha256

/-! ## The choice -/

/-- What a session is called after that is named at a place. -/
def Place.source : Place → SessionSource
  | .user => .user
  | .header => .header
  | .query => .query
  | .cookie => .cookie
  | _ => .clientIp

namespace ResolverSettings

/-- Nothing is said at a place where a request may name its session. -/
def Unnamed (s : ResolverSettings) (facts : List RequestFact) : Prop :=
  ∀ p ∈ Place.naming, s.taken facts p = none

/-- **The session that some settings choose** for a request, and the address that is noted. -/
inductive Chooses (s : ResolverSettings) (facts : List RequestFact) :
    Resolved → Option String → Prop
  /-- All requests have one session. -/
  | shared (hshared : s.isolation = false) : Chooses s facts ⟨s.defaultSession, .default⟩ none
  /-- The first place that names a session does it, word for word. -/
  | named {p : Place} {text : String} (hown : s.isolation = true)
      (hfirst : s.FirstOf facts Place.naming p text) : Chooses s facts ⟨text, p.source⟩ none
  /-- A request that names none has the session of its address. -/
  | address {ip : String} (hown : s.isolation = true) (hunnamed : s.Unnamed facts)
      (hmap : s.mapByIp = true) (hip : s.IsClient facts ip) :
      Chooses s facts ⟨s.ipKey ip, .clientIp⟩ (some ip)
  /-- Or the default session, if addresses have none. -/
  | unnamed (hown : s.isolation = true) (hunnamed : s.Unnamed facts) (hmap : s.mapByIp = false) :
      Chooses s facts ⟨s.defaultSession, .default⟩ none

variable {s : ResolverSettings} {facts other : List RequestFact} {places : List Place} {p : Place}
  {text ip : String}

/-- There is one first place at most. -/
theorem FirstOf.findSome?_eq (h : s.FirstOf facts places p text) :
    places.findSome? (s.taken facts) = some text := by
  obtain ⟨before, after, hplaces, htaken, hbefore⟩ := h
  exact List.findSome?_eq_some_iff.2 ⟨before, p, after, hplaces, htaken, hbefore⟩

/-- A caller has one address. -/
theorem isClient_iff : s.IsClient facts ip ↔ ip = (Request.ofFacts facts).clientIp := by
  constructor
  · intro h
    rw [clientIp_ofFacts s]
    cases h with
    | found h => rw [h.findSome?_eq, Option.getD_some]
    | unknown h => rw [List.findSome?_eq_none_iff.2 h, Option.getD_none]
  · rintro rfl
    exact isClient_clientIp s facts

/-- **The key of an address** is made of the first sixteen digits of its digest. -/
theorem ipKey_eq (s : ResolverSettings) (ip : String) : ∃ digits : List Char,
    s.ipKey ip = s.ipPrefix ++ String.ofList digits ∧ digits.length = 16 ∧
      digits <+: Sha256.hexDigest ip.toUTF8.toList ∧ ∀ c ∈ digits, c ∈ Text.hexDigits := by
  refine ⟨_, rfl, ?_, List.take_prefix 16 _, fun c hc => ?_⟩
  · rw [List.length_take, Sha256.length_hexDigest]
    rfl
  · exact Sha256.mem_hexDigits_of_mem_hexDigest (List.mem_of_mem_take hc)

/-- What is named, place by place. -/
theorem named?_ofFacts (s : ResolverSettings) (facts : List RequestFact) :
    s.named? (Request.ofFacts facts) =
      Place.naming.findSome? fun p => (s.taken facts p).map fun text => ⟨text, p.source⟩ := by
  have huser : (if s.fullAuth then (Request.ofFacts facts).user.bind Text.nonBlank? else none) =
      s.taken facts .user := by
    have hpick : s.pick .user = fun fact => if s.fullAuth then fact.user? else none := rfl
    rw [taken, hpick, Request.user_ofFacts]
    cases s.fullAuth with
    | true => rfl
    | false =>
      have hsaid : said (fun _ => none) facts = none :=
        List.findSome?_eq_none_iff.2 fun _ _ => rfl
      simp only [Bool.false_eq_true, ↓reduceIte, hsaid, Option.bind_none]
  have hheader : (Request.ofFacts facts).header? s.header = s.taken facts .header :=
    header?_ofFacts facts s.header
  have hquery : ((Request.ofFacts facts).query.get? s.query).bind Text.nonBlank? =
      s.taken facts .query := by
    rw [Request.query_ofFacts]
    rfl
  have hcookie : ((Request.ofFacts facts).cookies.get? s.cookie).bind Text.nonBlank? =
      s.taken facts .cookie := by
    rw [Request.cookies_ofFacts]
    rfl
  unfold named? Place.naming
  rw [huser, hheader, hquery, hcookie]
  simp only [List.findSome?_cons, List.findSome?_nil]
  cases s.taken facts .user <;> cases s.taken facts .header <;>
    cases s.taken facts .query <;> cases s.taken facts .cookie <;> rfl

/-- No session is named when no place names one. -/
theorem named?_eq_none_iff : s.named? (Request.ofFacts facts) = none ↔ s.Unnamed facts := by
  rw [named?_ofFacts, List.findSome?_eq_none_iff]
  simp only [Option.map_eq_none_iff]
  rfl

/-- A session is named by the first place that names one. -/
theorem named?_eq_some_iff {found : Resolved} :
    s.named? (Request.ofFacts facts) = some found ↔
      ∃ p text, found = ⟨text, p.source⟩ ∧ s.FirstOf facts Place.naming p text := by
  rw [named?_ofFacts, List.findSome?_eq_some_iff]
  simp only [Option.map_eq_some_iff, Option.map_eq_none_iff]
  constructor
  · rintro ⟨before, p, after, hplaces, ⟨text, htaken, hfound⟩, hbefore⟩
    exact ⟨p, text, hfound.symm, before, after, hplaces, htaken, hbefore⟩
  · rintro ⟨p, text, hfound, before, after, hplaces, htaken, hbefore⟩
    exact ⟨before, p, after, hplaces, ⟨text, htaken, hfound.symm⟩, hbefore⟩

end ResolverSettings

/-! ## What is found -/

namespace Resolver

open ResolverSettings

variable {v : Resolver} {facts : List RequestFact} {found : Resolved} {noted : Option String}

/-- The resolver after an address was noted, if one was. -/
def note (v : Resolver) : Option String → Resolver
  | some ip => { v with mappings := v.mappings.insert ip (v.settings.ipKey ip) }
  | none => v

/-- Only the address that is noted is mapped anew. -/
theorem get?_mappings_note (v : Resolver) (noted : Option String) (ip : String) :
    (v.note noted).mappings.get? ip =
      if noted = some ip then some (v.settings.ipKey ip) else v.mappings.get? ip := by
  cases noted with
  | none => rfl
  | some other =>
    rw [note, KeyMap.get?_insert]
    simp only [Option.some_inj]
    split
    · rename_i h
      rw [h]
    · rfl

/-- What the settings choose is found, and the address is noted. -/
theorem resolve_of_chooses (h : v.settings.Chooses facts found noted) :
    v.resolve (Request.ofFacts facts) = (found, v.note noted) := by
  unfold resolve
  cases h with
  | shared hshared =>
    rw [hshared]
    rfl
  | named hown hfirst =>
    rw [hown, named?_eq_some_iff.2 ⟨_, _, rfl, hfirst⟩]
    rfl
  | address hown hunnamed hmap hip =>
    rw [hown, named?_eq_none_iff.2 hunnamed, ← isClient_iff.1 hip, hmap]
    rfl
  | unnamed hown hunnamed hmap =>
    rw [hown, named?_eq_none_iff.2 hunnamed, hmap]
    rfl

end Resolver

namespace ResolverSettings

variable {s : ResolverSettings} {facts : List RequestFact} {found other : Resolved}
  {noted otherNoted : Option String}

/-- Some session is chosen for every request. -/
theorem exists_chooses (s : ResolverSettings) (facts : List RequestFact) :
    ∃ found noted, s.Chooses facts found noted := by
  cases hown : s.isolation with
  | false => exact ⟨_, _, .shared hown⟩
  | true =>
    cases hnamed : s.named? (Request.ofFacts facts) with
    | some found =>
      obtain ⟨p, text, rfl, hfirst⟩ := named?_eq_some_iff.1 hnamed
      exact ⟨_, _, .named hown hfirst⟩
    | none =>
      have hunnamed := named?_eq_none_iff.1 hnamed
      cases hmap : s.mapByIp with
      | false => exact ⟨_, _, .unnamed hown hunnamed hmap⟩
      | true => exact ⟨_, _, .address hown hunnamed hmap (isClient_clientIp s facts)⟩

/-- At most one is, and at most one address is noted. -/
theorem Chooses.unique (h : s.Chooses facts found noted) (h' : s.Chooses facts other otherNoted) :
    found = other ∧ noted = otherNoted := by
  have hresolve := Resolver.resolve_of_chooses (v := { settings := s }) h
  rw [Resolver.resolve_of_chooses (v := { settings := s }) h'] at hresolve
  obtain ⟨hfound, hnote⟩ := Prod.mk.inj hresolve
  refine ⟨hfound.symm, Option.ext fun ip => ?_⟩
  -- an address is noted if a resolver that had none knows it
  have hget := congrArg (fun v => v.mappings.get? ip) hnote
  simp only [Resolver.get?_mappings_note, KeyMap.get?_empty] at hget
  by_cases hip : noted = some ip <;> by_cases hip' : otherNoted = some ip <;> simp_all

end ResolverSettings

namespace Resolver

open ResolverSettings

variable {v : Resolver} {facts : List RequestFact} {found : Resolved}

/-- **The session that is found is the one that the settings choose.** -/
theorem resolve_eq_iff :
    (v.resolve (Request.ofFacts facts)).1 = found ↔
      ∃ noted, v.settings.Chooses facts found noted := by
  constructor
  · rintro rfl
    obtain ⟨found, noted, hchooses⟩ := exists_chooses v.settings facts
    rw [resolve_of_chooses hchooses]
    exact ⟨noted, hchooses⟩
  · rintro ⟨noted, hchooses⟩
    rw [resolve_of_chooses hchooses]

end Resolver

/-! ## What does not count -/

namespace ResolverSettings

variable {s : ResolverSettings} {facts other : List RequestFact} {places : List Place} {p : Place}
  {text ip : String}

/-- The places that count, in their order. -/
def ranking (s : ResolverSettings) : List Place :=
  if s.isolation then Place.naming ++ if s.mapByIp then Place.addresses else [] else []

/-- A place is reached if nothing is taken at a place before it. -/
def Reaches (s : ResolverSettings) (facts : List RequestFact) (places : List Place) (p : Place) :
    Prop :=
  ∃ before after, places = before ++ p :: after ∧ ∀ q ∈ before, s.taken facts q = none

/-- A place where nothing is said, or something blank, counts for nothing. -/
theorem taken_eq_none (h : ∀ text, said (s.pick p) facts = some text →
    Text.isBlankText text = true) : s.taken facts p = none := by
  rw [taken, Option.bind_eq_none_iff]
  intro text hsaid
  have hblank := h text hsaid
  cases hread : p.read text with
  | none => rfl
  | some taken =>
    exfalso
    cases p with
    | forwarded =>
      have hentry := Place.not_blank_of_read hread
      rw [Text.isBlankText_of_mem_entries (List.mem_of_find?_eq_some hread) hentry] at hblank
      cases hblank
    | realIp =>
      obtain ⟨hfalse, -⟩ := Text.nonBlank?_eq_some_iff.1 hread
      rw [Text.isBlankText_trim, hblank] at hfalse
      cases hfalse
    | _ =>
      obtain ⟨hfalse, -⟩ := Text.nonBlank?_eq_some_iff.1 hread
      rw [hblank] at hfalse
      cases hfalse

/-- The first place that counts is the same where the places that are reached say the same. -/
theorem FirstOf.congr (h : s.FirstOf facts places p text)
    (hsame : ∀ q, s.Reaches facts places q → s.taken other q = s.taken facts q) :
    s.FirstOf other places p text := by
  obtain ⟨before, after, hplaces, htaken, hbefore⟩ := h
  refine ⟨before, after, hplaces, ?_, fun q hq => ?_⟩
  · rw [hsame p ⟨before, after, hplaces, hbefore⟩, htaken]
  · obtain ⟨first, second, rfl⟩ := List.append_of_mem hq
    have hreaches : s.Reaches facts places q :=
      ⟨first, second ++ p :: after, by rw [hplaces, List.append_assoc, List.cons_append],
        fun r hr => hbefore r (List.mem_append_left _ hr)⟩
    rw [hsame q hreaches]
    exact hbefore q hq

/-- If nothing is taken anywhere, all places are reached. -/
theorem reaches_of_forall (h : ∀ q ∈ places, s.taken facts q = none) (hp : p ∈ places) :
    s.Reaches facts places p := by
  obtain ⟨before, after, rfl⟩ := List.append_of_mem hp
  exact ⟨before, after, rfl, fun q hq => h q (List.mem_append_left _ hq)⟩

/-- A place that is reached is reached with more places after it. -/
theorem Reaches.append_right {rest : List Place} (h : s.Reaches facts places p) :
    s.Reaches facts (places ++ rest) p := by
  obtain ⟨before, after, rfl, hbefore⟩ := h
  exact ⟨before, after ++ rest, by rw [List.append_assoc, List.cons_append], hbefore⟩

/-- A place is reached behind others at which nothing is said. -/
theorem Reaches.append_left {rest : List Place} (hfirst : ∀ q ∈ rest, s.taken facts q = none)
    (h : s.Reaches facts places p) : s.Reaches facts (rest ++ places) p := by
  obtain ⟨before, after, rfl, hbefore⟩ := h
  refine ⟨rest ++ before, after, (List.append_assoc _ _ _).symm, fun q hq => ?_⟩
  rcases List.mem_append.1 hq with hq | hq
  · exact hfirst q hq
  · exact hbefore q hq

/-- The choice is the same where the same is taken at the places that are reached. -/
theorem Chooses.congr {found : Resolved} {noted : Option String}
    (hsame : ∀ p, s.Reaches facts s.ranking p → s.taken other p = s.taken facts p)
    (h : s.Chooses facts found noted) : s.Chooses other found noted := by
  -- the places that are reached among those for names, or for addresses, are reached among all
  have hnaming : s.isolation = true → ∀ p, s.Reaches facts Place.naming p →
      s.taken other p = s.taken facts p := by
    intro hown p hp
    refine hsame p ?_
    rw [ranking, if_pos hown]
    exact hp.append_right
  have hnone : s.isolation = true → s.Unnamed facts → s.Unnamed other := by
    intro hown hunnamed p hp
    rw [hnaming hown p (reaches_of_forall hunnamed hp)]
    exact hunnamed p hp
  cases h with
  | shared hshared => exact .shared hshared
  | named hown hfirst => exact .named hown (hfirst.congr (hnaming hown))
  | address hown hunnamed hmap hip =>
    have haddresses : ∀ p, s.Reaches facts Place.addresses p →
        s.taken other p = s.taken facts p := by
      intro p hp
      refine hsame p ?_
      rw [ranking, if_pos hown, if_pos hmap]
      exact hp.append_left hunnamed
    refine .address hown (hnone hown hunnamed) hmap ?_
    cases hip with
    | found hfirst => exact .found (hfirst.congr haddresses)
    | unknown hunknown =>
      refine .unknown fun p hp => ?_
      rw [haddresses p (reaches_of_forall hunknown hp)]
      exact hunknown p hp
  | unnamed hown hunnamed hmap => exact .unnamed hown (hnone hown hunnamed) hmap

end ResolverSettings

namespace Resolver

open ResolverSettings

variable {s : ResolverSettings}

/-- **A place below the one that decides does not count**, nor does one where nothing is said. -/
theorem resolve_congr (v : Resolver) {facts other : List RequestFact}
    (hsame : ∀ p, v.settings.Reaches facts v.settings.ranking p →
      v.settings.taken other p = v.settings.taken facts p) :
    v.resolve (Request.ofFacts other) = v.resolve (Request.ofFacts facts) := by
  obtain ⟨found, noted, hchooses⟩ := exists_chooses v.settings facts
  rw [resolve_of_chooses hchooses, resolve_of_chooses (hchooses.congr hsame)]

/-! ## The addresses that are noted -/

/-- A call of a resolver. -/
inductive Call where
  /-- Find the session of a request. -/
  | resolve (facts : List RequestFact)
  /-- Forget the addresses. -/
  | clear

/-- The resolver after a call. -/
def call (v : Resolver) : Call → Resolver
  | .resolve facts => (v.resolve (Request.ofFacts facts)).2
  | .clear => v.clear.2

/-- A new resolver after some calls. -/
def after (s : ResolverSettings) (calls : List Call) : Resolver :=
  calls.foldl call { settings := s }

/-- A request that was resolved by its address, after the addresses were last forgotten. -/
def Notes (s : ResolverSettings) (calls : List Call) (ip : String) : Prop :=
  ∃ before facts rest found, calls = before ++ .resolve facts :: rest ∧ .clear ∉ rest ∧
    s.Chooses facts found (some ip)

theorem after_concat (calls : List Call) (c : Call) :
    after s (calls ++ [c]) = (after s calls).call c := by
  unfold after
  rw [List.foldl_concat]

theorem settings_after (s : ResolverSettings) (calls : List Call) :
    (after s calls).settings = s := by
  induction calls using List.reverseRecOn with
  | nil => rfl
  | append_singleton calls c ih =>
    rw [after_concat]
    cases c with
    | clear => exact ih
    | resolve facts =>
      obtain ⟨found, noted, hchooses⟩ := exists_chooses (after s calls).settings facts
      rw [call, resolve_of_chooses hchooses]
      cases noted <;> exact ih

/-- One more call notes an address when it resolves a request by it, and keeps what was noted
before unless it forgets everything. -/
theorem notes_concat_iff {calls : List Call} {c : Call} {ip : String} :
    Notes s (calls ++ [c]) ip ↔
      (∃ facts found, c = .resolve facts ∧ s.Chooses facts found (some ip)) ∨
        c ≠ .clear ∧ Notes s calls ip := by
  constructor
  · rintro ⟨before, facts, rest, found, hcalls, hclear, hchooses⟩
    rcases List.eq_nil_or_concat' rest with rfl | ⟨rest, last, rfl⟩
    · cases List.append_inj_right' hcalls rfl
      exact .inl ⟨facts, found, rfl, hchooses⟩
    · rw [← List.cons_append, ← List.append_assoc] at hcalls
      obtain ⟨rfl, hc⟩ := List.append_inj' hcalls rfl
      cases hc
      refine .inr ⟨?_, before, facts, rest, found, rfl,
        fun hmem => hclear (List.mem_append_left _ hmem), hchooses⟩
      rintro rfl
      exact hclear List.mem_concat_self
  · rintro (⟨facts, found, rfl, hchooses⟩ | ⟨hc, before, facts, rest, found, rfl, hclear, hchooses⟩)
    · exact ⟨calls, facts, [], found, rfl, List.not_mem_nil, hchooses⟩
    · refine ⟨before, facts, rest ++ [c], found,
        by rw [List.append_assoc, List.cons_append], ?_, hchooses⟩
      rw [List.mem_append, not_or]
      exact ⟨hclear, fun hmem => hc (List.mem_singleton.1 hmem).symm⟩

/-- No address is noted right after they were forgotten. -/
theorem not_notes_clear {calls : List Call} {ip : String} :
    ¬ Notes s (calls ++ [.clear]) ip := by
  rw [notes_concat_iff]
  rintro (⟨facts, found, hc, -⟩ | ⟨hc, -⟩)
  · cases hc
  · exact hc rfl

/-- An address is noted when the last request was resolved by it, or when it was noted before. -/
theorem notes_resolve_iff {calls : List Call} {facts : List RequestFact} {ip : String} :
    Notes s (calls ++ [.resolve facts]) ip ↔
      (∃ found, s.Chooses facts found (some ip)) ∨ Notes s calls ip := by
  simp [notes_concat_iff]

/-- **The addresses that are noted** are those of the requests that were resolved by them, each
with its key. -/
theorem get?_mappings_after (s : ResolverSettings) (calls : List Call) (ip key : String) :
    (after s calls).mappings.get? ip = some key ↔ key = s.ipKey ip ∧ Notes s calls ip := by
  induction calls using List.reverseRecOn with
  | nil =>
    have hnone : ¬ Notes s [] ip := by
      rintro ⟨before, facts, rest, found, hcalls, -⟩
      exact List.append_ne_nil_of_right_ne_nil before (List.cons_ne_nil _ rest) hcalls.symm
    exact iff_of_false (by simp [after]) fun h => hnone h.2
  | append_singleton calls c ih =>
    rw [after_concat]
    cases c with
    | clear => exact iff_of_false (by simp [call, clear]) fun h => not_notes_clear h.2
    | resolve facts =>
      obtain ⟨found, noted, hchooses⟩ := exists_chooses s facts
      have hresolve := resolve_of_chooses (v := after s calls) (by rwa [settings_after])
      rw [call, hresolve, get?_mappings_note, settings_after, notes_resolve_iff]
      by_cases hip : noted = some ip
      · rw [if_pos hip, Option.some_inj, eq_comm]
        exact (and_iff_left (.inl ⟨found, hip ▸ hchooses⟩)).symm
      · rw [if_neg hip, ih, or_iff_right]
        rintro ⟨found', hnoted⟩
        exact hip (hchooses.unique hnoted).2

end Resolver

/-! ## The whole -/

/-- What holds of the resolvers with some settings. -/
structure ResolverSettings.Finding (s : ResolverSettings) : Prop where
  /-- The session that is found is the one that the settings choose, and one is chosen. -/
  chosen : ∀ (calls : List Resolver.Call) (facts : List RequestFact) (found : Resolved),
    ((Resolver.after s calls).resolve (Request.ofFacts facts)).1 = found ↔
      ∃ noted, s.Chooses facts found noted
  /-- The address of a caller is one and never blank. -/
  address : ∀ facts : List RequestFact, ∃ ip, Text.isBlankText ip = false ∧
    ∀ other, s.IsClient facts other ↔ other = ip
  /-- The key of an address is made of the first sixteen digits of its digest. -/
  key : ∀ ip : String, ∃ digits : List Char, s.ipKey ip = s.ipPrefix ++ String.ofList digits ∧
    digits.length = 16 ∧ digits <+: Sha256.hexDigest ip.toUTF8.toList ∧
      ∀ c ∈ digits, c ∈ Text.hexDigits
  /-- Nothing is taken where nothing is said, or something blank. -/
  blank : ∀ (facts : List RequestFact) (p : Place),
    (∀ text, said (s.pick p) facts = some text → Text.isBlankText text = true) →
      s.taken facts p = none
  /-- What is said elsewhere than at the places that are reached does not count. -/
  reached : ∀ (calls : List Resolver.Call) (facts other : List RequestFact),
    (∀ p, s.Reaches facts s.ranking p → s.taken other p = s.taken facts p) →
      (Resolver.after s calls).resolve (Request.ofFacts other) =
        (Resolver.after s calls).resolve (Request.ofFacts facts)
  /-- The addresses are listed in their order, each once. -/
  sorted : ∀ calls : List Resolver.Call,
    (Resolver.after s calls).mappings.entries.Pairwise fun a b => a.1 < b.1
  /-- They are those of the requests that were resolved by them, each with its key. -/
  noted : ∀ (calls : List Resolver.Call) (ip key : String),
    (ip, key) ∈ (Resolver.after s calls).mappings.entries ↔
      key = s.ipKey ip ∧ Resolver.Notes s calls ip

/-- **How sessions are found**, by all settings. -/
theorem ResolverSettings.finds_sessions (s : ResolverSettings) : s.Finding where
  chosen calls facts found := by
    rw [Resolver.resolve_eq_iff, Resolver.settings_after]
  address facts := ⟨(Request.ofFacts facts).clientIp, (isClient_clientIp s facts).not_blank,
    fun _ => isClient_iff⟩
  key := s.ipKey_eq
  blank _ _ h := taken_eq_none h
  reached calls facts other h := by
    refine Resolver.resolve_congr _ ?_
    rwa [Resolver.settings_after]
  sorted calls := (Resolver.after s calls).mappings.sorted
  noted calls ip key := by
    rw [← KeyMap.get?_eq_some_iff]
    exact Resolver.get?_mappings_after s calls ip key

end SessionTasks
