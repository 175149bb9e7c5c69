/-
# What a request says

A request is put together from facts, one after the other, and of the facts about one thing the
last counts.  Headers are told apart without regard to the case of letters, parameters and cookies
by their very names.

* `Text.isBlankText_trim`, `Text.entries_eq` : what is left of a text, and the entries of a
  list;
* `Request.view_ofFacts` : of the facts about one thing the last counts;
* `ResolverSettings.taken` : what some facts say at each place where a session is looked for;
* `ResolverSettings.isClient_clientIp`, `ResolverSettings.IsClient.not_blank` : the address of a
  caller.
-/
import Mathlib
import SessionTasks.Resolver
namespace SessionTasks

/-! ## Blank texts and lists of entries -/

namespace Text

variable {text other : String}

/-- A text is taken as it is, when it is not blank. -/
theorem nonBlank?_eq_some_iff :
    nonBlank? text = some other ↔ isBlankText text = false ∧ text = other := by
  unfold nonBlank?
  cases isBlankText text <;> simp

/-- Nothing is taken from a blank text. -/
theorem nonBlank?_eq_none_iff : nonBlank? text = none ↔ isBlankText text = true := by
  unfold nonBlank?
  cases isBlankText text <;> simp

/-- A text is trimmed at both ends. -/
theorem toList_trim (text : String) :
    (trim text).toList = (text.toList.dropWhile isBlank).rdropWhile isBlank :=
  String.toList_ofList

/-- A character that is no blank is not trimmed away. -/
theorem mem_trim_iff {c : Char} (hc : isBlank c = false) :
    c ∈ (trim text).toList ↔ c ∈ text.toList := by
  have hdrop : ∀ l : List Char, c ∈ l.dropWhile isBlank ↔ c ∈ l := by
    intro l
    induction l with
    | nil => rfl
    | cons d rest ih =>
      by_cases hd : isBlank d = true
      · have hne : c ≠ d := by
          rintro rfl
          rw [hc] at hd
          cases hd
        rw [List.dropWhile_cons_of_pos hd, ih, List.mem_cons]
        exact (or_iff_right hne).symm
      · rw [List.dropWhile_cons_of_neg hd]
  rw [toList_trim, List.rdropWhile, List.mem_reverse, hdrop, List.mem_reverse, hdrop]

/-- A text is not blank when it has a character that is no blank. -/
theorem isBlankText_eq_false_iff :
    isBlankText text = false ↔ ∃ c ∈ text.toList, isBlank c = false := by
  simp [isBlankText]

/-- A text is blank if what is left of it is. -/
theorem isBlankText_trim (text : String) : isBlankText (trim text) = isBlankText text := by
  rw [Bool.eq_iff_iff, ← Bool.not_eq_false, ← Bool.not_eq_false, not_iff_not,
    isBlankText_eq_false_iff, isBlankText_eq_false_iff]
  constructor
  · rintro ⟨c, hmem, hc⟩
    exact ⟨c, (mem_trim_iff hc).1 hmem, hc⟩
  · rintro ⟨c, hmem, hc⟩
    exact ⟨c, (mem_trim_iff hc).2 hmem, hc⟩

/-- Nothing at all is left of a blank text, and of no other. -/
theorem isEmpty_trim (text : String) : (trim text).isEmpty = isBlankText text := by
  rw [← isBlankText_trim, Bool.eq_iff_iff, String.isEmpty_iff, ← String.toList_eq_nil_iff]
  have hagain : (trim text).toList.rdropWhile isBlank = (trim text).toList := by
    rw [toList_trim, List.rdropWhile_idempotent]
  constructor
  · intro h
    simp [isBlankText, h]
  · intro h
    rw [← hagain, List.rdropWhile_eq_nil_iff]
    simpa [isBlankText] using h

/-- What is cut at a character are the pieces between its occurrences. -/
theorem cutAt_eq_splitOn (separator : Char) (text : List Char) :
    cutAt separator text = text.splitOn separator := by
  induction text with
  | nil => rfl
  | cons c rest ih =>
    rw [cutAt, ih, List.splitOn_cons_eq_if_modifyHead]
    by_cases hc : c = separator
    · simp [hc]
    · rw [if_neg hc, if_neg (by simpa using hc)]
      split
      · rename_i hnil
        exact absurd hnil (List.splitOn_ne_nil _ _)
      · rename_i hcons
        rw [hcons, List.modifyHead_cons]

/-- The entries of a list between commas, without the blanks around them. -/
def entries (list : String) : List String :=
  (list.toList.splitOn ',').map fun piece => trim (String.ofList piece)

/-- The entries are the pieces between the commas, trimmed. -/
theorem entries_eq (list : String) : entries list = (commaPieces list).map trim := by
  unfold entries commaPieces
  rw [cutAt_eq_splitOn, List.map_map]
  rfl

/-- A list of which an entry is not blank is not blank itself. -/
theorem isBlankText_of_mem_entries {list entry : String} (h : entry ∈ entries list)
    (hentry : isBlankText entry = false) : isBlankText list = false := by
  obtain ⟨piece, hpiece, rfl⟩ := List.mem_map.1 h
  rw [isBlankText_trim] at hentry
  obtain ⟨c, hmem, hc⟩ := isBlankText_eq_false_iff.1 hentry
  rw [String.toList_ofList] at hmem
  refine isBlankText_eq_false_iff.2 ⟨c, ?_, hc⟩
  -- the list is its pieces with commas between them
  rw [← @List.intercalate_splitOn _ list.toList _ _ ',', List.intercalate]
  obtain ⟨i, hi⟩ := List.mem_iff_getElem?.1 hpiece
  refine List.mem_flatten.2 ⟨piece, List.mem_iff_getElem?.2 ⟨2 * i, ?_⟩, hmem⟩
  rw [List.getElem?_intersperse_two_mul, hi]

end Text

/-! ## Facts -/

/-- One thing that is said of a request. -/
inductive RequestFact where
  /-- The user. -/
  | user (name : String)
  /-- A header. -/
  | header (name value : String)
  /-- A parameter of the query. -/
  | query (name value : String)
  /-- A cookie. -/
  | cookie (name value : String)
  /-- The address of the peer. -/
  | remote (address : String)

/-- Of the values that some facts give, the last. -/
def said (pick : RequestFact → Option String) (facts : List RequestFact) : Option String :=
  facts.reverse.findSome? pick

/-- The last fact counts before the others. -/
theorem said_concat (pick : RequestFact → Option String) (facts : List RequestFact)
    (fact : RequestFact) : said pick (facts ++ [fact]) = (pick fact).or (said pick facts) := by
  unfold said
  rw [List.reverse_concat, List.findSome?_cons]
  cases pick fact <;> rfl

namespace RequestFact

/-- The value of the header with a name, in letters of either case. -/
def header? (name : String) : RequestFact → Option String
  | .header other value => if Text.equalIgnoringCase other name then some value else none
  | _ => none

/-- The value of the parameter with a name. -/
def query? (name : String) : RequestFact → Option String
  | .query other value => if other = name then some value else none
  | _ => none

/-- The value of the cookie with a name. -/
def cookie? (name : String) : RequestFact → Option String
  | .cookie other value => if other = name then some value else none
  | _ => none

/-- The name of the user. -/
def user? : RequestFact → Option String
  | .user name => some name
  | _ => none

/-- The address of the peer. -/
def remote? : RequestFact → Option String
  | .remote address => some address
  | _ => none

end RequestFact

namespace Request

/-- The request with one more fact. -/
def add (r : Request) : RequestFact → Request
  | .user name => { r with user := some name }
  | .header name value => r.addHeader name value
  | .query name value => r.addQuery name value
  | .cookie name value => r.addCookie name value
  | .remote address => { r with remote := some address }

/-- The request that some facts make, one after the other. -/
def ofFacts (facts : List RequestFact) : Request := facts.foldl add {}

/-- **Of the facts about one thing the last counts**, if a fact about it is noted in its place and
no other fact is. -/
theorem view_ofFacts (view : Request → Option String) {pick : RequestFact → Option String}
    (hempty : view {} = none) (hadd : ∀ r fact, view (r.add fact) = (pick fact).or (view r))
    (facts : List RequestFact) : view (ofFacts facts) = said pick facts := by
  induction facts using List.reverseRecOn with
  | nil => exact hempty
  | append_singleton facts fact ih =>
    rw [said_concat, ← ih, ← hadd]
    unfold ofFacts
    rw [List.foldl_concat]

variable (facts : List RequestFact)

/-- The user of a request is the last one that was told. -/
theorem user_ofFacts : (ofFacts facts).user = said RequestFact.user? facts :=
  view_ofFacts Request.user rfl (fun r fact => by cases fact <;> rfl) facts

theorem remote_ofFacts : (ofFacts facts).remote = said RequestFact.remote? facts :=
  view_ofFacts Request.remote rfl (fun r fact => by cases fact <;> rfl) facts

/-- The value of a parameter is the last one that was given. -/
theorem query_ofFacts (name : String) :
    (ofFacts facts).query.get? name = said (RequestFact.query? name) facts := by
  refine view_ofFacts (fun r => r.query.get? name) rfl (fun r fact => ?_) facts
  cases fact with
  | query other value =>
    show (r.query.insert other value).get? name = _
    rw [KeyMap.get?_insert, RequestFact.query?]
    split <;> rfl
  | _ => rfl

theorem cookies_ofFacts (name : String) :
    (ofFacts facts).cookies.get? name = said (RequestFact.cookie? name) facts := by
  refine view_ofFacts (fun r => r.cookies.get? name) rfl (fun r fact => ?_) facts
  cases fact with
  | cookie other value =>
    show (r.cookies.insert other value).get? name = _
    rw [KeyMap.get?_insert, RequestFact.cookie?]
    split <;> rfl
  | _ => rfl

/-- A header is found under its name in letters of either case. -/
theorem headers_ofFacts (name : String) :
    (ofFacts facts).headers.get? (Text.lower name) = said (RequestFact.header? name) facts := by
  refine view_ofFacts (fun r => r.headers.get? (Text.lower name)) rfl
    (fun r fact => ?_) facts
  cases fact with
  | header other value =>
    show (r.headers.insert (Text.lower other) value).get? (Text.lower name) = _
    rw [KeyMap.get?_insert, RequestFact.header?]
    simp only [Text.equalIgnoringCase, decide_eq_true_eq]
    split <;> rfl
  | _ => rfl

end Request

/-! ## Places -/

/-- A place where the session of a request is looked for. -/
inductive Place where
  | user
  | header
  | query
  | cookie
  /-- The addresses that the request was forwarded for. -/
  | forwarded
  /-- The address that a proxy has noted. -/
  | realIp
  /-- The address of the peer. -/
  | remote
  deriving DecidableEq

namespace Place

/-- The places where a session is named, in the order in which they count. -/
def naming : List Place := [.user, .header, .query, .cookie]

/-- The places where an address stands, in the order in which they count. -/
def addresses : List Place := [.forwarded, .realIp, .remote]

/-- What is taken from a text at a place; nothing from a blank one. -/
def read : Place → String → Option String
  | .forwarded, text => (Text.entries text).find? fun entry => !Text.isBlankText entry
  | .realIp, text => Text.nonBlank? (Text.trim text)
  | _, text => Text.nonBlank? text

/-- What is taken is not blank. -/
theorem not_blank_of_read {p : Place} {text taken : String} (h : p.read text = some taken) :
    Text.isBlankText taken = false := by
  have hblank : ∀ {text : String}, Text.nonBlank? text = some taken →
      Text.isBlankText taken = false := by
    intro text h
    obtain ⟨hfalse, rfl⟩ := Text.nonBlank?_eq_some_iff.1 h
    exact hfalse
  cases p with
  | forwarded => simpa using List.find?_some h
  | _ => exact hblank h

end Place

namespace ResolverSettings

/-- The value that a fact gives at a place.  The user counts in full authentication only. -/
def pick (s : ResolverSettings) : Place → RequestFact → Option String
  | .user => fun fact => if s.fullAuth then fact.user? else none
  | .header => RequestFact.header? s.header
  | .query => RequestFact.query? s.query
  | .cookie => RequestFact.cookie? s.cookie
  | .forwarded => RequestFact.header? "x-forwarded-for"
  | .realIp => RequestFact.header? "x-real-ip"
  | .remote => RequestFact.remote?

/-- What is taken from some facts at a place. -/
def taken (s : ResolverSettings) (facts : List RequestFact) (p : Place) : Option String :=
  (said (s.pick p) facts).bind p.read

/-- Of some places, this is the first where something is taken from the facts. -/
def FirstOf (s : ResolverSettings) (facts : List RequestFact) (places : List Place) (p : Place)
    (text : String) : Prop :=
  ∃ before after, places = before ++ p :: after ∧ s.taken facts p = some text ∧
    ∀ q ∈ before, s.taken facts q = none

/-- The address of the caller: what is taken at the first place where an address is, or a word if
there is none. -/
inductive IsClient (s : ResolverSettings) (facts : List RequestFact) : String → Prop
  | found {p : Place} {ip : String} (h : s.FirstOf facts Place.addresses p ip) : IsClient s facts ip
  | unknown (h : ∀ p ∈ Place.addresses, s.taken facts p = none) : IsClient s facts "unknown"

variable {s : ResolverSettings} {facts : List RequestFact} {p : Place} {text ip : String}

/-- What is taken from a place is not blank. -/
theorem not_blank_of_taken (h : s.taken facts p = some text) : Text.isBlankText text = false := by
  obtain ⟨given, -, hread⟩ := Option.bind_eq_some_iff.1 h
  exact Place.not_blank_of_read hread

/-- **The address of a caller is never blank.** -/
theorem IsClient.not_blank (h : s.IsClient facts ip) : Text.isBlankText ip = false := by
  cases h with
  | found h =>
    obtain ⟨before, after, -, htaken, -⟩ := h
    exact not_blank_of_taken htaken
  | unknown h => decide +kernel

/-! ## What the library looks for -/

/-- A header is read from the facts: the last one with its name, unless that is blank. -/
theorem header?_ofFacts (facts : List RequestFact) (name : String) :
    (Request.ofFacts facts).header? name =
      (said (RequestFact.header? name) facts).bind Text.nonBlank? := by
  unfold Request.header?
  rw [Request.headers_ofFacts]

/-- The first address of a list that is not blank. -/
theorem firstForwarded?_eq (list : String) :
    (Text.nonBlank? list).bind Request.firstForwarded? = Place.forwarded.read list := by
  have hsame : Request.firstForwarded? list = Place.forwarded.read list := by
    show ((Text.commaPieces list).map Text.trim).find? _ = (Text.entries list).find? _
    rw [Text.entries_eq, List.find?_map, List.find?_map]
    simp only [Function.comp_def, Text.isEmpty_trim, Text.isBlankText_trim]
  cases hblank : Text.nonBlank? list with
  | some text =>
    obtain ⟨-, rfl⟩ := Text.nonBlank?_eq_some_iff.1 hblank
    exact hsame
  | none =>
    -- a blank list has no entry that is not blank
    symm
    refine List.find?_eq_none.2 fun entry hentry hfalse => ?_
    have hlist := Text.isBlankText_of_mem_entries hentry (by simpa using hfalse)
    rw [Text.nonBlank?_eq_none_iff.1 hblank] at hlist
    cases hlist

/-- What a proxy tells of the caller is read from the facts. -/
theorem forwarded?_ofFacts (s : ResolverSettings) (facts : List RequestFact) :
    (Request.ofFacts facts).forwarded? = s.taken facts .forwarded := by
  unfold Request.forwarded? taken pick
  rw [header?_ofFacts, Option.bind_assoc]
  exact Option.bind_congr fun list _ => firstForwarded?_eq list

/-- The real address is read from the facts. -/
theorem realIp_ofFacts (s : ResolverSettings) (facts : List RequestFact) :
    ((Request.ofFacts facts).header? "x-real-ip").map Text.trim = s.taken facts .realIp := by
  unfold taken pick
  rw [header?_ofFacts, Option.map_bind]
  refine Option.bind_congr fun text _ => ?_
  show (Text.nonBlank? text).map Text.trim = Text.nonBlank? (Text.trim text)
  unfold Text.nonBlank?
  rw [Text.isBlankText_trim]
  split <;> rfl

/-- The address of the caller is the first that is taken, or a word if there is none. -/
theorem clientIp_ofFacts (s : ResolverSettings) (facts : List RequestFact) :
    (Request.ofFacts facts).clientIp =
      (Place.addresses.findSome? (s.taken facts)).getD "unknown" := by
  have hremote : (Request.ofFacts facts).remote.bind Text.nonBlank? = s.taken facts .remote := by
    rw [Request.remote_ofFacts]
    rfl
  unfold Request.clientIp
  rw [forwarded?_ofFacts s, realIp_ofFacts s, hremote]
  unfold Place.addresses
  rw [List.findSome?_cons, List.findSome?_cons, List.findSome?_cons, List.findSome?_nil]
  cases s.taken facts .forwarded <;> cases s.taken facts .realIp <;>
    cases s.taken facts .remote <;> rfl

/-- **The address of a caller** is the first one that the facts give. -/
theorem isClient_clientIp (s : ResolverSettings) (facts : List RequestFact) :
    s.IsClient facts (Request.ofFacts facts).clientIp := by
  rw [clientIp_ofFacts s]
  cases hfound : Place.addresses.findSome? (s.taken facts) with
  | none => exact .unknown (List.findSome?_eq_none_iff.1 hfound)
  | some ip =>
    obtain ⟨before, p, after, hplaces, htaken, hbefore⟩ := List.findSome?_eq_some_iff.1 hfound
    exact .found (p := p) ⟨before, after, hplaces, htaken, hbefore⟩

end ResolverSettings

end SessionTasks
