/-
# The tokens of a printed value

The lexer reads a printed value token by token, whatever follows it, as long as a bare word at
its end does not go on.

* `Json.run?_quote` : a quoted text is one token, its escapes resolved;
* `Json.run?_write` : a printed value is cut into the tokens that spell it.
-/
import SessionTasks.Proofs.Json.Words
namespace SessionTasks.Json

/-! ## Reading on -/

/-- The tokens of a text that goes on where the lexer stands. -/
def Lexer.run? (l : Lexer) (text : List Char) : Option (List Token) :=
  (text.foldlM Lexer.step l).bind Lexer.finish?

theorem tokens?_eq_run? (text : List Char) : tokens? text = Lexer.initial.run? text := rfl

/-- The lexer goes on with the rest after a character that it takes. -/
theorem Lexer.run?_cons {l l' : Lexer} {c : Char} (h : l.step c = some l') (text : List Char) :
    l.run? (c :: text) = l'.run? text := by
  unfold Lexer.run?
  rw [List.foldlM_cons, h]
  rfl

/-- Between two tokens the next character starts one, or is a blank. -/
theorem run?_start {done : List Token} {c : Char} {l : Lexer} (h : Lexer.start done c = l)
    (text : List Char) : Lexer.run? ⟨done, .between⟩ (c :: text) = l.run? text := by
  have hstep : Lexer.step ⟨done, .between⟩ c = some l := congrArg some h
  exact Lexer.run?_cons hstep text

/-- A bare word does not go on in the text. -/
def Ends (text : List Char) : Prop := ∀ c ∈ text.head?, endsWord c = true

theorem ends_nil : Ends [] := by
  intro c hc
  cases hc

/-- A character that ends a word stands after one. -/
theorem ends_cons {c : Char} (h : endsWord c = true) (text : List Char) : Ends (c :: text) := by
  intro d hd
  cases hd
  exact h

theorem Ends.append {a b : List Char} (ha : Ends a) (hb : Ends b) : Ends (a ++ b) := by
  cases a with
  | nil => exact hb
  | cons c rest => exact ha

/-! ## Brackets, blanks and words -/

/-- A bracket is a token of its own. -/
theorem run?_bracket {c : Char} {t : Token} (h : bracket? c = some t) (done : List Token)
    (text : List Char) :
    Lexer.run? ⟨done, .between⟩ (c :: text) = Lexer.run? ⟨t :: done, .between⟩ text := by
  have hstart : Lexer.start done c = ⟨t :: done, .between⟩ := by
    unfold bracket? at h
    split at h
    all_goals first | (cases h; rfl) | cases h
  exact run?_start hstart text

/-- Blanks between tokens are passed over. -/
theorem run?_blanks {blanks : List Char} (h : ∀ c ∈ blanks, isBlank c = true)
    (done : List Token) (text : List Char) :
    Lexer.run? ⟨done, .between⟩ (blanks ++ text) = Lexer.run? ⟨done, .between⟩ text := by
  induction blanks with
  | nil => rfl
  | cons c rest ih =>
    have hstart : Lexer.start done c = ⟨done, .between⟩ := by
      unfold Lexer.start
      rw [if_pos (h c List.mem_cons_self)]
    rw [List.cons_append, run?_start hstart]
    exact ih fun d hd => h d (List.mem_cons_of_mem c hd)

/-- Inside a word, up to its end. -/
theorem run?_inWord {w : List Char} (hw : ∀ c ∈ w, endsWord c = false) (done : List Token)
    (read : List Char) {text : List Char} (htext : Ends text) :
    Lexer.run? ⟨done, .word read⟩ (w ++ text) =
      Lexer.run? ⟨.word (read.reverse ++ w) :: done, .between⟩ text := by
  induction w generalizing read with
  | nil =>
    rw [List.append_nil, List.nil_append]
    cases text with
    | nil =>
      show some (Token.word read.reverse :: done).reverse = some _
      rfl
    | cons c rest =>
      have hstep : Lexer.step ⟨done, .word read⟩ c =
          some (Lexer.start (.word read.reverse :: done) c) := by
        unfold Lexer.step
        dsimp only
        rw [if_pos (htext c rfl)]
      rw [Lexer.run?_cons hstep]
      exact (Lexer.run?_cons rfl rest).symm
  | cons c rest ih =>
    have hstep : Lexer.step ⟨done, .word read⟩ c = some ⟨done, .word (c :: read)⟩ := by
      unfold Lexer.step
      dsimp only
      rw [hw c List.mem_cons_self]
      rfl
    rw [List.cons_append, Lexer.run?_cons hstep,
      ih (fun d hd => hw d (List.mem_cons_of_mem c hd)), List.reverse_cons, List.append_assoc]
    rfl

/-- A word is read to its end. -/
theorem run?_word {w : List Char} (hw : IsWord w) (done : List Token) {text : List Char}
    (htext : Ends text) :
    Lexer.run? ⟨done, .between⟩ (w ++ text) = Lexer.run? ⟨.word w :: done, .between⟩ text := by
  obtain ⟨hne, hchars⟩ := hw
  cases w with
  | nil => exact absurd rfl hne
  | cons c rest =>
    have hstart : Lexer.start done c = ⟨done, .word [c]⟩ := by
      have hc := hchars c List.mem_cons_self
      unfold endsWord at hc
      simp only [Bool.or_eq_false_iff, decide_eq_false_iff_not, Option.isSome_eq_false_iff,
        Option.isNone_iff_eq_none] at hc
      obtain ⟨⟨hblank, hquote⟩, hbracket⟩ := hc
      unfold Lexer.start
      rw [hblank, if_neg Bool.false_ne_true, if_neg hquote, hbracket]
    rw [List.cons_append, run?_start hstart]
    exact run?_inWord (fun d hd => hchars d (List.mem_cons_of_mem c hd)) done [c] htext

/-! ## Quoted texts -/

/-- An escaped character is read back. -/
theorem run?_escape (done : List Token) (read : List Char) (c : Char) (text : List Char) :
    Lexer.run? ⟨done, .quoted read⟩ (escape c ++ text) =
      Lexer.run? ⟨done, .quoted (c :: read)⟩ text := by
  by_cases hlow : c.toNat < 32
  · -- there are thirty-two control characters
    obtain ⟨n, hn, rfl⟩ : ∃ n < 32, c = Char.ofNat n := ⟨c.toNat, hlow, (Char.ofNat_toNat c).symm⟩
    interval_cases n <;> rfl
  · by_cases hquote : c = '"'
    · subst hquote
      rfl
    · by_cases hslash : c = '\\'
      · subst hslash
        rfl
      · have hescape : escape c = [c] := by
          unfold escape
          split
          all_goals first | exact if_neg hlow | exact absurd (by decide) hlow | contradiction
        have hstep : Lexer.step ⟨done, .quoted read⟩ c = some ⟨done, .quoted (c :: read)⟩ := by
          unfold Lexer.step
          dsimp only
          rw [if_neg hquote, if_neg hslash, if_neg hlow]
        rw [hescape]
        exact Lexer.run?_cons hstep text

/-- A quoted text is read back through its escapes. -/
theorem run?_inQuote (done : List Token) (read text rest : List Char) :
    Lexer.run? ⟨done, .quoted read⟩ (text.flatMap escape ++ '"' :: rest) =
      Lexer.run? ⟨.text (String.ofList (read.reverse ++ text)) :: done, .between⟩ rest := by
  induction text generalizing read with
  | nil =>
    rw [List.append_nil]
    exact Lexer.run?_cons rfl rest
  | cons c tail ih =>
    rw [List.flatMap_cons, List.append_assoc, run?_escape, ih, List.reverse_cons,
      List.append_assoc]
    rfl

/-- **A quoted text is read back.** -/
theorem run?_quote (done : List Token) (s : String) (rest : List Char) :
    Lexer.run? ⟨done, .between⟩ (quote s.toList ++ rest) =
      Lexer.run? ⟨.text s :: done, .between⟩ rest := by
  have hstart : Lexer.start done '"' = ⟨done, .quoted []⟩ := rfl
  unfold quote
  rw [List.append_assoc, List.cons_append, run?_start hstart, List.singleton_append,
    run?_inQuote, List.reverse_nil, List.nil_append, String.ofList_toList]

/-! ## Values -/

mutual
/-- The tokens that spell a value. -/
def spell : Json → List Token
  | .null => [.word "null".toList]
  | .bool true => [.word "true".toList]
  | .bool false => [.word "false".toList]
  | .int n => [.word (Text.signedDecimal n)]
  | .double x => [.word (if x.isFinite then x.write else "null".toList)]
  | .str s => [.text s]
  | .arr [] => [.openList, .closeList]
  | .arr (v :: rest) => .openList :: spell v ++ spellItems rest ++ [.closeList]
  | .obj [] => [.openObject, .closeObject]
  | .obj ((k, v) :: rest) =>
    .openObject :: .text k :: .colon :: spell v ++ spellMembers rest ++ [.closeObject]

/-- The tokens that spell the items after the first. -/
def spellItems : List Json → List Token
  | [] => []
  | v :: rest => .comma :: spell v ++ spellItems rest

/-- The tokens that spell the members after the first. -/
def spellMembers : List (String × Json) → List Token
  | [] => []
  | (k, v) :: rest => .comma :: .text k :: .colon :: spell v ++ spellMembers rest
end

/-- Only blanks stand where a value is broken into lines. -/
structure Layout.IsBlank (layout : Layout) : Prop where
  breakAt : ∀ depth, ∀ c ∈ layout.breakAt depth, isBlank c = true
  afterColon : ∀ c ∈ layout.afterColon, isBlank c = true

theorem isBlank_compact : Layout.compact.IsBlank where
  breakAt := by
    intro depth c hc
    cases hc
  afterColon := by
    intro c hc
    cases hc

/-- The pretty layout adds only blanks between tokens. -/
theorem isBlank_pretty : Layout.pretty.IsBlank where
  breakAt := by
    intro depth c hc
    rcases List.mem_cons.1 hc with rfl | hc
    · rfl
    · rw [List.eq_of_mem_replicate hc]
      rfl
  afterColon := by
    intro c hc
    cases List.mem_singleton.1 hc
    rfl

/-- A blank ends a word. -/
theorem endsWord_of_isBlank {c : Char} (h : isBlank c = true) : endsWord c = true := by
  unfold endsWord
  rw [h]
  rfl

theorem ends_breakAt {layout : Layout} (h : layout.IsBlank) (depth : Nat) :
    Ends (layout.breakAt depth) :=
  fun c hc => endsWord_of_isBlank (h.breakAt depth c (List.mem_of_mem_head? hc))

/-- What is written after an element ends its last word. -/
theorem ends_writeItems (layout : Layout) (depth : Nat) (items : List Json) :
    Ends (writeItems layout depth items) := by
  cases items with
  | nil => exact ends_nil
  | cons v rest => exact ends_cons rfl _

theorem ends_writeMembers (layout : Layout) (depth : Nat) (members : List (String × Json)) :
    Ends (writeMembers layout depth members) := by
  cases members with
  | nil => exact ends_nil
  | cons e rest => exact ends_cons rfl _

/-- The three names are words. -/
theorem isWord_name {name : String} (h : name ∈ ["null", "true", "false"]) :
    IsWord name.toList := by
  simp only [List.mem_cons, List.not_mem_nil, or_false] at h
  rcases h with rfl | rfl | rfl
  all_goals
    refine ⟨by simp, fun c hc => ?_⟩
    simp at hc
    rcases hc with rfl | rfl | rfl | rfl | rfl
    all_goals rfl

mutual
/-- **A printed value is cut into the tokens that spell it.** -/
theorem run?_write {layout : Layout} (hl : layout.IsBlank) :
    (v : Json) → (depth : Nat) → (done : List Token) → (text : List Char) → Ends text →
      Lexer.run? ⟨done, .between⟩ (write layout depth v ++ text) =
        Lexer.run? ⟨(spell v).reverse ++ done, .between⟩ text
  | .null, depth, done, text, h => by
    rw [write, spell]
    exact run?_word (isWord_name (by decide)) done h
  | .bool true, depth, done, text, h => by
    rw [write, spell]
    exact run?_word (isWord_name (by decide)) done h
  | .bool false, depth, done, text, h => by
    rw [write, spell]
    exact run?_word (isWord_name (by decide)) done h
  | .int n, depth, done, text, h => by
    rw [write, spell]
    exact run?_word (isWord_signedDecimal n) done h
  | .double x, depth, done, text, h => by
    rw [write, spell]
    refine run?_word ?_ done h
    split
    · exact isWord_write_double x
    · exact isWord_name (by decide)
  | .str s, depth, done, text, h => by
    rw [write, spell]
    exact run?_quote done s text
  | .arr [], depth, done, text, h => by
    rw [write, spell]
    exact (run?_bracket rfl done _).trans (run?_bracket rfl _ text)
  | .arr (v :: rest), depth, done, text, h => by
    rw [write, spell]
    simp only [List.cons_append, List.append_assoc, List.reverse_cons, List.reverse_append]
    rw [run?_bracket rfl, run?_blanks (hl.breakAt _), run?_write hl v, run?_writeItems hl rest,
      run?_blanks (hl.breakAt _), run?_bracket rfl]
    · rfl
    -- a word ends where the layout breaks, or where the rest begins
    · exact (ends_breakAt hl _).append (ends_cons rfl _)
    · exact (ends_writeItems _ _ _).append ((ends_breakAt hl _).append (ends_cons rfl _))
  | .obj [], depth, done, text, h => by
    rw [write, spell]
    exact (run?_bracket rfl done _).trans (run?_bracket rfl _ text)
  | .obj ((k, v) :: rest), depth, done, text, h => by
    rw [write, spell]
    simp only [List.cons_append, List.append_assoc, List.reverse_cons, List.reverse_append]
    rw [run?_bracket rfl, run?_blanks (hl.breakAt _), run?_quote, run?_bracket rfl,
      run?_blanks hl.afterColon, run?_write hl v, run?_writeMembers hl rest,
      run?_blanks (hl.breakAt _), run?_bracket rfl]
    · rfl
    · exact (ends_breakAt hl _).append (ends_cons rfl _)
    · exact (ends_writeMembers _ _ _).append ((ends_breakAt hl _).append (ends_cons rfl _))

/-- The elements are read as their tokens, whatever comes after. -/
theorem run?_writeItems {layout : Layout} (hl : layout.IsBlank) :
    (items : List Json) → (depth : Nat) → (done : List Token) → (text : List Char) → Ends text →
      Lexer.run? ⟨done, .between⟩ (writeItems layout depth items ++ text) =
        Lexer.run? ⟨(spellItems items).reverse ++ done, .between⟩ text
  | [], depth, done, text, h => rfl
  | v :: rest, depth, done, text, h => by
    rw [writeItems, spellItems]
    simp only [List.cons_append, List.append_assoc, List.reverse_cons, List.reverse_append]
    rw [run?_bracket rfl, run?_blanks (hl.breakAt _), run?_write hl v, run?_writeItems hl rest]
    · rfl
    · exact h
    · exact (ends_writeItems _ _ _).append h

theorem run?_writeMembers {layout : Layout} (hl : layout.IsBlank) :
    (members : List (String × Json)) → (depth : Nat) → (done : List Token) →
      (text : List Char) → Ends text →
      Lexer.run? ⟨done, .between⟩ (writeMembers layout depth members ++ text) =
        Lexer.run? ⟨(spellMembers members).reverse ++ done, .between⟩ text
  | [], depth, done, text, h => rfl
  | (k, v) :: rest, depth, done, text, h => by
    rw [writeMembers, spellMembers]
    simp only [List.cons_append, List.append_assoc, List.reverse_cons, List.reverse_append]
    rw [run?_bracket rfl, run?_blanks (hl.breakAt _), run?_quote, run?_bracket rfl,
      run?_blanks hl.afterColon, run?_write hl v, run?_writeMembers hl rest]
    · rfl
    · exact h
    · exact (ends_writeMembers _ _ _).append h
end

/-- The tokens of a printed value. -/
theorem tokens?_write {layout : Layout} (hl : layout.IsBlank) (v : Json) :
    tokens? (write layout 0 v) = some (spell v) := by
  have hrun := run?_write hl v 0 [] [] ends_nil
  rw [List.append_nil, List.append_nil] at hrun
  rw [tokens?_eq_run?]
  refine hrun.trans ?_
  show some (spell v).reverse.reverse = _
  rw [List.reverse_reverse]

end SessionTasks.Json
