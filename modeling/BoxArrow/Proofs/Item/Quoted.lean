import BoxArrow.Proofs.Document.States
import BoxArrow.Proofs.Grammar.Completeness
import BoxArrow.Proofs.Item.Parens
import BoxArrow.Proofs.Token.Spelling

/-!
# Quoted values from the source to the items

A value in quote marks may hold anything but its own mark. Four readers come upon it before it is a
value again: it is cut into tokens, counted through for parentheses, written down as part of a block
and split off the items around it. Each of them knows it by its marks and leaves it alone.

## Main definitions

* `Item.Quoted` — an item with a quoted value, as it stands in a source
* `Item.Quoted.source` — a state declaration of such items

## Main results

* `Item.Quoted.tokens_body_append`, `Item.Quoted.renderChars_bodyTokens_append` — what the items are
  cut into, and what is written down
* `Item.Quoted.written_bodyPlain` — the items of what is written down
* `Item.Quoted.ofBlock_content` — the values of the state declaration are those of the source
-/

namespace BoxArrow.Item

open Text (trim isBlank isQuote cut? splitUnquoted IsPlain IsBlanks)
open Token (WordText identifier colon quote text comma)

/-- An item with a quoted value, as it stands in a source. There may be blanks around the key, and
between the colon and the value. -/
structure Quoted where
  key : WordText
  gap : String
  isBlanks_gap : IsBlanks gap.toList
  mark : Char
  isQuote_mark : isQuote mark = true
  value : String
  mark_notMem : mark ∉ value.toList

namespace Quoted

variable (q : Quoted)

/-- The value between its marks. -/
def quoted : List Char := q.mark :: (q.value.toList ++ [q.mark])

/-- The item as it is written. -/
def text : String := q.key.text ++ ":" ++ q.gap ++ .ofList q.quoted

/-- The key, and the value without its marks. -/
def toItem : Item := ⟨.ofList q.key.name, q.value⟩

/-- The tokens of the item. -/
def tokens : List Token :=
  identifier q.key.name :: colon :: Token.quotedText q.mark q.value.toList

/-- The item without blanks between its tokens. -/
def plain : List Char := q.key.name ++ ':' :: q.quoted

/-! ### One item -/

theorem tokens_text_append (rest : List Char) :
    Token.tokens (q.text.toList ++ rest) = q.tokens ++ Token.tokens rest := by
  have htext : q.text.toList ++ rest = q.key.text.toList ++ ':' :: (q.gap.toList ++
      q.mark :: (q.value.toList ++ q.mark :: rest)) := by
    simp [text, quoted]
  rw [htext, q.key.tokens_append (Token.endsWord_cons rfl _), Token.tokens_mark rfl,
    Token.tokens_blanks_append q.isBlanks_gap,
    Token.tokens_quoted_append q.isQuote_mark q.mark_notMem]
  rfl

theorem renderChars_tokens_append (ts : List Token) :
    Token.renderChars (q.tokens ++ ts) = q.plain ++ Token.renderChars ts := by
  rw [tokens, List.cons_append, List.cons_append, Token.renderChars_identifier_cons rfl,
    Token.renderChars_cons rfl, Token.renderChars_quotedText]
  simp [plain, quoted, Token.chars]

theorem isPlain_name {separator : Char} (h : separator = ',' ∨ separator = ':') :
    IsPlain separator q.key.name := by
  intro c hc
  obtain ⟨-, hquote, hmark⟩ := Token.isWordChar_iff.1 (q.key.isWord.isWordChar_of_mem c hc)
  refine ⟨hquote, ?_⟩
  rintro rfl
  rcases h with rfl | rfl <;> cases hmark

/-- No comma of the item separates it. -/
theorem cut?_plain_append (rest : List Char) :
    cut? ',' none (q.plain ++ rest) =
      (cut? ',' none rest).map (Prod.map (q.plain ++ ·) id) := by
  have hfront : IsPlain ',' (q.key.name ++ [':']) := by
    intro c hc
    rcases List.mem_append.1 hc with hc | hc
    · exact q.isPlain_name (.inl rfl) c hc
    · cases List.mem_singleton.1 hc
      decide
  have hplain : q.plain ++ rest = (q.key.name ++ [':']) ++
      q.mark :: (q.value.toList ++ q.mark :: rest) := by
    simp [plain, quoted]
  rw [hplain, Text.cut?_append_left hfront,
    Text.cut?_quoted_append q.isQuote_mark q.mark_notMem, Option.map_map]
  congr 2
  funext ⟨before, after⟩
  simp [plain, quoted]

theorem dropQuotes_quoted : dropQuotes q.quoted = q.value.toList := by
  rw [quoted, dropQuotes, List.getLast?_concat, List.dropLast_concat, if_pos]
  simp [q.isQuote_mark]

theorem ofItem?_plain : ofItem? q.plain = some q.toItem := by
  have hmark : isBlank q.mark = false :=
    eq_false_of_ne_true fun h => Text.not_isQuote_of_isBlank h q.isQuote_mark
  have hcut : cut? ':' none q.plain = some (q.key.name, q.quoted) := by
    rw [plain, Text.cut?_append_left (q.isPlain_name (.inr rfl)), cut?]
    simp [isQuote]
  have hname : ∀ c ∈ q.key.name, isBlank c = false := fun c hc =>
    (Token.isWordChar_iff.1 (q.key.isWord.isWordChar_of_mem c hc)).1
  have hkey : trim q.key.name = q.key.name :=
    Text.trim_eq_self (fun c hc => hname c (List.mem_of_mem_head? hc))
      fun c hc => hname c (List.mem_of_mem_getLast? hc)
  have hvalue : trim q.quoted = q.quoted := by
    apply Text.trim_eq_self
    · simp [quoted, hmark]
    · rw [quoted, ← List.cons_append, List.getLast?_concat]
      simp [hmark]
  rw [ofItem?, hcut, Option.map_some]
  change some (⟨.ofList (trim q.key.name), .ofList (dropQuotes (trim q.quoted))⟩ : Item) = _
  rw [hkey, hvalue, dropQuotes_quoted, String.ofList_toList]
  rfl

/-! ### Items with commas between them -/

/-- The items as they are written, with commas between them. -/
def body (qs : List Quoted) : String := ",".intercalate (qs.map text)

/-- The tokens of the items, with commas between them. -/
def bodyTokens (qs : List Quoted) : List Token := [comma].intercalate (qs.map tokens)

/-- The items without blanks between their tokens, with commas between them. -/
def bodyPlain (qs : List Quoted) : List Char := [','].intercalate (qs.map plain)

theorem tokens_body_append (qs : List Quoted) (rest : List Char) :
    Token.tokens ((body qs).toList ++ rest) = bodyTokens qs ++ Token.tokens rest := by
  induction qs with
  | nil => rfl
  | cons q qs ih =>
    match qs with
    | [] =>
      have hbody : body [q] = q.text := String.intercalate_singleton
      rw [hbody, q.tokens_text_append]
      simp [bodyTokens]
    | r :: qs =>
      have hbody : body (q :: r :: qs) = q.text ++ "," ++ body (r :: qs) :=
        String.intercalate_cons_cons
      have hchars : (body (q :: r :: qs)).toList ++ rest =
          q.text.toList ++ ',' :: ((body (r :: qs)).toList ++ rest) := by
        simp [hbody]
      rw [hchars, q.tokens_text_append, Token.tokens_mark rfl, ih]
      simp [bodyTokens]

theorem renderChars_bodyTokens_append (qs : List Quoted) (ts : List Token) :
    Token.renderChars (bodyTokens qs ++ ts) = bodyPlain qs ++ Token.renderChars ts := by
  induction qs with
  | nil => rfl
  | cons q qs ih =>
    match qs with
    | [] =>
      have htokens : bodyTokens [q] = q.tokens := List.intercalate_singleton
      rw [htokens, q.renderChars_tokens_append]
      simp [bodyPlain]
    | r :: qs =>
      have htokens : bodyTokens (q :: r :: qs) ++ ts =
          q.tokens ++ comma :: (bodyTokens (r :: qs) ++ ts) := by
        simp [bodyTokens]
      rw [htokens, q.renderChars_tokens_append, Token.renderChars_cons rfl, ih]
      simp [bodyPlain, Token.chars]

/-- Only the commas between the items separate them. -/
theorem splitUnquoted_bodyPlain (q : Quoted) (qs : List Quoted) :
    splitUnquoted ',' (bodyPlain (q :: qs)) = (q :: qs).map plain := by
  induction qs generalizing q with
  | nil =>
    have hcut := q.cut?_plain_append []
    rw [List.append_nil] at hcut
    have hplain : bodyPlain [q] = q.plain := List.intercalate_singleton
    rw [hplain, Text.splitUnquoted_of_eq_none hcut]
    rfl
  | cons r qs ih =>
    have hplain : bodyPlain (q :: r :: qs) = q.plain ++ ',' :: bodyPlain (r :: qs) := by
      simp [bodyPlain]
    have hcut := q.cut?_plain_append (',' :: bodyPlain (r :: qs))
    rw [cut?, if_neg (by decide), if_pos rfl, Option.map_some] at hcut
    rw [hplain, Text.splitUnquoted_of_eq_some hcut, id, ih r]
    simp

theorem written_bodyPlain (qs : List Quoted) : written (bodyPlain qs) = qs.map toItem := by
  cases qs with
  | nil =>
    rw [written, Text.splitUnquoted_of_eq_none rfl]
    rfl
  | cons q qs =>
    rw [written, splitUnquoted_bodyPlain, List.filterMap_map]
    have hitem : ofItem? ∘ plain = some ∘ toItem := funext ofItem?_plain
    rw [hitem, List.filterMap_eq_map]

theorem exists_bodyPlain_eq_cons (q : Quoted) (qs : List Quoted) :
    ∃ c rest, bodyPlain (q :: qs) = c :: rest ∧ Token.isWordChar c = true := by
  obtain ⟨c, name, hname⟩ := List.exists_cons_of_ne_nil q.key.isWord.ne_nil
  have hc : Token.isWordChar c = true := by
    apply q.key.isWord.isWordChar_of_mem
    simp [hname]
  cases qs with
  | nil => exact ⟨c, name ++ ':' :: q.quoted, by simp [bodyPlain, plain, hname], hc⟩
  | cons r qs =>
    exact ⟨c, name ++ ':' :: (q.quoted ++ ',' :: bodyPlain (r :: qs)), by
      simp [bodyPlain, plain, hname], hc⟩

theorem exists_bodyPlain_eq_concat (q : Quoted) (qs : List Quoted) :
    ∃ front mark, bodyPlain (q :: qs) = front ++ [mark] ∧ isQuote mark = true := by
  induction qs generalizing q with
  | nil =>
    refine ⟨q.key.name ++ ':' :: q.mark :: q.value.toList, q.mark, ?_, q.isQuote_mark⟩
    simp [bodyPlain, plain, quoted]
  | cons r qs ih =>
    obtain ⟨front, mark, hplain, hmark⟩ := ih r
    refine ⟨q.plain ++ ',' :: front, mark, ?_, hmark⟩
    rw [List.append_assoc, List.cons_append, ← hplain]
    simp [bodyPlain]

/-- Nothing at the ends of the items is a blank or a parenthesis. -/
theorem dropParens_trim_bodyPlain (qs : List Quoted) :
    dropParens (trim (bodyPlain qs)) = bodyPlain qs := by
  cases qs with
  | nil => rfl
  | cons q qs =>
    -- The items start with a character of a word and end with a mark.
    obtain ⟨c, rest, hcons, hc⟩ := exists_bodyPlain_eq_cons q qs
    obtain ⟨front, mark, hconcat, hmark⟩ := exists_bodyPlain_eq_concat q qs
    have hblank : isBlank c = false := (Token.isWordChar_iff.1 hc).1
    have hblank' : isBlank mark = false :=
      eq_false_of_ne_true fun h => Text.not_isQuote_of_isBlank h hmark
    have htrim : trim (bodyPlain (q :: qs)) = bodyPlain (q :: qs) := by
      apply Text.trim_eq_self
      · simp [hcons, hblank]
      · simp [hconcat, hblank']
    have hopening : (bodyPlain (q :: qs)).head? ≠ some '(' := by
      rw [hcons, List.head?_cons]
      rintro ⟨⟩
      cases hc
    have hclosing : (bodyPlain (q :: qs)).getLast? ≠ some ')' := by
      rw [hconcat, List.getLast?_concat]
      rintro ⟨⟩
      cases hmark
    rw [htrim, dropParens, if_neg hopening]
    exact if_neg hclosing

/-- What is written down is read as the items. -/
theorem ofBlock_render_bodyTokens (qs : List Quoted) :
    ofBlock (Token.render (bodyTokens qs)) = qs.map toItem := by
  have hrender := renderChars_bodyTokens_append qs []
  rw [List.append_nil, Token.renderChars, List.append_nil] at hrender
  rw [ofBlock_eq_written, Token.render, String.toList_ofList, hrender, dropParens_trim_bodyPlain,
    written_bodyPlain]

/-! ### State declarations -/

/-- A parenthesis in a value is part of its text, not a token of its own. -/
theorem balanced_tokens_append {ts : List Token} (h : Grammar.Balanced ts) :
    Grammar.Balanced (q.tokens ++ ts) := by
  unfold tokens Token.quotedText
  refine .token (by simp) (by simp) (.token (by simp) (by simp) ?_)
  split
  · exact .token (by simp) (by simp) (.token (by simp) (by simp) h)
  · exact .token (by simp) (by simp) (.token (by simp) (by simp) (.token (by simp) (by simp) h))

theorem balanced_bodyTokens (qs : List Quoted) : Grammar.Balanced (bodyTokens qs) := by
  induction qs with
  | nil => exact .nil
  | cons q qs ih =>
    match qs with
    | [] =>
      have hbalanced := q.balanced_tokens_append .nil
      simpa [bodyTokens] using hbalanced
    | r :: qs =>
      have hbalanced := q.balanced_tokens_append (.token (t := comma) (by simp) (by simp) ih)
      simpa [bodyTokens] using hbalanced

/-- A state declaration with the items between its parentheses. -/
def source (state : WordText) (qs : List Quoted) : String :=
  "@" ++ state.text ++ "(" ++ body qs ++ ")"

theorem derives_source (state : WordText) (qs : List Quoted) :
    Grammar.Derives (Token.tokensOf (source state qs))
      [.state ⟨.ofList state.name, Token.render (bodyTokens qs), .point 0⟩] := by
  have hchars : (source state qs).toList =
      '@' :: (state.text.toList ++ '(' :: ((body qs).toList ++ [')'])) := by
    simp [source]
  rw [Token.tokensOf_eq_tokens, hchars, Token.tokens_mark rfl,
    state.tokens_append (Token.endsWord_cons rfl _), Token.tokens_mark rfl, tokens_body_append,
    Token.tokens_mark rfl]
  have hstate : Grammar.IsStatement
      (.atSign :: identifier state.name :: (.leftParen :: bodyTokens qs ++ [.rightParen]))
      (.state ⟨.ofList state.name, Token.render (bodyTokens qs), .point 0⟩) :=
    .state (.mk (balanced_bodyTokens qs))
  have hderives := Grammar.Derives.cons hstate .nil
  rw [List.append_nil] at hderives
  exact hderives

/-- A state declaration is read with the values that are written in it, whatever they hold: under
its name, as the document has it, are the items with their values unchanged. -/
theorem ofBlock_content (state : WordText) (qs : List Quoted) :
    ∃ document declared, Document.ofSource (source state qs) = .ok document ∧
      document.states.get? (.ofList state.name) = some declared ∧
      ofBlock declared.content = qs.map toItem ∧
      ∀ q ∈ qs, (∀ c ∈ q.key.text.toList, isBlank c = false) →
        q.toItem = ⟨q.key.text, q.value⟩ := by
  obtain ⟨statements, hread, hbare⟩ := Grammar.ofTokens_of_derives (derives_source state qs)
  obtain ⟨statement, rfl, hstatement⟩ := List.map_eq_singleton_iff.1 hbare
  cases statement with
  | connection _ | declaration _ _ => cases hstatement
  | state declared =>
    have hdeclared : declared.bare = _ := Statement.state.inj hstatement
    have hname : declared.name = .ofList state.name := congrArg StateDeclaration.name hdeclared
    have hcontent : declared.content = Token.render (bodyTokens qs) :=
      congrArg StateDeclaration.content hdeclared
    refine ⟨_, declared, Document.ofSource_eq_ok_iff.2 ⟨_, hread, rfl⟩, ?_, ?_, ?_⟩
    · rw [Document.ofStatements_eq, Document.get?_statesOf, ← hname]
      simp [Statement.state?]
    · rw [hcontent, ofBlock_render_bodyTokens]
    · intro q _ hblank
      rw [toItem, q.key.ofList_name_eq hblank]

/-- Values with marks of every kind in them, and an empty one. -/
theorem ofBlock_content_marks :
    ∃ document declared,
      Document.ofSource "@n(a-b: \"--> ), 'c': \x7b\n\",d:'')" = .ok document ∧
        document.states.get? "n" = some declared ∧
        ofBlock declared.content = [⟨"a-b", "--> ), 'c': \x7b\n"⟩, ⟨"d", ""⟩] := by
  let first : Quoted :=
    { key := ⟨"a-b", ['a', '-', 'b'], by decide +kernel⟩
      gap := " "
      isBlanks_gap := by simp [IsBlanks, isBlank]
      mark := '"'
      isQuote_mark := rfl
      value := "--> ), 'c': \x7b\n"
      mark_notMem := by decide }
  let second : Quoted :=
    { key := ⟨"d", ['d'], by decide +kernel⟩
      gap := ""
      isBlanks_gap := by simp [IsBlanks]
      mark := '\''
      isQuote_mark := rfl
      value := ""
      mark_notMem := by decide }
  obtain ⟨document, declared, hread, hdeclared, hitems, -⟩ :=
    ofBlock_content ⟨"n", ['n'], by decide +kernel⟩ [first, second]
  have hsource : source ⟨"n", ['n'], by decide +kernel⟩ [first, second] =
      "@n(a-b: \"--> ), 'c': \x7b\n\",d:'')" := by
    decide +kernel
  exact ⟨document, declared, hsource ▸ hread, hdeclared, hitems⟩

end Quoted

end BoxArrow.Item
