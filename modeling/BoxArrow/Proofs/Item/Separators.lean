import BoxArrow.Proofs.Grammar.Blocks
import BoxArrow.Proofs.Token.Gaps

/-!
# Separators of a block

What is quoted is told twice: when a source is cut into tokens, and again when the text of a block
is split into items. The two agree. The text of a block is split at the commas that are tokens of
its own, and at no others, and the key of an item ends at its first colon that is a token. A comma
or a colon in quoted text belongs to the token of that text, and quoted text ends where its token
does.

## Main definitions

* `Text.findUnquoted?` — where a separator stands outside quoted text
* `Token.IsSeparatedAs` — a text is split where its tokens are

## Main results

* `Text.cut?_append_of_eq_none` — the search for a separator goes on with the mark that is open
* `Token.cut?_renderChars` — a separator is found where its token is
* `Token.isSeparatedAs_render` — tokens that are written down are split where they are
* `Grammar.isSeparatedAs_blocks` — and so are the blocks of a source
-/

namespace BoxArrow

namespace Text

/-- The byte of a text at which its first separator outside quoted text stands. -/
def findUnquoted? (separator : Char) (text : List Char) : Option Nat :=
  (cut? separator none text).map fun halves => byteLength halves.1

/-- Behind a text in which no separator is found, the search goes on with the mark that is open. -/
theorem cut?_append_of_eq_none {separator : Char} {mode : Option Char} {front : List Char}
    (h : cut? separator mode front = none) (back : List Char) :
    cut? separator mode (front ++ back) =
      (cut? separator (modeAfter mode front) back).map (Prod.map (front ++ ·) id) := by
  fun_induction cut? separator mode front with
  | case1 mode =>
    cases mode <;> exact (congrFun Option.map_id_fun _).symm
  | case2 front mark c ih =>
    rw [List.cons_append, cut?, ih (Option.map_eq_none_iff.1 h), modeAfter, Option.map_map]
    rfl
  | case3 c front hquote ih =>
    rw [List.cons_append, cut?, if_pos hquote, ih (Option.map_eq_none_iff.1 h), modeAfter,
      if_pos hquote, Option.map_map]
    rfl
  | case4 => cases h
  | case5 c front hquote hseparator ih =>
    rw [List.cons_append, cut?, if_neg hquote, if_neg hseparator,
      ih (Option.map_eq_none_iff.1 h), modeAfter, if_neg hquote, Option.map_map]
    rfl

/-- Nothing separates in quoted text that is not closed. -/
theorem cut?_some_eq_none {separator mark : Char} {text : List Char} (h : mark ∉ text) :
    cut? separator (some mark) text = none := by
  induction text with
  | nil => rfl
  | cons c text ih =>
    obtain ⟨hc, htext⟩ := not_or.1 (List.mem_cons.not.1 h)
    rw [cut?, if_neg fun e => hc e.symm, ih htext]
    rfl

end Text

namespace Token

open Text (cut? splitUnquoted findUnquoted? modeAfter isQuote IsPlain)

/-- A text is split where its tokens are. It falls into the parts that are written between its
commas, and in each part the first colon outside quoted text is the first one among its tokens. -/
structure IsSeparatedAs (text : String) (tokens : List Token) : Prop where
  text_eq : text = render tokens
  parts : splitUnquoted ',' text.toList = (tokens.splitOn comma).map renderChars
  colon : ∀ part ∈ tokens.splitOn comma, findUnquoted? ':' (renderChars part) =
    if Token.colon ∈ part then
      some (Text.byteLength (renderChars (part.takeWhile (· ≠ Token.colon))))
    else none

variable {c : Char} {t separator : Token} {ts before after : List Token} {name : List Char}
  {mode : Option Char}

/-! ### Parts of lists of tokens -/

theorem IsLexical.tail (h : IsLexical mode (t :: ts)) : IsLexical (markBehind mode t) ts := by
  cases h with
  | word _ h | arrow h | opening _ h | closing h => exact h
  | mark hmark h =>
    rw [markBehind_of_not_isQuoted (isQuoted_ofMark? hmark)]
    exact h
  | quoted _ _ h => exact .closing h
  | unclosed => exact .nil _

/-- What stands behind some tokens starts with the mark that they leave open. -/
theorem IsLexical.right (h : IsLexical mode (before ++ after)) :
    IsLexical (markAfter mode before) after := by
  induction before generalizing mode with
  | nil => exact h
  | cons t before ih => exact ih h.tail

/-- A mark stands outside quoted text. -/
theorem IsLexical.of_mark (h : IsLexical mode (t :: ts)) (hmark : ofMark? c = some t) :
    mode = none ∧ IsLexical none ts := by
  have hquoted := isQuoted_ofMark? hmark
  cases h with
  | mark _ h => exact ⟨rfl, h⟩
  | word _ h | arrow h => exact ⟨rfl, h⟩
  | opening | closing | quoted | unclosed => cases hquoted

theorem IsLexical.behind_mark (h : IsLexical mode (before ++ t :: after))
    (hmark : ofMark? c = some t) : IsLexical none after :=
  (h.right.of_mark hmark).2

/-- The mark that is open behind some tokens is open behind what is written for them. -/
theorem modeAfter_renderChars (h : IsLexical mode ts) :
    modeAfter mode (renderChars ts) = markAfter mode ts := by
  rw [← markAfter_pieces, tokens_renderChars h]

/-! ### Where separators are found -/

theorem renderChars_cons_cons (left right : Token) (ts : List Token) :
    renderChars (left :: right :: ts) =
      left.chars ++ (gap left right ++ renderChars (right :: ts)) :=
  List.append_assoc ..

theorem renderChars_append_cons (ht : t.isWord = false) (before after : List Token) :
    renderChars (before ++ t :: after) = renderChars before ++ (t.chars ++ renderChars after) := by
  induction before with
  | nil => exact renderChars_cons ht after
  | cons first before ih =>
    cases before with
    | nil =>
      have hgap : gap first t = [] := by simp [gap, ht]
      rw [List.singleton_append, renderChars_cons_cons, hgap, renderChars_cons ht, renderChars]
      rfl
    | cons second before =>
      rw [List.cons_append, List.cons_append, renderChars_cons_cons, ← List.cons_append, ih,
        renderChars_cons_cons, List.append_assoc, List.append_assoc]

theorem isPlain_gap (hc : ofMark? c = some separator) (left right : Token) :
    IsPlain c (gap left right) := by
  unfold gap
  split
  · refine List.forall_mem_singleton.2 ⟨rfl, ?_⟩
    rintro rfl
    cases hc
  · exact fun _ h => absurd h List.not_mem_nil

theorem isPlain_word (hc : ofMark? c = some separator) (h : IsWord name) : IsPlain c name := by
  intro d hd
  obtain ⟨-, hquote, hmark⟩ := isWordChar_iff.1 (h.isWordChar_of_mem d hd)
  refine ⟨hquote, ?_⟩
  rintro rfl
  cases hc.symm.trans hmark

/-- Without its token no separator is found. -/
theorem cut?_renderChars_eq_none (hc : ofMark? c = some separator) (h : IsLexical mode ts)
    (hmem : separator ∉ ts) : cut? c mode (renderChars ts) = none := by
  -- The tokens are taken off as they can follow each other, with the mark that is open before each.
  induction h with
  | nil mode => cases mode <;> rfl
  | @word name ts hname _ ih =>
    have hrest := ih (List.not_mem_of_not_mem_cons hmem)
    cases ts with
    | nil =>
      have hword := Text.cut?_append_left (isPlain_word hc hname) []
      rwa [List.append_nil, cut?, Option.map_none] at hword
    | cons next ts =>
      rw [renderChars_cons_cons]
      change cut? c none (name ++ _) = none
      rw [Text.cut?_append_left (isPlain_word hc hname),
        Text.cut?_append_left (isPlain_gap hc _ next), hrest]
      rfl
  | @mark d t ts hmark _ ih =>
    have hne : d ≠ c := by
      rintro rfl
      cases hc.symm.trans hmark
      exact hmem List.mem_cons_self
    rw [renderChars_cons (ne_identifier_of_ofMark? hmark), chars_ofMark? hmark,
      List.singleton_append, cut?, if_neg (by simp [isQuote_of_ofMark? hmark]), if_neg hne,
      ih (List.not_mem_of_not_mem_cons hmem)]
    rfl
  | @arrow ts _ ih =>
    have harrow : IsPlain c arrow.chars := by
      intro d hd
      have hd' : d = '-' ∨ d = '>' := by simpa [chars] using hd
      rcases hd' with rfl | rfl <;> refine ⟨rfl, ?_⟩ <;> rintro rfl <;> cases hc
    rw [renderChars_cons rfl, Text.cut?_append_left harrow, ih (List.not_mem_of_not_mem_cons hmem)]
    rfl
  | @opening d ts hquote _ ih =>
    rw [renderChars_cons rfl]
    change cut? c none (d :: renderChars ts) = none
    rw [cut?, if_pos hquote, ih (List.not_mem_of_not_mem_cons hmem)]
    rfl
  | @closing d ts _ ih =>
    rw [renderChars_cons rfl]
    change cut? c (some d) (d :: renderChars ts) = none
    rw [cut?, if_pos rfl, ih (List.not_mem_of_not_mem_cons hmem)]
    rfl
  | @quoted d content ts _ hcontent _ ih =>
    have hmem' := List.not_mem_of_not_mem_cons (List.not_mem_of_not_mem_cons hmem)
    rw [renderChars_cons rfl, renderChars_cons rfl]
    change cut? c (some d) (content ++ d :: renderChars ts) = none
    rw [Text.cut?_some_append hcontent, ih hmem']
    rfl
  | unclosed _ hcontent => exact Text.cut?_some_eq_none hcontent

/-- A separator is found where its first token is. -/
theorem cut?_renderChars (hc : ofMark? c = some separator)
    (h : IsLexical mode (before ++ separator :: after)) (hmem : separator ∉ before) :
    cut? c mode (renderChars (before ++ separator :: after)) =
      some (renderChars before, renderChars after) := by
  have hnone := cut?_renderChars_eq_none hc h.left hmem
  have hopen : modeAfter mode (renderChars before) = none := by
    rw [modeAfter_renderChars h.left]
    exact (h.right.of_mark hc).1
  rw [renderChars_append_cons (ne_identifier_of_ofMark? hc), chars_ofMark? hc,
    Text.cut?_append_of_eq_none hnone, hopen, List.singleton_append, cut?,
    if_neg (by simp [isQuote_of_ofMark? hc]), if_pos rfl, Option.map_some]
  simp

theorem findUnquoted?_renderChars (hc : ofMark? c = some separator) (h : IsLexical none ts) :
    findUnquoted? c (renderChars ts) =
      if separator ∈ ts then
        some (Text.byteLength (renderChars (ts.takeWhile (· ≠ separator))))
      else none := by
  unfold findUnquoted?
  split
  · rename_i hmem
    obtain ⟨before, after, rfl, hbefore⟩ := List.eq_append_cons_of_mem hmem
    have hfirst : (before ++ separator :: after).takeWhile (· ≠ separator) = before := by
      have hne : ∀ t ∈ before, decide (t ≠ separator) = true := fun t ht =>
        decide_eq_true (ne_of_mem_of_not_mem ht hbefore)
      rw [List.takeWhile_append_of_pos hne, List.takeWhile_cons_of_neg (by simp), List.append_nil]
    rw [cut?_renderChars hc h hbefore, hfirst]
    rfl
  · rename_i hmem
    rw [cut?_renderChars_eq_none hc h hmem]
    rfl

/-! ### Parts between separators -/

/-- A list of tokens is split at its first separator, and so is what stands behind it. -/
theorem splitOn_induction (separator : Token) {motive : List Token → Prop}
    (single : ∀ ts, separator ∉ ts → motive ts)
    (cons : ∀ before after, separator ∉ before → motive after →
      motive (before ++ separator :: after)) (ts : List Token) : motive ts := by
  by_cases hmem : separator ∈ ts
  · obtain ⟨before, after, hts, hbefore⟩ := List.eq_append_cons_of_mem hmem
    rw [hts]
    exact cons before after hbefore (splitOn_induction separator single cons after)
  · exact single ts hmem
termination_by ts.length
decreasing_by
  rw [hts, List.length_append, List.length_cons]
  omega

theorem isLexical_of_mem_splitOn (hc : ofMark? c = some separator) (h : IsLexical none ts) :
    ∀ part ∈ ts.splitOn separator, IsLexical none part := by
  induction ts using splitOn_induction separator with
  | single ts hmem =>
    rw [List.splitOn_eq_singleton hmem]
    exact List.forall_mem_singleton.2 h
  | cons before after hmem ih =>
    rw [List.splitOn_append_cons_self_of_not_mem hmem]
    exact List.forall_mem_cons.2 ⟨h.left, ih (h.behind_mark hc)⟩

/-- What is written for some tokens is split into what is written for their parts. -/
theorem splitUnquoted_renderChars (hc : ofMark? c = some separator) (h : IsLexical none ts) :
    splitUnquoted c (renderChars ts) = (ts.splitOn separator).map renderChars := by
  induction ts using splitOn_induction separator with
  | single ts hmem =>
    rw [Text.splitUnquoted_of_eq_none (cut?_renderChars_eq_none hc h hmem),
      List.splitOn_eq_singleton hmem]
    rfl
  | cons before after hmem ih =>
    rw [Text.splitUnquoted_of_eq_some (cut?_renderChars hc h hmem), ih (h.behind_mark hc),
      List.splitOn_append_cons_self_of_not_mem hmem]
    rfl

/-- Tokens that a text can have are written down as a text that is split where they are. -/
theorem isSeparatedAs_render (h : IsLexical none ts) : IsSeparatedAs (render ts) ts where
  text_eq := rfl
  parts := by rw [render, String.toList_ofList, splitUnquoted_renderChars rfl h]
  colon part hpart :=
    findUnquoted?_renderChars rfl (isLexical_of_mem_splitOn (c := ',') rfl h part hpart)

end Token

namespace Grammar

open Token (IsSeparatedAs)

variable {source : String}

/-- The blocks of a source that is accepted are split where their tokens are: the block of every
state declaration and of every connection falls into the parts between the commas among the tokens
that stand between its parentheses, and the first colon of a part is the first one among its
tokens. -/
theorem isSeparatedAs_blocks {statements : List Statement}
    (h : Statement.ofTokens (Token.scan source) = .ok statements) :
    (∀ s, .state s ∈ statements → ∃ place : StatePlace (Token.scan source) s,
      IsSeparatedAs s.content (place.block.inner.map Lexeme.token)) ∧
    ∀ c ∈ (Document.ofStatements statements).connections,
      ∃ place : ConnectionPlace (Token.scan source) c,
        IsSeparatedAs c.style (Block.innerOf place.block) := by
  have hordered := Lexeme.areOrdered_scan source
  rw [Document.ofStatements_eq]
  -- The content of a block is its tokens written down, and tokens between parentheses are lexical.
  constructor
  · intro s hs
    obtain ⟨place⟩ := nonempty_statePlace hordered h hs
    refine ⟨place, ?_⟩
    have hplace := place.lexemes_eq
    rw [place.content_eq]
    apply Token.isSeparatedAs_render
    apply isLexical_inner (place.before ++ [_, _]) place.after
    simpa using hplace
  · intro c hc
    obtain ⟨place⟩ := nonempty_connectionPlace_of_mem hordered h hc
    refine ⟨place, ?_⟩
    have hplace := place.lexemes_eq
    rw [place.style_eq]
    cases hblock : place.block with
    | none => exact Token.isSeparatedAs_render (.nil none)
    | some block =>
      rw [hblock] at hplace
      exact Token.isSeparatedAs_render (isLexical_inner _ _ hplace)

/-- Commas and colons in quoted text of both kinds, one mark inside the other, and quoted text with
nothing in it. -/
theorem isSeparatedAs_blocks_quoted :
    ∃ source statements, source = "@n(k: 'a, \"b: c', \"\", d: \"x's: y\")\nb-->c(color: 'a,b')" ∧
      Statement.ofTokens (Token.scan source) = .ok statements ∧
      (∀ s, .state s ∈ statements → ∃ place : StatePlace (Token.scan source) s,
        IsSeparatedAs s.content (place.block.inner.map Lexeme.token)) ∧
      ∀ c ∈ (Document.ofStatements statements).connections,
        ∃ place : ConnectionPlace (Token.scan source) c,
          IsSeparatedAs c.style (Block.innerOf place.block) := by
  have hread : Statement.ofTokens (Token.scan
      "@n(k: 'a, \"b: c', \"\", d: \"x's: y\")\nb-->c(color: 'a,b')") =
        .ok [.state ⟨"n", "k:'a, \"b: c',\"\",d:\"x's: y\"", ⟨0, 34⟩⟩,
          .connection ⟨"b", .ofText "", "c", .ofText "", "color:'a,b'", ⟨35, 54⟩⟩] := by
    decide +kernel
  exact ⟨_, _, rfl, hread, isSeparatedAs_blocks hread⟩

end Grammar

end BoxArrow
