import BoxArrow.Proofs.Grammar.Occurrence
import BoxArrow.Proofs.Token.Lexical

/-!
# Sources and blocks read again

The tokens of a source, written one behind the other, are a source with the same tokens: nothing
runs together, and a space stands only where two words would. This holds for the text of a block as
well, although it is only a part of what was read: a block opens outside quoted text.

## Main definitions

* `Token.normalized` — a source with its tokens written one behind the other

## Main results

* `Grammar.tokensOf_text` — the text of a block of a source has the tokens of that block
* `Grammar.tokensOf_normalized_blocks` — sources and their blocks are read again as they were
-/

namespace BoxArrow

namespace Token

/-- A source with its tokens written one behind the other. -/
def normalized (source : String) : String := render (tokensOf source)

theorem tokensOf_normalized (source : String) : tokensOf (normalized source) = tokensOf source :=
  tokensOf_render (isLexical_scan source)

theorem normalized_normalized (source : String) :
    normalized (normalized source) = normalized source :=
  congrArg render (tokensOf_normalized source)

end Token

namespace Grammar

open Token (tokensOf normalized)

variable {source : String}

/-- What stands between the parentheses of a block might be a source of its own. -/
theorem isLexical_inner (before after : List Lexeme) {block : Block}
    (h : Token.scan source = before ++ block.lexemes ++ after) :
    Token.IsLexical none (block.inner.map Lexeme.token) := by
  have hlexical := Token.isLexical_scan source
  rw [tokensOf, h, Block.lexemes] at hlexical
  simp only [List.map_append, List.map_cons, List.append_assoc, List.cons_append,
    List.nil_append] at hlexical
  exact hlexical.between

/-- The text of a block of a source has the tokens of that block. -/
theorem tokensOf_text (before after : List Lexeme) {block : Block}
    (h : Token.scan source = before ++ block.lexemes ++ after) :
    tokensOf block.text = block.inner.map Lexeme.token :=
  Token.tokensOf_render (isLexical_inner before after h)

/-- The tokens between the parentheses of a block, none if it is left out. -/
def Block.innerOf (block : Option Block) : List Token :=
  block.elim [] fun block => block.inner.map Lexeme.token

theorem tokensOf_textOf (before after : List Lexeme) {block : Option Block}
    (h : Token.scan source = before ++ Block.lexemesOf block ++ after) :
    tokensOf (Block.textOf block) = Block.innerOf block := by
  cases block with
  | none => rfl
  | some block => exact tokensOf_text before after h

/-- A source that is written down from its tokens has the same tokens. In a source that is accepted,
the text of every state declaration and of every connection has the tokens that stand between its
parentheses in the source. -/
theorem tokensOf_normalized_blocks (source : String) :
    tokensOf (normalized source) = tokensOf source ∧
      normalized (normalized source) = normalized source ∧
      ∀ statements, Statement.ofTokens (Token.scan source) = .ok statements →
        (∀ s ∈ (Document.ofStatements statements).states.values, .state s ∈ statements) ∧
        (∀ s, .state s ∈ statements → ∃ place : StatePlace (Token.scan source) s,
          tokensOf s.content = place.block.inner.map Lexeme.token) ∧
        ∀ c ∈ (Document.ofStatements statements).connections,
          ∃ place : ConnectionPlace (Token.scan source) c,
            tokensOf c.style = Block.innerOf place.block := by
  refine ⟨Token.tokensOf_normalized source, Token.normalized_normalized source, ?_⟩
  intro statements hread
  have hordered := Lexeme.areOrdered_scan source
  rw [Document.ofStatements_eq]
  refine ⟨fun s hs => Document.mem_of_mem_values_statesOf hs, ?_, ?_⟩
  · intro s hs
    obtain ⟨place⟩ := nonempty_statePlace hordered hread hs
    refine ⟨place, ?_⟩
    have hplace := place.lexemes_eq
    rw [place.content_eq]
    apply tokensOf_text (place.before ++ [_, _]) place.after
    simpa using hplace
  · intro c hc
    obtain ⟨place⟩ := nonempty_connectionPlace_of_mem hordered hread hc
    refine ⟨place, ?_⟩
    rw [place.style_eq]
    exact tokensOf_textOf _ _ place.lexemes_eq

/-- A block with quoted parentheses, an arrow, words and parentheses of its own, and a quoted
parenthesis in a style. -/
theorem tokensOf_normalized_blocks_quoted :
    ∃ source statements, source = "@n ( k : '--> )' , f ( two  words ) )\nb-->c ( \"(\" )" ∧
      Statement.ofTokens (Token.scan source) = .ok statements ∧
      (∀ s, .state s ∈ statements → ∃ place : StatePlace (Token.scan source) s,
        tokensOf s.content = place.block.inner.map Lexeme.token) ∧
      ∀ c ∈ (Document.ofStatements statements).connections,
        ∃ place : ConnectionPlace (Token.scan source) c,
          tokensOf c.style = Block.innerOf place.block := by
  have hread : Statement.ofTokens (Token.scan
      "@n ( k : '--> )' , f ( two  words ) )\nb-->c ( \"(\" )") =
        .ok [.state ⟨"n", "k:'--> )',f(two words)", ⟨0, 37⟩⟩,
          .connection ⟨"b", .ofText "", "c", .ofText "", "\"(\"", ⟨38, 51⟩⟩] := by
    decide +kernel
  exact ⟨_, _, rfl, hread, ((tokensOf_normalized_blocks _).2.2 _ hread).2⟩

end Grammar

end BoxArrow
