import BoxArrow.Statement
import BoxArrow.Token

/-!
# The grammar of diagrams

Which lists of tokens stand for which statements, rule by rule and without a reader. A rule only
joins the tokens of its parts: it looks at no neighbour, makes no choice and reports no error. The
spans of statements are left open, since the grammar does not say where a statement stands.

## Main definitions

* `Grammar.Balanced` — tokens whose parentheses match
* `Grammar.IsConnection`, `Grammar.IsHeading` — the tokens of a connection and of a heading
* `Grammar.IsMember`, `Grammar.IsBody` — what stands between the braces of a container
* `Grammar.IsStatement` — the tokens of one statement of the top level
* `Grammar.Derives` — the tokens of a whole document, with its statements
-/

namespace BoxArrow.Grammar

/-- Tokens in which every parenthesis has its partner. -/
inductive Balanced : List Token → Prop
  | nil : Balanced []
  | token {t : Token} {ts : List Token} : t ≠ .leftParen → t ≠ .rightParen → Balanced ts →
      Balanced (t :: ts)
  | parens {inner ts : List Token} : Balanced inner → Balanced ts →
      Balanced (.leftParen :: inner ++ .rightParen :: ts)

/-- A block in parentheses, with the text of the tokens between them. -/
inductive IsBlock : List Token → String → Prop
  | mk {inner : List Token} : Balanced inner →
      IsBlock (.leftParen :: inner ++ [.rightParen]) (Token.render inner)

/-- One end of a connection: an identifier, and after a dot the text of an anchor. -/
inductive IsEnd : List Token → String → String → Prop
  | plain (name : List Char) : IsEnd [.identifier name] (.ofList name) ""
  | anchored (name anchor : List Char) :
      IsEnd [.identifier name, .dot, .identifier anchor] (.ofList name) (.ofList anchor)

/-- The block of a connection, which may be left out. -/
inductive IsStyle : List Token → String → Prop
  | absent : IsStyle [] ""
  | present {ts : List Token} {text : String} : IsBlock ts text → IsStyle ts text

/-- A connection: two ends with an arrow between them, and a block. -/
inductive IsConnection : List Token → Connection → Prop
  | mk {source target style : List Token} {a x b y text : String} {span : Span} :
      IsEnd source a x → IsEnd target b y → IsStyle style text →
      IsConnection (source ++ .arrow :: target ++ style)
        ⟨a, .ofText x, b, .ofText y, text, span⟩

/-- The type of a heading, which may be left out. -/
inductive IsType : List Token → Option String → Prop
  | absent : IsType [] none
  | present (name : List Char) : IsType [.colon, .identifier name] (some (.ofList name))

/-- The state tag of a heading, which may be left out. -/
inductive IsTag : List Token → Option String → Prop
  | absent : IsTag [] none
  | present (name : List Char) : IsTag [.atSign, .identifier name] (some (.ofList name))

/-- A heading: an identifier with a type and a state tag. -/
inductive IsHeading : List Token → Heading → Prop
  | mk {name : List Char} {types tags : List Token} {type tag : Option String} {span : Span} :
      IsType types type → IsTag tags tag →
      IsHeading (.identifier name :: types ++ tags) ⟨.ofList name, type, tag, span⟩

/-- What may stand in a body: a connection, or a heading without a body of its own. -/
inductive IsMember : List Token → Member → Prop
  | connection {ts : List Token} {c : Connection} : IsConnection ts c →
      IsMember ts (.connection c)
  | declaration {ts : List Token} {h : Heading} : IsHeading ts h → IsMember ts (.declaration h)

/-- Members, one after the other. -/
inductive AreMembers : List Token → List Member → Prop
  | nil : AreMembers [] []
  | cons {ts rest : List Token} {m : Member} {ms : List Member} : IsMember ts m →
      AreMembers rest ms → AreMembers (ts ++ rest) (m :: ms)

/-- The body of a declaration, which may be left out. -/
inductive IsBody : List Token → Option (List Member) → Prop
  | absent : IsBody [] none
  | present {ts : List Token} {ms : List Member} : AreMembers ts ms →
      IsBody (.leftBrace :: ts ++ [.rightBrace]) (some ms)

/-- A statement: a state declaration, a connection, or a declaration with or without a body. -/
inductive IsStatement : List Token → Statement → Prop
  | state {name : List Char} {ts : List Token} {text : String} {span : Span} : IsBlock ts text →
      IsStatement (.atSign :: .identifier name :: ts) (.state ⟨.ofList name, text, span⟩)
  | connection {ts : List Token} {c : Connection} : IsConnection ts c →
      IsStatement ts (.connection c)
  | declaration {head body : List Token} {h : Heading} {ms : Option (List Member)} :
      IsHeading head h → IsBody body ms → IsStatement (head ++ body) (.declaration h ms)

/-- A document: statements, one after the other. -/
inductive Derives : List Token → List Statement → Prop
  | nil : Derives [] []
  | cons {ts rest : List Token} {s : Statement} {ss : List Statement} : IsStatement ts s →
      Derives rest ss → Derives (ts ++ rest) (s :: ss)

/-- Two documents, one written after the other, are a document. -/
theorem Derives.append {ts ts' : List Token} {ss ss' : List Statement} (h : Derives ts ss)
    (h' : Derives ts' ss') : Derives (ts ++ ts') (ss ++ ss') := by
  induction h with
  | nil => exact h'
  | cons hs _ ih =>
    rw [List.append_assoc]
    exact .cons hs ih

end BoxArrow.Grammar
