import BoxArrow.Proofs.Grammar.Completeness
import BoxArrow.Proofs.Grammar.Soundness
import BoxArrow.Proofs.Token.Lines

/-!
# Passages on lines of their own

A source can be put together from passages that can be read alone, each on lines of its own. Its
statements are those of the passages, in the same order. No quoted text of a passage runs into the
next one, since no statement of the grammar ends inside quoted text.

## Main definitions

* `Passage` — a source that can be read alone, with its statements
* `Passage.join` — passages on lines of their own

## Main results

* `Passage.ofTokens_join` — the statements of passages that are put together
-/

namespace BoxArrow

open Token (endsQuoted)

namespace Grammar

/-! ### No statement ends inside quoted text -/

theorem endsQuoted_of_isBlock {ts : List Token} {text : String} (h : IsBlock ts text) (b : Bool) :
    endsQuoted b ts = false := by
  obtain ⟨hinner⟩ := h
  rw [Token.endsQuoted_append]
  rfl

theorem endsQuoted_of_isEnd {ts : List Token} {name anchor : String} (h : IsEnd ts name anchor)
    (b : Bool) : endsQuoted b ts = false := by
  cases h <;> rfl

theorem endsQuoted_of_isConnection {ts : List Token} {c : Connection} (h : IsConnection ts c)
    (b : Bool) : endsQuoted b ts = false := by
  obtain ⟨hsource, htarget, hstyle⟩ := h
  rw [Token.endsQuoted_append]
  cases hstyle with
  | absent =>
    rw [Token.endsQuoted_append, Token.endsQuoted_cons]
    exact endsQuoted_of_isEnd htarget _
  | present hblock => exact endsQuoted_of_isBlock hblock _

theorem endsQuoted_of_isHeading {ts : List Token} {h : Heading} (hh : IsHeading ts h) (b : Bool) :
    endsQuoted b ts = false := by
  obtain ⟨htype, htag⟩ := hh
  cases htype <;> cases htag <;> rfl

theorem endsQuoted_of_isStatement {ts : List Token} {s : Statement} (h : IsStatement ts s)
    (b : Bool) : endsQuoted b ts = false := by
  cases h with
  | state hblock => exact endsQuoted_of_isBlock hblock _
  | connection hc => exact endsQuoted_of_isConnection hc b
  | declaration hh hbody =>
    rw [Token.endsQuoted_append, endsQuoted_of_isHeading hh]
    cases hbody with
    | absent => rfl
    | present _ =>
      rw [Token.endsQuoted_append]
      rfl

/-- A document ends outside quoted text. -/
theorem endsQuoted_of_derives {ts : List Token} {ss : List Statement} (h : Derives ts ss) :
    endsQuoted false ts = false := by
  induction h with
  | nil => rfl
  | cons hs _ ih => rw [Token.endsQuoted_append, endsQuoted_of_isStatement hs, ih]

end Grammar

/-- A source that can be read alone. -/
structure Passage where
  source : String
  statements : List Statement
  ofTokens_scan : Statement.ofTokens (Token.scan source) = .ok statements

namespace Passage

/-- The source that is made of passages on lines of their own. -/
def join (passages : List Passage) : String := "\n".intercalate (passages.map source)

theorem derives (p : Passage) :
    Grammar.Derives ((Token.scan p.source).map Lexeme.token) p.statements :=
  Grammar.derives_of_ofTokens p.ofTokens_scan

theorem derives_join (passages : List Passage) :
    Grammar.Derives ((Token.scan (join passages)).map Lexeme.token)
      (passages.flatMap statements) := by
  induction passages with
  | nil => exact .nil
  | cons p passages ih =>
    rw [List.flatMap_cons]
    match passages with
    | [] =>
      rw [List.flatMap_nil, List.append_nil]
      exact p.derives
    | q :: passages =>
      have hjoin : join (p :: q :: passages) = p.source ++ "\n" ++ join (q :: passages) :=
        String.intercalate_cons_cons
      rw [hjoin, Token.map_token_scan_append (Grammar.endsQuoted_of_derives p.derives)]
      exact p.derives.append ih

/-- The statements of passages that are put together are those of the passages, up to places. -/
theorem ofTokens_join (passages : List Passage) :
    ∃ ss, Statement.ofTokens (Token.scan (join passages)) = .ok ss ∧
      ss.map Statement.bare = (passages.flatMap statements).map Statement.bare :=
  Grammar.ofTokens_of_derives (derives_join passages)

end Passage

end BoxArrow
