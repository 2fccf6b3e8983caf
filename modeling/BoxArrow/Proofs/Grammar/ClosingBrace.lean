import BoxArrow.Document
import BoxArrow.Proofs.Grammar.Occurrence
import BoxArrow.Proofs.Relocation.Reader

/-!
# One more closing brace

The readers look a few tokens ahead, and so they may come upon a brace that is put behind the source
wherever it ends. But no reader decides otherwise because of it: an arrow, a dot, a tag or a block
that the source leaves unfinished stays unfinished. Only the members of a container are read up to a
brace, and there it closes the container. So a source is a document if one more brace is one too
many, and it lacks a brace if one more brace makes it a document.

## Main definitions

* `Lexeme.withBrace` — the lexemes with a closing brace behind them
* `Grammar.Alike`, `Grammar.AlikeOrOpen` — what a reader makes of lexemes with and without the brace

## Main results

* `Grammar.closingOutcome_readAll` — the three ways in which a closing brace changes the outcome
* `Document.ofTokens_withBrace` — what the errors about braces say
-/

namespace BoxArrow

/-- Whether the error is about the braces of containers. -/
def SyntaxError.isAboutBraces (e : SyntaxError) : Bool :=
  e.code = .unmatchedBrace || e.code = .unterminatedContainer

theorem SyntaxError.advice_eq_add_brace_iff (e : SyntaxError) :
    e.advice = some "add `\x7d` to close the container" ↔ e.code = .unterminatedContainer := by
  cases e <;> simp [advice, code]

theorem SyntaxError.map_span_labels {e : SyntaxError} (h : e.code = .unmatchedBrace) :
    e.finding.labels.map Label.span = [e.place] := by
  cases e <;> first | rfl | cases h

theorem SyntaxError.code_ne_of_isAboutBraces {e : SyntaxError} (h : e.isAboutBraces = false) :
    e.code ≠ .unmatchedBrace ∧ e.code ≠ .unterminatedContainer := by
  simpa [isAboutBraces] using h

/-- The lexemes with a closing brace behind them. -/
def Lexeme.withBrace (b : Span) (ts : List Lexeme) : List Lexeme := ts ++ [⟨.rightBrace, b⟩]

namespace Grammar

open Lexeme (withBrace)

/-- The outcomes of a reader on lexemes and on those with a brace behind them: results that
correspond by `g`, or errors, neither of them about braces. -/
inductive Alike {α β : Type} (g : α → β) : Except SyntaxError α → Except SyntaxError β → Prop
  | ok (a : α) : Alike g (.ok a) (.ok (g a))
  | error {e e' : SyntaxError} (he : e.isAboutBraces = false) (he' : e'.isAboutBraces = false) :
      Alike g (.error e) (.error e')

namespace Alike

variable {α β γ δ : Type} {g : α → β} {h : γ → δ} {x : Except SyntaxError α}
  {x' : Except SyntaxError β}

theorem bind {k : α → Except SyntaxError γ} {k' : β → Except SyntaxError δ} (hx : Alike g x x')
    (hk : ∀ a, Alike h (k a) (k' (g a))) : Alike h (x >>= k) (x' >>= k') := by
  cases hx with
  | ok a => exact hk a
  | error he he' => exact .error he he'

theorem map {k : α → γ} {k' : β → δ} (hx : Alike g x x') (hk : ∀ a, k' (g a) = h (k a)) :
    Alike h (x.map k) (x'.map k') := by
  cases hx with
  | ok a =>
    change Alike h (.ok (k a)) (.ok (k' (g a)))
    rw [hk]
    exact .ok _
  | error he he' => exact .error he he'

theorem eq_ok {a : α} (hx : Alike g (.ok a) x') : x' = .ok (g a) := by
  cases hx
  rfl

theorem exists_eq_error {e : SyntaxError} (hx : Alike g (.error e) x') :
    e.isAboutBraces = false ∧ ∃ e', x' = .error e' ∧ e'.isAboutBraces = false := by
  cases hx with
  | error he he' => exact ⟨he, _, rfl, he'⟩

end Alike

/-- A reader that leaves lexemes behind gives the same result with a brace at their end, or errors
that are not about braces. -/
abbrev AlikeBefore {α : Type} (b : Span)
    (x x' : Except SyntaxError (α × List Lexeme)) : Prop :=
  Alike (Prod.map id (withBrace b)) x x'

variable {b : Span} (stop stop' : Span) (ts : List Lexeme)

/-! ### Blocks -/

theorem takeBlock_withBrace (b : Span) (depth : Nat) :
    takeBlock depth (withBrace b ts) =
      (takeBlock depth ts).map (Prod.map id (Prod.map id (withBrace b))) := by
  induction ts generalizing depth with
  | nil => cases depth <;> rfl
  | cons next ts ih =>
    obtain ⟨t, span⟩ := next
    have step (depth : Nat) : (takeBlock depth (withBrace b ts)).map (Prod.map (t :: ·) id) =
        ((takeBlock depth ts).map (Prod.map (t :: ·) id)).map
          (Prod.map id (Prod.map id (withBrace b))) := by
      rw [ih, Option.map_map, Option.map_map]
      rfl
    cases t with
    | rightParen =>
      cases depth with
      | zero => rfl
      | succ depth => exact step depth
    | leftParen => cases depth <;> exact step _
    | _ => cases depth <;> exact step _

theorem alike_readBlock (opened : Span) :
    Alike (Prod.map id (Prod.map id (withBrace b))) (readBlock stop opened ts)
      (readBlock stop' opened (withBrace b ts)) := by
  unfold readBlock
  rw [takeBlock_withBrace]
  cases takeBlock 0 ts with
  | none => exact .error rfl rfl
  | some result => exact .ok _

/-! ### Headings -/

theorem alike_readType (name : String) :
    AlikeBefore b (Heading.readType name ts) (Heading.readType name (withBrace b ts)) := by
  rcases ts with _ | ⟨⟨t, span⟩, _ | ⟨⟨t', span'⟩, ts⟩⟩
  · exact .ok _
  · cases t with
    | colon => exact .error rfl rfl
    | _ => exact .ok _
  · cases t with
    | colon =>
      cases t' with
      | identifier type => exact .ok _
      | _ => exact .error rfl rfl
    | _ => exact .ok _

theorem alike_readTag (name : String) :
    AlikeBefore b (Heading.readTag name ts) (Heading.readTag name (withBrace b ts)) := by
  rcases ts with _ | ⟨⟨t, span⟩, _ | ⟨⟨t', span'⟩, _ | ⟨⟨t'', span''⟩, ts⟩⟩⟩
  · exact .ok _
  · cases t with
    | atSign => exact .error rfl rfl
    | _ => exact .ok _
  · cases t with
    | atSign =>
      cases t' with
      | identifier tag => exact .ok _
      | _ => exact .error rfl rfl
    | _ => exact .ok _
  · cases t with
    | atSign =>
      cases t' with
      | identifier tag => cases t'' <;> exact .ok _
      | _ => exact .error rfl rfl
    | _ => exact .ok _

theorem alike_readHeading (name : String) (span : Span) :
    AlikeBefore b (Heading.read name span ts) (Heading.read name span (withBrace b ts)) :=
  (alike_readType ts name).bind fun ⟨_, ts⟩ => (alike_readTag ts name).bind fun _ => .ok _

/-! ### Connections and state declarations -/

theorem alike_readTargetAnchor (span : Span) :
    Alike (Prod.map id (Prod.map id (withBrace b))) (Connection.readTargetAnchor span ts)
      (Connection.readTargetAnchor span (withBrace b ts)) := by
  rcases ts with _ | ⟨⟨t, dot⟩, _ | ⟨⟨t', span'⟩, ts⟩⟩
  · exact .ok _
  · cases t with
    | dot => exact .error rfl rfl
    | _ => exact .ok _
  · cases t with
    | dot =>
      cases t' with
      | identifier anchor => exact .ok _
      | _ => exact .error rfl rfl
    | _ => exact .ok _

theorem alike_readStyle (span : Span) :
    Alike (Prod.map id (Prod.map id (withBrace b))) (Connection.readStyle stop span ts)
      (Connection.readStyle stop' span (withBrace b ts)) := by
  rcases ts with _ | ⟨⟨t, opened⟩, ts⟩
  · exact .ok _
  · cases t with
    | leftParen => exact (alike_readBlock stop stop' ts opened).bind fun _ => .ok _
    | _ => exact .ok _

theorem alike_readTarget (source : String) (span : Span) (anchor : String) (arrow : Span) :
    AlikeBefore b (Connection.readTarget stop source span anchor arrow ts)
      (Connection.readTarget stop' source span anchor arrow (withBrace b ts)) := by
  rcases ts with _ | ⟨⟨t, target⟩, ts⟩
  · exact .error rfl rfl
  · cases t with
    | identifier name =>
      exact (alike_readTargetAnchor ts _).bind fun ⟨_, span, ts⟩ =>
        (alike_readStyle stop stop' ts span).bind fun _ => .ok _
    | _ => exact .error rfl rfl

theorem alike_read? (source : String) (span : Span) :
    Option.Rel (AlikeBefore b) (Connection.read? stop source span ts)
      (Connection.read? stop' source span (withBrace b ts)) := by
  have harrow (anchor : String) (arrow : Span) (ts : List Lexeme) :=
    Option.Rel.some (alike_readTarget (b := b) stop stop' ts source span anchor arrow)
  rcases ts with _ | ⟨⟨t, s⟩, _ | ⟨⟨t', s'⟩, _ | ⟨⟨t'', s''⟩, ts⟩⟩⟩
  · exact .none
  · cases t with
    | arrow => exact harrow "" s []
    | _ => exact .none
  · cases t with
    | arrow => exact harrow "" s [⟨t', s'⟩]
    | dot =>
      -- A dot and an anchor at the end start no connection, and neither do they before a brace.
      cases t' with
      | arrow => exact .some (.error rfl rfl)
      | _ => exact .none
    | _ => exact .none
  · cases t with
    | arrow => exact harrow "" s (⟨t', s'⟩ :: ⟨t'', s''⟩ :: ts)
    | dot =>
      cases t' with
      | identifier anchor =>
        cases t'' with
        | arrow => exact harrow (.ofList anchor) s'' ts
        | _ => exact .none
      | arrow => exact .some (.error rfl rfl)
      | _ => exact .none
    | _ => exact .none

theorem alike_readState (start : Span) :
    AlikeBefore b (StateDeclaration.read stop start ts)
      (StateDeclaration.read stop' start (withBrace b ts)) := by
  rcases ts with _ | ⟨⟨t, s⟩, _ | ⟨⟨t', opened⟩, ts⟩⟩
  · exact .error rfl rfl
  · cases t <;> exact .error rfl rfl
  · cases t with
    | identifier name =>
      cases t' with
      | leftParen => exact (alike_readBlock stop stop' ts opened).bind fun _ => .ok _
      | _ => exact .error rfl rfl
    | _ => exact .error rfl rfl

/-! ### Members -/

theorem alike_readEnd (opened : Span) (heading : Heading) :
    AlikeBefore b (Member.readEnd opened heading ts)
      (Member.readEnd opened heading (withBrace b ts)) := by
  rcases ts with _ | ⟨⟨t, brace⟩, ts⟩
  · exact .ok _
  · cases t with
    | leftBrace => exact .error rfl rfl
    | _ => exact .ok _

theorem alike_readMember (opened : Span) (first : Lexeme) :
    AlikeBefore b (Member.read stop opened first ts)
      (Member.read stop' opened first (withBrace b ts)) := by
  obtain ⟨t, span⟩ := first
  cases t with
  | identifier name =>
    rw [memberRead_identifier, memberRead_identifier]
    have hconnection := alike_read? (b := b) stop stop' ts (.ofList name) span
    have hheading := alike_readHeading (b := b) ts (.ofList name) span
    generalize Connection.read? stop _ _ _ = c, Connection.read? stop' _ _ _ = c' at hconnection ⊢
    generalize Heading.read _ _ ts = h, Heading.read _ _ (withBrace b ts) = h' at hheading ⊢
    cases hconnection with
    | some hresult => exact hresult.map fun _ => rfl
    | none =>
      cases hheading with
      | error he he' => exact .error he he'
      | ok result => exact alike_readEnd result.2 opened result.1
  | atSign =>
    -- No member starts with a sign, so the errors differ at most in what they say.
    rcases ts with _ | ⟨⟨t, s⟩, _ | ⟨⟨t', s'⟩, ts⟩⟩
    · exact .error rfl rfl
    · cases t <;> exact .error rfl rfl
    · cases t with
      | identifier name => cases t' <;> exact .error rfl rfl
      | _ => exact .error rfl rfl
  | _ => exact .error rfl rfl

/-- The outcomes of a reader that may be in a container at the end: they are alike, or the lexemes
end in the container, and the brace closes it. -/
inductive AlikeOrOpen {α : Type} (b : Span) :
    Except SyntaxError (α × List Lexeme) → Except SyntaxError (α × List Lexeme) → Prop
  | alike {x x' : Except SyntaxError (α × List Lexeme)} (h : AlikeBefore b x x') :
      AlikeOrOpen b x x'
  | isOpen {e : SyntaxError} (a : α) (he : e.code = .unterminatedContainer) :
      AlikeOrOpen b (.error e) (.ok (a, []))

theorem AlikeOrOpen.map {α β : Type} {x x' : Except SyntaxError (α × List Lexeme)}
    (h : AlikeOrOpen b x x') (f : α → β) :
    AlikeOrOpen b (x.map (Prod.map f id)) (x'.map (Prod.map f id)) := by
  cases h with
  | alike h => exact .alike (h.map fun _ => rfl)
  | isOpen a he => exact .isOpen (f a) he

theorem AlikeOrOpen.eq_ok {α : Type} {a : α} {rest : List Lexeme}
    {x' : Except SyntaxError (α × List Lexeme)} (h : AlikeOrOpen b (.ok (a, rest)) x') :
    x' = .ok (a, withBrace b rest) := by
  cases h with
  | alike h => exact h.eq_ok

theorem alikeOrOpen_readMembers (opened : Span) :
    AlikeOrOpen b (Member.readAll stop opened ts)
      (Member.readAll stop' opened (withBrace b ts)) := by
  fun_induction Member.readAll stop opened ts with
  | case1 =>
    -- Only here does the brace make a difference, and it stands where the members end.
    have hclosed : Member.readAll stop' opened (withBrace b []) = .ok ([], []) := by
      rw [withBrace, List.nil_append, Member.readAll]
    rw [hclosed]
    exact .isOpen [] rfl
  | case2 span ts =>
    rw [withBrace, List.cons_append, Member.readAll]
    exact .alike (.ok ([], ts))
  | case3 first ts hbrace e hread =>
    have hmember := alike_readMember (b := b) stop stop' ts opened first
    rw [hread] at hmember
    obtain ⟨he, e', hread', he'⟩ := hmember.exists_eq_error
    rw [withBrace, List.cons_append, Member.readAll_cons _ _ (Member.ne_rightBrace hbrace),
      ← withBrace, hread']
    exact .alike (.error he he')
  | case4 first ts hbrace m rest hread ih =>
    have hmember := alike_readMember (b := b) stop stop' ts opened first
    rw [hread] at hmember
    rw [withBrace, List.cons_append, Member.readAll_cons _ _ (Member.ne_rightBrace hbrace),
      ← withBrace, hmember.eq_ok]
    exact ih.map (m :: ·)

/-! ### Statements -/

theorem alikeOrOpen_readBody (heading : Heading) :
    AlikeOrOpen b (Statement.readBody stop heading ts)
      (Statement.readBody stop' heading (withBrace b ts)) := by
  rcases ts with _ | ⟨⟨t, opened⟩, ts⟩
  · exact .alike (.ok _)
  · cases t with
    | leftBrace => exact (alikeOrOpen_readMembers stop stop' ts opened).map _
    | _ => exact .alike (.ok _)

theorem alikeOrOpen_readStatement {first : Lexeme} (hbrace : first.token ≠ .rightBrace) :
    AlikeOrOpen b (Statement.read stop first ts)
      (Statement.read stop' first (withBrace b ts)) := by
  obtain ⟨t, span⟩ := first
  cases t with
  | identifier name =>
    rw [statementRead_identifier, statementRead_identifier]
    have hconnection := alike_read? (b := b) stop stop' ts (.ofList name) span
    have hheading := alike_readHeading (b := b) ts (.ofList name) span
    generalize Connection.read? stop _ _ _ = c, Connection.read? stop' _ _ _ = c' at hconnection ⊢
    generalize Heading.read _ _ ts = h, Heading.read _ _ (withBrace b ts) = h' at hheading ⊢
    cases hconnection with
    | some hresult => exact .alike (hresult.map fun _ => rfl)
    | none =>
      cases hheading with
      | error he he' => exact .alike (.error he he')
      | ok result => exact alikeOrOpen_readBody stop stop' result.2 result.1
  | atSign => exact .alike ((alike_readState stop stop' ts span).map fun _ => rfl)
  | rightBrace => exact absurd rfl hbrace
  | _ => exact .alike (.error rfl rfl)

/-- The ways in which a brace behind lexemes changes the outcome of reading all of them. -/
inductive ClosingOutcome (b : Span) (ts : List Lexeme) :
    Except SyntaxError (List Statement) → Except SyntaxError (List Statement) → Prop
  /-- The lexemes are a document, and the brace is one too many. -/
  | complete (ss : List Statement) : ClosingOutcome b ts (.ok ss) (.error (.unmatchedBrace b))
  /-- The lexemes end in a container, and the brace closes it. -/
  | isOpen {e : SyntaxError} (ss : List Statement) (he : e.code = .unterminatedContainer) :
      ClosingOutcome b ts (.error e) (.ok ss)
  /-- The lexemes have another error, and the brace neither mends it nor is it at fault. -/
  | wrong {e e' : SyntaxError} (he : e.code ≠ .unterminatedContainer)
      (he' : e'.code = .unmatchedBrace → ∃ l ∈ ts, l.span = e'.place) :
      ClosingOutcome b ts (.error e) (.error e')

theorem ClosingOutcome.cons {rest : List Lexeme} {x x' : Except SyntaxError (List Statement)}
    (h : ClosingOutcome b rest x x') (hsub : rest ⊆ ts) (s : Statement) :
    ClosingOutcome b ts (x.map (s :: ·)) (x'.map (s :: ·)) := by
  cases h with
  | complete ss => exact .complete (s :: ss)
  | isOpen ss he => exact .isOpen (s :: ss) he
  | wrong he he' => exact .wrong he fun hcode => (he' hcode).imp fun l hl => ⟨hsub hl.1, hl.2⟩

/-- An error in the first statement is an error of the whole, unless the brace mends it. -/
theorem closingOutcome_of_readStatement {e : SyntaxError} {first : Lexeme}
    (hread : Statement.read stop first ts = .error e) :
    ClosingOutcome b (first :: ts) (.error e)
      (Statement.readAll stop' (withBrace b (first :: ts))) := by
  rw [withBrace, List.cons_append, Statement.readAll_cons, ← withBrace]
  by_cases hbrace : first.token = .rightBrace
  · obtain ⟨t, span⟩ := first
    cases hbrace
    cases hread
    exact .wrong Code.noConfusion fun _ => ⟨_, List.mem_cons_self, rfl⟩
  · have hstatement := alikeOrOpen_readStatement (b := b) stop stop' ts hbrace
    rw [hread] at hstatement
    generalize Statement.read stop' first (withBrace b ts) = x' at hstatement ⊢
    cases hstatement with
    | alike h =>
      obtain ⟨he, e', rfl, he'⟩ := h.exists_eq_error
      exact .wrong (SyntaxError.code_ne_of_isAboutBraces he).2 fun hcode =>
        absurd hcode (SyntaxError.code_ne_of_isAboutBraces he').1
    | isOpen s he =>
      -- Nothing stands behind the brace that closes the container.
      change ClosingOutcome b _ _ ((Statement.readAll stop' []).map (s :: ·))
      rw [Statement.readAll]
      exact .isOpen [s] he

theorem closingOutcome_readAll :
    ClosingOutcome b ts (Statement.readAll stop ts)
      (Statement.readAll stop' (withBrace b ts)) := by
  fun_induction Statement.readAll stop ts with
  | case1 =>
    change ClosingOutcome b [] _ (Statement.readAll stop' [⟨.rightBrace, b⟩])
    rw [Statement.readAll_cons]
    exact .complete []
  | case2 first ts e hread => exact closingOutcome_of_readStatement stop stop' ts hread
  | case3 first ts s rest hread ih =>
    have hbrace : first.token ≠ .rightBrace := by
      intro hbrace
      rw [Statement.read, hbrace] at hread
      cases hread
    have hstatement := alikeOrOpen_readStatement (b := b) stop stop' ts hbrace
    rw [hread] at hstatement
    rw [withBrace, List.cons_append, Statement.readAll_cons, ← withBrace, hstatement.eq_ok]
    exact ih.cons _ (List.subset_cons_of_subset _ (suffix_of_readStatement hread).subset) s

end Grammar

namespace Document

open Lexeme (withBrace)

/-- A closing brace behind a document, and only there, is unmatched; and it mends the one error that
says a closing brace is missing, which is reported nowhere else. -/
theorem ofTokens_withBrace (ts : List Lexeme) (b : Span) (hb : ∀ l ∈ ts, l.span ≠ b) :
    ((∃ document, ofTokens ts = .ok document) ↔
      ∃ e, ofTokens (withBrace b ts) = .error e ∧ e.finding.code = some .unmatchedBrace ∧
        e.finding.labels.map Label.span = [b]) ∧
    ((∃ e, ofTokens ts = .error e ∧ e.finding.code = some .unterminatedContainer) ↔
      ∃ document, ofTokens (withBrace b ts) = .ok document) ∧
    ∀ e, ofTokens ts = .error e →
      (e.finding.advice = some "add `\x7d` to close the container" ↔
        ∃ document, ofTokens (withBrace b ts) = .ok document) := by
  have h := Grammar.closingOutcome_readAll (b := b) (Statement.stopOf ts)
    (Statement.stopOf (withBrace b ts)) ts
  unfold ofTokens Statement.ofTokens
  generalize Statement.readAll _ ts = x, Statement.readAll _ (withBrace b ts) = x' at h ⊢
  cases h with
  | complete ss =>
    refine ⟨iff_of_true ⟨_, rfl⟩ ⟨_, rfl, rfl, rfl⟩, iff_of_false ?_ ?_, ?_⟩
    · rintro ⟨_, ⟨⟩, _⟩
    · rintro ⟨_, ⟨⟩⟩
    · rintro _ ⟨⟩
  | isOpen ss he =>
    refine ⟨iff_of_false ?_ ?_, iff_of_true ⟨_, rfl, congrArg some he⟩ ⟨_, rfl⟩, ?_⟩
    · rintro ⟨_, ⟨⟩⟩
    · rintro ⟨_, ⟨⟩, _⟩
    · rintro _ ⟨⟩
      exact iff_of_true ((SyntaxError.advice_eq_add_brace_iff _).2 he) ⟨_, rfl⟩
  | wrong he he' =>
    refine ⟨iff_of_false ?_ ?_, iff_of_false ?_ ?_, ?_⟩
    · rintro ⟨_, ⟨⟩⟩
    · rintro ⟨e, ⟨⟩, hcode, hlabels⟩
      have hcode := Option.some.inj hcode
      -- Only the lexemes before the brace may be reported, and none of them has its span.
      obtain ⟨l, hl, hspan⟩ := he' hcode
      rw [SyntaxError.map_span_labels hcode] at hlabels
      exact hb l hl (hspan.trans (List.cons.inj hlabels).1)
    · rintro ⟨e, ⟨⟩, hcode⟩
      exact he (Option.some.inj hcode)
    · rintro ⟨_, ⟨⟩⟩
    · rintro _ ⟨⟩
      refine iff_of_false (fun hadvice => he ((SyntaxError.advice_eq_add_brace_iff _).1 hadvice)) ?_
      rintro ⟨_, ⟨⟩⟩

/-- A source that ends in a container, behind a tag that could still open a state declaration. The
brace is not taken for a part of the tag, and closes the container. -/
theorem ofTokens_withBrace_tag :
    ∃ document, ofTokens (withBrace ⟨9, 10⟩ (Token.scan "v \x7b b @ s")) = .ok document := by
  have hopen : Statement.ofTokens (Token.scan "v \x7b b @ s") =
      .error (.unterminatedContainer ⟨9, 9⟩ ⟨2, 3⟩) := by decide +kernel
  exact (ofTokens_withBrace (Token.scan "v \x7b b @ s") ⟨9, 10⟩ (by decide +kernel)).2.1.1
    ⟨_, congrArg (Except.map ofStatements) hopen, rfl⟩

end Document

end BoxArrow
