import BoxArrow.Proofs.Grammar.Completeness
import BoxArrow.Proofs.Token.Concatenation

/-!
# Reading in other places

The readers decide by the tokens alone. Spans are only taken over and covered, so that lexemes in
other places are read as the same statements in other places, or as the same error in another place,
if moving spans keeps what they cover.

## Main definitions

* `SyntaxError.relocate` — the error with its spans moved
* `relocateOutcome` — the outcome of a reader with its spans moved

## Main results

* `Statement.readAll_relocate` — moved lexemes are read as moved statements
-/

namespace BoxArrow

/-- The error with its spans moved. -/
def SyntaxError.relocate (f : Span → Span) : SyntaxError → SyntaxError
  | unexpectedToken found place => unexpectedToken found (f place)
  | missingBlock name place => missingBlock name (f place)
  | endsBeforeStateName place => endsBeforeStateName (f place)
  | endsBeforeBlock place => endsBeforeBlock (f place)
  | nestedContainer place opened => nestedContainer (f place) (f opened)
  | unmatchedBrace place => unmatchedBrace (f place)
  | unterminatedContainer place opened => unterminatedContainer (f place) (f opened)
  | unterminatedBlock place opened => unterminatedBlock (f place) (f opened)
  | stateInContainer place opened => stateInContainer (f place) (f opened)
  | missingType name place => missingType name (f place)
  | missingTag name place => missingTag name (f place)
  | missingStateName place => missingStateName (f place)
  | missingTarget place => missingTarget (f place)
  | missingAnchor place => missingAnchor (f place)

/-- The outcome of a reader with its spans moved, by `g` those of a result. -/
def relocateOutcome {α β : Type} (f : Span → Span) (g : α → β) :
    Except SyntaxError α → Except SyntaxError β
  | .ok a => .ok (g a)
  | .error e => .error (e.relocate f)

section Outcome

variable {α β γ δ : Type} {f : Span → Span}

theorem relocateOutcome_bind {g : α → β} {h : γ → δ} {x : Except SyntaxError α}
    {k : α → Except SyntaxError γ} {k' : β → Except SyntaxError δ}
    (hk : ∀ a, k' (g a) = relocateOutcome f h (k a)) :
    (relocateOutcome f g x >>= k') = relocateOutcome f h (x >>= k) := by
  cases x with
  | ok a => exact hk a
  | error e => rfl

theorem relocateOutcome_map {g : α → β} {h : γ → δ} {x : Except SyntaxError α} {k : α → γ}
    {k' : β → δ} (hk : ∀ a, k' (g a) = h (k a)) :
    (relocateOutcome f g x).map k' = relocateOutcome f h (x.map k) := by
  cases x with
  | ok a => exact congrArg Except.ok (hk a)
  | error e => rfl

end Outcome

variable {f : Span → Span} (stop : Span) (ts : List Lexeme)

theorem takeBlock_relocate (depth : Nat) :
    takeBlock depth (ts.map (.relocate f)) =
      (takeBlock depth ts).map (Prod.map id (Prod.map f (List.map (.relocate f)))) := by
  induction ts generalizing depth with
  | nil => rfl
  | cons next ts ih =>
    obtain ⟨t, span⟩ := next
    have step (depth : Nat) : (takeBlock depth (ts.map (.relocate f))).map
        (Prod.map (t :: ·) id) = ((takeBlock depth ts).map (Prod.map (t :: ·) id)).map
          (Prod.map id (Prod.map f (List.map (.relocate f)))) := by
      rw [ih, Option.map_map, Option.map_map]
      rfl
    cases t with
    | rightParen =>
      cases depth with
      | zero => rfl
      | succ depth => exact step depth
    | leftParen => cases depth <;> exact step _
    | _ => cases depth <;> exact step _

section Union

variable (hunion : ∀ a b, f (a.union b) = (f a).union (f b))

include hunion

theorem readBlock_relocate (opened : Span) :
    readBlock (f stop) (f opened) (ts.map (.relocate f)) =
      relocateOutcome f (Prod.map id (Prod.map f (List.map (.relocate f))))
        (readBlock stop opened ts) := by
  unfold readBlock
  rw [takeBlock_relocate]
  cases takeBlock 0 ts with
  | none => rfl
  | some result =>
    change _ = Except.ok (_, f (opened.union result.2.1), _)
    rw [hunion]
    rfl

namespace Heading

omit hunion in
theorem readType_relocate (name : String) :
    readType name (ts.map (.relocate f)) =
      relocateOutcome f (Prod.map (Option.map (Prod.map id f)) (List.map (.relocate f)))
        (readType name ts) := by
  rcases ts with _ | ⟨⟨t, span⟩, _ | ⟨⟨t', span'⟩, ts⟩⟩
  · rfl
  · cases t <;> rfl
  · cases t <;> first | rfl | (cases t' <;> rfl)

omit hunion in
theorem readTag_relocate (name : String) :
    readTag name (ts.map (.relocate f)) =
      relocateOutcome f (Prod.map (Option.map (Prod.map id f)) (List.map (.relocate f)))
        (readTag name ts) := by
  rcases ts with _ | ⟨⟨t, span⟩, _ | ⟨⟨t', span'⟩, _ | ⟨⟨t'', span''⟩, ts⟩⟩⟩
  · rfl
  · cases t <;> rfl
  · cases t <;> first | rfl | (cases t' <;> rfl)
  · cases t <;> first | rfl | (cases t' <;> first | rfl | (cases t'' <;> rfl))

theorem cover_relocate (span : Span) (part : Option (String × Span)) :
    cover (f span) (part.map (Prod.map id f)) = f (cover span part) := by
  cases part with
  | none => rfl
  | some part => exact (hunion span part.2).symm

theorem read_relocate (name : String) (span : Span) :
    read name (f span) (ts.map (.relocate f)) =
      relocateOutcome f (Prod.map (relocate f) (List.map (.relocate f))) (read name span ts) := by
  unfold read
  rw [readType_relocate]
  refine relocateOutcome_bind fun ⟨type, ts⟩ => ?_
  dsimp only [Prod.map]
  rw [readTag_relocate]
  refine relocateOutcome_bind fun ⟨tag, ts⟩ => ?_
  dsimp only [Prod.map]
  rw [cover_relocate hunion, cover_relocate hunion]
  cases type <;> cases tag <;> rfl

end Heading

namespace Connection

theorem readTargetAnchor_relocate (span : Span) :
    readTargetAnchor (f span) (ts.map (.relocate f)) =
      relocateOutcome f (Prod.map id (Prod.map f (List.map (.relocate f))))
        (readTargetAnchor span ts) := by
  rcases ts with _ | ⟨⟨t, dot⟩, _ | ⟨⟨t', span'⟩, ts⟩⟩
  · rfl
  · cases t <;> rfl
  · cases t with
    | dot =>
      cases t' with
      | identifier anchor =>
        change _ = Except.ok (_, f (span.union span'), _)
        rw [hunion]
        rfl
      | _ => rfl
    | _ => rfl

theorem readStyle_relocate (span : Span) :
    readStyle (f stop) (f span) (ts.map (.relocate f)) =
      relocateOutcome f (Prod.map id (Prod.map f (List.map (.relocate f))))
        (readStyle stop span ts) := by
  rcases ts with _ | ⟨⟨t, opened⟩, ts⟩
  · rfl
  · cases t with
    | leftParen =>
      change (readBlock (f stop) (f opened) (ts.map (.relocate f)) >>= _) =
        relocateOutcome f _ (readBlock stop opened ts >>= _)
      rw [readBlock_relocate stop ts hunion]
      refine relocateOutcome_bind fun ⟨content, block, ts⟩ => ?_
      change _ = Except.ok (_, f (span.union block), _)
      rw [hunion]
      rfl
    | _ => rfl

theorem readTarget_relocate (source : String) (span : Span) (anchor : String) (arrow : Span) :
    readTarget (f stop) source (f span) anchor (f arrow) (ts.map (.relocate f)) =
      relocateOutcome f (Prod.map (relocate f) (List.map (.relocate f)))
        (readTarget stop source span anchor arrow ts) := by
  rcases ts with _ | ⟨⟨t, target⟩, ts⟩
  · rfl
  · cases t with
    | identifier name =>
      change (readTargetAnchor ((f span).union (f target)) (ts.map (.relocate f)) >>= _) =
        relocateOutcome f _ (readTargetAnchor (span.union target) ts >>= _)
      rw [← hunion, readTargetAnchor_relocate ts hunion]
      refine relocateOutcome_bind fun ⟨targetAnchor, span, ts⟩ => ?_
      dsimp only [Prod.map]
      rw [readStyle_relocate stop ts hunion]
      exact relocateOutcome_bind fun _ => rfl
    | _ => rfl

theorem read?_relocate (source : String) (span : Span) :
    read? (f stop) source (f span) (ts.map (.relocate f)) =
      (read? stop source span ts).map
        (relocateOutcome f (Prod.map (relocate f) (List.map (.relocate f)))) := by
  have harrow (arrow : Span) (ts : List Lexeme) :=
    congrArg some (readTarget_relocate stop ts hunion source span "" arrow)
  -- The reader looks at three lexemes ahead, for an arrow behind the name or behind an anchor.
  rcases ts with _ | ⟨⟨t, s⟩, _ | ⟨⟨t', s'⟩, _ | ⟨⟨t'', s''⟩, ts⟩⟩⟩
  · rfl
  · cases t with
    | arrow => exact harrow s []
    | _ => rfl
  · cases t with
    | arrow => exact harrow s [⟨t', s'⟩]
    | dot => cases t' <;> rfl
    | _ => rfl
  · cases t with
    | arrow => exact harrow s (⟨t', s'⟩ :: ⟨t'', s''⟩ :: ts)
    | dot =>
      cases t' with
      | identifier anchor =>
        cases t'' with
        | arrow =>
          exact congrArg some (readTarget_relocate stop ts hunion source span (.ofList anchor) s'')
        | _ => rfl
      | _ => rfl
    | _ => rfl

end Connection

theorem StateDeclaration.read_relocate (start : Span) :
    read (f stop) (f start) (ts.map (.relocate f)) =
      relocateOutcome f (Prod.map (relocate f) (List.map (.relocate f))) (read stop start ts) := by
  rcases ts with _ | ⟨⟨t, s⟩, _ | ⟨⟨t', opened⟩, ts⟩⟩
  · rfl
  · cases t <;> rfl
  · cases t with
    | identifier name =>
      cases t' with
      | leftParen =>
        change (readBlock (f stop) (f opened) (ts.map (.relocate f)) >>= _) =
          relocateOutcome f _ (readBlock stop opened ts >>= _)
        rw [readBlock_relocate stop ts hunion]
        refine relocateOutcome_bind fun ⟨content, block, ts⟩ => ?_
        change _ = Except.ok (StateDeclaration.mk _ _ (f (start.union block)), _)
        rw [hunion]
        rfl
      | _ => rfl
    | _ => rfl

/-! ### Members and statements -/

namespace Member

omit hunion in
theorem readEnd_relocate (opened : Span) (heading : Heading) :
    readEnd (f opened) (heading.relocate f) (ts.map (.relocate f)) =
      relocateOutcome f (Prod.map (relocate f) (List.map (.relocate f)))
        (readEnd opened heading ts) := by
  rcases ts with _ | ⟨⟨t, brace⟩, ts⟩
  · rfl
  · cases t <;> rfl

theorem read_relocate (opened : Span) (first : Lexeme) :
    read (f stop) (f opened) (first.relocate f) (ts.map (.relocate f)) =
      relocateOutcome f (Prod.map (relocate f) (List.map (.relocate f)))
        (read stop opened first ts) := by
  obtain ⟨t, span⟩ := first
  cases t with
  | identifier name =>
    rw [Lexeme.relocate, Grammar.memberRead_identifier, Grammar.memberRead_identifier]
    dsimp only
    rw [Connection.read?_relocate stop ts hunion, Heading.read_relocate ts hunion]
    cases Connection.read? stop (.ofList name) span ts with
    | some result => exact relocateOutcome_map fun _ => rfl
    | none =>
      cases Heading.read (.ofList name) span ts with
      | error e => rfl
      | ok result => exact readEnd_relocate result.2 opened result.1
  | atSign =>
    rcases ts with _ | ⟨⟨t, s⟩, _ | ⟨⟨t', s'⟩, ts⟩⟩
    · rfl
    · cases t <;> rfl
    · cases t with
      | identifier name => cases t' <;> rfl
      | _ => rfl
  | _ => rfl

omit hunion in
theorem readAll_cons {opened : Span} {first : Lexeme} (hbrace : first.token ≠ .rightBrace) :
    readAll stop opened (first :: ts) =
      read stop opened first ts >>= fun result =>
        (readAll stop opened result.2).map (Prod.map (result.1 :: ·) id) := by
  rw [readAll]
  · split <;> rename_i hread <;> rw [hread] <;> rfl
  · rintro span rfl
    exact hbrace rfl

omit hunion in
theorem ne_rightBrace {first : Lexeme} (h : ∀ span, first = ⟨.rightBrace, span⟩ → False) :
    first.token ≠ .rightBrace := by
  obtain ⟨t, span⟩ := first
  rintro rfl
  exact h span rfl

theorem readAll_relocate (opened : Span) :
    readAll (f stop) (f opened) (ts.map (.relocate f)) =
      relocateOutcome f (Prod.map (List.map (relocate f)) (List.map (.relocate f)))
        (readAll stop opened ts) := by
  fun_induction readAll stop opened ts with
  | case1 =>
    rw [List.map_nil, readAll]
    rfl
  | case2 span ts =>
    rw [List.map_cons, Lexeme.relocate, readAll]
    rfl
  | case3 first ts hbrace e hread =>
    have hne : (first.relocate f).token ≠ .rightBrace := (ne_rightBrace hbrace :)
    rw [List.map_cons, readAll_cons _ _ hne,
      read_relocate stop ts hunion, hread]
    rfl
  | case4 first ts hbrace m rest hread ih =>
    have hne : (first.relocate f).token ≠ .rightBrace := (ne_rightBrace hbrace :)
    rw [List.map_cons, readAll_cons _ _ hne,
      read_relocate stop ts hunion, hread]
    change (readAll (f stop) (f opened) (rest.map (.relocate f))).map _ = _
    rw [ih]
    exact relocateOutcome_map fun _ => rfl

end Member

namespace Statement

omit hunion in
theorem readAll_cons (first : Lexeme) :
    readAll stop (first :: ts) =
      read stop first ts >>= fun result => (readAll stop result.2).map (result.1 :: ·) := by
  rw [readAll]
  split <;> rename_i hread <;> rw [hread] <;> rfl

theorem readBody_relocate (heading : Heading) :
    readBody (f stop) (heading.relocate f) (ts.map (.relocate f)) =
      relocateOutcome f (Prod.map (relocate f) (List.map (.relocate f)))
        (readBody stop heading ts) := by
  rcases ts with _ | ⟨⟨t, opened⟩, ts⟩
  · rfl
  · cases t with
    | leftBrace =>
      change (Member.readAll (f stop) (f opened) (ts.map (.relocate f))).map _ =
        relocateOutcome f _ ((Member.readAll stop opened ts).map _)
      rw [Member.readAll_relocate stop ts hunion]
      exact relocateOutcome_map fun _ => rfl
    | _ => rfl

theorem read_relocate (first : Lexeme) :
    read (f stop) (first.relocate f) (ts.map (.relocate f)) =
      relocateOutcome f (Prod.map (relocate f) (List.map (.relocate f)))
        (read stop first ts) := by
  obtain ⟨t, span⟩ := first
  cases t with
  | identifier name =>
    rw [Lexeme.relocate, Grammar.statementRead_identifier, Grammar.statementRead_identifier]
    dsimp only
    rw [Connection.read?_relocate stop ts hunion, Heading.read_relocate ts hunion]
    cases Connection.read? stop (.ofList name) span ts with
    | some result => exact relocateOutcome_map fun _ => rfl
    | none =>
      cases Heading.read (.ofList name) span ts with
      | error e => rfl
      | ok result => exact readBody_relocate stop result.2 hunion result.1
  | atSign =>
    change (StateDeclaration.read (f stop) (f span) (ts.map (.relocate f))).map _ =
      relocateOutcome f _ ((StateDeclaration.read stop span ts).map _)
    rw [StateDeclaration.read_relocate stop ts hunion]
    exact relocateOutcome_map fun _ => rfl
  | _ => rfl

/-- Moved lexemes are read as moved statements, or as the same error in another place. -/
theorem readAll_relocate :
    readAll (f stop) (ts.map (.relocate f)) =
      relocateOutcome f (List.map (relocate f)) (readAll stop ts) := by
  fun_induction readAll stop ts with
  | case1 =>
    rw [List.map_nil, readAll]
    rfl
  | case2 first ts e hread =>
    rw [List.map_cons, readAll_cons, read_relocate stop ts hunion, hread]
    rfl
  | case3 first ts s rest hread ih =>
    rw [List.map_cons, readAll_cons, read_relocate stop ts hunion, hread]
    change (readAll (f stop) (rest.map (.relocate f))).map _ = _
    rw [ih]
    exact relocateOutcome_map fun _ => rfl

end Statement

end Union

end BoxArrow
