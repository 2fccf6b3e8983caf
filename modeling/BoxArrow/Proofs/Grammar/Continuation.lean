import BoxArrow.Proofs.Grammar.Soundness
import BoxArrow.Proofs.Relocation.Reader

/-!
# Reading on

What the readers find in a list of lexemes that is a document does not change, spans included, if
more lexemes stand behind them, as long as these do not extend the last statement. So reading goes
on behind a document as if it started there.

## Main results

* `Statement.read_append` — a statement is read in the same way with more lexemes behind it
* `Statement.readAll_append` — statements are read behind a document as they are on their own
-/

namespace BoxArrow

open Grammar (EndsStatement)

variable {stop stop' : Span} {ts rest back : List Lexeme}

/-! ### Blocks -/

theorem takeBlock_append {depth : Nat} {tokens : List Token} {closed : Span} (back : List Lexeme)
    (h : takeBlock depth ts = some (tokens, closed, rest)) :
    takeBlock depth (ts ++ back) = some (tokens, closed, rest ++ back) := by
  induction ts generalizing depth tokens with
  | nil => cases h
  | cons next ts ih =>
    obtain ⟨t, span⟩ := next
    -- Whatever the depth, a parenthesis that does not close the block is one more token of it.
    have step {depth : Nat}
        (h : (takeBlock depth ts).map (Prod.map (t :: ·) id) = some (tokens, closed, rest)) :
        (takeBlock depth (ts ++ back)).map (Prod.map (t :: ·) id) =
          some (tokens, closed, rest ++ back) := by
      obtain ⟨⟨tokens', closed', rest'⟩, h', e⟩ := Option.map_eq_some_iff.1 h
      cases e
      rw [ih h']
      rfl
    cases t with
    | rightParen =>
      cases depth with
      | zero =>
        cases h
        rfl
      | succ depth => exact step h
    | leftParen => cases depth <;> exact step h
    | _ => cases depth <;> exact step h

theorem readBlock_append {opened block : Span} {content : String} (stop' : Span)
    (back : List Lexeme) (h : readBlock stop opened ts = .ok (content, block, rest)) :
    readBlock stop' opened (ts ++ back) = .ok (content, block, rest ++ back) := by
  unfold readBlock at h
  cases htake : takeBlock 0 ts with
  | none =>
    rw [htake] at h
    cases h
  | some result =>
    rw [htake] at h
    cases h
    rw [readBlock, takeBlock_append back htake]

/-! ### Headings -/

namespace Heading

theorem readType_append {name : String} {type : Option (String × Span)}
    (hback : EndsStatement back) (h : readType name ts = .ok (type, rest)) :
    readType name (ts ++ back) = .ok (type, rest ++ back) := by
  rcases ts with _ | ⟨⟨t, span⟩, _ | ⟨⟨t', span'⟩, ts⟩⟩
  · cases h
    rcases hback with _ | _ | _ | _ <;> rfl
  · cases t <;> cases h <;> rfl
  · cases t with
    | colon =>
      cases t' with
      | identifier type =>
        cases h
        rfl
      | _ => cases h
    | _ =>
      cases h
      rfl

theorem readTag_append {name : String} {tag : Option (String × Span)}
    (hback : EndsStatement back) (h : readTag name ts = .ok (tag, rest)) :
    readTag name (ts ++ back) = .ok (tag, rest ++ back) := by
  rcases ts with _ | ⟨⟨t, span⟩, _ | ⟨⟨t', span'⟩, _ | ⟨⟨t'', span''⟩, ts⟩⟩⟩
  · cases h
    rcases hback with _ | _ | _ | _ <;> rfl
  · cases t <;> cases h <;> rfl
  · cases t with
    | atSign =>
      -- A tag at the end is one, since no parenthesis follows.
      cases t' with
      | identifier tag =>
        cases h
        rcases hback with _ | _ | _ | _ <;> rfl
      | _ => cases h
    | _ =>
      cases h
      rfl
  · cases t with
    | atSign =>
      cases t' with
      | identifier tag => cases t'' <;> cases h <;> rfl
      | _ => cases h
    | _ =>
      cases h
      rfl

theorem read_append {name : String} {span : Span} {heading : Heading}
    (hback : EndsStatement back) (h : read name span ts = .ok (heading, rest)) :
    read name span (ts ++ back) = .ok (heading, rest ++ back) := by
  obtain ⟨⟨type, ts'⟩, htype, h⟩ := bind_eq_ok_iff.1 h
  obtain ⟨⟨tag, rest'⟩, htag, h⟩ := bind_eq_ok_iff.1 h
  cases h
  exact bind_eq_ok_iff.2 ⟨_, readType_append hback htype,
    bind_eq_ok_iff.2 ⟨_, readTag_append hback htag, rfl⟩⟩

end Heading

/-! ### Connections and state declarations -/

namespace Connection

theorem readTargetAnchor_append {span span' : Span} {anchor : String}
    (hback : EndsStatement back) (h : readTargetAnchor span ts = .ok (anchor, span', rest)) :
    readTargetAnchor span (ts ++ back) = .ok (anchor, span', rest ++ back) := by
  rcases ts with _ | ⟨⟨t, s⟩, _ | ⟨⟨t', s'⟩, ts⟩⟩
  · cases h
    rcases hback with _ | _ | _ | _ <;> rfl
  · cases t <;> cases h <;> rfl
  · cases t with
    | dot =>
      cases t' with
      | identifier anchor =>
        cases h
        rfl
      | _ => cases h
    | _ =>
      cases h
      rfl

theorem readStyle_append {span span' : Span} {style : String} (stop' : Span)
    (hback : EndsStatement back) (h : readStyle stop span ts = .ok (style, span', rest)) :
    readStyle stop' span (ts ++ back) = .ok (style, span', rest ++ back) := by
  rcases ts with _ | ⟨⟨t, opened⟩, ts⟩
  · cases h
    rcases hback with _ | _ | _ | _ <;> rfl
  · cases t with
    | leftParen =>
      obtain ⟨⟨content, block, rest'⟩, hblock, h⟩ := bind_eq_ok_iff.1 h
      cases h
      exact bind_eq_ok_iff.2 ⟨_, readBlock_append stop' back hblock, rfl⟩
    | _ =>
      cases h
      rfl

theorem readTarget_append {source anchor : String} {span arrow : Span} {c : Connection}
    (stop' : Span) (hback : EndsStatement back)
    (h : readTarget stop source span anchor arrow ts = .ok (c, rest)) :
    readTarget stop' source span anchor arrow (ts ++ back) = .ok (c, rest ++ back) := by
  rcases ts with _ | ⟨⟨t, target⟩, ts⟩
  · cases h
  · cases t with
    | identifier name =>
      obtain ⟨⟨targetAnchor, span', ts'⟩, hanchor, h⟩ := bind_eq_ok_iff.1 h
      obtain ⟨⟨style, span'', rest'⟩, hstyle, h⟩ := bind_eq_ok_iff.1 h
      cases h
      exact bind_eq_ok_iff.2 ⟨_, readTargetAnchor_append hback hanchor,
        bind_eq_ok_iff.2 ⟨_, readStyle_append stop' hback hstyle, rfl⟩⟩
    | _ => cases h

theorem read?_append {source : String} {span : Span} {c : Connection} (stop' : Span)
    (hback : EndsStatement back) (h : read? stop source span ts = some (.ok (c, rest))) :
    read? stop' source span (ts ++ back) = some (.ok (c, rest ++ back)) := by
  unfold read? at h
  split at h
  · exact congrArg some (readTarget_append stop' hback (Option.some.inj h))
  · cases h
  · exact congrArg some (readTarget_append stop' hback (Option.some.inj h))
  · cases h

/-- A name without a dot behind it is the source of no connection, whatever stands further
behind. -/
theorem read?_append_eq_none {source : String} {span : Span} (stop' : Span)
    (hback : EndsStatement back) (hdot : ∀ dot tail, ts ≠ ⟨.dot, dot⟩ :: tail)
    (h : read? stop source span ts = none) : read? stop' source span (ts ++ back) = none := by
  rcases ts with _ | ⟨⟨t, s⟩, ts⟩
  · rcases hback with _ | _ | _ | _ <;> rfl
  · cases t with
    | dot => exact absurd rfl (hdot s ts)
    | arrow => cases h
    | _ => rfl

end Connection

theorem StateDeclaration.read_append {start : Span} {state : StateDeclaration} (stop' : Span)
    (back : List Lexeme) (h : read stop start ts = .ok (state, rest)) :
    read stop' start (ts ++ back) = .ok (state, rest ++ back) := by
  unfold read at h
  split at h
  · obtain ⟨⟨content, block, rest'⟩, hblock, h⟩ := bind_eq_ok_iff.1 h
    cases h
    exact bind_eq_ok_iff.2 ⟨_, readBlock_append stop' back hblock, rfl⟩
  all_goals cases h

/-! ### Members and statements -/

/-- A dot behind a name stays where it is if no connection is read. -/
theorem Heading.read_dot (name : String) (span dot : Span) (tail : List Lexeme) :
    read name span (⟨.dot, dot⟩ :: tail) =
      .ok (⟨name, none, none, span⟩, ⟨.dot, dot⟩ :: tail) := rfl

/-- What stands behind a name starts with a dot only if what is behind its heading does. -/
theorem Heading.ne_dot_of_read {name : String} {span : Span} {heading : Heading}
    (hrest : ∀ dot tail, rest ≠ ⟨.dot, dot⟩ :: tail)
    (h : read name span ts = .ok (heading, rest)) (dot : Span) (tail : List Lexeme) :
    ts ≠ ⟨.dot, dot⟩ :: tail := by
  rintro rfl
  rw [read_dot] at h
  cases h
  exact hrest dot tail rfl

namespace Member

theorem readEnd_append {opened : Span} {heading : Heading} {m : Member}
    (hback : EndsStatement back) (h : readEnd opened heading ts = .ok (m, rest)) :
    rest = ts ∧ readEnd opened heading (ts ++ back) = .ok (m, rest ++ back) := by
  rcases ts with _ | ⟨⟨t, brace⟩, ts⟩
  · cases h
    rcases hback with _ | _ | _ | _ <;> exact ⟨rfl, rfl⟩
  · cases t <;> cases h <;> exact ⟨rfl, rfl⟩

/-- A member starts with a word. -/
theorem exists_identifier_of_read {opened : Span} {first : Lexeme} {m : Member}
    (h : read stop opened first ts = .ok (m, rest)) :
    ∃ name span, first = ⟨.identifier name, span⟩ := by
  obtain ⟨t, span⟩ := first
  unfold read at h
  split at h
  · cases h
  · rename_i name htoken
    cases htoken
    exact ⟨name, span, rfl⟩
  · cases h

theorem read_append {opened : Span} {first : Lexeme} {m : Member} (stop' : Span)
    (hback : EndsStatement back) (hrest : EndsStatement rest)
    (h : read stop opened first ts = .ok (m, rest)) :
    read stop' opened first (ts ++ back) = .ok (m, rest ++ back) := by
  obtain ⟨name, span, rfl⟩ := exists_identifier_of_read h
  rw [Grammar.memberRead_identifier] at h ⊢
  cases hconnection : Connection.read? stop (.ofList name) span ts with
  | some result =>
    rw [hconnection] at h
    obtain ⟨⟨c, rest'⟩, rfl, h⟩ := map_eq_ok_iff.1 h
    cases h
    rw [Connection.read?_append stop' hback hconnection]
    rfl
  | none =>
    rw [hconnection] at h
    cases hheading : Heading.read (.ofList name) span ts with
    | error e =>
      rw [hheading] at h
      cases h
    | ok result =>
      obtain ⟨heading, ts'⟩ := result
      rw [hheading] at h
      obtain ⟨rfl, hend⟩ := readEnd_append hback h
      -- No statement ends before a dot.
      have hdot := Heading.ne_dot_of_read (fun dot tail => by rintro rfl; cases hrest) hheading
      rw [Connection.read?_append_eq_none stop' hback hdot hconnection,
        Heading.read_append hback hheading]
      exact hend

/-- Members are read where a word stands, up to the brace that closes the container. -/
theorem endsStatement_of_readAll {opened : Span} {members : List Member}
    (h : readAll stop opened ts = .ok (members, rest)) : EndsStatement ts := by
  fun_cases readAll stop opened ts with
  | case1 => exact .nil
  | case2 span ts => exact .brace span ts
  | case3 first ts hbrace e hread =>
    rw [readAll_cons _ _ (ne_rightBrace hbrace), hread] at h
    cases h
  | case4 first ts hbrace m rest' hread =>
    obtain ⟨name, span, rfl⟩ := exists_identifier_of_read hread
    exact .word name span ts

theorem readAll_append {opened : Span} {members : List Member} (stop' : Span)
    (hback : EndsStatement back) (h : readAll stop opened ts = .ok (members, rest)) :
    readAll stop' opened (ts ++ back) = .ok (members, rest ++ back) := by
  fun_induction readAll stop opened ts generalizing members with
  | case1 => cases h
  | case2 span ts =>
    cases h
    rw [List.cons_append, readAll]
  | case3 => cases h
  | case4 first ts hbrace m rest' hread ih =>
    obtain ⟨⟨members', rest''⟩, hall, h⟩ := map_eq_ok_iff.1 h
    cases h
    have hnext := read_append stop' hback (endsStatement_of_readAll hall) hread
    obtain ⟨name, span, rfl⟩ := exists_identifier_of_read hread
    rw [List.cons_append, readAll_cons _ _ (by simp), hnext]
    exact map_eq_ok_iff.2 ⟨_, ih hall, rfl⟩

end Member

namespace Statement

theorem readBody_append {heading : Heading} {s : Statement} (stop' : Span)
    (hback : EndsStatement back) (h : readBody stop heading ts = .ok (s, rest)) :
    readBody stop' heading (ts ++ back) = .ok (s, rest ++ back) := by
  rcases ts with _ | ⟨⟨t, opened⟩, ts⟩
  · cases h
    rcases hback with _ | _ | _ | _ <;> rfl
  · cases t with
    | leftBrace =>
      obtain ⟨⟨members, rest'⟩, hall, h⟩ := map_eq_ok_iff.1 h
      cases h
      exact map_eq_ok_iff.2 ⟨_, Member.readAll_append stop' hback hall, rfl⟩
    | _ =>
      cases h
      rfl

/-- A statement is read in the same way with more lexemes behind it. -/
theorem read_append {first : Lexeme} {s : Statement} (stop' : Span)
    (hback : EndsStatement back) (hrest : EndsStatement rest)
    (h : read stop first ts = .ok (s, rest)) :
    read stop' first (ts ++ back) = .ok (s, rest ++ back) := by
  obtain ⟨t, span⟩ := first
  cases t with
  | identifier name =>
    rw [Grammar.statementRead_identifier] at h ⊢
    cases hconnection : Connection.read? stop (.ofList name) span ts with
    | some result =>
      rw [hconnection] at h
      obtain ⟨⟨c, rest'⟩, rfl, h⟩ := map_eq_ok_iff.1 h
      cases h
      rw [Connection.read?_append stop' hback hconnection]
      rfl
    | none =>
      rw [hconnection] at h
      cases hheading : Heading.read (.ofList name) span ts with
      | error e =>
        rw [hheading] at h
        cases h
      | ok result =>
        obtain ⟨heading, ts'⟩ := result
        rw [hheading] at h
        -- Only an anchor could make a connection of the heading and what is now behind it.
        have hdot := Heading.ne_dot_of_read
          (fun dot tail => by rintro rfl; cases h; cases hrest) hheading
        rw [Connection.read?_append_eq_none stop' hback hdot hconnection,
          Heading.read_append hback hheading]
        exact readBody_append stop' hback h
  | atSign =>
    obtain ⟨⟨state, rest'⟩, hstate, h⟩ := map_eq_ok_iff.1 h
    cases h
    exact map_eq_ok_iff.2 ⟨_, StateDeclaration.read_append stop' back hstate, rfl⟩
  | _ => cases h

/-- Statements are read behind a document as they are on their own. -/
theorem readAll_append {ss : List Statement} (stop' : Span) (hback : EndsStatement back)
    (h : readAll stop ts = .ok ss) :
    readAll stop' (ts ++ back) = (readAll stop' back).map (ss ++ ·) := by
  fun_induction readAll stop ts generalizing ss with
  | case1 =>
    cases h
    rw [List.nil_append]
    cases readAll stop' back <;> rfl
  | case2 => cases h
  | case3 first ts s rest' hread ih =>
    obtain ⟨ss', hall, rfl⟩ := map_eq_ok_iff.1 h
    -- What is behind the first statement is a document of its own.
    have hrest := Grammar.endsStatement_of_derives (Grammar.derives_of_readAll hall)
    rw [List.cons_append, readAll_cons, read_append stop' hback hrest hread]
    change (readAll stop' (rest' ++ back)).map _ = _
    rw [ih hall]
    cases readAll stop' back <;> rfl

end Statement

end BoxArrow
