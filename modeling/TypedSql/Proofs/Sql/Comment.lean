import TypedSql.Proofs.Sql.Token

namespace TypedSql.Sql

/-! Comments.  Two dashes side by side, or a slash before an asterisk, take away what follows them;
inside of a quoted region they are text like any other. -/

/-- Two characters that open a comment where they stand side by side. -/
def OpensComment (first second : Char) : Prop :=
  first = '-' ∧ second = '-' ∨ first = '/' ∧ second = '*'

/-- A comment is opened outside of the quoted regions. -/
def HasComment (ts : List Token) : Prop :=
  ∃ before first second after,
    ts = before ++ .char first :: .char second :: after ∧ OpensComment first second

/-- The end of one list of tokens and the beginning of another open a comment. -/
def Joins (ts us : List Token) : Prop :=
  ∃ first second,
    ts.getLast? = some (.char first) ∧ us.head? = some (.char second) ∧ OpensComment first second

variable {ts us : List Token} {t : Token}

theorem not_hasComment_nil : ¬HasComment [] := by
  rintro ⟨before, first, second, after, hsplit, -⟩
  have hlength := congrArg List.length hsplit
  simp at hlength

theorem hasComment_cons : HasComment (t :: ts) ↔ Joins [t] ts ∨ HasComment ts := by
  constructor
  · rintro ⟨before, first, second, after, hsplit, hopens⟩
    cases before with
    | nil =>
        cases hsplit
        exact .inl ⟨first, second, rfl, rfl, hopens⟩
    | cons u before =>
        cases hsplit
        exact .inr ⟨before, first, second, after, rfl, hopens⟩
  · rintro (⟨first, second, hlast, hhead, hopens⟩ | ⟨before, first, second, after, rfl, hopens⟩)
    · obtain rfl := Option.some.inj hlast
      obtain ⟨rest, rfl⟩ := List.head?_eq_some_iff.mp hhead
      exact ⟨[], first, second, rest, rfl, hopens⟩
    · exact ⟨t :: before, first, second, after, rfl, hopens⟩

theorem not_hasComment_singleton (t : Token) : ¬HasComment [t] := by
  rintro ⟨before, first, second, after, hsplit, -⟩
  have hlength := congrArg List.length hsplit
  simp at hlength
  omega

/-- Beyond what opens comments in its halves, a list of tokens has one where they meet at most. -/
theorem hasComment_append :
    HasComment (ts ++ us) ↔ HasComment ts ∨ HasComment us ∨ Joins ts us := by
  induction ts with
  | nil =>
      have hapart : ¬Joins [] us := by
        rintro ⟨first, second, hlast, -⟩
        cases hlast
      simp [not_hasComment_nil, hapart]
  | cons t ts ih =>
      rw [List.cons_append, hasComment_cons, hasComment_cons, ih]
      cases ts with
      | nil =>
          have hempty : ¬Joins [t] [] := by
            rintro ⟨first, second, -, hhead, -⟩
            cases hhead
          have hapart : ¬Joins [] us := by
            rintro ⟨first, second, hlast, -⟩
            cases hlast
          simp [not_hasComment_nil, hempty, hapart, or_comm]
      | cons u ts =>
          have hinner : Joins [t] (u :: ts ++ us) ↔ Joins [t] (u :: ts) := Iff.rfl
          have houter : Joins (t :: u :: ts) us ↔ Joins (u :: ts) us := by simp [Joins]
          rw [hinner, houter, or_assoc]

def isClear (c : Char) : Bool :=
  c != '-' && c != '/' && c != '*'

def IsClear (ts : List Token) : Prop :=
  ∀ c, .char c ∈ ts → isClear c

theorem isClear_append : IsClear (ts ++ us) ↔ IsClear ts ∧ IsClear us := by
  simp only [IsClear, List.mem_append, or_imp, forall_and]

theorem not_opensComment_left {first : Char} (hclear : isClear first) (second : Char) :
    ¬OpensComment first second := by
  rintro (⟨rfl, -⟩ | ⟨rfl, -⟩) <;> cases hclear

theorem not_opensComment_right {second : Char} (hclear : isClear second) (first : Char) :
    ¬OpensComment first second := by
  rintro (⟨-, rfl⟩ | ⟨-, rfl⟩) <;> cases hclear

theorem OpensComment.isClear_left {first second : Char} (hopens : OpensComment first second) :
    isClear first = false :=
  eq_false_of_ne_true fun hclear => not_opensComment_left hclear second hopens

theorem OpensComment.isClear_right {first second : Char} (hopens : OpensComment first second) :
    isClear second = false :=
  eq_false_of_ne_true fun hclear => not_opensComment_right hclear first hopens

theorem IsClear.not_hasComment (hclear : IsClear ts) : ¬HasComment ts := by
  rintro ⟨before, first, second, after, rfl, hopens⟩
  exact not_opensComment_left (hclear first (by simp)) second hopens

theorem IsClear.not_joins_left (hclear : IsClear ts) (us : List Token) : ¬Joins ts us := by
  rintro ⟨first, second, hlast, -, hopens⟩
  exact not_opensComment_left (hclear first (List.mem_of_getLast? hlast)) second hopens

/-- What begins with a clear character, or is empty, or begins with a region. -/
def BeginsClear (ts : List Token) : Prop :=
  ∀ c, ts.head? = some (.char c) → isClear c

theorem IsClear.begins (hclear : IsClear ts) : BeginsClear ts :=
  fun c hhead => hclear c (List.mem_of_mem_head? hhead)

theorem IsClear.begins_append (hclear : IsClear ts) (hsome : ts ≠ []) (us : List Token) :
    BeginsClear (ts ++ us) := by
  intro c hhead
  rw [List.head?_append_of_ne_nil _ hsome] at hhead
  exact hclear.begins c hhead

theorem BeginsClear.append (hts : BeginsClear ts) (hus : BeginsClear us) :
    BeginsClear (ts ++ us) := by
  cases ts with
  | nil => exact hus
  | cons t ts => exact hts

theorem BeginsClear.not_joins (hbegins : BeginsClear us) (ts : List Token) : ¬Joins ts us := by
  rintro ⟨first, second, -, hhead, hopens⟩
  exact not_opensComment_right (hbegins second hhead) first hopens

theorem IsClear.hasComment_append_iff (hclear : IsClear ts) :
    HasComment (ts ++ us) ↔ HasComment us := by
  rw [hasComment_append, or_iff_right hclear.not_hasComment, or_iff_left (hclear.not_joins_left us)]

theorem BeginsClear.hasComment_append_iff (hbegins : BeginsClear us) :
    HasComment (ts ++ us) ↔ HasComment ts ∨ HasComment us := by
  rw [hasComment_append, or_iff_left (hbegins.not_joins ts)]

end TypedSql.Sql
