import TypedSql.Proofs.Query.Meaning
import TypedSql.Writer.Render

namespace TypedSql

namespace Select

/-- The select without ORDER BY, LIMIT and OFFSET. -/
def unpaged (s : Select) : Select :=
  { s with orderBy := [], limit := none, offset := none }

def filtered (s : Select) : Select :=
  { ofSource s.source with filter := s.filter }

/-- Whether the select makes one row of all that it takes from its source. -/
def isSummary (s : Select) : Bool :=
  s.groupBy.isEmpty && (s.having.isSome || s.items.any (·.expression.aggregates))

/-- Whether the select keeps its shape when its rows are counted. -/
def isCountedInPlace (s : Select) : Bool :=
  !s.distinct && s.groupBy.isEmpty && s.source.isSome

end Select

section

variable {V : Type} [DecidableEq V] {m : Meaning V} {outer : Sight V}

namespace Selection

variable {p : Selection V}

theorem length_rows (hdistinct : p.distinct = false) (hlimit : p.limit = none)
    (hoffset : p.offset = none) : p.rows.length = p.moments.length := by
  simp [rows, hdistinct, hlimit, hoffset]

def summary (p : Selection V) : Moment V := ⟨p.kept.headD p.nulls, p.kept⟩

theorem moments_of_isFolded (hkeys : p.keys = none) (hfolded : p.isFolded = true) :
    p.moments = [p.summary].filter p.having := by
  simp [moments, summary, hkeys, hfolded]

theorem length_moments_of_not_isFolded (hkeys : p.keys = none) (hfolded : p.isFolded = false)
    (hhaving : ∀ mo, p.having mo = true) : p.moments.length = p.kept.length := by
  have hall (moments : List (Moment V)) : moments.filter p.having = moments :=
    List.filter_eq_self.mpr fun mo _ => hhaving mo
  simp [moments, hkeys, hfolded, hall]

end Selection

namespace Select

theorem length_rows_filtered (s : Select) :
    (s.filtered.rows m outer).length = (s.unpaged.selection m outer).kept.length := by
  rw [rows_eq, Selection.length_rows rfl rfl rfl]
  exact Selection.length_moments_of_not_isFolded rfl rfl fun _ => rfl

theorem length_rows_unpaged_of_isSummary {s : Select} (hdistinct : s.distinct = false)
    (hsummary : s.isSummary = true) :
    (s.unpaged.rows m outer).length =
      ([(s.unpaged.selection m outer).summary].filter (Expr.holds m s.having)).length := by
  obtain ⟨hgroup, hfolded⟩ := Bool.and_eq_true _ _ ▸ hsummary
  rw [rows_eq, Selection.length_rows hdistinct rfl rfl, Selection.moments_of_isFolded]
  · rfl
  · exact if_pos hgroup
  · simp only [selection, unpaged, hfolded, Bool.true_or]

theorem plain_of_not_isSummary {s : Select} (hgroup : s.groupBy.isEmpty = true)
    (hsummary : s.isSummary = false) :
    s.having = none ∧ s.items.any (·.expression.aggregates) = false := by
  rw [isSummary, hgroup, Bool.true_and, Bool.or_eq_false_iff] at hsummary
  exact ⟨by simpa using hsummary.1, hsummary.2⟩

theorem length_rows_unpaged_of_plain {s : Select} (hdistinct : s.distinct = false)
    (hgroup : s.groupBy.isEmpty = true) (hsummary : s.isSummary = false) :
    (s.unpaged.rows m outer).length = (s.unpaged.selection m outer).kept.length := by
  obtain ⟨hhaving, hitems⟩ := plain_of_not_isSummary hgroup hsummary
  rw [rows_eq, Selection.length_rows hdistinct rfl rfl]
  refine Selection.length_moments_of_not_isFolded (if_pos hgroup) ?_ ?_
  · simp [selection, unpaged, hhaving, hitems]
  · intro mo
    show Expr.holds m s.having mo = true
    rw [hhaving, Expr.holds]

theorem aggregates_countAll : Expr.countAll.aggregates = true := by
  decide

/-- A select of the count alone gives it in one row, if it gives any. -/
theorem rows_countAll (m : Meaning V) (outer : Sight V) {s : Select}
    (hdistinct : s.distinct = false) (hgroup : s.groupBy.isEmpty = true) :
    ({ s.unpaged with items := [⟨.countAll, none⟩] } : Select).rows m outer =
      ([(s.unpaged.selection m outer).summary].filter (Expr.holds m s.having)).map fun _ =>
        [some (m.count (s.unpaged.selection m outer).kept.length)] := by
  let counting := ({ s.unpaged with items := [⟨.countAll, none⟩] } : Select).selection m outer
  have hmoments : counting.moments =
      [(s.unpaged.selection m outer).summary].filter (Expr.holds m s.having) := by
    refine Selection.moments_of_isFolded (if_pos hgroup) ?_
    show (s.having.isSome || (Expr.countAll.aggregates || false) || false) = true
    simp [aggregates_countAll]
  have hproject : counting.project (s.unpaged.selection m outer).summary =
      [some (m.count (s.unpaged.selection m outer).kept.length)] := by
    show SelectItem.values m [⟨.countAll, none⟩] _ = _
    simp only [SelectItem.values, Expr.value_countAll, Selection.summary]
  rw [rows_eq]
  show counting.rows = _
  have hunpaged : counting.limit = none ∧ counting.offset = none := ⟨rfl, rfl⟩
  rw [Selection.rows, show counting.distinct = false from hdistinct, hmoments, hunpaged.1,
    hunpaged.2, page_none]
  cases hpasses : Expr.holds m s.having (s.unpaged.selection m outer).summary <;>
    simp [hpasses, hproject]

theorem rows_countAll_derived (query : Query) (aliasName : String) :
    ({ ofSource (some (.derived query aliasName)) with items := [⟨.countAll, none⟩] } :
      Select).rows m outer = [[some (m.count (query.rows m outer).length)]] := by
  have hcounted := rows_countAll m outer (s := ofSource (some (.derived query aliasName))) rfl rfl
  have hkept :
      ((ofSource (some (.derived query aliasName))).unpaged.selection m outer).kept.length =
        (query.rows m outer).length := by
    have hall : ((ofSource (some (.derived query aliasName))).unpaged.selection m outer).kept =
        ((ofSource (some (.derived query aliasName))).unpaged.selection m outer).sights :=
      List.filter_eq_self.mpr fun _ _ => rfl
    rw [hall]
    simp [selection, unpaged, ofSource, Source.optionRows, Source.rows]
  rw [hkept] at hcounted
  exact hcounted

theorem countQuery_of_inPlace {s : Select} (hs : s.validate = .ok ())
    (hplace : s.isCountedInPlace = true) :
    s.countQuery = .ok { s.unpaged with items := [⟨.countAll, none⟩] } := by
  have hcondition : (s.distinct || !s.groupBy.isEmpty || s.source.isNone) = false := by
    cases hsource : s.source <;> simp_all [isCountedInPlace]
  simp only [countQuery, hs, hcondition]
  rfl

theorem countQuery_of_not_inPlace {s : Select} (hs : s.validate = .ok ())
    (hplace : s.isCountedInPlace = false) :
    s.countQuery = .ok { ofSource (some (.derived (.select s.unpaged) "count_source")) with
      items := [⟨.countAll, none⟩] } := by
  have hcondition : (s.distinct || !s.groupBy.isEmpty || s.source.isNone) = true := by
    cases hdistinct : s.distinct <;> cases hgroup : s.groupBy.isEmpty <;>
      cases hsource : s.source <;> simp_all [isCountedInPlace]
  simp only [countQuery, hs, hcondition]
  rfl

/-- The count query of a select gives the number of its rows, unless the select is a summary that is
counted in place.  Of such a summary it counts what the summary is made of, and gives this number
once for each row of the summary. -/
theorem countQuery_counts {s : Select} (hs : s.validate = .ok ()) :
    ∃ q, s.countQuery = .ok q ∧
      ∀ (V : Type) [DecidableEq V] (m : Meaning V) (outer : Sight V),
        (s.isCountedInPlace = false ∨ s.isSummary = false →
          q.rows m outer = [[some (m.count (s.unpaged.rows m outer).length)]]) ∧
        (s.isCountedInPlace = true → s.isSummary = true →
          (s.unpaged.rows m outer).length ≤ 1 ∧
            q.rows m outer = List.replicate (s.unpaged.rows m outer).length
              [some (m.count (s.filtered.rows m outer).length)]) := by
  cases hplace : s.isCountedInPlace with
  | false =>
      refine ⟨_, countQuery_of_not_inPlace hs hplace, ?_⟩
      intro V _ m outer
      refine ⟨fun _ => rows_countAll_derived (.select s.unpaged) "count_source", ?_⟩
      intro hinPlace
      cases hinPlace
  | true =>
      refine ⟨_, countQuery_of_inPlace hs hplace, ?_⟩
      intro V _ m outer
      simp only [isCountedInPlace, Bool.and_eq_true, Bool.not_eq_true'] at hplace
      obtain ⟨⟨hdistinct, hgroup⟩, -⟩ := hplace
      have hcounted := rows_countAll m outer hdistinct hgroup
      constructor
      · rintro (hplace | hsummary)
        · cases hplace
        · rw [length_rows_unpaged_of_plain hdistinct hgroup hsummary, hcounted,
            (plain_of_not_isSummary hgroup hsummary).1]
          rfl
      · intro _ hsummary
        rw [length_rows_unpaged_of_isSummary hdistinct hsummary, length_rows_filtered, hcounted]
        exact ⟨List.length_filter_le _ _, List.map_const' ..⟩

end Select

end

def distinctGuests : Select :=
  { Select.ofSource (some (.table guest.table [guest])) with
    items := [⟨.column guest, none⟩]
    distinct := true }

theorem distinctGuests_counted :
    ∃ q, distinctGuests.countQuery = .ok q ∧ q.rows threeStays [] = [[some 2]] := by
  obtain ⟨q, hq, hcounts⟩ := Select.countQuery_counts (rfl : distinctGuests.validate = .ok ())
  refine ⟨q, hq, ?_⟩
  rw [(hcounts Nat threeStays []).1 (.inl rfl)]
  rfl

def guestCount : Select :=
  { Select.ofSource (some (.table guest.table [guest])) with
    items := [⟨.call "count" [.column guest] (some (.integer .int64)), none⟩] }

/-- A count of guests has one row, but it is the three stays that are counted. -/
theorem guestCount_miscounted :
    (guestCount.unpaged.rows threeStays []).length = 1 ∧
      ∃ q, guestCount.countQuery = .ok q ∧ q.rows threeStays [] = [[some 3]] ∧
        Writer.compile ⟨.generic, {}⟩ (.select q) = .ok ⟨"SELECT COUNT(1) FROM stays", []⟩ :=
  ⟨rfl, _, rfl, rfl, rfl⟩

end TypedSql
