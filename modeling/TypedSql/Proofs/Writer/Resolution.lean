import TypedSql.Proofs.Writer.References

namespace TypedSql

/-! Which source a written column is taken from.  A qualified name names the source with that
qualifier.  A bare name belongs to the innermost select with a source that exposes it, so a select
that is nested there captures the names of the selects around it. -/

def Exposed.exposes (e : Exposed) (name : String) : Bool :=
  e.columns.contains name

def Exposed.qualifier (e : Exposed) : String :=
  e.table.qualifier

/-- The source of a bare name; within one select it has to be the only one. -/
def bareSource? (name : String) : List Frame → Option Exposed
  | [] => none
  | frame :: outer =>
      match frame.filter (·.exposes name) with
      | [] => bareSource? name outer
      | [e] => some e
      | _ => none

/-- The source that the pieces of a column are taken from. -/
def writtenSource? (sight : List Frame) : List Piece → Option Exposed
  | [.name column] => bareSource? column sight
  | [.name qualifier, .symbol ".", .name _] =>
      sight.flatten.find? fun e => e.qualifier == qualifier
  | [.name schema, .symbol ".", .name qualifier, .symbol ".", .name _] =>
      sight.flatten.find? fun e => e.qualifier == qualifier && e.table.schema == some schema
  | _ => none

namespace Reference

def source? (r : Reference) : Option Exposed :=
  writtenSource? r.sight r.pieces

def isQualified (r : Reference) : Bool :=
  r.scope.allowsQualifiedColumns && (r.column.table.aliasName.isSome || r.scope.qualify)

/-- The source that a reference means. -/
structure Means (r : Reference) (e : Exposed) : Prop where
  inSight : e ∈ r.sight.flatten
  table : e.table = r.column.table
  exposes : e.exposes r.column.name

/-- No select in between exposes the name of the column. -/
def Unobstructed (r : Reference) (e : Exposed) : Prop :=
  ∃ nearer own outer, r.sight = nearer ++ own :: outer ∧ e ∈ own ∧
    ∀ frame ∈ nearer, ∀ other ∈ frame, other.exposes r.column.name = false

end Reference

theorem bareSource?_cons_of_single {frame : Frame} (h : frame.length ≤ 1) (name : String)
    (outer : List Frame) :
    bareSource? name (frame :: outer) =
      (frame.find? (·.exposes name)).or (bareSource? name outer) := by
  cases frame with
  | nil => rfl
  | cons x rest =>
      cases rest with
      | cons y rest => simp at h
      | nil =>
          cases hx : x.exposes name with
          | true => simp [bareSource?, hx]
          | false => simp [bareSource?, hx]

theorem bareSource?_eq_some_iff {name : String} {sight : List Frame} {e : Exposed}
    (hsingle : ∀ frame ∈ sight, frame.length ≤ 1) (hexposes : e.exposes name) :
    bareSource? name sight = some e ↔ ∃ nearer own outer, sight = nearer ++ own :: outer ∧ e ∈ own ∧
      ∀ frame ∈ nearer, ∀ other ∈ frame, other.exposes name = false := by
  induction sight with
  | nil => simp [bareSource?]
  | cons frame outer ih =>
      obtain ⟨hframe, houter⟩ := List.forall_mem_cons.mp hsingle
      rw [bareSource?_cons_of_single hframe]
      constructor
      · intro h
        cases hfind : frame.find? (·.exposes name) with
        | some x =>
            rw [hfind] at h
            cases h
            exact ⟨[], frame, outer, rfl, List.mem_of_find?_eq_some hfind, by simp⟩
        | none =>
            rw [hfind, Option.none_or] at h
            obtain ⟨nearer, own, outer', rfl, he, hhidden⟩ := (ih houter).mp h
            refine ⟨frame :: nearer, own, outer', rfl, he, ?_⟩
            have hhere : ∀ other ∈ frame, other.exposes name = false := by
              simpa using hfind
            exact List.forall_mem_cons.mpr ⟨hhere, hhidden⟩
      · intro h
        obtain ⟨nearer, own, outer', hsplit, he, hhidden⟩ := h
        cases nearer with
        | nil =>
            cases hsplit
            have honly : frame = [e] := by
              cases frame with
              | nil => cases he
              | cons x rest =>
                  cases rest with
                  | nil => rw [List.mem_singleton.mp he]
                  | cons y rest => simp at hframe
            simp [honly, hexposes]
        | cons first nearer =>
            obtain ⟨rfl, rfl⟩ := List.cons.inj hsplit
            obtain ⟨hhere, hhidden⟩ := List.forall_mem_cons.mp hhidden
            have hmissing : frame.find? (·.exposes name) = none := by simpa using hhere
            rw [hmissing, Option.none_or]
            exact (ih houter).mpr ⟨nearer, own, outer', rfl, he, hhidden⟩

theorem find?_of_nodup {sources : List Exposed} (hdistinct : (sources.map Exposed.qualifier).Nodup)
    {e : Exposed} (he : e ∈ sources) {p : Exposed → Bool} (hp : p e)
    (hqualifier : ∀ x, p x → x.qualifier = e.qualifier) : sources.find? p = some e := by
  induction sources with
  | nil => cases he
  | cons x rest ih =>
      rw [List.map_cons, List.nodup_cons] at hdistinct
      cases List.mem_cons.mp he with
      | inl hsame =>
          subst hsame
          rw [List.find?_cons_of_pos hp]
      | inr he =>
          have hother : p x = false := by
            by_contra hx
            have hsame := hqualifier x (by simpa using hx)
            exact hdistinct.1 (by rw [hsame]; exact List.mem_map_of_mem he)
          rw [List.find?_cons_of_neg (by simp [hother])]
          exact ih hdistinct.2 he

/-- Where a column is written, its qualifier is allowed if any source is in sight.  As long as
qualifiers are not asked for, no select in sight has more than one source. -/
structure Scope.Fits (s : Scope) (sight : List Frame) : Prop where
  allows : s.allowsQualifiedColumns ∨ sight = []
  single : s.qualify = false → ∀ frame ∈ sight, frame.length ≤ 1

namespace Reference

variable {r : Reference} {e : Exposed}

theorem source?_of_isQualified (h : r.isQualified)
    (hdistinct : (r.sight.flatten.map Exposed.qualifier).Nodup) (hmeans : r.Means e) :
    r.source? = some e := by
  obtain ⟨c, s, sight⟩ := r
  rw [isQualified, Bool.and_eq_true] at h
  obtain ⟨hallows, hqualified⟩ := h
  have hqualifier : e.qualifier = c.table.qualifier := by rw [Exposed.qualifier, hmeans.table]
  cases haliased : c.table.aliasName with
  | some aliasName =>
      have hpieces : c.pieces s = [.name aliasName, .symbol ".", .name c.name] := by
        simp [ColumnRef.pieces, ColumnRef.qualifierPieces, hallows, haliased]
      have hown : e.qualifier = aliasName := by simp [hqualifier, TableRef.qualifier, haliased]
      rw [source?, pieces, hpieces]
      exact find?_of_nodup hdistinct hmeans.inSight (by simpa using hown)
        fun x hx => (eq_of_beq hx).trans hown.symm
  | none =>
      have hqualify : s.qualify = true := by simpa [haliased] using hqualified
      have hown : e.qualifier = c.table.name := by simp [hqualifier, TableRef.qualifier, haliased]
      cases hschema : c.table.schema with
      | none =>
          have hpieces : c.pieces s = [.name c.table.name, .symbol ".", .name c.name] := by
            simp [ColumnRef.pieces, ColumnRef.qualifierPieces, hallows, haliased, hqualify, hschema]
          rw [source?, pieces, hpieces]
          exact find?_of_nodup hdistinct hmeans.inSight (by simpa using hown)
            fun x hx => (eq_of_beq hx).trans hown.symm
      | some schema =>
          have hpieces : c.pieces s = [.name schema, .symbol ".", .name c.table.name, .symbol ".",
              .name c.name] := by
            simp [ColumnRef.pieces, ColumnRef.qualifierPieces, hallows, haliased, hqualify, hschema]
          rw [source?, pieces, hpieces]
          refine find?_of_nodup hdistinct hmeans.inSight ?_ fun x hx => ?_
          · simp [hown, hmeans.table, hschema]
          · rw [Bool.and_eq_true] at hx
            exact (eq_of_beq hx.1).trans hown.symm

theorem source?_of_bare (h : r.isQualified = false) (hfits : r.scope.Fits r.sight)
    (hmeans : r.Means e) : r.source? = some e ↔ r.Unobstructed e := by
  obtain ⟨c, s, sight⟩ := r
  have hallows : s.allowsQualifiedColumns := by
    refine hfits.allows.resolve_right fun hnone => ?_
    have hinSight := hmeans.inSight
    rw [hnone] at hinSight
    cases hinSight
  simp only [isQualified, hallows, Bool.true_and, Bool.or_eq_false_iff,
    Option.isSome_eq_false_iff, Option.isNone_iff_eq_none] at h
  have hpieces : c.pieces s = [.name c.name] := by
    simp [ColumnRef.pieces, ColumnRef.qualifierPieces, hallows, h.1, h.2]
  rw [source?, pieces, hpieces]
  exact bareSource?_eq_some_iff (hfits.single h.2) hmeans.exposes

/-- A column is taken from the source that it means if it is written with a qualifier, and otherwise
just if no select in between captures its name. -/
theorem source?_eq_some_iff (hfits : r.scope.Fits r.sight)
    (hdistinct : (r.sight.flatten.map Exposed.qualifier).Nodup) (hmeans : r.Means e) :
    r.source? = some e ↔ r.isQualified ∨ r.Unobstructed e := by
  cases h : r.isQualified with
  | true => simp [source?_of_isQualified h hdistinct hmeans]
  | false => simp [source?_of_bare h hfits hmeans]

end Reference

theorem Source.length_frame_of_not_isJoin {source : Source} (h : source.isJoin = false) :
    source.frame.length ≤ 1 := by
  cases source with
  | table t columns => simp [Source.frame]
  | join kind left right on => cases h
  | derived query aliasName => simp [Source.frame]

namespace Scope.Fits

variable {s : Scope} {sight : List Frame}

theorem joined (sight : List Frame) : Fits ⟨.join, true⟩ sight :=
  ⟨.inl rfl, nofun⟩

theorem ordered (qualify : Bool) : Fits ⟨.unionOrderBy, qualify⟩ [] :=
  ⟨.inr rfl, by simp⟩

theorem around (h : s.Fits sight) (source : Option Source) :
    Fits ⟨.selectFrom, s.qualify || source.any Source.isJoin⟩ sight where
  allows := .inl rfl
  single hqualify := h.single (Bool.or_eq_false_iff.mp hqualify).1

theorem inside (h : s.Fits sight) (source : Option Source) {fragment : Fragment}
    (hallows : allowsQualifiedColumns ⟨fragment, s.qualify || source.any Source.isJoin⟩) :
    Fits ⟨fragment, s.qualify || source.any Source.isJoin⟩
      (Source.frameOption source :: sight) where
  allows := .inl hallows
  single hqualify := by
    obtain ⟨houter, hsource⟩ := Bool.or_eq_false_iff.mp hqualify
    refine List.forall_mem_cons.mpr ⟨?_, h.single houter⟩
    cases source with
    | none => simp [Source.frameOption]
    | some source => exact Source.length_frame_of_not_isJoin hsource

end Scope.Fits

def Reference.AllFit (references : List Reference) : Prop :=
  ∀ r ∈ references, r.scope.Fits r.sight

open Reference

/-- Whatever fits around a tree fits at every reference inside of it. -/
theorem Reference.allFit_hereditary :
    Hereditary (fun e => ∀ s sight, Scope.Fits s sight → AllFit (e.references s sight))
      (fun operand => ∀ s sight, Scope.Fits s sight → AllFit (operand.references s sight))
      (fun query => ∀ s sight, Scope.Fits s sight → AllFit (query.references s sight))
      (fun source => ∀ s own sight, Scope.Fits s sight → AllFit (source.references s own sight))
      (fun query => ∀ s sight, Scope.Fits s sight → AllFit (query.references s sight))
      (fun query => ∀ s sight, Scope.Fits s sight → AllFit (query.references s sight)) where
  column c s sight h := List.forall_mem_singleton.mpr h
  parameter p s sight h := List.forall_mem_nil _
  literal v s sight h := List.forall_mem_nil _
  unary op operand postfixed type hoperand s sight h := by
    simp only [Expr.references]
    exact hoperand s sight h
  binary left op right type hleft hright s sight h := by
    simp only [Expr.references, AllFit, List.forall_mem_append]
    exact ⟨hleft s sight h, hright s sight h⟩
  ternary first op second op2 third type hfirst hsecond hthird s sight h := by
    simp only [Expr.references, AllFit, List.forall_mem_append]
    exact ⟨⟨hfirst s sight h, hsecond s sight h⟩, hthird s sight h⟩
  function name args emptyParens type hargs _ s sight h := by
    simp only [Expr.references]
    exact listing.forall_mem_exprs fun e he => hargs e he s sight h
  case operand branches otherwise type hoperand hbranches hotherwise s sight h := by
    simp only [Expr.references, AllFit, List.forall_mem_append]
    refine ⟨⟨?_, ?_⟩, ?_⟩
    · exact listing.forall_mem_exprOption fun e he => hoperand e he s sight h
    · exact listing.forall_mem_branches fun branch hbranch =>
        ⟨(hbranches branch hbranch).1 s sight h, (hbranches branch hbranch).2 s sight h⟩
    · exact listing.forall_mem_exprOption fun e he => hotherwise e he s sight h
  inList operand values negated hoperand hvalues s sight h := by
    simp only [Expr.references, AllFit, List.forall_mem_append]
    exact ⟨hoperand s sight h, listing.forall_mem_exprs fun e he => hvalues e he s sight h⟩
  inQuery operand query negated hoperand hquery s sight h := by
    simp only [Expr.references, AllFit, List.forall_mem_append]
    exact ⟨hoperand s sight h, hquery s sight h⟩
  tuple elements helements s sight h := by
    simp only [Expr.references]
    exact listing.forall_mem_exprs fun e he => helements e he s sight h
  subselect query hquery s sight h := by
    simp only [Expr.references]
    exact hquery s sight h
  operand e parens he s sight h := by
    simp only [Operand.references]
    exact he s sight h
  select items source filter distinct groupBy having orderBy limit offset hitems hsource hfilter
      hgroupBy hhaving horderBy s sight h := by
    simp only [Select.references, AllFit, List.forall_mem_append]
    refine ⟨⟨⟨⟨⟨?_, ?_⟩, ?_⟩, ?_⟩, ?_⟩, ?_⟩
    · exact listing.forall_mem_items fun item hitem => hitems item hitem _ _ (h.inside source rfl)
    · exact listing.forall_mem_sourceOption (y := (_, sight)) fun f hf =>
        hsource f hf _ _ sight (h.around source)
    · exact listing.forall_mem_exprOption fun e he => hfilter e he _ _ (h.inside source rfl)
    · exact listing.forall_mem_exprs fun e he => hgroupBy e he _ _ (h.inside source rfl)
    · exact listing.forall_mem_exprOption fun e he => hhaving e he _ _ (h.inside source rfl)
    · exact listing.forall_mem_orders fun key hkey => horderBy key hkey _ _ (h.inside source rfl)
  table t columns s own sight h := List.forall_mem_nil _
  join kind left right on hleft hright hon s own sight h := by
    simp only [Source.references, AllFit, List.forall_mem_append]
    exact ⟨⟨hleft _ own sight (.joined sight), hright _ own sight (.joined sight)⟩,
      listing.forall_mem_exprOption fun e he => hon e he _ own (.joined own)⟩
  derived query aliasName hquery s own sight h := by
    simp only [Source.references]
    exact hquery s sight h
  querySelect query hquery s sight h := by
    simp only [Query.references]
    exact hquery s sight h
  queryUnion query hquery s sight h := by
    simp only [Query.references]
    exact hquery s sight h
  union left right all parens orderBy limit offset hleft hright horderBy s sight h := by
    simp only [Union.references, AllFit, List.forall_mem_append]
    exact ⟨⟨hleft s sight h, hright s sight h⟩,
      listing.forall_mem_orders fun key hkey => horderBy key hkey _ [] (.ordered s.qualify)⟩

/-- The compiled text of a select has its references written in order, and each of them whose
source is in sight, among sources with different qualifiers, is taken from that source if it is
written with a qualifier or if no select in between exposes its name, and from no other source but
then. -/
theorem Select.references_resolve (query : Select) :
    (∀ (w : Writer) (c : CompiledSql), w.compile (.select query) = .ok c →
      ∃ ps, c.sql = String.ofList (w.print 0 ps) ∧
        Piece.Mention ps (query.references {} [])) ∧
    ∀ r ∈ query.references {} [], (r.sight.flatten.map Exposed.qualifier).Nodup →
      ∀ e, r.Means e → (r.source? = some e ↔ r.isQualified ∨ r.Unobstructed e) := by
  constructor
  · intro w c h
    obtain ⟨ps, hrender, rfl⟩ := Writer.pieces_of_compile h
    have hmentions := query.mentions_render (w := w) {} []
    rw [show query.render w {} = .ofPieces ps from hrender] at hmentions
    exact ⟨ps, rfl, hmentions rfl⟩
  · intro r hr hdistinct e hmeans
    have hstart : Scope.Fits {} [] := ⟨.inr rfl, by simp⟩
    exact Reference.source?_eq_some_iff
      (Select.of_hereditary Reference.allFit_hereditary query {} [] hstart r hr) hdistinct hmeans

def idOf (table : TableRef) : ColumnRef :=
  { table := table, name := "id", codec := .ofType (.integer .int64) }

def orders : Exposed := ⟨⟨"orders", none, none⟩, ["id", "user_id"]⟩

def orderUser : ColumnRef := { idOf orders.table with name := "user_id" }

def buyers (users : TableRef) : Select :=
  let ordered : Select :=
    { Select.ofSource (some (.table orders.table [idOf orders.table, orderUser])) with
      items := [⟨.column (idOf orders.table), none⟩]
      filter := some ((Expr.column orderUser).eq (.column (idOf users))) }
  { Select.ofSource (some (.table users [idOf users])) with
    items := [⟨.column (idOf users), none⟩]
    filter := some (.existsIn ordered) }

/-- The user that an order is compared with, inside the nested select. -/
def buyer (users : TableRef) : Reference :=
  ⟨idOf users, ⟨.selectWhere, false⟩, [[orders], [⟨users, ["id"]⟩]]⟩

theorem aliased_buyer_resolves :
    buyer ⟨"users", none, some "u"⟩ ∈ (buyers ⟨"users", none, some "u"⟩).references {} [] ∧
      (buyer ⟨"users", none, some "u"⟩).source? = some ⟨⟨"users", none, some "u"⟩, ["id"]⟩ := by
  have hthere : buyer ⟨"users", none, some "u"⟩ ∈
      (buyers ⟨"users", none, some "u"⟩).references {} [] := by decide +kernel
  refine ⟨hthere, ?_⟩
  exact ((buyers ⟨"users", none, some "u"⟩).references_resolve.2 _ hthere (by decide) _
    ⟨by decide, rfl, rfl⟩).mpr (.inl rfl)

/-- Without the alias, the nested select captures the user's column. -/
theorem buyer_is_captured :
    Writer.compile ⟨.generic, {}⟩ (.select (buyers ⟨"users", none, none⟩)) =
      .ok ⟨"SELECT id FROM users WHERE EXISTS(SELECT id FROM orders WHERE user_id = id)", []⟩ ∧
    buyer ⟨"users", none, none⟩ ∈ (buyers ⟨"users", none, none⟩).references {} [] ∧
      ((buyer ⟨"users", none, none⟩).sight.flatten.map Exposed.qualifier).Nodup ∧
      (buyer ⟨"users", none, none⟩).Means ⟨⟨"users", none, none⟩, ["id"]⟩ ∧
      (buyer ⟨"users", none, none⟩).source? = some orders := by
  refine ⟨?_, ?_, by decide, ⟨by decide, rfl, rfl⟩, by decide⟩
  · rfl
  · decide +kernel

end TypedSql
