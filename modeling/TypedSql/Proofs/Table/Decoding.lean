import TypedSql.Proofs.Codec.Derivation
import TypedSql.Proofs.Database.Rows

namespace TypedSql

/-! Entities come back from the rows that carry their values.  The fields of a row are told apart by
the columns that the items of a select name, so neither their order, nor other items beside them,
nor other aliases of the same table change what is read. -/

variable {E α β : Type}

namespace Binding

/-- What the field of an entity is, if there is anything in it. -/
def view : Binding E α → E → Option α
  | unbound, _ => none
  | accessor get _, e => some (get e)
  | nullable get _, e => get e

/-- The entity after a field of a row has been read into it; `none` stands for a null. -/
def put : Binding E α → E → Option α → E
  | unbound, e, _ => e
  | accessor _ _, e, none => e
  | accessor _ set, e, some a => set e a
  | nullable _ set, e, x => set e x

/-- What a null leaves in the field: a field that is always there stays as it is, and one that may
be missing is cleared. -/
def cleared : Binding E α → E → Option α
  | unbound, _ => none
  | accessor get _, e => some (get e)
  | nullable _ _, _ => none

def isBound : Binding E α → Bool
  | unbound => false
  | _ => true

/-- The getter gives what has been set. -/
def GetsWhatIsSet : Binding E α → Prop
  | unbound => True
  | accessor get set => ∀ e a, get (set e a) = a
  | nullable get set => ∀ e x, get (set e x) = x

/-- The setter of one field does not change the other field. -/
def LeavesAlone (b : Binding E α) (other : Binding E β) : Prop :=
  ∀ e x, other.view (b.put e x) = other.view e

variable {b : Binding E α}

theorem getter_eq (codec : Codec α) :
    b.getter codec = if b.isBound then some fun e => codec.encodeOption (b.view e) else none := by
  cases b <;> rfl

theorem setter_eq (codec : Codec α) : b.setter codec =
    if b.isBound then some fun e row i => (codec.extract row i).map (b.put e) else none := by
  cases b with
  | unbound => rfl
  | accessor get set =>
      refine congrArg some (funext fun e => funext fun row => funext fun i => ?_)
      rcases codec.extract row i with err | _ | a <;> rfl
  | nullable get set => rfl

theorem view_put (hlawful : b.GetsWhatIsSet) (hbound : b.isBound) (e : E) (x : Option α) :
    b.view (b.put e x) = x.or (b.cleared e) := by
  cases b with
  | unbound => contradiction
  | accessor get set =>
      cases x with
      | none => rfl
      | some a => exact congrArg some (hlawful e a)
  | nullable get set =>
      rw [cleared, Option.or_none]
      exact hlawful e x

theorem cleared_congr {e e' : E} (h : b.view e = b.view e') : b.cleared e = b.cleared e' := by
  cases b with
  | accessor get set => exact h
  | _ => rfl

theorem view_of_not_bound (h : b.isBound = false) (e : E) : b.view e = none := by
  cases b <;> first | rfl | contradiction

theorem cleared_of_not_bound (h : b.isBound = false) (e : E) : b.cleared e = none := by
  cases b <;> first | rfl | contradiction

/-- A field that is missing is one that may be. -/
theorem cleared_of_view {e : E} (h : b.view e = none) (initial : E) : b.cleared initial = none := by
  cases b <;> first | rfl | contradiction

end Binding

/-- A column with its codec and its way to the field of an entity, apart from any table. -/
structure Declaration (E : Type) where
  Native : Type
  name : String
  codec : Codec Native
  primaryKey : Bool
  notNull : Bool
  binding : Binding E Native

namespace Declaration

def column (d : Declaration E) (table : TableRef) : ColumnRef where
  table := table
  name := d.name
  codec := d.codec.id
  primaryKey := d.primaryKey
  notNull := d.primaryKey || d.notNull

def bound (d : Declaration E) (table : TableRef) : BoundColumn E :=
  ⟨d.column table, d.binding.getter d.codec, d.binding.setter d.codec⟩

def encoded (d : Declaration E) (e : E) : Value := d.codec.encodeOption (d.binding.view e)

def LeavesAlone (a b : Declaration E) : Prop := a.binding.LeavesAlone b.binding

variable {d : Declaration E} {row : Row} {i : Nat} {e : E}

theorem extract_of_holds (hinverse : d.codec.RoundTrips) (h : row.Holds i (d.encoded e))
    (hpresent : row.wasNull i = false) :
    ∃ a, d.binding.view e = some a ∧ d.codec.extract row i = .ok (some a) := by
  unfold encoded at h
  cases hview : d.binding.view e with
  | none =>
      rw [hview, Codec.encodeOption_none] at h
      have hnull := h.wasNull
      rw [hpresent, Value.isNull_nullOf] at hnull
      contradiction
  | some a =>
      rw [hview, Codec.encodeOption_some] at h
      exact ⟨a, rfl, h.extract hinverse hpresent⟩

theorem exists_extract (hinverse : d.codec.RoundTrips)
    (h : row.Holds i (d.encoded e) ∨ row.IsNullAt i) :
    ∃ x, d.codec.extract row i = .ok x ∧ ∀ initial, x.or (d.binding.cleared initial) =
      if row.wasNull i then d.binding.cleared initial else d.binding.view e := by
  have hreadable : ∃ v, row.value i = .ok v := h.elim (fun hholds => ⟨_, hholds.value⟩) (·.value)
  cases hpresent : row.wasNull i with
  | true => exact ⟨none, Row.IsNullAt.extract ⟨hreadable, hpresent⟩ d.codec, fun _ => rfl⟩
  | false =>
      have hholds := h.resolve_right fun hnull => by simp [hnull.wasNull] at hpresent
      obtain ⟨a, hview, hread⟩ := extract_of_holds hinverse hholds hpresent
      exact ⟨some a, hread, fun _ => hview.symm⟩

end Declaration

namespace Table

/-- The table has these columns, in the order in which they were declared. -/
inductive Declares : Table E → List (Declaration E) → Prop
  | ofName (name : String) : Declares (.ofName name) []
  | withSchema {t : Table E} {ds : List (Declaration E)} (schema : String) :
      Declares t ds → Declares (t.withSchema schema) ds
  | aliased {t : Table E} {ds : List (Declaration E)} (aliasName : String) :
      Declares t ds → Declares (t.aliased aliasName) ds
  | declare {t : Table E} {ds : List (Declaration E)} (d : Declaration E) :
      Declares t ds →
        Declares (t.declare d.name d.codec d.primaryKey d.notNull d.binding).1 (ds ++ [d])

variable {t : Table E} {ds : List (Declaration E)}

theorem bound_rebind (h : t.bound = ds.map (·.bound t.ref)) (ref : TableRef) :
    (t.rebind ref).bound = ds.map (·.bound ref) := by
  rw [rebind, h, List.map_map]
  rfl

theorem Declares.bound_eq (h : t.Declares ds) : t.bound = ds.map (·.bound t.ref) := by
  induction h with
  | ofName name => rfl
  | withSchema schema _ ih => exact bound_rebind ih _
  | aliased aliasName _ ih => exact bound_rebind ih _
  | declare d _ ih =>
      rw [List.map_append, Table.declare, ih]
      rfl

theorem Declares.mem_values (h : t.Declares ds) {d : Declaration E} (hd : d ∈ ds)
    (hbound : d.binding.isBound) (e : E) : (d.column t.ref, d.encoded e) ∈ t.values e := by
  refine List.mem_filterMap.mpr ⟨d.bound t.ref, ?_, ?_⟩
  · rw [h.bound_eq]
    exact List.mem_map_of_mem hd
  · simp only [Declaration.bound, Declaration.encoded, Binding.getter_eq, hbound, if_true,
      Option.map_some]

variable {row : Row} {fields : List ResultColumn} {ref : TableRef}

theorem decodeColumn_of_not_bound {d : Declaration E} (h : d.binding.isBound = false) (e : E) :
    decodeColumn row fields e (d.bound ref) = .ok e := by
  simp only [decodeColumn, Declaration.bound, Binding.setter_eq, h]
  rfl

theorem decodeColumn_of_extract {d : Declaration E} (h : d.binding.isBound) {i : Nat}
    (hfirst : fields.findIdx? (·.carries (d.column ref)) = some i) {x : Option d.Native}
    (hread : d.codec.extract row i = .ok x) (e : E) :
    decodeColumn row fields e (d.bound ref) = .ok (d.binding.put e x) := by
  simp only [decodeColumn, Declaration.bound, Binding.setter_eq, h, hfirst, if_true, hread]
  rfl

/-- What the first field of each column gives is in the entity afterwards, since no later setter
changes it. -/
theorem exists_foldlM_decodeColumn (hlawful : ∀ d ∈ ds, d.binding.GetsWhatIsSet)
    (hapart : ds.Pairwise fun a b => a.LeavesAlone b ∧ b.LeavesAlone a)
    (hreadable : ∀ d ∈ ds, d.binding.isBound → ∃ i x,
      fields.findIdx? (·.carries (d.column ref)) = some i ∧ d.codec.extract row i = .ok x)
    (initial : E) :
    ∃ left, (ds.map (·.bound ref)).foldlM (decodeColumn row fields) initial = .ok left ∧
      (∀ d ∈ ds, d.binding.isBound → ∀ i x,
        fields.findIdx? (·.carries (d.column ref)) = some i → d.codec.extract row i = .ok x →
          d.binding.view left = x.or (d.binding.cleared initial)) ∧
      ∀ other : Declaration E, (∀ d ∈ ds, d.LeavesAlone other) →
        other.binding.view left = other.binding.view initial := by
  induction ds generalizing initial with
  | nil => exact ⟨initial, rfl, fun d hd => absurd hd List.not_mem_nil, fun _ _ => rfl⟩
  | cons d ds ih =>
      obtain ⟨hhead, htail⟩ := List.pairwise_cons.mp hapart
      have hrest := ih (fun d' hd => hlawful d' (List.mem_cons_of_mem d hd)) htail
        fun d' hd => hreadable d' (List.mem_cons_of_mem d hd)
      cases hbound : d.binding.isBound with
      | false =>
          obtain ⟨left, hdecoded, heach, hframe⟩ := hrest initial
          refine ⟨left, ?_, ?_, fun other halone => hframe other fun d' hd =>
            halone d' (List.mem_cons_of_mem d hd)⟩
          · rw [List.map_cons, List.foldlM_cons, decodeColumn_of_not_bound hbound]
            exact hdecoded
          · intro d' hd' hbound'
            rcases List.mem_cons.mp hd' with rfl | hd'
            · rw [hbound] at hbound'
              contradiction
            · exact heach d' hd' hbound'
      | true =>
          obtain ⟨i, x, hfirst, hread⟩ := hreadable d List.mem_cons_self hbound
          obtain ⟨left, hdecoded, heach, hframe⟩ := hrest (d.binding.put initial x)
          refine ⟨left, ?_, ?_, ?_⟩
          · rw [List.map_cons, List.foldlM_cons, decodeColumn_of_extract hbound hfirst hread]
            exact hdecoded
          · intro d' hd' hbound' i' x' hfirst' hread'
            rcases List.mem_cons.mp hd' with rfl | hd'
            · obtain rfl : i = i' := Option.some.inj (hfirst.symm.trans hfirst')
              obtain rfl : x = x' := Except.ok.inj (hread.symm.trans hread')
              rw [hframe d' fun d hd => (hhead d hd).2]
              exact Binding.view_put (hlawful d' List.mem_cons_self) hbound' initial x
            · rw [heach d' hd' hbound' i' x' hfirst' hread']
              exact congrArg x'.or (Binding.cleared_congr ((hhead d' hd').1 initial x))
          · intro other halone
            rw [hframe other fun d' hd => halone d' (List.mem_cons_of_mem d hd)]
            exact halone d List.mem_cons_self initial x

end Table

def SelectItem.selects (item : SelectItem) (c : ColumnRef) : Bool :=
  match item.expression with
  | .column own => own.same c
  | _ => false

theorem SelectItem.carries_resultColumn (item : SelectItem) (c : ColumnRef) :
    item.resultColumn.carries c = item.selects c := by
  obtain ⟨e, label⟩ := item
  cases e <;> rfl

namespace Select

/-- The condition holds of each field that selects one of the columns, with the value of the
column. -/
def EachField (s : Select) (values : List (ColumnRef × Value)) (P : Nat → Value → Prop) : Prop :=
  ∀ i item, s.items[i]? = some item → ∀ c v, (c, v) ∈ values → item.selects c → P i v

variable {s : Select} {c : ColumnRef} {i : Nat}

theorem exists_first (h : ∃ item ∈ s.items, item.selects c) :
    ∃ i, s.items.findIdx? (·.selects c) = some i := by
  rw [← Option.isSome_iff_exists, List.findIdx?_isSome, List.any_eq_true]
  exact h

theorem exists_item_of_first (h : s.items.findIdx? (·.selects c) = some i) :
    ∃ item, s.items[i]? = some item ∧ item.selects c := by
  obtain ⟨hinside, hselects, -⟩ := List.findIdx?_eq_some_iff_getElem.mp h
  exact ⟨s.items[i], List.getElem?_eq_getElem hinside, hselects⟩

theorem carries_of_first (h : s.items.findIdx? (·.selects c) = some i) :
    s.resultColumns.findIdx? (·.carries c) = some i := by
  cases s with
  | mk items source filter distinct groupBy having orderBy limit offset =>
      have hexplicit : items ≠ [] := by
        rintro rfl
        cases h
      rw [resultColumns, if_neg (by simpa using hexplicit), List.findIdx?_map, ← h]
      exact congrArg (List.findIdx? · items) (funext fun item => item.carries_resultColumn c)

end Select

namespace Table

/-- An entity is decoded from a row that carries the values of another one in the fields that select
the columns of the table, whatever the other fields are: each field of the entity is as the first
field that selects its column says. -/
theorem Declares.decode_of_carried {t : Table E} {ds : List (Declaration E)}
    (hdeclares : t.Declares ds) (hlawful : ∀ d ∈ ds, d.binding.GetsWhatIsSet)
    (hapart : ds.Pairwise fun a b => a.LeavesAlone b ∧ b.LeavesAlone a)
    (hinverse : ∀ d ∈ ds, d.codec.RoundTrips)
    {u : Table E} (hreference : u = t ∨ ∃ aliasName, u = t.aliased aliasName)
    {s : Select} {row : Row} {e : E} (initial : E)
    (hselected : ∀ c v, (c, v) ∈ u.values e → ∃ item ∈ s.items, item.selects c)
    (hcarried : s.EachField (u.values e) fun i v => row.Holds i v ∨ row.IsNullAt i) :
    ∃ left, u.decode initial row s.resultColumns = .ok left ∧
      (∀ d ∈ ds, ∀ i, s.items.findIdx? (·.selects (d.column u.ref)) = some i →
        d.binding.view left =
          if row.wasNull i then d.binding.cleared initial else d.binding.view e) ∧
      (s.EachField (u.values e) row.Holds → ∀ d ∈ ds,
        ((d.encoded e).isNull → d.binding.view e = none) →
          d.binding.view left = d.binding.view e) := by
  have hdeclared : u.Declares ds := by
    rcases hreference with rfl | ⟨aliasName, rfl⟩
    · exact hdeclares
    · exact hdeclares.aliased aliasName
  have hvalue {d : Declaration E} (hd : d ∈ ds) (hbound : d.binding.isBound) :=
    hdeclared.mem_values hd hbound e
  have hfirst {d : Declaration E} (hd : d ∈ ds) (hbound : d.binding.isBound) :=
    Select.exists_first (hselected _ _ (hvalue hd hbound))
  have hread {d : Declaration E} (hd : d ∈ ds) (hbound : d.binding.isBound) {i : Nat}
      (hi : s.items.findIdx? (·.selects (d.column u.ref)) = some i) :
      ∃ x, d.codec.extract row i = .ok x ∧ ∀ initial, x.or (d.binding.cleared initial) =
        if row.wasNull i then d.binding.cleared initial else d.binding.view e := by
    obtain ⟨item, hitem, hselects⟩ := Select.exists_item_of_first hi
    exact Declaration.exists_extract (hinverse d hd)
      (hcarried i item hitem _ _ (hvalue hd hbound) hselects)
  have hreadable : ∀ d ∈ ds, d.binding.isBound → ∃ i x,
      s.resultColumns.findIdx? (·.carries (d.column u.ref)) = some i ∧
        d.codec.extract row i = .ok x := by
    intro d hd hbound
    obtain ⟨i, hi⟩ := hfirst hd hbound
    obtain ⟨x, hx, -⟩ := hread hd hbound hi
    exact ⟨i, x, Select.carries_of_first hi, hx⟩
  obtain ⟨left, hdecoded, heach, -⟩ := exists_foldlM_decodeColumn hlawful hapart hreadable initial
  have hsaid : ∀ d ∈ ds, ∀ i, s.items.findIdx? (·.selects (d.column u.ref)) = some i →
      d.binding.view left =
        if row.wasNull i then d.binding.cleared initial else d.binding.view e := by
    intro d hd i hi
    cases hbound : d.binding.isBound with
    | false =>
        simp only [Binding.view_of_not_bound hbound, Binding.cleared_of_not_bound hbound, ite_self]
    | true =>
        obtain ⟨x, hx, houtcome⟩ := hread hd hbound hi
        rw [heach d hd hbound i x (Select.carries_of_first hi) hx, houtcome]
  refine ⟨left, ?_, hsaid, ?_⟩
  · rw [decode, hdeclared.bound_eq]
    exact hdecoded
  · intro hwhole d hd hmissing
    cases hbound : d.binding.isBound with
    | false => rw [Binding.view_of_not_bound hbound, Binding.view_of_not_bound hbound]
    | true =>
        obtain ⟨i, hi⟩ := hfirst hd hbound
        rw [hsaid d hd i hi]
        cases hnull : row.wasNull i with
        | false => rfl
        | true =>
            obtain ⟨item, hitem, hselects⟩ := Select.exists_item_of_first hi
            have hholds := hwhole i item hitem _ _ (hvalue hd hbound) hselects
            have hgone := hmissing (hholds.wasNull.symm.trans hnull)
            rw [hgone]
            exact Binding.cleared_of_view hgone initial

end Table

structure Member where
  name : Native .varchar
  active : Option Bool

namespace Member

def ofFlag (n : Native .boolean) : Bool := n.content == .boolean true

theorem type_boolean (b : Bool) : (Content.boolean b).type = .boolean := rfl

def toFlag (b : Bool) : Native .boolean := ⟨.boolean b, type_boolean b⟩

def nameColumn : Declaration Member where
  Native := Native .varchar
  name := "name"
  codec := .ofType .varchar
  primaryKey := false
  notNull := true
  binding := .accessor name fun m name => { m with name }

def activeColumn : Declaration Member where
  Native := Bool
  name := "active"
  codec := (Codec.ofType .boolean).derive "flag" ofFlag toFlag
  primaryKey := false
  notNull := false
  binding := .nullable active fun m active => { m with active }

def table : Table Member :=
  let named := (Table.ofName "members").declare nameColumn.name nameColumn.codec
    nameColumn.primaryKey nameColumn.notNull nameColumn.binding
  (named.1.declare activeColumn.name activeColumn.codec activeColumn.primaryKey
    activeColumn.notNull activeColumn.binding).1

theorem declares_table : table.Declares [nameColumn, activeColumn] :=
  .declare activeColumn (.declare nameColumn (.ofName "members"))

def ann : Member := ⟨⟨.varchar "Ann", rfl⟩, some true⟩

def nobody : Member := ⟨⟨.varchar "nobody", rfl⟩, some false⟩

def item (d : Declaration Member) (aliasName : String) (label : Option String := none) :
    SelectItem :=
  ⟨.column (d.column (table.aliased aliasName).ref), label⟩

/-- The columns of two aliases side by side, with labels, and one of them twice. -/
def beside : Select :=
  { Select.ofSource (some (.join .cross (table.aliased "friend").source
      (table.aliased "me").source none)) with
    items := [item nameColumn "friend" (some "name"), item activeColumn "me" (some "here"),
      ⟨.countAll, none⟩, item nameColumn "me", item activeColumn "friend",
      item nameColumn "me" (some "again")] }

/-- One field of the row cannot be read, others are of other types, and the store reports the flag
as null. -/
def besideRow : Row where
  size := 6
  label := fun _ => ""
  value := fun i =>
    match i with
    | 1 => .ok (.some (.blob []))
    | 2 => .error (.plain "unread")
    | 3 | 5 => .ok (.some (.varchar "Ann"))
    | _ => .ok (.some (.boolean false))
  wasNull := fun i => i == 1

theorem getsWhatIsSet : ∀ d ∈ [nameColumn, activeColumn], d.binding.GetsWhatIsSet := by
  simp only [List.forall_mem_cons]
  exact ⟨fun m a => rfl, fun m x => rfl, fun d hd => absurd hd List.not_mem_nil⟩

theorem leavesAlone :
    [nameColumn, activeColumn].Pairwise fun a b => a.LeavesAlone b ∧ b.LeavesAlone a := by
  refine .cons (fun d hd => ?_) (List.pairwise_singleton _ _)
  obtain rfl := List.mem_singleton.mp hd
  exact ⟨fun m x => by cases x <;> rfl, fun m x => rfl⟩

theorem roundTrips : ∀ d ∈ [nameColumn, activeColumn], d.codec.RoundTrips := by
  simp only [List.forall_mem_cons]
  refine ⟨Codec.roundTrips_ofType .varchar, ?_, fun d hd => absurd hd List.not_mem_nil⟩
  exact (Codec.roundTrips_ofType .boolean).derive "flag" fun b => by cases b <;> rfl

theorem eq_of_mem_values {c : ColumnRef} {v : Value}
    (h : (c, v) ∈ (Member.table.aliased "me").values ann) :
    (c, v) = (nameColumn.column (Member.table.aliased "me").ref, .some (.varchar "Ann")) ∨
      (c, v) = (activeColumn.column (Member.table.aliased "me").ref, .some (.boolean true)) :=
  List.mem_pair.mp h

end Member

open Member in
theorem Table.Declares.decode_of_carried_beside :
    ∃ left, (Member.table.aliased "me").decode nobody besideRow beside.resultColumns = .ok left ∧
      left.name = ann.name ∧ left.active = none := by
  have hselected : ∀ c v, (c, v) ∈ (Member.table.aliased "me").values ann →
      ∃ item ∈ beside.items, item.selects c := by
    intro c v h
    rcases eq_of_mem_values h with h | h <;> cases h
    · exact ⟨item nameColumn "me", by simp [beside], by decide⟩
    · exact ⟨item activeColumn "me" (some "here"), by simp [beside], by decide⟩
  have hcarried : beside.EachField ((Member.table.aliased "me").values ann) fun i v =>
      besideRow.Holds i v ∨ besideRow.IsNullAt i := by
    intro i item hitem c v h hselects
    rcases eq_of_mem_values h with h | h <;> cases h
    · rcases i with _ | _ | _ | _ | _ | _ | i <;> cases hitem <;>
        first
        | exact .inl ⟨rfl, rfl⟩
        | contradiction
    · rcases i with _ | _ | _ | _ | _ | _ | i <;> cases hitem <;>
        first
        | exact .inr ⟨⟨_, rfl⟩, rfl⟩
        | contradiction
  obtain ⟨left, hdecoded, hsaid, -⟩ := declares_table.decode_of_carried getsWhatIsSet leavesAlone
    roundTrips (.inr ⟨"me", rfl⟩) nobody hselected hcarried
  refine ⟨left, hdecoded, ?_, ?_⟩
  · exact Option.some.inj (hsaid nameColumn (by simp) 3 rfl)
  · exact hsaid activeColumn (by simp) 1 rfl

end TypedSql
