import TypedSql.Database.Execution

namespace TypedSql

/-! How rows come in.  A driver hands them one by one to the code of a query, which does not tell it
how its callback has failed: the driver gets a stand-in, and the failure is kept apart from whatever
the driver makes of that. -/

open Session

variable {σ β : Type}

/-- What a driver does with rows.  It is told of each row whether the code that got it has failed;
whether it goes on then, and what it reports in the end, is its own affair. -/
inductive Delivery where
  | ended (report : Except Error Unit)
  | hand (row : Row) (next : Except Error Unit → Delivery)

/-- What the code of a query keeps while rows come in. -/
structure Reading (β : Type) where
  gathered : β
  count : Nat := 0
  failed : Option Error := none

namespace Delivery

def standIn : Error := .plain "Row callback failed"

/-- A panic of the callback goes through the driver. -/
def read (f : β → Row → Session σ β) :
    Delivery → Reading β → Session σ (Reading β × Except Error Unit)
  | ended report, r => return (r, report)
  | hand row next, r => do
      match ← (f r.gathered row).attempt with
      | .ok gathered => (next (.ok ())).read f { r with gathered, count := r.count + 1 }
      | .error e =>
          if e.isPanic then throw e
          else (next (.error standIn)).read f { r with count := r.count + 1, failed := some e }

inductive Hands (f : β → Row → Session σ β) :
    Delivery → β → World σ → List (Row × Option Error) → Except Error Unit → β → World σ → Prop
  | ended {report : Except Error Unit} {b : β} {w : World σ} :
      Hands f (ended report) b w [] report b w
  | taken {row : Row} {next : Except Error Unit → Delivery} {b b' b'' : β} {w v w' : World σ}
      {handed : List (Row × Option Error)} {report : Except Error Unit}
      (h : f b row w = (.ok b', v)) (hrest : Hands f (next (.ok ())) b' v handed report b'' w') :
      Hands f (.hand row next) b w ((row, none) :: handed) report b'' w'
  | failed {row : Row} {next : Except Error Unit → Delivery} {b b' : β} {w v w' : World σ}
      {e : Error} {handed : List (Row × Option Error)} {report : Except Error Unit}
      (h : f b row w = (.error e, v)) (hhandled : e.isPanic = false)
      (hrest : Hands f (next (.error standIn)) b v handed report b' w') :
      Hands f (.hand row next) b w ((row, some e) :: handed) report b' w'

def lastFailure? (handed : List (Row × Option Error)) : Option Error :=
  (handed.filterMap Prod.snd).getLast?

@[simp] theorem lastFailure?_taken (row : Row) (handed : List (Row × Option Error)) :
    lastFailure? ((row, none) :: handed) = lastFailure? handed := rfl

@[simp] theorem lastFailure?_failed (row : Row) (e : Error) (handed : List (Row × Option Error)) :
    lastFailure? ((row, some e) :: handed) = (lastFailure? handed).or (some e) := by
  rw [lastFailure?, lastFailure?,
    List.filterMap_cons_some (f := Prod.snd) (a := (row, some e)) rfl, List.getLast?_cons]
  cases (handed.filterMap Prod.snd).getLast? <;> rfl

variable {f : β → Row → Session σ β} {d : Delivery} {w : World σ}

/-- The callback panics, or the code has at the end what it got from the rows, and the failure that
the callback had last. -/
theorem read_cases (f : β → Row → Session σ β) (d : Delivery) (r : Reading β) (w : World σ) :
    (∃ e b row v v', e.isPanic ∧ f b row v = (.error e, v') ∧ d.read f r w = (.error e, v')) ∨
    ∃ handed report b v, d.Hands f r.gathered w handed report b v ∧
      d.read f r w =
        (.ok (⟨b, r.count + handed.length, (lastFailure? handed).or r.failed⟩, report), v) := by
  induction d generalizing r w with
  | ended report => exact .inr ⟨[], report, r.gathered, w, .ended, rfl⟩
  | hand row next ih =>
      rw [read, Run.bind_apply, Run.attempt_apply]
      cases hrun : f r.gathered row w with
      | mk result v =>
          cases result with
          | ok b =>
              obtain hpanic | ⟨handed, report, b', v', hhands, hread⟩ :=
                ih (.ok ()) { r with gathered := b, count := r.count + 1 } v
              · exact .inl hpanic
              · refine .inr ⟨_, report, b', v', .taken hrun hhands, hread.trans ?_⟩
                rw [List.length_cons, lastFailure?_taken, Nat.add_right_comm, Nat.add_assoc]
          | error e =>
              cases hpanic : e.isPanic with
              | true =>
                  refine .inl ⟨e, r.gathered, row, w, v, hpanic, hrun, ?_⟩
                  simp only [hpanic, if_true, Run.throw_apply]
              | false =>
                  simp only [hpanic, Bool.false_eq_true, if_false]
                  obtain hpanic | ⟨handed, report, b', v', hhands, hread⟩ :=
                    ih (.error standIn) { r with count := r.count + 1, failed := some e } v
                  · exact .inl hpanic
                  · refine .inr ⟨_, report, b', v', .failed hrun hpanic hhands, hread.trans ?_⟩
                    rw [List.length_cons, lastFailure?_failed, Nat.add_right_comm, Nat.add_assoc,
                      Option.or_assoc]
                    rfl

/-- A driver that hands over no row after one that could not be read. -/
def Stops : Delivery → Prop
  | ended _ => True
  | hand _ next => (∃ report, next (.error standIn) = ended report) ∧ (next (.ok ())).Stops

/-- A driver that stops hands over no row behind the one at which the callback fails. -/
theorem Hands.stopped {b b' : β} {w' : World σ} {handed : List (Row × Option Error)}
    {report : Except Error Unit} {e : Error} (h : d.Hands f b w handed report b' w')
    (hfailed : lastFailure? handed = some e) (hstops : d.Stops) :
    ∃ before row, handed = before ++ [(row, some e)] ∧ ∀ x ∈ before, x.2 = none := by
  induction h with
  | ended => cases hfailed
  | @taken row _ _ _ _ _ _ _ _ _ _ _ ih =>
      obtain ⟨before, last, rfl, hbefore⟩ := ih hfailed hstops.2
      exact ⟨(row, none) :: before, last, rfl, List.forall_mem_cons.mpr ⟨rfl, hbefore⟩⟩
  | @failed row _ _ _ _ _ _ _ _ _ _ _ hrest _ =>
      obtain ⟨⟨report, hstop⟩, -⟩ := hstops
      rw [hstop] at hrest
      cases hrest
      cases hfailed
      exact ⟨[], row, rfl, fun _ hx => absurd hx List.not_mem_nil⟩

/-- As long as the code takes the rows, it gets these, and this report in the end. -/
def Follows : Delivery → List Row → Except Error Unit → Prop
  | ended report, rows, final => rows = [] ∧ report = final
  | hand row next, rows, final => ∃ rest, rows = row :: rest ∧ (next (.ok ())).Follows rest final

/-- The callback of a driver that stops sees the rows as a fold does, and its failure, which the
driver has not been told, is there in the end. -/
theorem read_of_stops {rows : List Row} {final : Except Error Unit} (hstops : d.Stops)
    (hfollows : d.Follows rows final) (r : Reading β) :
    (∃ b v, rows.foldlM f r.gathered w = (.ok b, v) ∧
      d.read f r w = (.ok ({ r with gathered := b, count := r.count + rows.length }, final), v)) ∨
    (∃ e v, e.isPanic ∧ rows.foldlM f r.gathered w = (.error e, v) ∧
      d.read f r w = (.error e, v)) ∨
    ∃ (e : Error) (v : World σ) (r' : Reading β) (report : Except Error Unit),
      e.isPanic = false ∧ rows.foldlM f r.gathered w = (.error e, v) ∧
      d.read f r w = (.ok ({ r' with failed := some e }, report), v) := by
  induction d generalizing rows r w with
  | ended report =>
      obtain ⟨rfl, rfl⟩ := hfollows
      exact .inl ⟨r.gathered, w, rfl, rfl⟩
  | hand row next ih =>
      obtain ⟨rest, rfl, hrest⟩ := hfollows
      obtain ⟨⟨stopped, hstop⟩, hstops⟩ := hstops
      rw [read, List.foldlM_cons, Run.bind_apply, Run.bind_apply, Run.attempt_apply]
      cases hrun : f r.gathered row w with
      | mk result v =>
          cases result with
          | ok b =>
              have honwards := ih (.ok ()) (w := v) hstops hrest
                { r with gathered := b, count := r.count + 1 }
              rw [List.length_cons, Nat.add_comm rest.length, ← Nat.add_assoc]
              exact honwards
          | error e =>
              cases hpanic : e.isPanic with
              | true =>
                  refine .inr (.inl ⟨e, v, hpanic, rfl, ?_⟩)
                  simp only [hpanic, if_true, Run.throw_apply]
              | false =>
                  refine .inr (.inr
                    ⟨e, v, { r with count := r.count + 1 }, stopped, hpanic, rfl, ?_⟩)
                  simp only [hpanic, Bool.false_eq_true, if_false, hstop, read, Run.pure_apply]

end Delivery

namespace RowStream

def report (s : RowStream) : Except Error Unit :=
  match s.failure with
  | some e => .error e
  | none => .ok ()

structure Delivers (s : RowStream) (d : Delivery) : Prop where
  stops : d.Stops
  follows : d.Follows s.rows s.report

def delivery (s : RowStream) : Delivery :=
  s.rows.foldr (fun row rest => .hand row fun
    | .ok () => rest
    | .error e => .ended (.error e)) (.ended s.report)

theorem delivers_delivery (s : RowStream) : s.Delivers s.delivery := by
  unfold delivery
  constructor
  · induction s.rows with
    | nil => trivial
    | cons row rows ih => exact ⟨⟨_, rfl⟩, ih⟩
  · induction s.rows with
    | nil => exact ⟨rfl, rfl⟩
    | cons row rows ih => exact ⟨rows, rfl, ih⟩

end RowStream

end TypedSql
