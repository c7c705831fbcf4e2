import TypedSql.Session.World

namespace TypedSql.World

variable {σ : Type} {w w' : World σ} {t : Transaction} {s : TransactionState}

def begun (w : World σ) (t : Transaction) : World σ :=
  { w with transactions := w.transactions ++ [({} : TransactionState)] }.bind t

theorem state_begun (h : t.id = w.transactions.length) : (w.begun t).state t = {} := by
  simp [state, begun, bind, h]

/-- Nothing can be told of a transaction before it is used. -/
theorem state_begun_eq (t t' : Transaction) : (w.begun t).state t' = w.state t' := by
  simp only [state, begun, bind, List.getD_eq_getElem?_getD]
  obtain hbefore | hsame | hafter := Nat.lt_trichotomy t'.id w.transactions.length
  · rw [List.getElem?_append_left hbefore]
  · simp [hsame]
  · rw [List.getElem?_eq_none (by simp; omega), List.getElem?_eq_none (by omega)]

theorem state_setState (h : t.id < w.transactions.length) : (w.setState t s).state t = s := by
  simp [state, setState, List.getD_eq_getElem?_getD, h]

theorem state_setState_of_ne {t' : Transaction} (h : t.id ≠ t'.id) :
    (w.setState t s).state t' = w.state t' := by
  simp [state, setState, List.getD_eq_getElem?_getD, List.getElem?_set_ne h]

theorem state_of_id_eq {t' : Transaction} (h : t.id = t'.id) : w.state t = w.state t' := by
  rw [state, state, h]

@[simp] theorem length_setState :
    (w.setState t s).transactions.length = w.transactions.length := by
  simp [setState]

theorem current?_congr (hthread : w'.thread = w.thread) (hbound : w'.bound = w.bound)
    (manager : Nat) : w'.current? manager = w.current? manager := by
  rw [current?, current?, hthread, hbound]

theorem state_congr (h : w'.transactions = w.transactions) : w'.state t = w.state t := by
  rw [state, state, h]

theorem current?_begun : (w.begun t).current? t.manager = some t := by
  simp [current?, begun, bind]

theorem current?_begun_of_ne {manager : Nat} (h : manager ≠ t.manager) :
    (w.begun t).current? manager = w.current? manager := by
  have hother : ((w.thread, manager) == (w.thread, t.manager)) = false := by simpa using h
  simp only [current?, begun, bind, List.lookup_cons, hother]

private theorem lookup_filter_ne (key : Nat × Nat) (entries : List ((Nat × Nat) × Transaction)) :
    (entries.filter fun entry => entry.1 ≠ key).lookup key = none := by
  rw [List.lookup_eq_none_iff]
  intro entry hentry
  have hother : entry.1 ≠ key := of_decide_eq_true (List.mem_filter.mp hentry).2
  exact bne_iff_ne.mpr hother.symm

private theorem lookup_filter_of_ne {key other : Nat × Nat} (h : other ≠ key)
    (entries : List ((Nat × Nat) × Transaction)) :
    (entries.filter fun entry => entry.1 ≠ key).lookup other = entries.lookup other := by
  induction entries with
  | nil => rfl
  | cons entry entries ih =>
      by_cases hkey : entry.1 = key
      · have hskipped : (other == entry.1) = false := by simpa [hkey] using h
        rw [List.filter_cons_of_neg (by simpa using hkey), ih, List.lookup_cons, hskipped]
      · rw [List.filter_cons_of_pos (by simpa using hkey), List.lookup_cons, List.lookup_cons, ih]

theorem current?_unbind (h : w.current? t.manager = some t) :
    (w.unbind t).current? t.manager = none := by
  rw [unbind, if_pos h]
  exact lookup_filter_ne (w.thread, t.manager) w.bound

/-- What is bound after a transaction has been taken away was bound before, and is another one. -/
theorem current?_of_unbind {manager : Nat} {t' : Transaction}
    (h : (w.unbind t).current? manager = some t') :
    w.current? manager = some t' ∧ (t'.manager = manager → t' ≠ t) := by
  by_cases hbound : w.current? t.manager = some t
  · have hother : manager ≠ t.manager := by
      intro hsame
      rw [hsame, current?_unbind hbound] at h
      cases h
    have hkey : (w.thread, manager) ≠ (w.thread, t.manager) := by simpa using hother
    rw [unbind, if_pos hbound] at h
    refine ⟨(lookup_filter_of_ne hkey w.bound).symm.trans h, fun hmanager hsame => hother ?_⟩
    rw [← hmanager, hsame]
  · rw [unbind, if_neg hbound] at h
    refine ⟨h, fun hmanager hsame => hbound ?_⟩
    subst hmanager
    rw [hsame] at h
    exact h

theorem thread_unbind (t : Transaction) : (w.unbind t).thread = w.thread := by
  rw [unbind]
  split
  · rfl
  · rfl

theorem transactions_unbind (t : Transaction) : (w.unbind t).transactions = w.transactions := by
  rw [unbind]
  split
  · rfl
  · rfl

theorem state_unbind (t t' : Transaction) : (w.unbind t).state t' = w.state t' :=
  state_congr (transactions_unbind t)

end TypedSql.World
