import TypedSql.Proofs.Session.Client
import TypedSql.Proofs.Session.Ending

namespace TypedSql

/-! Worlds in which every open connection has someone who will close it: the code that uses it by
itself, or a transaction whose scope has not ended. -/

variable {σ : Type}

namespace World

def connections (w : World σ) : List Nat :=
  w.transactions.filterMap fun s => s.opened.map OpenConnection.connection

section

variable {w w' : World σ} {t : Transaction} {s : TransactionState}

theorem connections_congr (h : w'.transactions = w.transactions) :
    w'.connections = w.connections := by
  rw [connections, connections, h]

theorem connections_begun (t : Transaction) : (w.begun t).connections = w.connections := by
  simp [connections, begun, bind]

theorem transactions_eq (h : t.id < w.transactions.length) :
    w.transactions =
      w.transactions.take t.id ++ w.state t :: w.transactions.drop (t.id + 1) := by
  rw [state, List.getD_eq_getElem?_getD, List.getElem?_eq_getElem h, Option.getD_some,
    List.getElem_cons_drop, List.take_append_drop]

theorem transactions_setState (h : t.id < w.transactions.length) :
    (w.setState t s).transactions =
      w.transactions.take t.id ++ s :: w.transactions.drop (t.id + 1) :=
  List.set_eq_take_append_cons_drop.trans (if_pos h)

/-- What a transaction has open is exchanged for what it has now. -/
theorem connections_setState (h : t.id < w.transactions.length) (s : TransactionState) :
    ((w.setState t s).connections ++
      ((w.state t).opened.map OpenConnection.connection).toList).Perm
    (w.connections ++ (s.opened.map OpenConnection.connection).toList) := by
  rw [connections, connections, transactions_setState h]
  conv => rhs; rw [transactions_eq h]
  rw [List.perm_iff_count]
  intro k
  simp only [List.filterMap_append, List.filterMap_cons, List.count_append]
  cases s.opened with
  | none =>
      cases (w.state t).opened with
      | none => simp
      | some o =>
          simp [List.count_cons]
          omega
  | some o' =>
      cases (w.state t).opened with
      | none =>
          simp [List.count_cons]
          omega
      | some o =>
          simp [List.count_cons]
          omega

theorem connection_mem {o : OpenConnection} (h : (w.state t).opened = some o) :
    o.connection ∈ w.connections := by
  have hinRange : t.id < w.transactions.length := by
    apply Nat.lt_of_not_le
    intro houtside
    rw [state, List.getD_eq_getElem?_getD, List.getElem?_eq_none houtside] at h
    cases h
  rw [connections, transactions_eq hinRange, List.mem_filterMap]
  exact ⟨w.state t, by simp, by rw [h]; rfl⟩

end

/-- The account of the connections is right, and the transactions that are bound or have something
open are among those of the scopes that have not ended.  Connections that belong to no transaction
are listed apart. -/
structure Orderly (scopes : List Transaction) (standalone : List Nat) (past : List Exchange)
    (w : World (σ × List Exchange)) : Prop where
  account : ∃ es, w.trace = past ++ es ∧ Exchange.Leaves [] es (standalone ++ w.connections)
  inRange : ∀ t ∈ scopes, t.id < w.transactions.length
  bound : ∀ manager t, w.current? manager = some t → t ∈ scopes ∧ t.manager = manager
  ended : ∀ t : Transaction, (∀ scope ∈ scopes, scope.id ≠ t.id) → w.state t = {}

/-- The thread is the same, transactions are in use as before, and those in use are untouched. -/
structure Follows (w w' : World σ) : Prop where
  thread : w'.thread = w.thread
  inUse : ∀ t, (w'.state t).inUse = (w.state t).inUse
  kept : ∀ t, (w.state t).inUse → w'.state t = w.state t

namespace Follows

variable {w w' w'' : World σ}

theorem refl (w : World σ) : w.Follows w :=
  ⟨rfl, fun _ => rfl, fun _ _ => rfl⟩

theorem trans (hfirst : w.Follows w') (hsecond : w'.Follows w'') : w.Follows w'' where
  thread := hsecond.thread.trans hfirst.thread
  inUse t := (hsecond.inUse t).trans (hfirst.inUse t)
  kept t h := by rw [hsecond.kept t (by rw [hfirst.inUse t]; exact h), hfirst.kept t h]

theorem of_states (hthread : w'.thread = w.thread) (h : ∀ t, w'.state t = w.state t) :
    w.Follows w' :=
  ⟨hthread, fun t => by rw [h t], fun t _ => h t⟩

/-- A transaction that is not in use may change, if it is not in use afterwards. -/
theorem of_idle {t : Transaction} (hthread : w'.thread = w.thread)
    (hidle : (w.state t).inUse = false) (hidle' : (w'.state t).inUse = false)
    (hinUse : ∀ t', t.id ≠ t'.id → (w'.state t').inUse = (w.state t').inUse)
    (hkept : ∀ t', t.id ≠ t'.id → (w.state t').inUse → w'.state t' = w.state t') :
    w.Follows w' := by
  refine ⟨hthread, fun t' => ?_, fun t' hbusy => ?_⟩
  · by_cases hsame : t.id = t'.id
    · rw [← state_of_id_eq hsame, ← state_of_id_eq hsame, hidle, hidle']
    · exact hinUse t' hsame
  · refine hkept t' (fun hsame => ?_) hbusy
    rw [← state_of_id_eq hsame, hidle] at hbusy
    cases hbusy

theorem setState {t : Transaction} (hinRange : t.id < w.transactions.length)
    (hidle : (w.state t).inUse = false) {s : TransactionState} (hs : s.inUse = false) :
    w.Follows (w.setState t s) := by
  refine of_idle rfl hidle ?_ (fun t' hother => ?_) fun t' hother _ => state_setState_of_ne hother
  · rw [state_setState hinRange, hs]
  · rw [state_setState_of_ne hother]

end Follows

theorem Exchanged.follows {w w' : World (σ × List Exchange)} {es : List Exchange}
    (h : w.Exchanged es w') : w.Follows w' :=
  .of_states h.thread h.state

/-- The connections are open, each by itself or for a transaction that is in use. -/
def Lends (standalone held : List Nat) (w : World σ) : Prop :=
  ∀ connection ∈ held, connection ∈ standalone ∨
    ∃ (t : Transaction) (o : OpenConnection),
      w.state t = ⟨some o, true⟩ ∧ o.connection = connection

namespace Lends

variable {w w' : World σ} {standalone held : List Nat} {connection : Nat}

theorem mem (h : w.Lends standalone held) (hheld : connection ∈ held) :
    connection ∈ standalone ++ w.connections := by
  rw [List.mem_append]
  obtain halone | ⟨t, o, hstate, rfl⟩ := h connection hheld
  · exact .inl halone
  · exact .inr (connection_mem (t := t) (by rw [hstate]))

theorem kept (h : w.Lends standalone held)
    (hkept : ∀ t, (w.state t).inUse → w'.state t = w.state t) : w'.Lends standalone held := by
  intro connection hheld
  obtain halone | ⟨t, o, hstate, hsame⟩ := h connection hheld
  · exact .inl halone
  · exact .inr ⟨t, o, by rw [hkept t (by rw [hstate]), hstate], hsame⟩

theorem alone (h : w.Lends standalone held) (connection : Nat) :
    w.Lends (connection :: standalone) (connection :: held) := by
  intro connection' hheld
  obtain rfl | hheld := List.mem_cons.mp hheld
  · exact .inl List.mem_cons_self
  · exact (h connection' hheld).imp_left (List.mem_cons_of_mem connection)

theorem entered (h : w.Lends standalone held) {t : Transaction} {o : OpenConnection}
    (hstate : w.state t = ⟨some o, true⟩) : w.Lends standalone (o.connection :: held) := by
  intro connection hheld
  obtain rfl | hheld := List.mem_cons.mp hheld
  · exact .inr ⟨t, o, hstate, rfl⟩
  · exact h connection hheld

end Lends

namespace Orderly

open Exchange

variable {w w' : World (σ × List Exchange)} {scopes : List Transaction}
  {standalone standalone' : List Nat} {past es : List Exchange} {t : Transaction}

theorem exchanged (h : w.Orderly scopes standalone past) (hmade : w.Exchanged es w')
    (hleaves : Leaves (standalone ++ w.connections) es (standalone' ++ w.connections)) :
    w'.Orderly scopes standalone' past where
  account := by
    obtain ⟨before, htrace, haccount⟩ := h.account
    refine ⟨before ++ es, by rw [hmade.trace, htrace, List.append_assoc], ?_⟩
    rw [connections_congr hmade.transactions]
    exact haccount.trans hleaves
  inRange t ht := by
    rw [hmade.transactions]
    exact h.inRange t ht
  bound manager t hcurrent := h.bound manager t (by rw [← hmade.current?, hcurrent])
  ended t ht := by rw [hmade.state, h.ended t ht]

theorem silent (h : w.Orderly scopes standalone past) (hmade : w.Exchanged [] w') :
    w'.Orderly scopes standalone past :=
  h.exchanged hmade (.refl _)

theorem setState (h : w.Orderly scopes standalone past) (ht : t ∈ scopes) {s : TransactionState}
    (hperm : (standalone ++ w.connections).Perm
      (standalone' ++ (w.setState t s).connections)) :
    (w.setState t s).Orderly scopes standalone' past where
  account := by
    obtain ⟨before, htrace, haccount⟩ := h.account
    exact ⟨before, htrace, haccount.perm hperm⟩
  inRange t ht := by
    rw [length_setState]
    exact h.inRange t ht
  bound := h.bound
  ended t' ht' := by rw [state_setState_of_ne (ht' t ht), h.ended t' ht']

theorem same (h : w.Orderly scopes standalone past) (ht : t ∈ scopes) {s : TransactionState}
    (hopened : s.opened = (w.state t).opened) :
    (w.setState t s).Orderly scopes standalone past := by
  refine h.setState ht ?_
  have hexchange := connections_setState (h.inRange t ht) s
  rw [hopened, List.perm_append_right_iff] at hexchange
  exact hexchange.symm.append_left standalone

theorem adopted {o : OpenConnection} (h : w.Orderly scopes (o.connection :: standalone) past)
    (ht : t ∈ scopes) (hnone : (w.state t).opened = none) (inUse : Bool) :
    (w.setState t ⟨some o, inUse⟩).Orderly scopes standalone past := by
  refine h.setState ht ?_
  have hexchange := connections_setState (h.inRange t ht) ⟨some o, inUse⟩
  rw [hnone] at hexchange
  simp only [Option.map_none, Option.toList_none, List.append_nil, Option.map_some,
    Option.toList_some] at hexchange
  have hmoved : (o.connection :: (standalone ++ w.connections)).Perm
      (standalone ++ (w.connections ++ [o.connection])) := by
    rw [← List.append_assoc]
    exact (List.perm_append_singleton _ _).symm
  exact hmoved.trans (hexchange.symm.append_left standalone)

/-- The connection of a transaction is left by itself. -/
theorem orphaned {o : OpenConnection} (h : w.Orderly scopes standalone past) (ht : t ∈ scopes)
    (hsome : (w.state t).opened = some o) :
    (w.setState t {}).Orderly scopes (o.connection :: standalone) past := by
  refine h.setState ht ?_
  have hexchange := connections_setState (h.inRange t ht) {}
  rw [hsome] at hexchange
  simp only [Option.map_none, Option.toList_none, List.append_nil, Option.map_some,
    Option.toList_some] at hexchange
  have hmoved : (standalone ++ ((w.setState t {}).connections ++ [o.connection])).Perm
      (o.connection :: (standalone ++ (w.setState t {}).connections)) := by
    rw [← List.append_assoc]
    exact List.perm_append_singleton _ _
  exact (hexchange.symm.append_left standalone).trans hmoved

theorem unbind (h : w.Orderly scopes standalone past) (t : Transaction) :
    (w.unbind t).Orderly scopes standalone past where
  account := by
    rw [trace_unbind, connections_congr (transactions_unbind t)]
    exact h.account
  inRange t' ht' := by
    rw [transactions_unbind]
    exact h.inRange t' ht'
  bound manager t' hcurrent := h.bound manager t' (current?_of_unbind hcurrent).1
  ended t' ht' := by rw [state_unbind, h.ended t' ht']

/-- The scope of a transaction that has nothing open has ended once it is bound no more. -/
theorem leave (h : w.Orderly (t :: scopes) standalone past) (hstate : w.state t = {}) :
    (w.unbind t).Orderly scopes standalone past where
  account := (h.unbind t).account
  inRange t' ht' := (h.unbind t).inRange t' (List.mem_cons_of_mem t ht')
  bound manager t' hcurrent := by
    obtain ⟨hcurrent, hother⟩ := current?_of_unbind hcurrent
    obtain ⟨ht', hsame⟩ := h.bound manager t' hcurrent
    exact ⟨(List.mem_cons.mp ht').resolve_left (hother hsame), hsame⟩
  ended t' ht' := by
    rw [state_unbind]
    by_cases hsame : t.id = t'.id
    · rw [← state_of_id_eq hsame, hstate]
    · exact h.ended t' (List.forall_mem_cons.mpr ⟨hsame, ht'⟩)

theorem begun (h : w.Orderly scopes standalone past) (hid : t.id = w.transactions.length) :
    (w.begun t).Orderly (t :: scopes) standalone past where
  account := by
    rw [connections_begun]
    exact h.account
  inRange t' ht' := by
    have hlength : (w.begun t).transactions.length = w.transactions.length + 1 := by
      simp [World.begun, World.bind]
    rw [hlength]
    obtain rfl | ht' := List.mem_cons.mp ht'
    · omega
    · exact Nat.lt_succ_of_lt (h.inRange t' ht')
  bound manager t' hcurrent := by
    by_cases hmanager : manager = t.manager
    · subst hmanager
      rw [current?_begun] at hcurrent
      obtain rfl := Option.some.inj hcurrent
      exact ⟨List.mem_cons_self, rfl⟩
    · rw [current?_begun_of_ne hmanager] at hcurrent
      obtain ⟨ht', hsame⟩ := h.bound manager t' hcurrent
      exact ⟨List.mem_cons_of_mem t ht', hsame⟩
  ended t' ht' := by
    rw [state_begun_eq, h.ended t' (List.forall_mem_cons.mp ht').2]

end Orderly

end World

end TypedSql
