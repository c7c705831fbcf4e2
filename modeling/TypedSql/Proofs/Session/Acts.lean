import TypedSql.Proofs.Session.Confined

namespace TypedSql

/-! What can be done with one transaction at a time, and what becomes of all others. -/

variable {σ α : Type}

open Exchange Session Transaction

namespace World

section

variable {w : World σ} {t : Transaction} {entry : (Nat × Nat) × Transaction}

theorem mem_of_current? {manager : Nat} (h : w.current? manager = some t) :
    ((w.thread, manager), t) ∈ w.bound := by
  obtain ⟨before, after, hbound, -⟩ := List.lookup_eq_some_iff.mp h
  rw [hbound]
  simp

theorem current?_of_mem (hkeys : (w.bound.map Prod.fst).Nodup) {manager : Nat}
    (h : ((w.thread, manager), t) ∈ w.bound) : w.current? manager = some t := by
  obtain ⟨before, after, hbound⟩ := List.append_of_mem h
  refine List.lookup_eq_some_iff.mpr ⟨before, after, hbound, ?_⟩
  intro entry hentry
  rw [hbound, List.map_append, List.map_cons, List.nodup_append] at hkeys
  obtain ⟨-, -, hapart⟩ := hkeys
  have hother := hapart entry.1 (List.mem_map_of_mem hentry) (w.thread, manager) List.mem_cons_self
  simpa using fun hsame => hother hsame.symm

theorem bound_unbind_sublist (w : World σ) (t : Transaction) :
    (w.unbind t).bound.Sublist w.bound := by
  rw [unbind]
  split
  · exact List.filter_sublist
  · exact .refl _

theorem mem_bound_unbind (hmem : entry ∈ w.bound) (hkey : entry.1 ≠ (w.thread, t.manager)) :
    entry ∈ (w.unbind t).bound := by
  rw [unbind]
  split
  · exact List.mem_filter.mpr ⟨hmem, decide_eq_true hkey⟩
  · exact hmem

end

/-- The world while a thread is running. -/
def on (w : World σ) (thread : Nat) : World σ := { w with thread }

/-- What is done with at most one transaction, which may get its connection and lose it, and may
be taken away from its thread and manager.  Nothing else changes. -/
structure Acts (key : Option (Nat × Nat)) (own : Option Transaction)
    (w : World (σ × List Exchange)) (es : List Exchange) (w' : World (σ × List Exchange)) :
    Prop where
  trace : w'.trace = w.trace ++ es
  length : w'.transactions.length = w.transactions.length
  bound : w'.bound.Sublist w.bound
  elsewhere : ∀ entry ∈ w.bound, some entry.1 ≠ key → entry ∈ w'.bound
  others : ∀ t, (∀ o ∈ own, o.id ≠ t.id) → w'.state t = w.state t
  idle : ∀ t ∈ own, (w'.state t).inUse = false
  opens : ∀ t ∈ own, ∀ k ∈ t.connections w', k ∈ t.connections w ∨ k ∈ es.filterMap opened?
  confined : Confined (own.elim [] fun t => t.connections w) es

namespace Acts

variable {key : Option (Nat × Nat)} {t : Transaction} {w w' v : World (σ × List Exchange)}
  {es : List Exchange}

theorem of_exchanged {own : Option Transaction} (hmade : w.Exchanged es w')
    (hidle : ∀ t ∈ own, (w.state t).inUse = false)
    (hconfined : Confined (own.elim [] fun t => t.connections w) es) : Acts key own w es w' := by
  refine ⟨hmade.trace, by rw [hmade.transactions],
    by simp only [hmade.bound, List.Sublist.refl], ?_, fun t _ => hmade.state t, ?_, ?_, hconfined⟩
  · rw [hmade.bound]
    exact fun entry hmem _ => hmem
  · intro t ht
    rw [hmade.state, hidle t ht]
  · intro t ht k hk
    rw [Transaction.connections, hmade.state] at hk
    exact .inl hk

theorem of_serves (hserves : t.Serves w es w') (hidle : (w.state t).inUse = false) :
    Acts key (some t) w es w' := by
  refine ⟨hserves.trace, hserves.length,
    by simp only [hserves.bound, List.Sublist.refl], ?_, ?_, ?_, ?_, hserves.confined⟩
  · rw [hserves.bound]
    exact fun entry hmem _ => hmem
  · exact fun t' hother => hserves.others t' (hother t rfl)
  · rintro t' ⟨⟩
    rw [hserves.inUse, hidle]
  · rintro t' ⟨⟩
    exact hserves.opens

/-- The transaction is ended or left, and taken away from its thread. -/
theorem of_returned (hinRange : t.id < w.transactions.length)
    (hcalls : ∀ x ∈ es, ∃ k ∈ t.connections w, x.call.connection? = some k)
    (hmade : (w.setState t {}).Exchanged es v) (hsilent : (v.unbind t).Exchanged [] w') :
    Acts (some (w.thread, t.manager)) (some t) w es w' := by
  have hstate (t' : Transaction) : w'.state t' = (w.setState t {}).state t' := by
    rw [hsilent.state, state_unbind, hmade.state]
  have hleft : w'.state t = {} := by
    rw [hstate, state_setState hinRange]
  refine ⟨?_, ?_, ?_, ?_, ?_, ?_, ?_, ?_⟩
  · rw [hsilent.trace, List.append_nil, trace_unbind, hmade.trace]
    rfl
  · rw [hsilent.transactions, transactions_unbind, hmade.transactions, length_setState]
  · rw [hsilent.bound]
    exact (bound_unbind_sublist v t).trans (by rw [hmade.bound]; exact List.Sublist.refl w.bound)
  · intro entry hmem hkey
    rw [hsilent.bound]
    refine mem_bound_unbind (by rw [hmade.bound]; exact hmem) ?_
    rw [hmade.thread]
    exact fun hsame => hkey (congrArg some hsame)
  · intro t' hother
    rw [hstate, state_setState_of_ne (hother t rfl)]
  · rintro t' ⟨⟩
    rw [hleft]
  · rintro t' ⟨⟩ k hk
    simp [Transaction.connections, hleft] at hk
  · exact confined_of_reaches hcalls

end Acts

/-- Between the actions of the threads no connection is in use, and each one that a transaction has
open was opened and is the transaction's own, unless two were opened under one number. -/
structure Quiet (w : World (σ × List Exchange)) : Prop where
  idle : ∀ t : Transaction, (w.state t).inUse = false
  opened : ∀ t : Transaction, ∀ k ∈ t.connections w, k ∈ w.trace.filterMap opened?
  disjoint : (w.trace.filterMap opened?).Nodup → ∀ t t' : Transaction, t.id ≠ t'.id →
    ∀ k ∈ t.connections w, k ∉ t'.connections w

section

variable {key : Option (Nat × Nat)} {own : Option Transaction} {es : List Exchange}
  {w w' : World (σ × List Exchange)}

theorem Quiet.on (h : w.Quiet) (thread : Nat) : (w.on thread).Quiet :=
  ⟨h.idle, h.opened, h.disjoint⟩

theorem Acts.state_of_id_ne (hacts : Acts key own w es w') (t : Transaction) :
    (∃ o ∈ own, o.id = t.id) ∨ w'.state t = w.state t := by
  by_cases h : ∃ o ∈ own, o.id = t.id
  · exact .inl h
  · exact .inr (hacts.others t fun o ho hsame => h ⟨o, ho, hsame⟩)

theorem Acts.mem_connections (hacts : Acts key own w es w') {t : Transaction} {k : Nat}
    (hk : k ∈ t.connections w') :
    k ∈ t.connections w ∨ k ∈ es.filterMap opened? ∧ ∃ o ∈ own, o.id = t.id := by
  rcases hacts.state_of_id_ne t with ⟨o, ho, hsame⟩ | hsame
  · rw [Transaction.connections, ← state_of_id_eq hsame] at hk
    rw [Transaction.connections, ← state_of_id_eq hsame]
    exact (hacts.opens o ho k hk).imp_right fun hk => ⟨hk, o, ho, hsame⟩
  · rw [Transaction.connections, hsame] at hk
    exact .inl hk

theorem Quiet.acts (h : w.Quiet) (hacts : Acts key own w es w') : w'.Quiet where
  idle t := by
    rcases hacts.state_of_id_ne t with ⟨o, ho, hsame⟩ | hsame
    · rw [← state_of_id_eq hsame]
      exact hacts.idle o ho
    · rw [hsame, h.idle t]
  opened t k hk := by
    rw [hacts.trace, List.filterMap_append, List.mem_append]
    rcases hacts.mem_connections hk with hk | ⟨hk, -⟩
    · exact .inl (h.opened t k hk)
    · exact .inr hk
  disjoint hfresh t t' hother k hk hk' := by
    rw [hacts.trace, List.filterMap_append] at hfresh
    obtain ⟨hbefore, -, hnever⟩ := List.nodup_append.mp hfresh
    -- A connection that has just been opened is none of those that were open before.
    rcases hacts.mem_connections hk with hk | ⟨hk, o, ho, hsame⟩
    · rcases hacts.mem_connections hk' with hk' | ⟨hk', -⟩
      · exact h.disjoint hbefore t t' hother k hk hk'
      · exact hnever k (h.opened t k hk) k hk' rfl
    · rcases hacts.mem_connections hk' with hk' | ⟨-, o', ho', hsame'⟩
      · exact hnever k (h.opened t' k hk') k hk rfl
      · rw [Option.mem_unique ho ho', hsame'] at hsame
        exact hother hsame.symm

/-- Nothing is said to the connection of a transaction that nothing is done with. -/
theorem Quiet.undisturbed (h : w.Quiet) (hacts : Acts key own w es w')
    (hfresh : (w'.trace.filterMap opened?).Nodup) {t : Transaction}
    (hother : ∀ o ∈ own, o.id ≠ t.id) :
    ∀ x ∈ es, ∀ k ∈ t.connections w, x.call.connection? ≠ some k := by
  intro x hx k hk hreaches
  rw [hacts.trace, List.filterMap_append] at hfresh
  obtain ⟨hbefore, -, hnever⟩ := List.nodup_append.mp hfresh
  rcases hacts.confined x hx k hreaches with hown | hopened
  · cases own with
    | none => cases hown
    | some o => exact h.disjoint hbefore o t (hother o rfl) k hown hk
  · exact hnever k (h.opened t k hk) k hopened rfl

end

end World

namespace Transaction

open World

variable {d : Driver σ} {t : Transaction} {w : World (σ × List Exchange)}
  {key : Option (Nat × Nat)}

theorem connection?_of_releaseCalls {o : OpenConnection} :
    ∀ c ∈ t.releaseCalls o, c.connection? = some o.connection := by
  intro c hc
  rw [releaseCalls_eq, List.mem_append, List.mem_singleton] at hc
  obtain hc | rfl := hc
  · exact Call.connection?_of_isSetting (isSetting_of_restoringCalls hc)
  · rfl

theorem reaches_of_ended {ended : Option Exchange} {rolledBack : Bool}
    (h : ended.map Exchange.call =
      (w.state t).opened.map fun o => .ending rolledBack o.connection) :
    ∀ x ∈ ended.toList, ∃ k ∈ t.connections w, x.call.connection? = some k := by
  intro x hx
  rw [Option.mem_toList] at hx
  obtain rfl := hx
  obtain ⟨o, hopened, hcall⟩ := Option.map_eq_some_iff.mp h.symm
  refine ⟨o.connection, mem_connections hopened, ?_⟩
  rw [← hcall]
  exact Call.connection?_ending rolledBack o.connection

theorem reaches_of_released {release : List Exchange}
    (h : release.map Exchange.call = (w.state t).opened.elim [] t.releaseCalls) :
    ∀ x ∈ release, ∃ k ∈ t.connections w, x.call.connection? = some k := by
  intro x hx
  have hcall : x.call ∈ release.map Exchange.call := List.mem_map_of_mem hx
  rw [h] at hcall
  cases hopened : (w.state t).opened with
  | none =>
      rw [hopened] at hcall
      cases hcall
  | some o =>
      rw [hopened] at hcall
      exact ⟨o.connection, mem_connections hopened, connection?_of_releaseCalls x.call hcall⟩

theorem settle_acts (hidle : (w.state t).inUse = false) (rolledBack : Bool) :
    ∃ es, Acts key (some t) w es (t.settle d.traced rolledBack w).2 := by
  obtain ⟨ended, w', hrun, hended, hmade⟩ := settle_spec d hidle rolledBack
  rw [hrun]
  exact ⟨_, .of_exchanged hmade (by simpa using hidle)
    (confined_of_reaches (reaches_of_ended hended))⟩

theorem close_acts (hinRange : t.id < w.transactions.length) (hidle : (w.state t).inUse = false) :
    ∃ es, Acts (some (w.thread, t.manager)) (some t) w es (t.close d.traced w).2 := by
  obtain ⟨release, v, hrun, hrelease, hmade⟩ := close_leaves d hidle
  rw [hrun]
  exact ⟨_, .of_returned hinRange (reaches_of_released hrelease) hmade (.refl _)⟩

end Transaction

theorem Manager.finish_acts {m : Manager (σ × List Exchange)} {d : Driver σ} {t : Transaction}
    {w : World (σ × List Exchange)} (hdriver : m.driver = d.traced)
    (hinRange : t.id < w.transactions.length) (hidle : (w.state t).inUse = false)
    (rollsBack : Error → Bool) (outcome : Except Error α) :
    ∃ es, World.Acts (some (w.thread, t.manager)) (some t) w es
      (m.finish t rollsBack outcome w).2 := by
  obtain ⟨ended, release, v, w', hrun, hended, hrelease, hmade, hsilent⟩ :=
    finish_leaves hdriver hidle rollsBack outcome
  rw [hrun]
  exact ⟨_, .of_returned hinRange (List.forall_mem_append.mpr
    ⟨reaches_of_ended hended, reaches_of_released hrelease⟩) hmade hsilent⟩

end TypedSql
