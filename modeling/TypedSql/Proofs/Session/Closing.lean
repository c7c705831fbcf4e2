import TypedSql.Proofs.Session.Invariant

namespace TypedSql

/-! Programs close the connections that they open.  Every operation keeps the world orderly, so
when the outermost operations have ended no connection is left open. -/

variable {σ α : Type}

open World Exchange Session

theorem World.orderly_invariant (past : List Exchange) :
    Invariant (fun _ => True) fun scopes alone (w : World (σ × List Exchange)) =>
      w.Orderly scopes alone past where
  metadata _ := trivial
  ending _ _ := trivial
  inRange h := h.inRange
  bound h hcurrent := (h.bound _ _ hcurrent).1
  silent h hmade := h.silent hmade
  used h hopen hx _ hmade := h.exchanged hmade (.borrowed hopen hx)
  refused h hmade := h.exchanged hmade (.refused _ _)
  opened h hmade := h.exchanged hmade (.opened _ _)
  closed h hx hmade := h.exchanged hmade (.closed _ hx)
  broken h _ hes hmade := h.exchanged hmade (.failedOpening _ hes.failed)
  entered {_ alone _ w' o t} h ht hstate hmade := by
    have hopened : w'.Orderly _ (o.connection :: alone) past := h.exchanged hmade (.opening _ t o)
    exact hopened.adopted ht (by rw [hmade.state, hstate]) true
  same h ht hs := h.same ht hs
  returned h ht hopened hended hrelease hmade := by
    refine (h.orphaned ht hopened).exchanged hmade (.trans ?_ (.release _ hrelease))
    exact .allBorrowed List.mem_cons_self fun x hx => (hended x hx).1
  unbind h t := h.unbind t
  begun h hid := h.begun hid
  leave h hstate := h.leave hstate

namespace World

/-- Nothing is bound to the running thread, and no transaction has anything open or in use. -/
structure AtRest {τ : Type} (w : World τ) : Prop where
  free : ∀ manager, w.current? manager = none
  ended : ∀ t, w.state t = {}

variable {w : World (σ × List Exchange)} {past : List Exchange}

theorem AtRest.connections (h : w.AtRest) : w.connections = [] := by
  rw [World.connections, List.filterMap_eq_nil_iff]
  intro s hs
  obtain ⟨id, hinRange, rfl⟩ := List.getElem_of_mem hs
  have hended := h.ended ⟨id, 0, none⟩
  rw [state, List.getD_eq_getElem?_getD, List.getElem?_eq_getElem hinRange] at hended
  simp only [Option.getD_some] at hended
  rw [hended]
  rfl

theorem AtRest.orderly (h : w.AtRest) : w.Orderly [] [] w.trace where
  account := by
    rw [h.connections]
    exact ⟨[], (List.append_nil _).symm, .refl []⟩
  inRange := by simp
  bound manager t hcurrent := by
    rw [h.free] at hcurrent
    cases hcurrent
  ended t _ := h.ended t

theorem Orderly.atRest (h : w.Orderly [] [] past) : w.AtRest where
  free manager := by
    cases hcurrent : w.current? manager with
    | none => rfl
    | some t => cases (h.bound manager t hcurrent).1
  ended t := h.ended t (by simp)

end World

/-- Whatever a program does with its databases, and whatever fails, every connection that is opened
is closed again, once, and nothing reaches it but between the two. -/
theorem Client.closes_connections {d : Driver σ} {x : Session (σ × List Exchange) α}
    (h : Client d.traced [] [] x) {w : World (σ × List Exchange)} (hatRest : w.AtRest) :
    (x w).2.AtRest ∧ ∃ es, (x w).2.trace = w.trace ++ es ∧ Leaves [] es [] ∧ ClosedOnce es := by
  have hkept := h.preserves (orderly_invariant w.trace) (List.Subset.refl []) hatRest.orderly
    (fun _ hmem => absurd hmem List.not_mem_nil)
  have hatRest' := hkept.holds.atRest
  obtain ⟨es, htrace, hleaves⟩ := hkept.holds.account
  rw [hatRest'.connections, List.append_nil] at hleaves
  exact ⟨hatRest', es, htrace, hleaves, hleaves.closedOnce⟩

/-- Builds a database and loses its way inside a scope, after a statement outside of it. -/
def visit : Session (ScriptedStore × List Exchange) RowsAffected := do
  let db ← Database.build { dialect := some .generic } (ScriptedStore.driver []).traced none
  let change := db.executeUpdate (.raw ⟨"DELETE FROM a", []⟩)
  let _ ← change
  db.useTransaction fun t => do
    let _ ← change
    t.commit (ScriptedStore.driver []).traced
    db.useConnection fun _ => throw (.panic "lost")

theorem visit_client : Client (ScriptedStore.driver []).traced [] [] visit := by
  refine .bind (.build _ _ rfl) fun db hdb => ?_
  have hsource : db.manager.driver = (ScriptedStore.driver []).traced :=
    Client.driver_of_build hdb
  have hchange {held : List Nat} {scopes : List Transaction} :
      Client (ScriptedStore.driver []).traced held scopes
        (db.executeUpdate (.raw ⟨"DELETE FROM a", []⟩)) :=
    (Client.hosts hsource).executeUpdate _
  refine .bind hchange fun _ _ => .ofManager hsource none _ fun t => ?_
  refine .bind hchange fun _ _ => .bind (.commit List.mem_cons_self) fun _ _ => ?_
  exact .useConnection hsource fun _ => .throw _

/-- The store closes no connection without a complaint, and it does not roll back. -/
def grudgingWorld : World (ScriptedStore × List Exchange) :=
  { store := ({ faults := [⟨.close, "busy", none⟩, ⟨.rollback, "gone", none⟩] }, []) }

theorem visit_closes_connections :
    (visit grudgingWorld).1.isOk = false ∧
      (visit grudgingWorld).2.trace.filterMap Exchange.opened? = [1, 2, 3] ∧
      (visit grudgingWorld).2.AtRest ∧ ClosedOnce (visit grudgingWorld).2.trace := by
  have hatRest : grudgingWorld.AtRest := ⟨fun _ => rfl, fun _ => rfl⟩
  obtain ⟨hatRest', es, htrace, -, hclosed⟩ := visit_client.closes_connections hatRest
  have hall : (visit grudgingWorld).2.trace = es := htrace
  rw [← hall] at hclosed
  exact ⟨by decide +kernel, by decide +kernel, hatRest', hclosed⟩

end TypedSql
