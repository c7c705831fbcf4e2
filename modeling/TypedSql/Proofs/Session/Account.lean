import TypedSql.Proofs.Session.Scope

namespace TypedSql

/-! Which connections are open.  Exchanges are read as an account of the connections with a number:
opening one adds to it, closing one takes from it, and any other call needs one that is open. -/

namespace Call

/-- Calls that a connection is lent for: all but its close. -/
def isBorrowed (connection : Nat) (c : Call) : Bool :=
  c.connection? = some connection && c ≠ close connection

variable {c : Call} {connection : Nat}

theorem isBorrowed_of_isUse (h : c.isUse connection) : c.isBorrowed connection := by
  cases c with
  | commit _ | rollback _ | close _ => simp [isUse] at h
  | _ => simpa [isUse, isBorrowed] using h

theorem isBorrowed_of_isSetting (h : c.isSetting connection) : c.isBorrowed connection := by
  cases c with
  | isolation _ | setIsolation _ _ | autocommit _ | setAutocommit _ _ =>
      simpa [isSetting, isBorrowed, connection?] using h
  | _ => cases h

end Call

namespace Exchange

def opened? (x : Exchange) : Option Nat :=
  match x with
  | ⟨.connect, .ok connection⟩ => some connection
  | _ => none

/-- How many connections with a number are open after an exchange.  There is no answer when a call
reaches such a connection while none is open. -/
def tally? (connection : Nat) (opened : Nat) (x : Exchange) : Option Nat :=
  if x.opened? = some connection then some (opened + 1)
  else if x.call.connection? ≠ some connection then some opened
  else if opened = 0 then none
  else some (if x.call = .close connection then opened - 1 else opened)

def tallyAll? (connection : Nat) (opened : Nat) (es : List Exchange) : Option Nat :=
  es.foldlM (tally? connection) opened

variable {x : Exchange} {es es' : List Exchange} {k connection n m : Nat}

@[simp] theorem tallyAll?_nil : tallyAll? k n [] = some n := rfl

@[simp] theorem tallyAll?_cons :
    tallyAll? k n (x :: es) = (tally? k n x).bind fun m => tallyAll? k m es := rfl

theorem tallyAll?_append :
    tallyAll? k n (es ++ es') = (tallyAll? k n es).bind fun m => tallyAll? k m es' :=
  List.foldlM_append

theorem connection?_of_opened? (h : x.opened? = some connection) : x.call.connection? = none := by
  unfold opened? at h
  split at h
  · rfl
  · cases h

/-- The exchanges take the connections that are open, by their numbers, to those that are open
afterwards. -/
def Leaves (before : List Nat) (es : List Exchange) (after : List Nat) : Prop :=
  ∀ k, tallyAll? k (before.count k) es = some (after.count k)

namespace Leaves

variable {l l' l'' : List Nat}

theorem refl (l : List Nat) : Leaves l [] l :=
  fun _ => rfl

theorem trans (hfirst : Leaves l es l') (hsecond : Leaves l' es' l'') :
    Leaves l (es ++ es') l'' := by
  intro k
  rw [tallyAll?_append, hfirst k, Option.bind_some, hsecond k]

theorem perm (h : Leaves l es l') (hafter : l'.Perm l'') : Leaves l es l'' := by
  intro k
  rw [h k, hafter.count_eq]

theorem refused (l : List Nat) (e : Error) : Leaves l [⟨.connect, .error e⟩] l := by
  intro k
  simp [tally?, opened?, Call.connection?]

theorem opened (l : List Nat) (connection : Nat) :
    Leaves l [⟨.connect, .ok connection⟩] (connection :: l) := by
  intro k
  by_cases hsame : connection = k
  · simp [tally?, opened?, hsame]
  · simp [tally?, opened?, Call.connection?, hsame]

private theorem tally?_of_connection? (hcall : x.call.connection? = some connection) (k n : Nat) :
    tally? k n x =
      if connection = k then
        if n = 0 then none else some (if x.call = .close k then n - 1 else n)
      else some n := by
  have hnotOpened : x.opened? ≠ some k := by
    intro h
    rw [connection?_of_opened? h] at hcall
    cases hcall
  simp only [tally?, if_neg hnotOpened, hcall, Option.some.injEq, ne_eq, ite_not]

theorem closed (l : List Nat) (hclose : x.call = .close connection) :
    Leaves (connection :: l) [x] l := by
  intro k
  have hcall : x.call.connection? = some connection := by rw [hclose]; rfl
  rw [tallyAll?_cons, tally?_of_connection? hcall]
  by_cases hsame : connection = k
  · subst hsame
    simp [hclose]
  · simp [hsame]

theorem borrowed (hopen : connection ∈ l) (h : x.call.isBorrowed connection) : Leaves l [x] l := by
  intro k
  simp only [Call.isBorrowed, Bool.and_eq_true, decide_eq_true_eq] at h
  rw [tallyAll?_cons, tally?_of_connection? h.1]
  by_cases hsame : connection = k
  · subst hsame
    have hcount : l.count connection ≠ 0 := Nat.ne_of_gt (List.count_pos_iff.mpr hopen)
    simp [hcount, h.2]
  · simp [hsame]

theorem allBorrowed (hopen : connection ∈ l)
    (h : ∀ x ∈ es, x.call.isBorrowed connection) : Leaves l es l := by
  induction es with
  | nil => exact .refl l
  | cons x es ih =>
      obtain ⟨hfirst, hrest⟩ := List.forall_mem_cons.mp h
      exact (borrowed hopen hfirst).trans (ih hrest)

end Leaves

theorem isSetting_of_interruptedSetup (h : InterruptedSetup connection es) :
    ∀ x ∈ es, x.call.isSetting connection := by
  obtain ⟨done, failing, rfl, hdone, hfailing, -⟩ := h
  intro x hx
  cases List.mem_append.mp hx with
  | inl hx => exact (hdone x hx).1
  | inr hx =>
      rw [List.mem_singleton.mp hx]
      exact hfailing

theorem isSetting_of_settings {t : Transaction} {o : OpenConnection} :
    ∀ x ∈ t.settings o, x.call.isSetting o.connection :=
  fun _ hx => (t.isSetting_of_mem_settings hx).1

namespace Leaves

variable {l : List Nat} {t : Transaction} {o : OpenConnection}

theorem failedOpening (l : List Nat) (h : FailedOpening es) : Leaves l es l := by
  cases h with
  | inl hrefused =>
      obtain ⟨e, rfl⟩ := hrefused
      exact .refused l e
  | inr hinterrupted =>
      obtain ⟨connection, setup, closing, rfl, hsetup, hclosing⟩ := hinterrupted
      have htried : Leaves (connection :: l) setup (connection :: l) :=
        allBorrowed List.mem_cons_self fun x hx =>
          Call.isBorrowed_of_isSetting (isSetting_of_interruptedSetup hsetup x hx)
      exact (opened l connection).trans (htried.trans (closed l hclosing))

theorem opening (l : List Nat) (t : Transaction) (o : OpenConnection) :
    Leaves l (t.opening o) (o.connection :: l) :=
  (opened l o.connection).trans
    (allBorrowed List.mem_cons_self fun x hx =>
      Call.isBorrowed_of_isSetting (isSetting_of_settings x hx))

theorem release (l : List Nat) {es : List Exchange}
    (h : es.map Exchange.call = t.releaseCalls o) : Leaves (o.connection :: l) es l := by
  obtain ⟨restoring, closing, rfl, hrestoring, hclosing⟩ := Transaction.restored_of_release h
  refine trans (allBorrowed List.mem_cons_self fun x hx => ?_) (closed l hclosing)
  have hcall : x.call ∈ restoring.map Exchange.call := List.mem_map_of_mem hx
  rw [hrestoring] at hcall
  exact Call.isBorrowed_of_isSetting (Transaction.isSetting_of_restoringCalls hcall)

end Leaves

/-- Every connection that has been opened, if its number is used for no other one, is closed once,
and no call reaches it before it is opened or after it has been closed. -/
def ClosedOnce (es : List Exchange) : Prop :=
  ∀ before connection after, es = before ++ ⟨.connect, .ok connection⟩ :: after →
    (∀ x ∈ before ++ after, x.opened? ≠ some connection) →
    ∃ uses closing rest, after = uses ++ closing :: rest ∧
      closing.call = .close connection ∧
      (∀ x ∈ uses, x.call ≠ .close connection) ∧
      ∀ x ∈ before ++ rest, x.call.connection? ≠ some connection

private theorem tally?_of_not_opened? (h : x.opened? ≠ some k) (htally : tally? k n x = some m) :
    (x.call.connection? ≠ some k ∧ m = n) ∨
      (x.call.connection? = some k ∧ x.call ≠ .close k ∧ m = n ∧ 0 < n) ∨
      (x.call = .close k ∧ m + 1 = n) := by
  rw [tally?, if_neg h] at htally
  split at htally
  · exact .inl ⟨‹_›, (Option.some.inj htally).symm⟩
  · have hreaches : x.call.connection? = some k := Decidable.of_not_not ‹_›
    split at htally
    · cases htally
    · have htally := Option.some.inj htally
      split at htally
      · exact .inr (.inr ⟨‹_›, by omega⟩)
      · exact .inr (.inl ⟨hreaches, ‹_›, htally.symm, Nat.pos_of_ne_zero ‹_›⟩)

private theorem unreached_of_tallyAll? (h : ∀ x ∈ es, x.opened? ≠ some k)
    (htally : tallyAll? k 0 es = some n) :
    n = 0 ∧ ∀ x ∈ es, x.call.connection? ≠ some k := by
  induction es with
  | nil => exact ⟨(Option.some.inj htally).symm, by simp⟩
  | cons x es ih =>
      obtain ⟨hhead, hrest⟩ := List.forall_mem_cons.mp h
      rw [tallyAll?_cons] at htally
      obtain ⟨m, hfirst, htally⟩ := Option.bind_eq_some_iff.mp htally
      obtain ⟨hunreached, rfl⟩ | ⟨-, -, -, himpossible⟩ | ⟨-, himpossible⟩ :=
        tally?_of_not_opened? hhead hfirst
      · obtain ⟨hnone, hall⟩ := ih hrest htally
        exact ⟨hnone, List.forall_mem_cons.mpr ⟨hunreached, hall⟩⟩
      · cases himpossible
      · cases himpossible

private theorem closed_of_tallyAll? (h : ∀ x ∈ es, x.opened? ≠ some k)
    (htally : tallyAll? k 1 es = some 0) :
    ∃ uses closing rest, es = uses ++ closing :: rest ∧ closing.call = .close k ∧
      (∀ x ∈ uses, x.call ≠ .close k) ∧ ∀ x ∈ rest, x.call.connection? ≠ some k := by
  induction es with
  | nil => cases htally
  | cons x es ih =>
      obtain ⟨hhead, hrest⟩ := List.forall_mem_cons.mp h
      rw [tallyAll?_cons] at htally
      obtain ⟨m, hfirst, htally⟩ := Option.bind_eq_some_iff.mp htally
      have hwaits (hm : m = 1) (hother : x.call ≠ .close k) :
          ∃ uses closing rest, x :: es = uses ++ closing :: rest ∧ closing.call = .close k ∧
            (∀ x ∈ uses, x.call ≠ .close k) ∧ ∀ x ∈ rest, x.call.connection? ≠ some k := by
        subst hm
        obtain ⟨uses, closing, after, rfl, hclosing, huses, hafter⟩ := ih hrest htally
        exact ⟨x :: uses, closing, after, rfl, hclosing,
          List.forall_mem_cons.mpr ⟨hother, huses⟩, hafter⟩
      obtain ⟨hunreached, hm⟩ | ⟨-, hother, hm, -⟩ | ⟨hclose, hm⟩ :=
        tally?_of_not_opened? hhead hfirst
      · exact hwaits hm fun hclose => hunreached (by rw [hclose]; rfl)
      · exact hwaits hm hother
      · obtain rfl : m = 0 := by omega
        exact ⟨[], x, es, rfl, hclose, by simp, (unreached_of_tallyAll? hrest htally).2⟩

theorem Leaves.closedOnce (h : Leaves [] es []) : ClosedOnce es := by
  intro before k after hes honce
  have htally : tallyAll? k 0 es = some 0 := h k
  rw [hes, tallyAll?_append] at htally
  obtain ⟨n, hbefore, htally⟩ := Option.bind_eq_some_iff.mp htally
  obtain ⟨rfl, hunreached⟩ := unreached_of_tallyAll?
    (fun x hx => honce x (List.mem_append_left _ hx)) hbefore
  have hafter : tallyAll? k 1 after = some 0 := by
    simpa [tally?, opened?] using htally
  obtain ⟨uses, closing, rest, rfl, hclosing, huses, hrest⟩ := closed_of_tallyAll?
    (fun x hx => honce x (List.mem_append_right _ hx)) hafter
  exact ⟨uses, closing, rest, rfl, hclosing, huses,
    List.forall_mem_append.mpr ⟨hunreached, hrest⟩⟩

end Exchange

end TypedSql
