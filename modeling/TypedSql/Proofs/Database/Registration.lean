import Mathlib.Data.List.Forall2
import TypedSql.Proofs.Database.Changes
import TypedSql.Proofs.Session.Lending

namespace TypedSql

/-! The codecs that databases have been told of.  A registry lists them in the order in which they
were named first, and a call that names one of an uncarried type does nothing at all. -/

open Session

variable {σ : Type}

namespace CodecRegistry

variable {wireTypes : List WireType} {ids more : List CodecId} {id : CodecId} {r : CodecRegistry}

def firstRefused? (wireTypes : List WireType) (ids : List CodecId) : Option CodecId :=
  ids.find? fun id => id.type ∉ wireTypes

def refusal (id : CodecId) : ConfigurationFault :=
  .unhandledType id.native.name id.type

theorem firstRefused?_eq_none_iff :
    firstRefused? wireTypes ids = none ↔ ∀ id ∈ ids, id.type ∈ wireTypes := by
  simp [firstRefused?]

theorem exists_firstRefused?_iff :
    (∃ id, firstRefused? wireTypes ids = some id) ↔ ∃ id ∈ ids, id.type ∉ wireTypes := by
  rw [← Option.isSome_iff_exists, Option.isSome_iff_ne_none, ne_eq, firstRefused?_eq_none_iff]
  simp only [not_forall, exists_prop]

/-- Ids before the one that is refused do not matter, nor do those behind it. -/
theorem firstRefused?_of_split {before after : List CodecId}
    (hcarried : ∀ b ∈ before, b.type ∈ wireTypes) (hrefused : id.type ∉ wireTypes) :
    firstRefused? wireTypes (before ++ id :: after) = some id :=
  List.find?_eq_some_iff_append.mpr
    ⟨by simpa using hrefused, before, after, rfl, by simpa using hcarried⟩

/-- What a registry lists after it has been told of some codecs: each of them once, in the order in
which they came first, and only such as the driver carries. -/
structure Registers (wireTypes : List WireType) (ids : List CodecId) (r : CodecRegistry) :
    Prop where
  supported : r.supported = wireTypes
  mem_iff : ∀ id, id ∈ r.registered ↔ id ∈ ids
  nodup : r.registered.Nodup
  inOrder : r.registered.Pairwise fun a b => ids.idxOf a < ids.idxOf b
  carried : ∀ id ∈ ids, id.type ∈ wireTypes

namespace Registers

theorem empty (wireTypes : List WireType) : Registers wireTypes [] ⟨wireTypes, []⟩ where
  supported := rfl
  mem_iff _ := Iff.rfl
  nodup := .nil
  inOrder := .nil
  carried _ h := absurd h List.not_mem_nil

theorem supports_iff (h : Registers wireTypes ids r) (type : WireType) :
    r.supports type ↔ type ∈ wireTypes := by
  rw [supports, h.supported, List.contains_iff_mem]

/-- Later ids do not change which of the earlier ones came first. -/
theorem inOrder_append (h : Registers wireTypes ids r) (later : List CodecId) :
    r.registered.Pairwise fun a b => (ids ++ later).idxOf a < (ids ++ later).idxOf b := by
  refine h.inOrder.imp_of_mem fun {a b} ha hb hbefore => ?_
  rw [List.idxOf_append_of_mem ((h.mem_iff a).mp ha),
    List.idxOf_append_of_mem ((h.mem_iff b).mp hb)]
  exact hbefore

theorem register_of_carried (h : Registers wireTypes ids r) (hcarried : id.type ∈ wireTypes) :
    ∃ r', r.register id = .ok r' ∧ Registers wireTypes (ids ++ [id]) r' := by
  have hcarriedAll : ∀ x ∈ ids ++ [id], x.type ∈ wireTypes := by
    intro x hx
    obtain hbefore | hsame := List.mem_append.mp hx
    · exact h.carried x hbefore
    · exact List.mem_singleton.mp hsame ▸ hcarried
  rw [register, if_pos ((h.supports_iff _).mpr hcarried)]
  refine ⟨_, rfl, ?_⟩
  split
  case isTrue hknown =>
    have htold : id ∈ ids := (h.mem_iff id).mp (List.contains_iff_mem.mp hknown)
    refine ⟨h.supported, fun x => ?_, h.nodup, h.inOrder_append [id], hcarriedAll⟩
    rw [h.mem_iff, List.mem_append, List.mem_singleton]
    exact ⟨.inl, fun heither => heither.elim (·) (· ▸ htold)⟩
  case isFalse hunknown =>
    have hnew : id ∉ r.registered := fun hmem => hunknown (List.contains_iff_mem.mpr hmem)
    have huntold : id ∉ ids := fun hmem => hnew ((h.mem_iff id).mpr hmem)
    refine ⟨h.supported, fun x => ?_, ?_, ?_, hcarriedAll⟩
    · rw [List.mem_append, List.mem_append, h.mem_iff]
    · exact List.nodup_append.mpr ⟨h.nodup, List.pairwise_singleton _ id, fun a ha b hb hsame =>
        hnew (List.mem_singleton.mp hb ▸ hsame ▸ ha)⟩
    · refine List.pairwise_append.mpr
        ⟨h.inOrder_append [id], List.pairwise_singleton _ id, fun a ha b hb => ?_⟩
      obtain rfl := List.mem_singleton.mp hb
      have htold : a ∈ ids := (h.mem_iff a).mp ha
      rw [List.idxOf_append_of_mem htold, List.idxOf_append_of_notMem huntold]
      exact Nat.lt_add_right _ (List.idxOf_lt_length_of_mem htold)

theorem register_of_not_carried (h : Registers wireTypes ids r) (hrefused : id.type ∉ wireTypes) :
    r.register id = .error (refusal id) := by
  rw [register, if_neg (mt (h.supports_iff _).mp hrefused)]
  rfl

/-- Codecs are registered one by one until one of them is refused, and then none is. -/
theorem registerAll_cases (h : Registers wireTypes ids r) (more : List CodecId) :
    (firstRefused? wireTypes more = none ∧
      ∃ r', r.registerAll more = .ok r' ∧ Registers wireTypes (ids ++ more) r') ∨
    ∃ id, firstRefused? wireTypes more = some id ∧ r.registerAll more = .error (refusal id) := by
  induction more generalizing ids r with
  | nil => exact .inl ⟨rfl, r, rfl, by rwa [List.append_nil]⟩
  | cons id more ih =>
      by_cases hcarried : id.type ∈ wireTypes
      · obtain ⟨r₁, hfirst, hkept⟩ := h.register_of_carried hcarried
        have hstep : r.registerAll (id :: more) = r₁.registerAll more := by
          rw [registerAll, List.foldlM_cons, hfirst]
          rfl
        have hpassed : firstRefused? wireTypes (id :: more) = firstRefused? wireTypes more :=
          List.find?_cons_of_neg (by simpa using hcarried)
        rw [hstep, hpassed, List.append_cons]
        exact ih hkept
      · refine .inr ⟨id, List.find?_cons_of_pos (by simpa using hcarried), ?_⟩
        rw [registerAll, List.foldlM_cons, h.register_of_not_carried hcarried]
        rfl

end Registers

end CodecRegistry

open CodecRegistry

namespace DatabaseOptions

def told (o : DatabaseOptions) : Change → DatabaseOptions
  | .casing casing => { o with casing := some casing }
  | .dialect dialect => { o with dialect := some dialect }
  | .failureMap map => { o with failureMap := some map }
  | .codec id => { o with codecs := o.codecs ++ [id] }
  | .table t => { o with codecs := o.codecs ++ t.columns.map ColumnRef.codec }

def toldAll (o : DatabaseOptions) (calls : List Change) : DatabaseOptions :=
  calls.foldl told o

theorem codecs_told (o : DatabaseOptions) (c : Change) :
    (o.told c).codecs = o.codecs ++ c.codecs := by
  cases c with
  | casing _ | dialect _ | failureMap _ => exact (List.append_nil _).symm
  | codec _ | table _ => rfl

theorem codecs_toldAll (o : DatabaseOptions) (calls : List Change) :
    (o.toldAll calls).codecs = o.codecs ++ calls.flatMap Change.codecs := by
  induction calls generalizing o with
  | nil => exact (List.append_nil _).symm
  | cons c calls ih =>
      rw [toldAll, List.foldl_cons, ← toldAll, ih, codecs_told, List.append_assoc,
        List.flatMap_cons]

/-- The dialect is given, or no two of those that are known recognize the store. -/
def Recognizes (o : DatabaseOptions) (m : StoreMetadata) : Prop :=
  o.dialect = none → (o.registry.dialects.filter (·.accepts m)).length ≤ 1

end DatabaseOptions

namespace DialectRegistry

theorem detect_of_unambiguous {r : DialectRegistry} {m : StoreMetadata}
    (h : (r.dialects.filter (·.accepts m)).length ≤ 1) : ∃ dialect, r.detect m = .ok dialect := by
  unfold detect
  generalize r.dialects.filter (·.accepts m) = accepting at h
  match accepting with
  | [] => exact ⟨.generic, rfl⟩
  | [d] => exact ⟨d, rfl⟩
  | _ :: _ :: rest => simp at h

end DialectRegistry

/-- The store lets itself be reached, and describes itself. -/
def Driver.Describes (d : Driver σ) (m : StoreMetadata) (store : σ) : Prop :=
  ∃ connection opened described,
    d.run .connect store = (.ok connection, opened) ∧
    d.run (.metadata connection) opened = (.ok m, described)

namespace World

def refusing (w : World σ) (id : CodecId) : World σ :=
  let message := (Error.failure (.configuration (refusal id))).message
  { w with logging := w.logging.add ⟨.error, .codec, message⟩ }

end World

namespace Database

variable {w : World σ} {m : StoreMetadata}

theorem readMetadata_of_describes {d : Driver σ} (h : d.Describes m w.store) :
    ∃ w', readMetadata d w = (.ok m, w') := by
  obtain ⟨connection, opened, described, hconnected, hgiven⟩ := h
  have hfirst : call d .connect w = (.ok connection, { w with store := opened }) := by
    rw [call, Run.within_apply, hconnected]
  have hsecond : (call d (.metadata connection)).attempt { w with store := opened } =
      (.ok (.ok m), { w with store := described }) := by
    rw [Run.attempt_apply, call, Run.within_apply, hgiven]
  rw [readMetadata, Run.bind_ok hfirst, Run.bind_ok hsecond]
  exact ⟨_, Run.bind_ok (Prod.ext (reporting_fst _ _ _ _ _) rfl)⟩

theorem detect_of_ok {registry : DialectRegistry} {dialect : Dialect}
    (h : registry.detect m = .ok dialect) (w : World σ) :
    ∃ w', (detect registry m : Session σ Dialect) w = (.ok dialect, w') := by
  unfold detect
  rw [h]
  simp only
  split
  · exact ⟨_, rfl⟩
  · exact ⟨_, rfl⟩

/-- A run ends with a database if the codecs are accepted, and with the fault that they are refused
for otherwise. -/
def EndsAs (accepted : Except ConfigurationFault CodecRegistry) (x : Session σ (Database σ))
    (w : World σ) : Prop :=
  match accepted with
  | .ok _ => ∃ built w', x w = (.ok built, w')
  | .error fault => ∃ w', x w = (.error (.failure (.configuration fault)), w')

theorem EndsAs.bind {α : Type} {accepted : Except ConfigurationFault CodecRegistry}
    {x : Session σ α} {f : α → Session σ (Database σ)} {a : α} {w' : World σ}
    (hfirst : x w = (.ok a, w')) (hrest : EndsAs accepted (f a) w') :
    EndsAs accepted (x >>= f) w := by
  cases accepted with
  | ok r =>
      obtain ⟨built, w'', hrun⟩ := hrest
      exact ⟨built, w'', (Run.bind_ok hfirst).trans hrun⟩
  | error fault =>
      obtain ⟨w'', hrun⟩ := hrest
      exact ⟨w'', (Run.bind_ok hfirst).trans hrun⟩

theorem build_endsAs {o : DatabaseOptions} {d : Driver σ} {provider : Option (Driver σ)}
    (hdescribes : (provider.getD d).Describes m w.store) (hrecognizes : o.Recognizes m) :
    EndsAs (registerAll ⟨d.wireTypes, []⟩ o.codecs) (build o d provider) w := by
  -- The dialect is detected and logged before the codecs are looked at, so each part is followed
  -- to its end on its own.
  unfold build
  extract_lets assemble
  have hassembled (r : PUnit) (v : World σ) (hsame : v.store = w.store) :
      EndsAs (registerAll ⟨d.wireTypes, []⟩ o.codecs) (assemble r) v := by
    obtain ⟨v₁, hdescribed⟩ := readMetadata_of_describes (hsame ▸ hdescribes)
    refine .bind hdescribed ?_
    extract_lets config withDialect
    have hdialected (dialect : Dialect) (v : World σ) :
        EndsAs (registerAll ⟨d.wireTypes, []⟩ o.codecs) (withDialect dialect) v := by
      simp only [withDialect]
      cases registerAll ⟨d.wireTypes, []⟩ o.codecs with
      | error fault => exact ⟨_, rfl⟩
      | ok codecs =>
          cases provider with
          | some provider => exact ⟨_, _, rfl⟩
          | none => exact ⟨_, _, rfl⟩
    cases hgiven : o.dialect with
    | some dialect => exact hdialected dialect v₁
    | none =>
        obtain ⟨dialect, hfound⟩ := DialectRegistry.detect_of_unambiguous (hrecognizes hgiven)
        obtain ⟨v₂, hdetected⟩ := detect_of_ok hfound v₁
        exact .bind hdetected (hdialected dialect v₂)
  split
  · exact .bind rfl (hassembled () _ rfl)
  · exact hassembled () _ rfl

theorem build_iff {o : DatabaseOptions} {d : Driver σ} {provider : Option (Driver σ)}
    (hdescribes : (provider.getD d).Describes m w.store) (hrecognizes : o.Recognizes m) :
    ((∃ built w', build o d provider w = (.ok built, w')) ↔
      ∀ id ∈ o.codecs, id.type ∈ d.wireTypes) ∧
    ((∃ fault w', build o d provider w = (.error (.failure (.configuration fault)), w')) ↔
      ∃ id ∈ o.codecs, id.type ∉ d.wireTypes) := by
  have hends := build_endsAs hdescribes hrecognizes
  obtain ⟨hnone, r, haccepted, -⟩ | ⟨id, hfirst, hrefused⟩ :=
    (Registers.empty d.wireTypes).registerAll_cases o.codecs
  · rw [haccepted] at hends
    obtain ⟨built, w', hrun⟩ := hends
    have hcarried := firstRefused?_eq_none_iff.mp hnone
    refine ⟨⟨fun _ => hcarried, fun _ => ⟨built, w', hrun⟩⟩, ?_, fun ⟨id, hmem, huncarried⟩ => ?_⟩
    · rintro ⟨fault, w'', hfailed⟩
      cases hrun.symm.trans hfailed
    · exact absurd (hcarried id hmem) huncarried
  · rw [hrefused] at hends
    obtain ⟨w', hrun⟩ := hends
    have huncarried := exists_firstRefused?_iff.mp ⟨id, hfirst⟩
    refine ⟨⟨?_, fun hcarried => ?_⟩, fun _ => huncarried, fun _ => ⟨_, w', hrun⟩⟩
    · rintro ⟨built, w'', hsucceeded⟩
      cases hrun.symm.trans hsucceeded
    · obtain ⟨other, hmem, hnot⟩ := huncarried
      exact absurd (hcarried other hmem) hnot

theorem registers_of_build {o : DatabaseOptions} {d : Driver σ} {provider : Option (Driver σ)}
    {built : Database σ} (h : (build o d provider).Gives built) :
    Registers d.wireTypes o.codecs built.settings.codecs := by
  have haccepted := (isBuilt_of_build h).codecs
  obtain ⟨-, r, hsame, hkept⟩ | ⟨id, -, hrefused⟩ :=
    (Registers.empty d.wireTypes).registerAll_cases o.codecs
  · rw [haccepted] at hsame
    exact Except.ok.inj hsame ▸ hkept
  · rw [haccepted] at hrefused
    cases hrefused

variable {wireTypes : List WireType} {ids : List CodecId} {db : Database σ}

/-- A copy is told of the codecs of a change, or none is made and only the log tells of it. -/
theorem change_cases (h : Registers wireTypes ids db.settings.codecs) (c : Change)
    (w : World σ) :
    (firstRefused? wireTypes c.codecs = none ∧ ∃ copy, db.change c w = (.ok copy, w) ∧
      Registers wireTypes (ids ++ c.codecs) copy.settings.codecs) ∨
    ∃ id, firstRefused? wireTypes c.codecs = some id ∧
      db.change c w = (.error (.failure (.configuration (refusal id))), w.refusing id) := by
  have huntouched (copy : Database σ) (hsame : copy.settings.codecs = db.settings.codecs) :
      Registers wireTypes (ids ++ []) copy.settings.codecs := by
    rwa [List.append_nil, hsame]
  have hregistered (more : List CodecId) :
      (firstRefused? wireTypes more = none ∧ ∃ copy,
        (db.withCodecs more >>= fun s => pure (db.withSettings s)) w = (.ok copy, w) ∧
        Registers wireTypes (ids ++ more) copy.settings.codecs) ∨
      ∃ id, firstRefused? wireTypes more = some id ∧
        (db.withCodecs more >>= fun s => pure (db.withSettings s)) w =
          (.error (.failure (.configuration (refusal id))), w.refusing id) := by
    rw [withCodecs, DatabaseSettings.withCodecs]
    obtain ⟨hcarried, r, haccepted, hkept⟩ | ⟨id, hfirst, hrefused⟩ := h.registerAll_cases more
    · rw [haccepted]
      exact .inl ⟨hcarried, _, rfl, hkept⟩
    · rw [hrefused]
      exact .inr ⟨id, hfirst, rfl⟩
  cases c with
  | casing _ => exact .inl ⟨rfl, _, rfl, huntouched _ rfl⟩
  | dialect _ => exact .inl ⟨rfl, _, rfl, huntouched _ rfl⟩
  | failureMap _ => exact .inl ⟨rfl, _, rfl, huntouched _ rfl⟩
  | codec id => exact hregistered [id]
  | table t => exact hregistered _

theorem change_ok_iff (h : Registers wireTypes ids db.settings.codecs) (c : Change) (w : World σ) :
    (∃ copy, db.change c w = (.ok copy, w)) ↔ ∀ id ∈ c.codecs, id.type ∈ wireTypes := by
  rw [← firstRefused?_eq_none_iff]
  obtain ⟨hcarried, copy, hmade, -⟩ | ⟨id, hfirst, hrefused⟩ := change_cases h c w
  · exact ⟨fun _ => hcarried, fun _ => ⟨copy, hmade⟩⟩
  · refine ⟨?_, fun hnone => ?_⟩
    · rintro ⟨copy, hmade⟩
      cases hrefused.symm.trans hmade
    · cases hfirst.symm.trans hnone

theorem change_of_refused (h : Registers wireTypes ids db.settings.codecs) {c : Change}
    {id : CodecId} (hfirst : firstRefused? wireTypes c.codecs = some id) (w : World σ) :
    db.change c w = (.error (.failure (.configuration (refusal id))), w.refusing id) := by
  obtain ⟨hcarried, -⟩ | ⟨other, hsame, hrefused⟩ := change_cases h c w
  · rw [hcarried] at hfirst
    cases hfirst
  · obtain rfl : other = id := Option.some.inj (hsame.symm.trans hfirst)
    exact hrefused

theorem makeCopies_append (family : List (Database σ)) (calls more : List (Nat × Change)) :
    makeCopies family (calls ++ more) =
      makeCopies family calls >>= fun family => makeCopies family more := by
  induction calls generalizing family with
  | nil => rfl
  | cons call calls ih =>
      obtain ⟨i, c⟩ := call
      funext w
      cases hi : family[i]? with
      | none =>
          rw [List.cons_append, makeCopies_cons_of_none hi, makeCopies_cons_of_none hi, ih]
      | some db =>
          rw [List.cons_append, Run.bind_apply]
          cases hmade : db.change c w with
          | mk result w₁ =>
              cases result with
              | ok copy => rw [makeCopies_cons_of_ok hi hmade, makeCopies_cons_of_ok hi hmade, ih,
                  Run.bind_apply]
              | error e =>
                  rw [makeCopies_cons_of_error hi hmade, makeCopies_cons_of_error hi hmade, ih,
                    Run.bind_apply]

/-- What the databases of a family have been told of, when copies are made of them. -/
def histories (wireTypes : List WireType) (told : List (List CodecId)) :
    List (Nat × Change) → List (List CodecId)
  | [] => told
  | (i, c) :: calls =>
      match told[i]? with
      | none => histories wireTypes told calls
      | some ids =>
          if ∀ id ∈ c.codecs, id.type ∈ wireTypes then
            histories wireTypes (told ++ [ids ++ c.codecs]) calls
          else histories wireTypes told calls

/-- Each database of a family lists the codecs of its own history. -/
abbrev Keeps (wireTypes : List WireType) (family : List (Database σ))
    (told : List (List CodecId)) : Prop :=
  List.Forall₂ (fun db ids => Registers wireTypes ids db.settings.codecs) family told

theorem Keeps.getElem? {family : List (Database σ)} {told : List (List CodecId)}
    (h : Keeps wireTypes family told) (i : Nat) :
    (family[i]? = none ∧ told[i]? = none) ∨
    ∃ db ids, family[i]? = some db ∧ told[i]? = some ids ∧
      Registers wireTypes ids db.settings.codecs := by
  induction h generalizing i with
  | nil => exact .inl ⟨rfl, rfl⟩
  | cons hfirst hrest ih =>
      cases i with
      | zero => exact .inr ⟨_, _, rfl, rfl, hfirst⟩
      | succ i => exact ih i

theorem makeCopies_keeps {family : List (Database σ)} {told : List (List CodecId)}
    (h : Keeps wireTypes family told) (calls : List (Nat × Change)) (w : World σ) :
    ∃ copies w', makeCopies family calls w = (.ok (family ++ copies), w') ∧
      Keeps wireTypes (family ++ copies) (histories wireTypes told calls) := by
  induction calls generalizing family told w with
  | nil => exact ⟨[], w, by rw [List.append_nil]; rfl, by rwa [List.append_nil]⟩
  | cons call calls ih =>
      obtain ⟨i, c⟩ := call
      rw [histories]
      obtain ⟨habsent, huntold⟩ | ⟨db, ids, hpresent, hknown, hkept⟩ := h.getElem? i
      · rw [makeCopies_cons_of_none habsent, huntold]
        exact ih h w
      · rw [hknown]
        obtain ⟨hcarried, copy, hmade, hmore⟩ | ⟨id, hfirst, hrefused⟩ := change_cases hkept c w
        · simp only [if_pos (firstRefused?_eq_none_iff.mp hcarried)]
          have hgrown : Keeps wireTypes (family ++ [copy]) (told ++ [ids ++ c.codecs]) :=
            List.rel_append h (.cons hmore .nil)
          obtain ⟨copies, w', hrun, hall⟩ := ih hgrown w
          rw [List.append_assoc] at hrun hall
          exact ⟨copy :: copies, w', (makeCopies_cons_of_ok hpresent hmade calls).trans hrun, hall⟩
        · have huncarried : ¬ ∀ id ∈ c.codecs, id.type ∈ wireTypes := by
            rw [← firstRefused?_eq_none_iff, hfirst]
            exact Option.some_ne_none id
          simp only [if_neg huncarried]
          obtain ⟨copies, w', hrun, hall⟩ := ih h (w.refusing id)
          exact ⟨copies, w', (makeCopies_cons_of_error hpresent hrefused calls).trans hrun, hall⟩

/-- Every database lists the codecs that it and its origins were told of, each of them once and in
the order in which they came first, whatever calls configured and copied it.  A store that can be
reached and recognized gives a database unless a codec is of a type that the driver does not carry,
and that is what the failure says.  A call that is refused, at whichever of its codecs, only says so
in the log: the family of databases stays the one that it was. -/
theorem codecs_in_order_of_registration (o : DatabaseOptions) (d : Driver σ)
    (provider : Option (Driver σ)) (asked : List Change) :
    let told := o.codecs ++ asked.flatMap Change.codecs
    (∀ m w, (provider.getD d).Describes m w.store → (o.toldAll asked).Recognizes m →
      ((∃ built w', build (o.toldAll asked) d provider w = (.ok built, w')) ↔
        ∀ id ∈ told, id.type ∈ d.wireTypes) ∧
      ((∃ fault w', build (o.toldAll asked) d provider w =
          (.error (.failure (.configuration fault)), w')) ↔
        ∃ id ∈ told, id.type ∉ d.wireTypes)) ∧
    ∀ built, (build (o.toldAll asked) d provider).Gives built →
      ∀ (calls : List (Nat × Change)) (w : World σ), ∃ copies w',
        makeCopies [built] calls w = (.ok (built :: copies), w') ∧
        Keeps d.wireTypes (built :: copies) (histories d.wireTypes [told] calls) ∧
        ∀ i db, (built :: copies)[i]? = some db → ∀ c : Change,
          ((∃ copy, db.change c w' = (.ok copy, w')) ↔ ∀ id ∈ c.codecs, id.type ∈ d.wireTypes) ∧
          ∀ before id after, c.codecs = before ++ id :: after →
            (∀ b ∈ before, b.type ∈ d.wireTypes) → id.type ∉ d.wireTypes →
            db.change c w' =
              (.error (.failure (.configuration (refusal id))), w'.refusing id) ∧
            makeCopies [built] (calls ++ [(i, c)]) w = (.ok (built :: copies), w'.refusing id) := by
  intro told
  have hcodecs : (o.toldAll asked).codecs = told := o.codecs_toldAll asked
  refine ⟨fun m w hdescribes hrecognizes => ?_, fun built hbuilt calls w => ?_⟩
  · exact hcodecs ▸ build_iff hdescribes hrecognizes
  · have halone : Keeps d.wireTypes [built] [(o.toldAll asked).codecs] :=
      .cons (registers_of_build hbuilt) .nil
    obtain ⟨copies, w', hrun, hkept⟩ := makeCopies_keeps halone calls w
    rw [hcodecs, List.singleton_append] at hkept
    rw [List.singleton_append] at hrun
    refine ⟨copies, w', hrun, hkept, fun i db hpresent c => ?_⟩
    obtain ⟨habsent, -⟩ | ⟨same, ids, hknown, -, hregisters⟩ := hkept.getElem? i
    · rw [hpresent] at habsent
      cases habsent
    · obtain rfl : same = db := Option.some.inj (hknown.symm.trans hpresent)
      refine ⟨change_ok_iff hregisters c w', fun before id after hsplit hcarried hrefused => ?_⟩
      have hfirst : firstRefused? d.wireTypes c.codecs = some id :=
        hsplit ▸ firstRefused?_of_split hcarried hrefused
      have hfails := change_of_refused hregisters hfirst w'
      refine ⟨hfails, ?_⟩
      rw [makeCopies_append, Run.bind_ok hrun, makeCopies_cons_of_error hpresent hfails]
      rfl

def visits : Table Unit :=
  let visits := Table.ofName "visits"
  let visits := (visits.declare "id" (.ofType (.integer .int64)) true true .unbound).1
  let visits := (visits.declare "day" (.ofType .date) false true .unbound).1
  (visits.declare "remark" (.ofType .varchar) false false .unbound).1

def undated : Driver ScriptedStore :=
  ScriptedStore.driver [.varchar, .integer .int64, .boolean]

/-- The visits are refused by the builder and by a database, and the database is copied for other
codecs before and after. -/
theorem visits_refused_for_their_day :
    (∃ fault w', build (DatabaseOptions.toldAll {} [.table visits]) undated none { store := {} } =
      (.error (.failure (.configuration fault)), w')) ∧
    ∃ built copy : Database ScriptedStore, ∃ w',
      (build {} undated none).Gives built ∧
      makeCopies [built] [(0, .codec (.ofType .varchar)), (0, .table visits)] { store := {} } =
        (.ok [built, copy], w') ∧
      Registers undated.wireTypes [.ofType .varchar] copy.settings.codecs := by
  constructor
  · obtain ⟨hbuilds, -⟩ := codecs_in_order_of_registration {} undated none [.table visits]
    refine (hbuilds { product := "MockDB", version := "1.0" } { store := {} }
      ⟨_, _, _, rfl, rfl⟩ (fun _ => by decide)).2.mpr ⟨.ofType .date, ?_, ?_⟩
    · exact .tail _ (.head _)
    · decide
  · obtain ⟨built, hbuilt⟩ : ∃ built, (build {} undated none).Gives built :=
      ⟨_, { store := {} }, _, rfl⟩
    obtain ⟨-, hcopied⟩ := codecs_in_order_of_registration {} undated none []
    obtain ⟨copies, w', hrun, hkept, hrefuses⟩ :=
      hcopied built hbuilt [(0, .codec (.ofType .varchar))] { store := {} }
    have htold : histories undated.wireTypes [[]] [(0, .codec (.ofType .varchar))] =
        [[], [.ofType .varchar]] := rfl
    have htail : Keeps undated.wireTypes copies [[.ofType .varchar]] :=
      (List.forall₂_cons.mp (htold ▸ hkept)).2
    obtain ⟨copy, rest, hregisters, hnone, rfl⟩ := List.forall₂_cons_right_iff.mp htail
    obtain rfl := List.forall₂_nil_right_iff.mp hnone
    obtain ⟨-, hrefused⟩ := hrefuses 0 built rfl (.table visits)
    have hstays := hrefused [.ofType (.integer .int64)] (.ofType .date) [.ofType .varchar] rfl
      (by decide) (by decide)
    exact ⟨built, copy, _, hbuilt, hstays.2, hregisters⟩

end Database

end TypedSql
