import Mathlib.Tactic.Choose
import TypedSql.Store.Driver
import TypedSql.Text.Cut

namespace TypedSql

/-! Values written to one text with a separator between them.  Whether a separator is due is told
from the length that the text had before the value in front, so it is told one value late: behind
the last value that wrote something it comes too if more values follow. -/

namespace Text

def produced (fragments : List String) : List String :=
  fragments.filter (· ≠ "")

/-- Something has been produced, but nothing by the last one. -/
def Dangles (fragments : List String) : Prop :=
  produced fragments ≠ [] ∧ fragments.getLast? = some ""

instance (fragments : List String) : Decidable (Dangles fragments) :=
  inferInstanceAs (Decidable (_ ∧ _))

section

variable {fragment : String} {rest : List String}

@[simp] theorem produced_cons_empty : produced ("" :: rest) = produced rest := rfl

@[simp] theorem produced_cons (hvisible : fragment ≠ "") :
    produced (fragment :: rest) = fragment :: produced rest :=
  List.filter_cons_of_pos (by simpa using hvisible)

theorem getLast?_of_produced_eq_nil (hnone : produced rest = []) (hthere : rest ≠ []) :
    rest.getLast? = some "" := by
  have hempty := List.filter_eq_nil_iff.mp hnone _ (List.getLast_mem hthere)
  rw [List.getLast?_eq_some_getLast hthere]
  simpa using hempty

end

theorem separate_cons_cons (separator out fragment next : String) (rest : List String) :
    separate separator out (fragment :: next :: rest) =
      separate separator
        (if fragment = "" then out ++ fragment else out ++ fragment ++ separator)
        (next :: rest) := by
  rw [separate.eq_3 _ _ _ _ (by simp)]
  simp only [String.isEmpty_iff]

/-- Behind the produced fragments with separators between them, there is one more separator exactly
if they dangle. -/
theorem separate_eq (separator out : String) (fragments : List String) :
    separate separator out fragments =
      out ++ separator.intercalate (produced fragments) ++
        (if Dangles fragments then separator else "") := by
  induction fragments generalizing out with
  | nil => simp [separate, produced, Dangles]
  | cons fragment rest ih =>
      cases rest with
      | nil =>
          by_cases hempty : fragment = ""
          · simp [separate, produced, Dangles, hempty]
          · simp [separate, produced, Dangles, hempty]
      | cons next rest =>
          rw [separate_cons_cons, ih]
          by_cases hempty : fragment = ""
          · subst hempty
            have hsame : Dangles ("" :: next :: rest) ↔ Dangles (next :: rest) := by simp [Dangles]
            simp only [hsame, produced_cons_empty, if_pos, String.append_empty]
          · rw [if_neg hempty, produced_cons hempty]
            by_cases hnone : produced (next :: rest) = []
            · have hlast := getLast?_of_produced_eq_nil hnone (List.cons_ne_nil next rest)
              have hhere : Dangles (fragment :: next :: rest) := by simp [Dangles, hempty, hlast]
              have hended : ¬Dangles (next :: rest) := fun hdangles => hdangles.1 hnone
              rw [if_pos hhere, if_neg hended, hnone, String.intercalate_nil,
                String.intercalate_singleton, String.append_empty, String.append_empty]
            · have hsame : Dangles (fragment :: next :: rest) ↔ Dangles (next :: rest) := by
                simp [Dangles, hempty, hnone]
              simp only [hsame, String.intercalate_cons_of_ne_nil hnone, String.append_assoc]

def failure? {ε α : Type} : Except ε α → Option ε
  | .ok _ => none
  | .error e => some e

/-- What comes of fragments up to the first failure, which itself leaves nothing. -/
theorem trySeparate_eq {ε : Type} (separator out : String) (results : List (Except ε String)) :
    let reached := results.findIdx (fun result => (failure? result).isSome) + 1
    trySeparate separator out results =
      (separate separator out ((results.take reached).map fun result => result.toOption.getD ""),
        results.findSome? failure?) := by
  induction results generalizing out with
  | nil => rfl
  | cons result rest ih =>
      cases result with
      | error e =>
          rw [trySeparate]
          exact congrArg (Prod.mk · (some e)) String.append_empty.symm
      | ok fragment =>
          cases rest with
          | nil => rfl
          | cons next rest =>
              intro reached
              have hlater :
                  reached = (next :: rest).findIdx (fun r => (failure? r).isSome) + 1 + 1 :=
                congrArg (· + 1) List.findIdx_cons
              rw [trySeparate.eq_4 _ _ _ _ (by simp), ih, hlater]
              simp only [String.isEmpty_iff, List.take_succ_cons, List.map_cons, separate_cons_cons]
              rfl

end Text

/-- A text that values are written to, and what their writer keeps from one to the next. -/
structure Sheet (σ : Type) where
  text : String
  kept : σ

/-- What a writer does with one value: what it puts behind the text, and what it keeps then. -/
structure Stroke (σ : Type) where
  fragment : String
  kept : σ

/-- A writer that only adds to the text it finds. -/
abbrev Scribe (σ α : Type) := α → Sheet σ → Stroke σ

namespace Sheet

variable {σ : Type} (sheet : Sheet σ)

def add (text : String) : Sheet σ := { sheet with text := sheet.text ++ text }

def after (stroke : Stroke σ) : Sheet σ := ⟨sheet.text ++ stroke.fragment, stroke.kept⟩

/-- With a separator at the end if the text has grown since it had the length `start`. -/
def parted (separator : String) (start : Nat) : Sheet σ :=
  if start < sheet.text.utf8ByteSize then sheet.add separator else sheet

@[simp] theorem parted_self (separator : String) :
    sheet.parted separator sheet.text.utf8ByteSize = sheet :=
  if_neg (Nat.lt_irrefl _)

/-- A text has grown exactly if something that is not empty is behind it. -/
theorem parted_after (stroke : Stroke σ) (separator : String) :
    (sheet.after stroke).parted separator sheet.text.utf8ByteSize =
      if stroke.fragment = "" then sheet.after stroke
      else (sheet.after stroke).add separator := by
  have hsize : (sheet.after stroke).text.utf8ByteSize =
      sheet.text.utf8ByteSize + stroke.fragment.utf8ByteSize := String.utf8ByteSize_append
  rw [parted, hsize]
  by_cases hempty : stroke.fragment = ""
  · rw [if_pos hempty, hempty, String.utf8ByteSize_empty, Nat.add_zero, if_neg (Nat.lt_irrefl _)]
  · have hgrown : stroke.fragment.utf8ByteSize ≠ 0 := mt String.utf8ByteSize_eq_zero_iff.mp hempty
    rw [if_neg hempty, if_pos (by omega)]

end Sheet

section Loop

variable {m : Type → Type} {σ α : Type} [Monad m] [MonadState (Sheet σ) m]

/-- A separator goes before each value behind one that has written something; `start` is the length
of the text when the value before was begun. -/
def separatedFrom (separator : String) (write : α → m Unit) (start : Nat) : List α → m Unit
  | [] => return
  | v :: vs => do
      modify (Sheet.parted · separator start)
      let begun := (← get).text.utf8ByteSize
      write v
      separatedFrom separator write begun vs

/-- The loop over all values; where the monad has failures, the first one ends it. -/
def separatedBy (separator : String) (write : α → m Unit) (values : List α) : m Unit := do
  separatedFrom separator write (← get).text.utf8ByteSize values

end Loop

namespace Scribe

variable {σ α : Type} (scribe : Scribe σ α) (fails : α → Sheet σ → Option Error)
  (separator : String)

def write (v : α) : StateM (Sheet σ) Unit := modify fun sheet => sheet.after (scribe v sheet)

/-- The same strokes, some of which are failures: what they have put there stays. -/
def tryWrite (v : α) : Run (Sheet σ) Unit :=
  fun sheet => ((fails v sheet).elim (.ok ()) .error, sheet.after (scribe v sheet))

/-- The sheet that the next value finds: behind a fragment that is not empty, with a separator. -/
def next (v : α) (sheet : Sheet σ) : Sheet σ :=
  let stroke := scribe v sheet
  if stroke.fragment = "" then sheet.after stroke else (sheet.after stroke).add separator

def calls (sheet : Sheet σ) : List α → List (α × Sheet σ)
  | [] => []
  | v :: vs => (v, sheet) :: calls (scribe.next separator v sheet) vs

def fragments (sheet : Sheet σ) (values : List α) : List String :=
  (scribe.calls separator sheet values).map fun call => (scribe call.1 call.2).fragment

theorem separatedFrom_cons (start : Nat) (v : α) (vs : List α) (sheet : Sheet σ) :
    separatedFrom separator scribe.write start (v :: vs) sheet =
      separatedFrom separator scribe.write (sheet.parted separator start).text.utf8ByteSize vs
        ((sheet.parted separator start).after (scribe v (sheet.parted separator start))) := rfl

theorem fragments_cons (v : α) (vs : List α) (sheet : Sheet σ) :
    scribe.fragments separator sheet (v :: vs) =
      (scribe v sheet).fragment ::
        scribe.fragments separator (scribe.next separator v sheet) vs := rfl

theorem parted_after (v : α) (sheet : Sheet σ) :
    (sheet.after (scribe v sheet)).parted separator sheet.text.utf8ByteSize =
      scribe.next separator v sheet :=
  sheet.parted_after _ _

theorem text_separatedFrom (start : Nat) (v : α) (vs : List α) (sheet : Sheet σ) :
    (separatedFrom separator scribe.write start (v :: vs) sheet).2.text =
      Text.separate separator (sheet.parted separator start).text
        (scribe.fragments separator (sheet.parted separator start) (v :: vs)) := by
  -- Behind the last value the loop is over and no separator comes, so the last one is the base.
  induction vs generalizing v start sheet with
  | nil => rfl
  | cons w ws ih =>
      rw [separatedFrom_cons, ih, parted_after, fragments_cons _ _ v, fragments_cons _ _ w,
        Text.separate_cons_cons, next]
      split
      case isTrue => rfl
      case isFalse => rfl

section

variable {fails} {v : α} {sheet : Sheet σ}

theorem tryWrite_of_none (hdone : fails v sheet = none) :
    scribe.tryWrite fails v sheet = (.ok (), sheet.after (scribe v sheet)) := by
  rw [tryWrite, hdone]
  rfl

theorem tryWrite_of_some {e : Error} (hfailed : fails v sheet = some e) :
    scribe.tryWrite fails v sheet = (.error e, sheet.after (scribe v sheet)) := by
  rw [tryWrite, hfailed]
  rfl

end

/-- Every writer that only adds to the text is given by its strokes and failures. -/
theorem exists_tryWrite_eq_iff {write : α → Run (Sheet σ) Unit} :
    (∃ (scribe : Scribe σ α) (fails : α → Sheet σ → Option Error),
        scribe.tryWrite fails = write) ↔
      ∀ v sheet, ∃ fragment, (write v sheet).2.text = sheet.text ++ fragment := by
  constructor
  · rintro ⟨scribe, fails, rfl⟩ v sheet
    exact ⟨(scribe v sheet).fragment, rfl⟩
  · intro hadds
    choose fragment hadded using hadds
    refine ⟨fun v sheet => ⟨fragment v sheet, (write v sheet).2.kept⟩,
      fun v sheet => Text.failure? (write v sheet).1, ?_⟩
    funext v sheet
    refine Prod.ext ?_ (congrArg (Sheet.mk · _) (hadded v sheet).symm)
    rw [tryWrite]
    cases (write v sheet).1 with
    | ok => rfl
    | error e => rfl

/-- A loop with failures ends as one without them over the values up to the first that fails. -/
theorem separatedFrom_tryWrite (start : Nat) (values : List α) (sheet : Sheet σ) :
    let calls := scribe.calls separator (sheet.parted separator start) values
    let reached := calls.findIdx (fun call => (fails call.1 call.2).isSome) + 1
    separatedFrom separator (scribe.tryWrite fails) start values sheet =
      ((calls.findSome? fun call => fails call.1 call.2).elim (.ok ()) .error,
        (separatedFrom separator scribe.write start (values.take reached) sheet).2) := by
  induction values generalizing start sheet with
  | nil => rfl
  | cons v vs ih =>
      rw [separatedFrom, Run.bind_ok (Run.modify_apply _ _), Run.bind_ok (Run.get_apply _)]
      cases hfailed : fails v (sheet.parted separator start) with
      | some e =>
          simp only [Run.bind_error (scribe.tryWrite_of_some hfailed), calls, List.findIdx_cons,
            List.findSome?_cons, hfailed]
          rfl
      | none =>
          rw [Run.bind_ok (scribe.tryWrite_of_none hfailed), ih, parted_after]
          simp only [calls, List.findIdx_cons, List.findSome?_cons, hfailed, Option.isSome_none,
            cond_false, List.take_succ_cons, separatedFrom_cons]

theorem map_fst_calls (values : List α) (sheet : Sheet σ) :
    (scribe.calls separator sheet values).map Prod.fst = values := by
  induction values generalizing sheet with
  | nil => rfl
  | cons v vs ih => rw [calls, List.map_cons, ih]

theorem text_separatedBy (values : List α) (sheet : Sheet σ) :
    (separatedBy separator scribe.write values sheet).2.text =
      Text.separate separator sheet.text (scribe.fragments separator sheet values) := by
  cases values with
  | nil => rfl
  | cons v vs =>
      have hrun := scribe.text_separatedFrom separator sheet.text.utf8ByteSize v vs sheet
      rw [Sheet.parted_self] at hrun
      exact hrun

/-- Each value is written once, in order.  The text in front stays, the fragments that are not empty
follow with separators between them, and one more separator exactly if the last value adds nothing
behind them.  With failures, the loop ends with the first one, and as if no value were behind it. -/
theorem separatedBy_leaves (values : List α) (sheet : Sheet σ) :
    let calls := scribe.calls separator sheet values
    let fragments := scribe.fragments separator sheet values
    let joined := separator.intercalate (Text.produced fragments)
    let left := (separatedBy separator scribe.write values sheet).2
    let reached := calls.findIdx (fun call => (fails call.1 call.2).isSome) + 1
    calls.map Prod.fst = values ∧
    left.text = Text.separate separator sheet.text fragments ∧
    left.text = sheet.text ++ joined ++ (if Text.Dangles fragments then separator else "") ∧
    (left.text = sheet.text ++ joined ↔ separator = "" ∨ ¬Text.Dangles fragments) ∧
    separatedBy separator (scribe.tryWrite fails) values sheet =
      ((calls.findSome? fun call => fails call.1 call.2).elim (.ok ()) .error,
        (separatedBy separator scribe.write (values.take reached) sheet).2) ∧
    ∀ results : List (Except Error String),
      Text.trySeparate separator sheet.text results =
        (Text.separate separator sheet.text ((results.take
            (results.findIdx (fun result => (Text.failure? result).isSome) + 1)).map
              fun result => result.toOption.getD ""),
          results.findSome? Text.failure?) := by
  intro calls fragments joined left reached
  have htext : left.text = Text.separate separator sheet.text fragments :=
    scribe.text_separatedBy separator values sheet
  have hwhole : left.text =
      sheet.text ++ joined ++ (if Text.Dangles fragments then separator else "") :=
    htext.trans (Text.separate_eq separator sheet.text fragments)
  refine ⟨scribe.map_fst_calls separator values sheet, htext, hwhole, ?_, ?_,
    Text.trySeparate_eq separator sheet.text⟩
  · rw [hwhole]
    by_cases hdangles : Text.Dangles fragments
    · simp [hdangles]
    · simp [hdangles]
  · have hrun := scribe.separatedFrom_tryWrite fails separator sheet.text.utf8ByteSize values sheet
    rw [Sheet.parted_self] at hrun
    exact hrun

def verbatim : Scribe Unit String := fun fragment _ => ⟨fragment, ()⟩

/-- The separator comes behind the only fragment that is not empty. -/
theorem separatedBy_empty_last :
    let joined := ", ".intercalate (Text.produced (verbatim.fragments ", " ⟨"", ()⟩ ["a", ""]))
    let left := (separatedBy ", " verbatim.write ["a", ""] ⟨"", ()⟩).2.text
    left ≠ "" ++ joined ∧ joined = "a" ∧ left = "a, " := by
  decide +kernel

end Scribe

end TypedSql
