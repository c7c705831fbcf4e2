import Mathlib.Data.List.TakeWhile
import TypedSql.Proofs.Writer.HandWritten

namespace TypedSql

/-! Hand-written SQL as its writer sees it: regions from a quote to the next one like it, and the
marks that stand between them. -/

namespace Sql

inductive Stretch where
  /-- A character outside the regions. -/
  | plain (c : Char)
  | region (quote : Char) (body : List Char)
  /-- A region that nothing closes. -/
  | openRegion (quote : Char) (body : List Char)
deriving DecidableEq, Repr

namespace Stretch

def text : Stretch → List Char
  | plain c => [c]
  | region quote body => quote :: (body ++ [quote])
  | openRegion quote body => quote :: body

/-- A question mark outside the regions. -/
def mark : Stretch := plain '?'

end Stretch

/-- A text cut into its stretches.  A quote opens a region if none is open, and the region goes to
the next quote like it, or to the end of the text. -/
def stretches (text : List Char) : List Stretch :=
  match text with
  | [] => []
  | c :: cs =>
      if isQuote c then
        if c ∈ cs then
          .region c (cs.takeWhile (· ≠ c)) :: stretches (cs.dropWhile (· ≠ c)).tail
        else [.openRegion c cs]
      else .plain c :: stretches cs
termination_by text.length
decreasing_by
  · have := (List.dropWhile_sublist (· ≠ c) (l := cs)).length_le
    simp only [List.length_tail, List.length_cons]
    omega
  · exact Nat.lt_succ_self _

def markCount (text : List Char) : Nat :=
  (stretches text).count .mark

/-- The text of stretches with other marks in place of the question marks. -/
def remarked (mark : Nat → List Char) : Nat → List Stretch → List Char
  | _, [] => []
  | count, s :: ss =>
      if s = .mark then mark count ++ remarked mark (count + 1) ss
      else s.text ++ remarked mark count ss

def numbered (text : List Char) : List Char :=
  remarked (fun i => '$' :: Nat.toDigits 10 (i + 1)) 0 (stretches text)

theorem split_at_quote {quote : Char} {cs : List Char} (h : quote ∈ cs) :
    cs = cs.takeWhile (· ≠ quote) ++ quote :: (cs.dropWhile (· ≠ quote)).tail := by
  have hfound : cs.dropWhile (· ≠ quote) ≠ [] := by
    intro hnone
    have hall := List.dropWhile_eq_nil_iff.mp hnone quote h
    simp at hall
  have hfirst : (cs.dropWhile (· ≠ quote)).head hfound = quote := by
    have hstops := List.head_dropWhile_not (· ≠ quote) hfound
    simpa using hstops
  have hwhole := List.takeWhile_append_dropWhile (p := (· ≠ quote)) (l := cs)
  rw [← List.cons_head_tail hfound, hfirst] at hwhole
  exact hwhole.symm

theorem not_mem_takeWhile_ne (quote : Char) (cs : List Char) :
    quote ∉ cs.takeWhile (· ≠ quote) := by
  intro h
  have hstops := List.mem_takeWhile_imp h
  simp at hstops

theorem flatMap_text_stretches (text : List Char) :
    (stretches text).flatMap Stretch.text = text := by
  fun_induction stretches text with
  | case1 => rfl
  | case2 c cs _ hclosed ih =>
      rw [List.flatMap_cons, ih]
      conv_rhs => rw [split_at_quote hclosed]
      simp [Stretch.text]
  | case3 c cs _ _ => simp [Stretch.text]
  | case4 c cs _ ih =>
      rw [List.flatMap_cons, ih]
      rfl

theorem remarked_questionMark (count : Nat) (ss : List Stretch) :
    remarked (fun _ => ['?']) count ss = ss.flatMap Stretch.text := by
  induction ss generalizing count with
  | nil => rfl
  | cons s ss ih =>
      rw [remarked, List.flatMap_cons, ih, ih]
      split
      next h => rw [h]; rfl
      next => rfl

end Sql

namespace Raw

/-- Pieces of stretches, whose marks take parameters as long as there are any. -/
def piecesOf : List Sql.Stretch → List Parameter → List Piece
  | [], _ => []
  | s :: ss, parameters =>
      if s = .mark then
        match parameters with
        | [] => []
        | p :: ps => .placeholder p :: piecesOf ss ps
      else Piece.copies s.text ++ piecesOf ss parameters

/-- What is wrong with so many marks for so many parameters. -/
def countFault? (total marks parameters : Nat) : Option Error :=
  if marks < parameters then some (.construction (.parametersBeyond total))
  else if parameters < marks then some (.construction (.placeholdersBeyond total))
  else none

variable (total : Nat)

theorem scan_body {quote : Char} {body : List Char} (h : quote ∉ body)
    (parameters : List Parameter) (rest : List Char) :
    scan total (some quote) parameters (body ++ rest) =
      .ofPieces (Piece.copies body) ++ scan total (some quote) parameters rest := by
  induction body with
  | nil => exact (Rendering.empty_append _).symm
  | cons c cs ih =>
      obtain ⟨hhere, hlater⟩ := not_or.mp (mt List.mem_cons.mpr h)
      rw [List.cons_append, scan_inside, if_neg (Ne.symm hhere), ih hlater, copies_append_append]
      rfl

theorem scan_end (quote : Option Char) (parameters : List Parameter) :
    scan total quote parameters [] = scan total none parameters [] := by
  cases parameters <;> rfl

theorem scan_region {quote : Char} (hquote : Sql.isQuote quote) {body : List Char}
    (h : quote ∉ body) (parameters : List Parameter) (rest : List Char) :
    scan total none parameters (quote :: (body ++ quote :: rest)) =
      .ofPieces (Piece.copies (Sql.Stretch.region quote body).text) ++
        scan total none parameters rest := by
  rw [scan_opening total parameters hquote, scan_body total h, scan_inside, if_pos rfl,
    copies_append_append, copies_append_append]
  rfl

theorem scan_openRegion {quote : Char} (hquote : Sql.isQuote quote) {body : List Char}
    (h : quote ∉ body) (parameters : List Parameter) :
    scan total none parameters (quote :: body) =
      .ofPieces (Piece.copies (Sql.Stretch.openRegion quote body).text) ++
        scan total none parameters [] := by
  have hinside := scan_body total h parameters []
  rw [List.append_nil, scan_end] at hinside
  rw [scan_opening total parameters hquote, hinside, copies_append_append]
  rfl

theorem ofPieces_copies_append {s : Sql.Stretch} (h : s ≠ .mark) (ss : List Sql.Stretch)
    (parameters : List Parameter) (fault : Option Error) :
    Rendering.ofPieces (Piece.copies s.text) ++ ⟨piecesOf ss parameters, fault⟩ =
      ⟨piecesOf (s :: ss) parameters, fault⟩ := by
  rw [Rendering.append_of_none rfl, piecesOf.eq_def (s :: ss)]
  simp only [if_neg h]
  rfl

theorem scan_eq (parameters : List Parameter) (text : List Char) :
    scan total none parameters text =
      ⟨piecesOf (Sql.stretches text) parameters,
        countFault? total (Sql.markCount text) parameters.length⟩ := by
  unfold Sql.markCount
  fun_induction Sql.stretches text generalizing parameters with
  | case1 => cases parameters <;> rfl
  | case2 c cs hopens hclosed ih =>
      have hnoMark : Sql.Stretch.region c (cs.takeWhile (· ≠ c)) ≠ .mark := nofun
      rw [List.count_cons_of_ne hnoMark, ← ofPieces_copies_append hnoMark, ← ih]
      conv_lhs => rw [Sql.split_at_quote hclosed]
      exact scan_region total hopens (Sql.not_mem_takeWhile_ne c cs) parameters _
  | case3 c cs hopens hunclosed =>
      have hnoMark : Sql.Stretch.openRegion c cs ≠ .mark := nofun
      rw [List.count_cons_of_ne hnoMark, ← ofPieces_copies_append hnoMark,
        scan_openRegion total hopens hunclosed]
      cases parameters <;> rfl
  | case4 c cs houtside ih =>
      by_cases hmark : c = '?'
      · subst hmark
        have hcounted : (Sql.Stretch.plain '?' :: Sql.stretches cs).count .mark =
            (Sql.stretches cs).count .mark + 1 := List.count_cons_self
        rw [hcounted]
        cases parameters with
        | nil =>
            have hshort : countFault? total ((Sql.stretches cs).count .mark + 1) 0 =
                some (.construction (.placeholdersBeyond total)) := by simp [countFault?]
            rw [List.length_nil, hshort]
            rfl
        | cons p ps =>
            have hfault : countFault? total ((Sql.stretches cs).count .mark + 1) (ps.length + 1) =
                countFault? total ((Sql.stretches cs).count .mark) ps.length := by
              simp [countFault?]
            rw [scan_placeholder, ih, List.length_cons, hfault]
            rfl
      · have hnoMark : Sql.Stretch.plain c ≠ .mark := by
          intro h
          cases h
          exact hmark rfl
        have hcopied : isCopied c := by simp [isCopied, houtside, hmark]
        rw [List.count_cons_of_ne hnoMark, ← ofPieces_copies_append hnoMark, ← ih]
        exact scan_outside total parameters hcopied cs

end Raw

theorem Raw.parameters_piecesOf {ss : List Sql.Stretch} {parameters : List Parameter}
    (h : ss.count .mark = parameters.length) :
    Piece.parameters (piecesOf ss parameters) = parameters := by
  induction ss generalizing parameters with
  | nil =>
      rw [List.eq_nil_of_length_eq_zero h.symm]
      rfl
  | cons s ss ih =>
      by_cases hmark : s = .mark
      · subst hmark
        rw [List.count_cons_self] at h
        cases parameters with
        | nil => cases h
        | cons p ps => exact congrArg (p :: ·) (ih (Nat.succ.inj h))
      · rw [List.count_cons_of_ne hmark] at h
        rw [piecesOf.eq_def]
        simp only [if_neg hmark]
        rw [Piece.parameters_append, Piece.parameters_copies, ih h, List.nil_append]

theorem Writer.print_piecesOf (w : Writer) {ss : List Sql.Stretch} {parameters : List Parameter}
    (h : ss.count .mark = parameters.length) (count : Nat) :
    w.print count (Raw.piecesOf ss parameters) = Sql.remarked w.placeholderText count ss := by
  induction ss generalizing count parameters with
  | nil => rfl
  | cons s ss ih =>
      by_cases hmark : s = .mark
      · subst hmark
        rw [List.count_cons_self] at h
        cases parameters with
        | nil => cases h
        | cons p ps => exact congrArg (w.placeholderText count ++ ·) (ih (Nat.succ.inj h) _)
      · rw [List.count_cons_of_ne hmark] at h
        rw [Raw.piecesOf.eq_def, Sql.remarked, if_neg hmark]
        simp only [if_neg hmark]
        rw [print_copies, ih h]

theorem Writer.remarked_stretches (w : Writer) (text : List Char) :
    Sql.remarked w.placeholderText 0 (Sql.stretches text) =
      if w.dialect = .postgres then Sql.numbered text else text := by
  split
  next h =>
    have hmarks : w.placeholderText = fun i => '$' :: Nat.toDigits 10 (i + 1) := by
      funext count
      simp only [placeholderText, h]
    rw [hmarks, Sql.numbered]
  next h =>
    have hmarks : w.placeholderText = fun _ => ['?'] := by
      funext count
      simp only [placeholderText]
    rw [hmarks, Sql.remarked_questionMark, Sql.flatMap_text_stretches]

/-- What a writer makes of hand-written SQL depends on the marks between its regions: there is to be
one for each parameter, and the dialect's placeholders stand in their places. -/
theorem Writer.compile_raw (w : Writer) (r : Raw) :
    w.compile (.raw r) =
      if Sql.markCount r.sql.toList = r.parameters.length then
        .ok ⟨if w.dialect = .postgres then String.ofList (Sql.numbered r.sql.toList) else r.sql,
          r.parameters⟩
      else if Sql.markCount r.sql.toList < r.parameters.length then
        .error (.construction (.parametersBeyond r.parameters.length))
      else .error (.construction (.placeholdersBeyond r.parameters.length)) := by
  have hrendered : (Statement.raw r).render w {} =
      ⟨Raw.piecesOf (Sql.stretches r.sql.toList) r.parameters,
        Raw.countFault? r.parameters.length (Sql.markCount r.sql.toList) r.parameters.length⟩ :=
    Raw.scan_eq _ _ _
  split
  next h =>
    have hnoFault : Raw.countFault? r.parameters.length (Sql.markCount r.sql.toList)
        r.parameters.length = none := by
      simp [Raw.countFault?, h]
    rw [hnoFault] at hrendered
    rw [compile_of_pieces hrendered, w.print_piecesOf h, Raw.parameters_piecesOf h,
      w.remarked_stretches]
    split <;> simp
  next h =>
    split
    next hfewer =>
      exact compile_of_failure (by rw [hrendered, Raw.countFault?, if_pos hfewer])
    next hnotFewer =>
      have hmore : r.parameters.length < Sql.markCount r.sql.toList := by omega
      exact compile_of_failure
        (by rw [hrendered, Raw.countFault?, if_neg hnotFewer, if_pos hmore])

/-- A quote of one kind means nothing in a region of another. -/
example :
    (Writer.of .postgres {}).compile
        (.raw ⟨"SELECT '\"?' + ?, \"a'?\", ?", [.ofRowCount 1, .ofRowCount 2]⟩) =
      .ok ⟨"SELECT '\"?' + $1, \"a'?\", $2", [.ofRowCount 1, .ofRowCount 2]⟩ := by
  rfl

end TypedSql
