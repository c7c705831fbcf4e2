import TypedSql.Proofs.Writer.Listed
import TypedSql.Proofs.Writer.Tokens

namespace TypedSql

/-! The placeholders of a rendering stand for the parameters of the tree, from left to right. -/

namespace Rendering

/-- What is rendered without a failure stands for some parameters, in this order. -/
def Carries (r : Rendering) (parameters : List Parameter) : Prop :=
  r.failure = none → Piece.parameters r.pieces = parameters

variable {a b r : Rendering} {ps qs : List Parameter}

theorem Carries.congr (h : r.Carries ps) (heq : ps = qs) : r.Carries qs :=
  heq ▸ h

theorem carries_ofPieces (pieces : List Piece) :
    (ofPieces pieces).Carries (Piece.parameters pieces) :=
  fun _ => rfl

theorem carries_fail (e : Error) : (fail e).Carries ps := by
  intro h
  cases h

theorem Carries.append (ha : a.Carries ps) (hb : b.Carries qs) : (a ++ b).Carries (ps ++ qs) := by
  intro h
  obtain ⟨hanone, hbnone⟩ := failure_append_eq_none.mp h
  rw [pieces_append hanone, Piece.parameters_append, ha hanone, hb hbnone]

end Rendering

open Rendering

theorem Operator.carries_pieces (op : Operator) : (ofPieces op.pieces).Carries [] := by
  refine (carries_ofPieces op.pieces).congr ?_
  obtain ⟨tokens⟩ := op
  induction tokens with
  | nil => rfl
  | cons token rest ih =>
      cases rest with
      | nil => rfl
      | cons next rest => exact ih

theorem ColumnRef.carries_pieces (c : ColumnRef) (s : Scope) :
    (ofPieces (c.pieces s)).Carries [] := by
  refine (carries_ofPieces _).congr ?_
  unfold pieces qualifierPieces
  repeat' split
  all_goals rfl

theorem TableRef.carries_pieces (t : TableRef) (s : Scope) :
    (ofPieces (t.pieces s)).Carries [] := by
  refine (carries_ofPieces _).congr ?_
  simp only [pieces]
  repeat' split
  all_goals rfl

theorem Binary.carries_literalPieces {f : BinaryFormat} (x : Binary f) (d : Dialect) :
    (ofPieces (x.literalPieces d)).Carries [] := by
  refine (carries_ofPieces _).congr ?_
  unfold literalPieces
  repeat' split
  all_goals rfl

theorem Value.carries_literal (v : Value) (d : Dialect) : (v.literal d).Carries [] := by
  cases v with
  | some c =>
      cases c with
      | float32 x => exact x.carries_literalPieces d
      | float64 x => exact x.carries_literalPieces d
      | timestampWithTimezone x =>
          simp only [literal, Content.literal]
          split
          · exact carries_ofPieces _
          · exact carries_fail _
      | _ => exact carries_ofPieces _
  | _ => exact carries_ofPieces [.word "null"]

theorem Dialect.carries_paginationIfAny (d : Dialect) (limit offset : Option Nat) :
    (d.paginationIfAny limit offset).Carries (d.paginationParameters limit offset) := by
  cases limit with
  | none =>
      cases offset with
      | none => cases d <;> exact carries_ofPieces []
      | some n =>
          cases d with
          | generic => exact carries_fail _
          | _ => exact carries_ofPieces _
  | some m =>
      cases offset with
      | none =>
          cases d with
          | generic => exact carries_fail _
          | _ => exact carries_ofPieces _
      | some n =>
          cases d with
          | generic => exact carries_fail _
          | _ => exact carries_ofPieces _

theorem Collector.parameters_matches (w : Writer) :
    (Collector.parameters w.dialect).listing.Matches w Carries where
  append := Carries.append
  empty := carries_ofPieces []
  symbol := fun _ => carries_ofPieces _
  keyword := fun _ => carries_ofPieces _
  name := fun _ => carries_ofPieces _
  operator := Operator.carries_pieces
  call := fun _ => carries_ofPieces _
  column := fun s _ c => c.carries_pieces s
  parameter := fun _ _ p => carries_ofPieces [.placeholder p]
  literal := fun _ _ v => v.carries_literal w.dialect
  table := fun _ _ t _ => t.carries_pieces _
  named := fun aliasName => carries_ofPieces [.symbol ") ", .name aliasName]
  pagination := w.dialect.carries_paginationIfAny
  block := fun _ _ _ hcarried => hcarried
  bare := fun _ _ _ => carries_fail _
  target := fun _ t => t.carries_pieces _

theorem Statement.carries_render {w : Writer} {statement : Statement}
    (hraw : statement.isRaw = false) :
    (statement.render w {}).Carries (statement.parameters w.dialect) :=
  Statement.matches_render (Collector.parameters_matches w) hraw

end TypedSql
