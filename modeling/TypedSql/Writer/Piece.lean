import TypedSql.Statement.Syntax
import TypedSql.Writer.Dialect

namespace TypedSql

/-! A statement is rendered as a list of pieces, and the pieces are printed afterwards.  What the
configuration decides (casing, quoting, the form of placeholders) is decided by the printing
alone, and the parameters are the placeholders of the list. -/

inductive Piece where
  /-- A keyword, a token of an operator or the name of a function. -/
  | word (text : String)
  /-- Punctuation, digits and spaces. -/
  | symbol (text : String)
  | name (text : String)
  | quoted (body : String)
  /-- Text written by hand. -/
  | verbatim (text : String)
  | placeholder (parameter : Parameter)
deriving DecidableEq

namespace Piece

def parameter? : Piece → Option Parameter
  | placeholder p => some p
  | _ => none

/-- Whether the piece is printed as anything at all, given the quote of identifiers. -/
def isVisible (quote : String) : Piece → Bool
  | word text | symbol text | verbatim text => !text.isEmpty
  | name text => !text.isEmpty || !quote.isEmpty
  | quoted _ | placeholder _ => true

end Piece

def Piece.parameters (pieces : List Piece) : List Parameter :=
  pieces.filterMap Piece.parameter?

namespace Writer

def placeholderText (w : Writer) (count : Nat) : List Char :=
  match w.dialect with
  | .postgres => '$' :: Nat.toDigits 10 (count + 1)
  | _ => ['?']

def quotedText (body : String) : List Char :=
  '\'' :: Text.replace body.toList ['\''] ['\'', '\''] ++ ['\'']

def pieceText (w : Writer) (count : Nat) : Piece → List Char
  | .word text => text.toList.map w.config.casing.apply
  | .symbol text | .verbatim text => text.toList
  | .name text => w.config.nameText text
  | .quoted body => quotedText body
  | .placeholder _ => w.placeholderText count

def print (w : Writer) : Nat → List Piece → List Char
  | _, [] => []
  | count, p :: ps =>
      w.pieceText count p ++ w.print (if p.parameter?.isSome then count + 1 else count) ps

end Writer

/-- Pieces of a tree, up to the failure that ended the rendering, if one did. -/
structure Rendering where
  pieces : List Piece := []
  failure : Option Error := none
deriving DecidableEq

namespace Rendering

def empty : Rendering := {}

def ofPieces (pieces : List Piece) : Rendering := { pieces }

def fail (e : Error) : Rendering := { failure := some e }

/-- One rendering after another; nothing comes after a failure. -/
def append (a b : Rendering) : Rendering :=
  match a.failure with
  | some _ => a
  | none => ⟨a.pieces ++ b.pieces, b.failure⟩

instance : Append Rendering := ⟨append⟩

def isVisible (quote : String) (r : Rendering) : Bool :=
  r.pieces.any (Piece.isVisible quote)

def word (text : String) : Rendering := ofPieces [.word text]

def symbol (text : String) : Rendering := ofPieces [.symbol text]

def name (text : String) : Rendering := ofPieces [.name text]

/-- Renderings in a row, a comma after each that prints something and is not the last. -/
def separate (quote : String) : List Rendering → Rendering
  | [] => empty
  | [r] => r
  | r :: rs => r ++ ((if r.isVisible quote then symbol ", " else empty) ++ separate quote rs)

def enclose (parens : Bool) (r : Rendering) : Rendering :=
  if parens then symbol "(" ++ r ++ symbol ")" else r

@[simp] theorem append_def (a b : Rendering) : a.append b = a ++ b := rfl

theorem append_of_failure {a : Rendering} {e : Error} (h : a.failure = some e) (b : Rendering) :
    a ++ b = a := by
  show append a b = a
  simp [append, h]

theorem append_of_none {a : Rendering} (h : a.failure = none) (b : Rendering) :
    a ++ b = ⟨a.pieces ++ b.pieces, b.failure⟩ := by
  show append a b = _
  simp [append, h]

theorem append_assoc (a b c : Rendering) : a ++ b ++ c = a ++ (b ++ c) := by
  cases ha : a.failure with
  | some e => simp [append_of_failure ha]
  | none =>
      cases hb : b.failure with
      | some e =>
          have hab : (a ++ b).failure = some e := by rw [append_of_none ha]; exact hb
          rw [append_of_failure hab, append_of_failure hb]
      | none =>
          have hab : (a ++ b).failure = none := by rw [append_of_none ha]; exact hb
          rw [append_of_none hab, append_of_none ha, append_of_none ha, append_of_none hb]
          simp

@[simp] theorem empty_append (r : Rendering) : empty ++ r = r := by
  rw [append_of_none rfl]
  rfl

@[simp] theorem append_empty (r : Rendering) : r ++ empty = r := by
  cases h : r.failure with
  | some e => exact append_of_failure h _
  | none =>
      rw [append_of_none h]
      cases r
      simp_all [empty]

end Rendering

end TypedSql
