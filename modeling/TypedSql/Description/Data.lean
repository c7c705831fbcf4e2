import TypedSql.Error

namespace TypedSql

/-! Plain data: what programs and stores describe themselves with.  Values, tables, statements and
scripts can be read from data, and answers can be written as data. -/

inductive Data where
  | null
  | bool (value : Bool)
  | number (value : Int)
  | text (value : String)
  | list (items : List Data)
  | fields (entries : List (String × Data))
deriving Inhabited

inductive DescriptionFault where
  | unreadable (message : String)
  | construction (fault : ConstructionFault)
deriving DecidableEq

abbrev Described := Except DescriptionFault

namespace DescriptionFault

def bad {α : Type} (message : String) : Described α := .error (unreadable message)

end DescriptionFault

open DescriptionFault (bad)

namespace Data

mutual

/-- Number of levels of the tree, which bounds every reading that goes down it. -/
def depth : Data → Nat
  | list items => depthOfItems items + 1
  | fields entries => depthOfEntries entries + 1
  | _ => 1

def depthOfItems : List Data → Nat
  | [] => 0
  | d :: ds => max d.depth (depthOfItems ds)

def depthOfEntries : List (String × Data) → Nat
  | [] => 0
  | (_, d) :: ds => max d.depth (depthOfEntries ds)

end

def field (d : Data) (name : String) : Data :=
  match d with
  | fields entries => (entries.lookup name).getD null
  | _ => null

def has (d : Data) (name : String) : Bool :=
  match d with
  | fields entries => (entries.lookup name).isSome
  | _ => false

def given (d : Data) (name : String) : Bool :=
  match d.field name with
  | null => false
  | _ => true

def items : Data → List Data
  | list items => items
  | _ => []

def entries : Data → List (String × Data)
  | fields entries => entries
  | _ => []

def item (d : Data) (index : Nat) : Data := d.items.getD index null

def isSet : Data → Bool
  | bool b => b
  | _ => false

def text? : Data → Option String
  | text s => some s
  | _ => none

def bool? : Data → Option Bool
  | bool b => some b
  | _ => none

def unlessNull {α : Type} (d : Data) (read : Data → Described α) : Described (Option α) :=
  match d with
  | null => .ok none
  | d => (read d).map some

def toText (d : Data) : Described String :=
  match d with
  | text s => .ok s
  | _ => bad "expected a text"

def toInt (d : Data) : Described Int :=
  match d with
  | number n => .ok n
  | text s =>
      match s.toList with
      | '-' :: cs => go true cs
      | '+' :: cs => go false cs
      | cs => go false cs
  | _ => bad "expected a whole number"
where
  go (negative : Bool) (digits : List Char) : Described Int :=
    match (String.ofList digits).toNat? with
    | some n => .ok (if negative then -(n : Int) else n)
    | none => bad "expected a whole number"

def toNat (d : Data) : Described Nat := do
  let n ← d.toInt
  if n < 0 then bad "expected a count" else return n.toNat

def toTexts (d : Data) : Described (List String) := d.items.mapM toText

def ofOption {α : Type} (describe : α → Data) : Option α → Data
  | some a => describe a
  | none => null

def ofNat (n : Nat) : Data := number n

def ofChars (cs : List Char) : Data := text (String.ofList cs)

def ofList {α : Type} (describe : α → Data) (items : List α) : Data := list (items.map describe)

end Data

def Described.ofOption {α : Type} (what : String) : Option α → Described α
  | some a => .ok a
  | none => bad ("bad " ++ what)

def Described.built {α : Type} : Except ConstructionFault α → Described α
  | .ok a => .ok a
  | .error fault => .error (.construction fault)

def Described.oneOf {α : Type} (meanings : List (String × α)) (d : Data) : Described α := do
  let word ← d.toText
  ofOption word (meanings.lookup word)

end TypedSql
