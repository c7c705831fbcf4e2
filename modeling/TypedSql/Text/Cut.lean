namespace TypedSql.Text

/-! Cutting a text to a number of bytes, joining fragments, and replacing occurrences. -/

def cutChars : Nat → List Char → List Char × Bool
  | _, [] => ([], false)
  | max, c :: cs =>
      if c.utf8Size ≤ max then
        let (kept, cut) := cutChars (max - c.utf8Size) cs
        (c :: kept, cut)
      else ([], true)

def cut (text : String) (max : Nat) : String × Bool :=
  let (kept, cut) := cutChars max text.toList
  (String.ofList kept, cut)

/-- Writes fragments after `out`; a separator follows every fragment that wrote something and is
not the last one. -/
def separate (separator : String) : String → List String → String
  | out, [] => out
  | out, [fragment] => out ++ fragment
  | out, fragment :: rest =>
      let written := out ++ fragment
      separate separator (if fragment.isEmpty then written else written ++ separator) rest

/-- Like `separate` for fragments of which one may fail: what was written up to the failure stays,
together with the failure. -/
def trySeparate {ε : Type} (separator : String) :
    String → List (Except ε String) → String × Option ε
  | out, [] => (out, none)
  | out, .error e :: _ => (out, some e)
  | out, [.ok fragment] => (out ++ fragment, none)
  | out, .ok fragment :: rest =>
      let written := out ++ fragment
      trySeparate separator (if fragment.isEmpty then written else written ++ separator) rest

/-- Replaces every occurrence of `search`, taken from the left; `skip` characters belong to an
occurrence already replaced. -/
def replaceChars (search replacement : List Char) : Nat → List Char → List Char
  | _, [] => []
  | skip + 1, _ :: cs => replaceChars search replacement skip cs
  | 0, c :: cs =>
      if search.isPrefixOf (c :: cs) then
        replacement ++ replaceChars search replacement (search.length - 1) cs
      else c :: replaceChars search replacement 0 cs

/-- The text with every occurrence of `search` replaced.  The empty text occurs before every
character and at the end. -/
def replace (text search replacement : List Char) : List Char :=
  if search = [] then text.flatMap (fun c => replacement ++ [c]) ++ replacement
  else replaceChars search replacement 0 text

def occursIn (part : List Char) : List Char → Bool
  | [] => part.isEmpty
  | c :: cs => part.isPrefixOf (c :: cs) || occursIn part cs

end TypedSql.Text
