import TypedSql.Text.Hex

namespace TypedSql

open Text

/-! Universally unique identifiers: sixteen bytes, written as thirty-two digits in five groups. -/

structure Uuid where
  bytes : List UInt8
  length_bytes : bytes.length = 16
deriving DecidableEq

namespace Uuid

def ofBytes? (bytes : List UInt8) : Option Uuid :=
  if h : bytes.length = 16 then some ⟨bytes, h⟩ else none

def nil : Uuid := ⟨List.replicate 16 0, by decide⟩

def write (u : Uuid) : List Char :=
  let ds := lowerHex u.bytes
  ds.take 8 ++ '-' :: (ds.drop 8).take 4 ++ '-' :: (ds.drop 12).take 4 ++
    '-' :: (ds.drop 16).take 4 ++ '-' :: ds.drop 20

def readDigits? (text : List Char) : Option Uuid :=
  if text.length = 32 then (bytesOfHex? text).bind ofBytes? else none

def readGroups? (text : List Char) : Option Uuid :=
  if text.length = 36 ∧ text[8]? = some '-' ∧ text[13]? = some '-' ∧ text[18]? = some '-' ∧
      text[23]? = some '-' then
    readDigits? (text.take 8 ++ (text.drop 9).take 4 ++ (text.drop 14).take 4 ++
      (text.drop 19).take 4 ++ text.drop 24)
  else none

/-- Reads the groups, bare, in braces or after `urn:uuid:`, or the digits without hyphens. -/
def read? (text : List Char) : Option Uuid :=
  if text.length = 32 then readDigits? text
  else if text.length = 36 then readGroups? text
  else if text.length = 38 then
    if text[0]? = some '\x7b' ∧ text[37]? = some '\x7d' then
      readGroups? ((text.drop 1).take 36)
    else none
  else if (text.take 9).map Char.toLower = "urn:uuid:".toList then readGroups? (text.drop 9)
  else none

end Uuid

end TypedSql
