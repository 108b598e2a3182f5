import Orchestration.Json.Basic
import Orchestration.Number.Layout
import Orchestration.Text.Basic

namespace Orchestration.Json

def numberLayout : Layout where
  plainFrom := -5
  plainBelow := 16
  exponentPlus := true
  tie := .toEven

def Number.compact : Number → String
  | .integer value => toString value
  | .real value => numberLayout.text value

def escapeChar (c : Char) : String :=
  if c = '"' then "\\\""
  else if c = '\\' then "\\\\"
  else if c = '\x08' then "\\b"
  else if c = '\t' then "\\t"
  else if c = '\n' then "\\n"
  else if c = '\x0c' then "\\f"
  else if c = '\r' then "\\r"
  else if c.toNat < 0x20 then
    (if c.toNat < 0x10 then "\\u000" else "\\u00") ++ Text.hexText c.toNat
  else c.toString

def quote (text : String) : String :=
  "\"" ++ String.join (text.toList.map escapeChar) ++ "\""

mutual

def compact : Json → String
  | .null => "null"
  | .bool true => "true"
  | .bool false => "false"
  | .number value => value.compact
  | .string value => quote value
  | .array items => "[" ++ ",".intercalate (compactItems items) ++ "]"
  | .object fields =>
      "\x7b" ++ ",".intercalate (compactFields fields) ++ "\x7d"

def compactItems : List Json → List String
  | [] => []
  | item :: rest => compact item :: compactItems rest

def compactFields : List (String × Json) → List String
  | [] => []
  | (key, value) :: rest =>
      (quote key ++ ":" ++ compact value) :: compactFields rest

end

end Orchestration.Json
