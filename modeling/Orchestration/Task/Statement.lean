import Orchestration.Gateway.Record
import Orchestration.Text.Basic

namespace Orchestration

open Text

inductive StatementType where
  | select
  | change
deriving DecidableEq

namespace StatementType

def code : StatementType → String
  | select => "0"
  | change => "1"

def changeWords : List String :=
  ["insert", "delete", "drop", "update", "truncate", "alter", "create"]

/-- Letters of either case are the same, and so is the long s. -/
def foldLetter (c : Char) : Char := if c = 'ſ' then 's' else lowerAscii c

def isChangeWord (word : List Char) : Bool :=
  changeWords.any fun other => other.toList == word.map foldLetter

/-- Words stand between single spaces. A statement changes something if a word
of its first line other than the last one says so. -/
def detect (text : String) : StatementType :=
  let line := (trimStart text.toList).takeWhile (· ≠ '\n')
  if (pieces ' ' line).dropLast.any isChangeWord then change else select

end StatementType

def defaultDisplayRows : Nat := 10

/-- A statement that is sent to a datasource. Without a type, the type is the
one that the text shows. -/
structure Statement where
  datasource : String
  datasourceType : Option String := none
  text : String
  givenType : Option StatementType := none
  delimiter : Option String := none
  before : List String := []
  after : List String := []
  displayRows : Nat := defaultDisplayRows
deriving DecidableEq

namespace Statement

def type (statement : Statement) : StatementType :=
  statement.givenType.getD (.detect statement.text)

def taskParameters (statement : Statement) (datasource : DatasourceInfo) :
    List (String × Json) :=
  [("sql", .string statement.text),
    ("sqlType", .string statement.type.code),
    ("segmentSeparator", .string (statement.delimiter.getD "")),
    ("preStatements", .strings statement.before),
    ("postStatements", .strings statement.after),
    ("displayRows", .ofNat statement.displayRows),
    ("type", .string datasource.type),
    ("datasource", .ofInt datasource.id)]

end Statement

end Orchestration
