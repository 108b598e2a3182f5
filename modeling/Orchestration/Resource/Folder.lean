import Orchestration.Text.Basic

namespace Orchestration

open Text

/-! A folder of files, and what a path finds in it. A path that leaves the
folder finds nothing but the folders above it. -/

inductive FileNode where
  | file (content : ByteArray)
  | folder
  /-- A file that may not be read, or a folder that may not be entered. -/
  | locked (isFolder : Bool)

structure Folder where
  /-- The path of the folder, as messages show it. -/
  root : String
  /-- The nodes below the root, by the names that lead to them. -/
  nodes : List (List String × FileNode)

inductive ReadFault where
  | missing
  | denied
  | isFolder
  | notFolder
  | nameTooLong
  | zeroCharacter
  | notText
deriving DecidableEq

/-- Puts a path behind another one; an absolute path stands alone. -/
def joinPaths (first second : String) : String :=
  if second.startsWith "/" || first.isEmpty then second
  else if first.endsWith "/" then first ++ second
  else first ++ "/" ++ second

namespace Folder

/-- The node at a place; names of nodes imply the folders that lead to them. -/
def node? (folder : Folder) (place : List String) : Option FileNode :=
  match folder.nodes.lookup place with
  | some node => some node
  | none =>
      if place.isEmpty || folder.nodes.any fun entry => place.isPrefixOf entry.1
      then some .folder
      else none

inductive Position where
  | inside (place : List String)
  | above

def longestName : Nat := 255

def longestPath : Nat := 4095

def stepTo (folder : Folder) (position : Position) (name : String) :
    Except ReadFault Position :=
  match position with
  | .above =>
      if name = "" ∨ name = "." ∨ name = ".." then .ok .above
      else if longestName < name.utf8ByteSize then .error .nameTooLong
      else .error .missing
  | .inside place =>
      match folder.node? place with
      | none => .error .missing
      | some (.file _) | some (.locked false) => .error .notFolder
      | some (.locked true) => .error .denied
      | some .folder =>
          if name = "" ∨ name = "." then .ok position
          else if name = ".." then
            if place.isEmpty then .ok .above
            else .ok (.inside place.dropLast)
          else if longestName < name.utf8ByteSize then .error .nameTooLong
          else .ok (.inside (place ++ [name]))

def walk (folder : Folder) (position : Position) :
    List String → Except ReadFault Position
  | [] => .ok position
  | name :: rest =>
      match folder.stepTo position name with
      | .ok position => folder.walk position rest
      | .error fault => .error fault

def names (path : List Char) : List String :=
  (pieces '/' path).map String.ofList

/-- Where an absolute path begins in the folder, if it does. -/
def start (folder : Folder) (path : String) : Position × List String :=
  let root := folder.root.toList
  if root.isPrefixOf path.toList then
    match path.toList.drop root.length with
    | [] => (.inside [], [])
    | '/' :: rest => (.inside [], names rest)
    | _ => (.above, names path.toList)
  else (.above, names path.toList)

def read (folder : Folder) (path : String) : Except ReadFault String :=
  if path.toList.contains '\x00' then .error .zeroCharacter
  else if longestPath < path.utf8ByteSize then .error .nameTooLong
  else
    let (position, names) := folder.start path
    match folder.walk position names with
    | .error fault => .error fault
    | .ok .above => .error .isFolder
    | .ok (.inside place) =>
        match folder.node? place with
        | none => .error .missing
        | some .folder => .error .isFolder
        | some (.locked _) => .error .denied
        | some (.file content) =>
            match String.fromUTF8? content with
            | some text => .ok text
            | none => .error .notText

end Folder

end Orchestration
