import Orchestration.Parameter.Basic

namespace Orchestration

structure ParameterMap where
  entries : List (String × HostValue)
deriving DecidableEq

namespace ParameterMap

def empty : ParameterMap := ⟨[]⟩

instance : Inhabited ParameterMap := ⟨empty⟩

def insertIn (name : String) (value : HostValue) :
    List (String × HostValue) → List (String × HostValue)
  | [] => [(name, value)]
  | (key, old) :: rest =>
      if key = name then (key, value) :: rest
      else (key, old) :: insertIn name value rest

/-- Puts a value under a name; a name that is there already keeps its place. -/
def insert (map : ParameterMap) (name : String) (value : HostValue) :
    ParameterMap :=
  ⟨insertIn name value map.entries⟩

def ofList (entries : List (String × HostValue)) : ParameterMap :=
  entries.foldl (fun map entry => map.insert entry.1 entry.2) empty

def find? (map : ParameterMap) (name : String) : Option HostValue :=
  map.entries.lookup name

def names (map : ParameterMap) : List String := map.entries.map (·.1)

def size (map : ParameterMap) : Nat := map.entries.length

def isEmpty (map : ParameterMap) : Bool := map.entries.isEmpty

def toParameters (map : ParameterMap) (direction : Direction) :
    Except Error (List Parameter) :=
  Parameter.inferAll direction map.entries

def sameEntries : List (String × HostValue) → List (String × HostValue) → Bool
  | [], [] => true
  | (k, a) :: as, (l, b) :: bs => k == l && a.same b && sameEntries as bs
  | _, _ => false

def same (a b : ParameterMap) : Bool := sameEntries a.entries b.entries

end ParameterMap

end Orchestration
