import SqlBridge.Value

/-!
The set of the tables known to exist remotely. Names are texts, and any scalars that a catalog
lists.
-/

namespace SqlBridge

structure TableSet where
  names : List Value
deriving Inhabited

namespace TableSet

def empty : TableSet := ⟨[]⟩

def contains (s : TableSet) (name : Value) : Bool := s.names.any fun v => v.key? = name.key?

def insert (s : TableSet) (name : Value) : TableSet :=
  if s.contains name then s else ⟨s.names ++ [name]⟩

def insertAll (s : TableSet) (names : List Value) : TableSet := names.foldl insert s

def ofTexts (names : List String) : TableSet := empty.insertAll (names.map .text)

/-- The order in which names are listed: by their characters. -/
def listedBefore (a b : Value) : Bool :=
  match a, b with
  | .text s, .text t => s ≤ t
  | .text _, _ => false
  | _, .text _ => true
  | _, _ => true

def sorted (s : TableSet) : List Value := s.names.mergeSort listedBefore

end TableSet

end SqlBridge
