/-!
Ordered maps from names to values. An insertion under an existing name replaces the value and keeps
the position.
-/

namespace SqlBridge

abbrev Fields (α : Type) := List (String × α)

namespace Fields

variable {α : Type}

def get? (name : String) : Fields α → Option α
  | [] => none
  | (key, value) :: rest => if key = name then some value else get? name rest

def contains (fields : Fields α) (name : String) : Bool := (fields.get? name).isSome

def insert (fields : Fields α) (name : String) (value : α) : Fields α :=
  match fields with
  | [] => [(name, value)]
  | (key, old) :: rest =>
    if key = name then (key, value) :: rest else (key, old) :: insert rest name value

def erase (fields : Fields α) (name : String) : Fields α :=
  fields.filter fun (key, _) => key != name

def keys (fields : Fields α) : List String := fields.map (·.1)

/-- Every field of `later` inserted in turn. -/
def merge (fields later : Fields α) : Fields α :=
  later.foldl (fun fields (name, value) => fields.insert name value) fields

def ofPairs (pairs : List (String × α)) : Fields α := merge [] pairs

end Fields

end SqlBridge
