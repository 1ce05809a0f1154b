/-!
Similarity of names. The similarity of two names is the share of their characters that lie in common
runs: the longest run, and recursively the runs on either side of it.
-/

namespace SqlBridge.CommandLine

def commonLength : List Char → List Char → Nat
  | a :: as, b :: bs => if a = b then commonLength as bs + 1 else 0
  | _, _ => 0

structure Run where
  first : Nat
  second : Nat
  length : Nat

/-- The longest common run of two names, and the first one if there are several. -/
def longestRun (a b : List Char) : Run :=
  (List.range a.length).foldl
    (fun best i =>
      (List.range b.length).foldl
        (fun best j =>
          let length := commonLength (a.drop i) (b.drop j)
          if best.length < length then ⟨i, j, length⟩ else best)
        best)
    ⟨0, 0, 0⟩

/-- The number of characters in common runs; the recursion is bounded by `fuel`. -/
def commonCharacters : Nat → List Char → List Char → Nat
  | 0, _, _ => 0
  | fuel + 1, a, b =>
    let run := longestRun a b
    if run.length = 0 then 0
    else
      run.length + commonCharacters fuel (a.take run.first) (b.take run.second)
        + commonCharacters fuel (a.drop (run.first + run.length)) (b.drop (run.second + run.length))

/-- A name with its similarity to another one: characters in common runs, out of all characters of
both. -/
structure Likeness where
  name : String
  common : Nat
  total : Nat

def likeness (mistaken name : String) : Likeness :=
  let a := name.toList
  let b := mistaken.toList
  ⟨name, commonCharacters a.length a b, a.length + b.length⟩

def Likeness.isClose (l : Likeness) : Bool := 3 * l.total ≤ 10 * l.common

/-- Greater similarity first; among equals, the later one in the order of names. -/
def Likeness.precedes (l m : Likeness) : Bool :=
  if l.common * m.total = m.common * l.total then m.name ≤ l.name
  else m.common * l.total < l.common * m.total

/-- At most three names similar to a mistaken one, by decreasing similarity. -/
def similarNames (mistaken : String) (names : List String) : List String :=
  ((((names.map (likeness mistaken)).filter Likeness.isClose).mergeSort
    Likeness.precedes).take 3).map (·.name)

end SqlBridge.CommandLine
