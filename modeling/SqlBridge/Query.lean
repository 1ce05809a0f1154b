import SqlBridge.Sql.Statement
import SqlBridge.Text.Lower
import SqlBridge.Text.Whole

/-!
Abstract queries. The keys `limit`, `offset`, `orderBy` and `where` of a query shape the result; its
other keys are columns with conditions. A query is compiled into criteria: the predicates of a
nested `where` precede those of the enclosing level, and the innermost limit and offset apply.
-/

namespace SqlBridge

open Sql

/-- The criteria of a query. A null limit or offset is absent. -/
structure Criteria where
  predicates : List Predicate
  order : List Order
  limit : Value
  offset : Value
deriving Inhabited

/-- An operator of a condition. -/
inductive Operator where
  | comparison (relation : Relation)
  | membership (positive : Bool)
deriving DecidableEq

/-- The operators of conditions; other keys are ignored. -/
def Operator.ofText? (s : String) : Option Operator :=
  match s with
  | "==" => some (.comparison .equal)
  | "===" => some (.comparison .equal)
  | "!=" => some (.comparison .notEqual)
  | "!==" => some (.comparison .notEqual)
  | ">" => some (.comparison .greater)
  | ">=" => some (.comparison .greaterOrEqual)
  | "<" => some (.comparison .less)
  | "<=" => some (.comparison .lessOrEqual)
  | "in" => some (.membership true)
  | "contains" => some (.membership true)
  | "notIn" => some (.membership false)
  | "notContains" => some (.membership false)
  | _ => none

namespace Criteria

def empty : Criteria := ⟨[], [], .null, .null⟩

def paginated (c : Criteria) : Bool := !c.limit.isNull || !c.offset.isNull || !c.order.isEmpty

/-- A comparison of a column. Null and truth values can only be compared for equality. -/
def comparison (column : ColumnName) (relation : Relation) (operand : Value) : Outcome Predicate :=
  match operand with
  | .null =>
    match relation with
    | .equal => .ok (.isNull column true)
    | .notEqual => .ok (.isNull column false)
    | _ => .error .onlyEquality
  | .bool b =>
    match relation with
    | .equal => .ok (.isTruth column true b)
    | .notEqual => .ok (.isTruth column false b)
    | _ => .error .onlyEquality
  | v => if column = .numeric then .error (.wrongType "") else .ok (.compare column relation v)

/-- The members of an operand: those of a list or object, or the operand itself. -/
def operands : Value → List Value
  | .list items => items
  | .object fields => fields.map fun (name, _) => .text name
  | v => [v]

def membership (column : ColumnName) (positive : Bool) (operand : Value) : Outcome Predicate :=
  if column = .numeric then .error (.wrongType "")
  else .ok (.member column positive (operands operand))

def predicate (column : ColumnName) (operator : Operator) (operand : Value) : Outcome Predicate :=
  match operator with
  | .comparison relation => comparison column relation operand
  | .membership positive => membership column positive operand

/-- The predicates of one column, in the order of its conditions. -/
def conditions (column : ColumnName) : Fields Value → Outcome (List Predicate)
  | [] => .ok []
  | (key, operand) :: rest =>
    match Operator.ofText? key with
    | some operator => do
      let p ← predicate column operator operand
      let ps ← conditions column rest
      return p :: ps
    | none => conditions column rest

/-- The predicates of one field; a field whose value is not an object has none. -/
def fieldPredicates (field : Value × Value) : Outcome (List Predicate) :=
  match field.2 with
  | .object fields => conditions (ColumnName.ofValue field.1) fields
  | _ => .ok []

def fieldsPredicates : List (Value × Value) → Outcome (List Predicate)
  | [] => .ok []
  | field :: rest => do
    let ps ← fieldPredicates field
    let more ← fieldsPredicates rest
    return ps ++ more

/-- Whether a direction is descending, which is the text `desc` in any case. -/
def isDescending : Value → Bool
  | .text s => Text.lower s = "desc"
  | _ => false

/-- One order entry: a name, or a pair of a name and a direction. -/
def orderEntry (entry : Value) : Outcome Order :=
  match entry with
  | .text name => .ok ⟨.named name, false⟩
  | entry =>
    match entry.members? with
    | none => .error (.wrongType "")
    | some [name, direction] => .ok ⟨ColumnName.ofValue name, isDescending direction⟩
    | some parts =>
      if parts.length < 2 then .error (.value (.tooFewParts parts.length))
      else .error (.value .tooManyParts)

/-- The entries of an `orderBy`; a falsy one has none. -/
def orderEntries (v : Value) : Outcome (List Order) :=
  if v.truthy then
    match v.members? with
    | some entries => entries.mapM orderEntry
    | none => .error (.wrongType "")
  else .ok []

end Criteria

/-- Inserts an entry into a mapping under construction. Names are distinguished by their keys. -/
def putEntry (entries : List (Value × Value)) (name v : Value) : List (Value × Value) :=
  match entries with
  | [] => [(name, v)]
  | (other, old) :: rest =>
    if other.key? = name.key? then (other, v) :: rest else (other, old) :: putEntry rest name v

/-- The entry for a member of a list of pairs. -/
def entryOf (index : Nat) (member : Value) : Outcome (Value × Value) :=
  match member.members? with
  | none => .error (.wrongType "")
  | some [name, v] => if name.key?.isSome then .ok (name, v) else .error (.wrongType "")
  | some parts => .error (.value (.entryLength index parts.length))

def entriesFrom (index : Nat) (entries : List (Value × Value)) :
    List Value → Outcome (List (Value × Value))
  | [] => .ok entries
  | member :: rest => do
    let (name, v) ← entryOf index member
    entriesFrom (index + 1) (putEntry entries name v) rest

/-- The entries of a value read as a mapping: the fields of an object, or a list of pairs. A text is
a list of characters, which are not pairs. -/
def entries : Value → Outcome (List (Value × Value))
  | .object fields => .ok (fields.map fun (name, v) => (.text name, v))
  | .list members => entriesFrom 0 [] members
  | .text s => if s.isEmpty then .ok [] else .error (.value (.entryLength 0 1))
  | _ => .error (.wrongType "")

/-- The keys of a query that are not columns. -/
def shapingKeys : List String := ["limit", "offset", "orderBy", "where"]

def isShapingKey : Value → Bool
  | .text s => shapingKeys.contains s
  | _ => false

/-- The value of a name in a mapping. -/
def lookup? (name : String) : List (Value × Value) → Option Value
  | [] => none
  | (.text key, v) :: rest => if key = name then some v else lookup? name rest
  | _ :: rest => lookup? name rest

namespace Criteria

/-- One level of a query, without the levels below it. -/
structure Level where
  limit : Option Value
  offset : Option Value
  order : Option Value
  nested : Option Value
  fields : List (Value × Value)

def Level.ofEntries (entries : List (Value × Value)) : Level :=
  ⟨lookup? "limit" entries, lookup? "offset" entries, lookup? "orderBy" entries,
   lookup? "where" entries, entries.filter fun (name, _) => !isShapingKey name⟩

/-- The criteria with the limit, offset and order of a level. -/
def shape (c : Criteria) (level : Level) : Outcome Criteria := do
  let order ← match level.order with
    | some v => orderEntries v
    | none => .ok []
  return { c with
    limit := level.limit.getD c.limit
    offset := level.offset.getD c.offset
    order := c.order ++ order }

def constrain (c : Criteria) (level : Level) : Outcome Criteria := do
  let predicates ← fieldsPredicates level.fields
  return { c with predicates := c.predicates ++ predicates }

/-- Compiles a query into criteria, with one unit of fuel for each level. A falsy query leaves the
criteria unchanged. -/
def compileWith (fuel : Nat) (c : Criteria) (query : Value) : Outcome Criteria :=
  match fuel with
  | 0 => .ok c
  | fuel + 1 =>
    if query.truthy then do
      let entries ← entries query
      let level := Level.ofEntries entries
      let shaped ← c.shape level
      let inner ← match level.nested with
        | some nested => compileWith fuel shaped nested
        | none => .ok shaped
      inner.constrain level
    else .ok c

/-- Compiles a query into criteria. -/
def compile (c : Criteria) (query : Value) : Outcome Criteria :=
  compileWith (query.depth + 1) c query

/-- Compiles queries one after another. -/
def compileAll (c : Criteria) : List Value → Outcome Criteria
  | [] => .ok c
  | query :: rest => do
    let c ← c.compile query
    compileAll c rest

/-- A value as a whole number: texts are parsed, doubles are truncated. -/
def wholeNumber : Value → Outcome Int
  | .bool b => .ok (if b then 1 else 0)
  | .int n => .ok n
  | .double x =>
    match x.truncate? with
    | some n => .ok n
    | none => .error (if x.read = .nan then .value .noNumber else .overflow)
  | .text s =>
    match Text.readWhole s with
    | .ok n => .ok n
    | .error .malformed => .error (.value (.notWhole s))
    | .error (.tooLong digits) => .error (.value (.tooManyDigits digits))
  | _ => .error (.wrongType "")

/-- A limit or offset, absent when it is null. -/
def pageNumber (v : Value) : Outcome (Option Int) :=
  match v with
  | .null => .ok none
  | v => (wholeNumber v).map some

def page (c : Criteria) : Outcome Page := do
  let limit ← pageNumber c.limit
  let offset ← pageNumber c.offset
  return ⟨limit, offset⟩

/-- The read of a table under the criteria. -/
def select (c : Criteria) (projection : Projection) (table : String) : Outcome Selection := do
  let page ← c.page
  return ⟨projection, table, c.predicates, c.order, page⟩

/-- The rows of a table that a change under the criteria affects. Under an order, a limit or an
offset they are selected by their row ids. -/
def scope (c : Criteria) (table : String) : Outcome Scope :=
  if c.paginated then (c.select .rowId table).map .chosen
  else if c.predicates.isEmpty then .ok .all
  else .ok (.satisfying c.predicates)

end Criteria

end SqlBridge
