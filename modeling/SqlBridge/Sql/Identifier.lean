import SqlBridge.Text.Lower

/-!
Names in statements. A name is bare when it consists of lower-case letters, digits, underscores and
dollar signs, starts with neither a digit nor a dollar sign and is not a reserved word; any other
name is written between double quotes, with its own quotes doubled.
-/

namespace SqlBridge.Sql

def reservedWords : List String :=
  ["add", "after", "all", "alter", "analyze", "and", "as", "asc", "attach", "autoincrement",
   "before", "begin", "between", "by", "cascade", "case", "cast", "check", "collate", "column",
   "commit", "conflict", "constraint", "create", "cross", "current_date", "current_time",
   "current_timestamp", "database", "default", "deferrable", "deferred", "delete", "desc",
   "detach", "distinct", "drop", "each", "else", "end", "escape", "except", "exclusive", "exists",
   "explain", "fail", "false", "for", "foreign", "from", "full", "glob", "group", "having", "if",
   "ignore", "immediate", "in", "index", "indexed", "initially", "inner", "insert", "instead",
   "intersect", "into", "is", "isnull", "join", "key", "left", "like", "limit", "match", "natural",
   "not", "notnull", "null", "of", "offset", "on", "or", "order", "outer", "plan", "pragma",
   "primary", "query", "raise", "references", "reindex", "rename", "replace", "restrict", "right",
   "rollback", "row", "select", "set", "table", "temp", "temporary", "then", "to", "transaction",
   "trigger", "true", "union", "unique", "update", "using", "vacuum", "values", "view", "virtual",
   "when", "where"]

/-- The letters A to Z in either case, the two letters outside ASCII that share a case with one of
them, digits, underscore and dollar sign. -/
def isNameChar (c : Char) : Bool :=
  c.isAlphanum || c = '_' || c = '$' || c = '\u0131' || c = '\u017F'

def startsBadly : List Char → Bool
  | [] => true
  | c :: _ => Text.isAsciiDigit c || c = '$'

/-- A text without a line feed at its end. -/
def withoutLastLineFeed (cs : List Char) : List Char :=
  match cs.reverse with
  | '\n' :: rest => rest.reverse
  | _ => cs

def hasOnlyNameChars (cs : List Char) : Bool :=
  let body := withoutLastLineFeed cs
  !body.isEmpty && body.all isNameChar

def needsQuotes (name : String) : Bool :=
  let cs := name.toList
  let lowered := Text.lowerChars cs
  startsBadly cs || !hasOnlyNameChars cs || lowered != cs
    || reservedWords.contains (String.ofList lowered)

def doubleQuotes (cs : List Char) : List Char :=
  cs.flatMap fun c => if c = '"' then ['"', '"'] else [c]

/-- The text of a name in a statement. -/
def identifier (name : String) : String :=
  if needsQuotes name then String.ofList ('"' :: doubleQuotes name.toList ++ ['"']) else name

end SqlBridge.Sql
