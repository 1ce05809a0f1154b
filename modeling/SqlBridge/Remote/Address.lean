import SqlBridge.Text.Quoted
import SqlBridge.Text.Whole

/-!
The address of a request: host and scheme in lower case, without the default port of the scheme, and
with percent escapes for characters that a path may not contain.
-/

namespace SqlBridge.Remote

/-- The characters of a path that are escaped besides those outside ASCII. -/
def escapedInPath : List Char := " \"<>\x60\x7b\x7d".toList

def percentByte (b : UInt8) : List Char :=
  '%' :: (Text.hex 2 b.toNat).map Char.toUpper

def percentEscape (c : Char) : List Char :=
  if c.toNat < 0x80 && !escapedInPath.contains c then [c]
  else (String.singleton c).toUTF8.toList.flatMap percentByte

/-- The text before the first occurrence of `mark`, and the text from it on. -/
def splitAtMark (mark : List Char) : List Char → Option (List Char × List Char)
  | [] => none
  | c :: rest =>
    if mark.isPrefixOf (c :: rest) then some ([], c :: rest)
    else (splitAtMark mark rest).map fun (before, after) => (c :: before, after)

def defaultPort (scheme : List Char) : List Char :=
  if scheme = "https".toList then ":443".toList
  else if scheme = "http".toList then ":80".toList
  else []

def dropPort (scheme authority : List Char) : List Char :=
  let port := defaultPort scheme
  if !port.isEmpty && port.reverse.isPrefixOf authority.reverse then
    authority.take (authority.length - port.length)
  else authority

/-- Scheme and authority of an absolute address in their normal form, and the unchanged path. -/
def splitAddress (address : List Char) : List Char × List Char :=
  match splitAtMark "://".toList address with
  | none => ([], address)
  | some (scheme, rest) =>
    let scheme := scheme.map Char.toLower
    let rest := rest.drop 3
    let authority := (rest.takeWhile (· != '/')).map Char.toLower
    (scheme ++ "://".toList ++ dropPort scheme authority, rest.dropWhile (· != '/'))

/-- The authority of an address: the text before its path, query and fragment. -/
def authorityOf (address : List Char) : List Char :=
  match splitAtMark "://".toList address with
  | none => []
  | some (_, rest) => (rest.drop 3).takeWhile fun c => c != '/' && c != '?' && c != '#'

/-- The port of an authority, without its colon. A host in brackets may hold colons. -/
def portOf (authority : List Char) : List Char :=
  let host := (authority.reverse.takeWhile (· != '@')).reverse
  let port :=
    if host.head? = some '[' && host.contains ']' then
      (host.reverse.takeWhile (· != ']')).reverse
    else host.dropWhile (· != ':')
  if port.head? = some ':' then port.drop 1 else port

/-- The fault of an address whose port is not a whole number. Other faults, in hosts and characters,
are left to the HTTP library. -/
def portFault? (address : String) : Option String :=
  let port := String.ofList (portOf (authorityOf address.toList))
  match port.isEmpty, Text.readWhole port with
  | false, .error _ => some ("Invalid port: " ++ Text.quoted port)
  | _, _ => none

/-- The address of a path below a base, separated by exactly one slash. -/
def addressOf (base path : String) : String :=
  let (origin, basePath) := splitAddress base.toList
  let trunk := (basePath.reverse.dropWhile (· == '/')).reverse
  let branch := path.toList.dropWhile (· == '/')
  String.ofList (origin ++ (trunk ++ '/' :: branch).flatMap percentEscape)

end SqlBridge.Remote
