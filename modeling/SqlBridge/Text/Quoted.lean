import SqlBridge.Text.Character

/-!
Text between quotes with escapes for unprintable characters. The quotes are single ones unless the
text has a single quote and no double quote.
-/

namespace SqlBridge.Text

def quoteFor (cs : List Char) : Char :=
  if cs.contains '\'' && !cs.contains '"' then '"' else '\''

/-- One character between quotes of the kind `quote`; `wide` tells whether printable characters
outside ASCII are kept. -/
def quotedChar (wide : Bool) (quote c : Char) : List Char :=
  if c = quote || c = '\\' then ['\\', c]
  else if c = '\t' then ['\\', 't']
  else if c = '\n' then ['\\', 'n']
  else if c = '\r' then ['\\', 'r']
  else if isPrintable c && (wide || c.toNat < 0x80) then [c]
  else if c.toNat < 0x100 then '\\' :: 'x' :: hex 2 c.toNat
  else if c.toNat < 0x10000 then '\\' :: 'u' :: hex 4 c.toNat
  else '\\' :: 'U' :: hex 8 c.toNat

def quotedWith (wide : Bool) (s : String) : String :=
  let cs := s.toList
  let quote := quoteFor cs
  String.ofList (quote :: cs.flatMap (quotedChar wide quote) ++ [quote])

def quoted (s : String) : String := quotedWith true s

end SqlBridge.Text
