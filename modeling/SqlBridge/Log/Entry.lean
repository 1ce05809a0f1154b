import SqlBridge.Value

/-!
Log records: a level, the name of a logger, a message and named fields.
-/

namespace SqlBridge.Log

structure Entry where
  logger : String
  level : Int
  message : String
  fields : Fields Value

def debugLevel : Int := 10

def infoLevel : Int := 20

def warningLevel : Int := 30

def errorLevel : Int := 40

def criticalLevel : Int := 50

def levelName (level : Int) : String :=
  if level = 0 then "NOTSET"
  else if level = debugLevel then "DEBUG"
  else if level = infoLevel then "INFO"
  else if level = warningLevel then "WARNING"
  else if level = errorLevel then "ERROR"
  else if level = criticalLevel then "CRITICAL"
  else "Level " ++ Decimal.intText level

def Entry.debug (logger message : String) (fields : Fields Value) : Entry :=
  ⟨logger, debugLevel, message, fields⟩

/-- A record as one object: level, logger and message, merged with its fields. -/
def Entry.toValue (e : Entry) : Value :=
  .object (Fields.merge
    [("level", .text (levelName e.level)), ("logger", .text e.logger), ("message", .text e.message)]
    e.fields)

end SqlBridge.Log
