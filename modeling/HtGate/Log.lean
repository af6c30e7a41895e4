import HtGate.Directive.Parser
/-!
# Log records

What is written to the log: a level, the name of the part that speaks, and a message.
-/

namespace HtGate

namespace Log

/-- How important a record is. -/
inductive Level where
  | debug
  | info
  | warning
  | error
  deriving DecidableEq, Repr

namespace Level

/-- The rank of a level. -/
def rank : Level → Nat
  | debug => 10
  | info => 20
  | warning => 30
  | error => 40

/-- The name of a level. -/
def name : Level → Text
  | debug => "DEBUG".toList
  | info => "INFO".toList
  | warning => "WARNING".toList
  | error => "ERROR".toList

end Level

/-- One record. -/
structure Record where
  level : Level
  source : Text
  message : Text
  deriving DecidableEq, Repr

/-- The record of an event of reading the configuration called `config`. -/
def ofParseEvent (source config : Text) : ParseEvent → Record
  | .diagnosed d =>
    ⟨.warning, source,
      "[htaccess] ".toList ++ config ++ ':' :: Text.ofNat d.line ++ ": ".toList ++ d.message⟩
  | .badDuration line reason =>
    ⟨.debug, source,
      "line ".toList ++ Text.ofNat line ++ ": bad expires duration: ".toList ++ reason.message⟩

/-- The records of reading a configuration to its end. -/
def ofParsed (source config : Text) (p : Parsed) : List Record :=
  p.events.map (ofParseEvent source config)
    ++ [⟨.debug, source,
      "Parsed ".toList ++ config ++ ": ".toList ++ Text.ofNat (Directive.countAll p.directives)
        ++ " directives, ".toList ++ Text.ofNat p.diagnostics.length ++ " warnings".toList⟩]

/-- The records of reading a configuration up to what stopped it. -/
def ofFailure (source config : Text) (failure : ParseFailure) : List Record :=
  failure.events.map (ofParseEvent source config)

end Log

end HtGate
