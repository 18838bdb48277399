import SignIn.Config.Settings
import SignIn.Error
import SignIn.Text.Upper

/-!
# Configuration of logging

The level of the log is a name, in any case, and its format is one of two layouts.
-/

namespace SignIn

/-- The level of the log and the layout of its records. -/
structure LoggingSetup where
  level : Nat
  layout : Text
deriving DecidableEq

namespace LoggingSetup

def levels : List (String × Nat) :=
  [("NOTSET", 0), ("DEBUG", 10), ("INFO", 20), ("WARN", 30), ("WARNING", 30), ("ERROR", 40),
   ("CRITICAL", 50), ("FATAL", 50)]

/-- The level of a name in any case. -/
def level? (name : Text) : Option Nat :=
  (levels.find? fun l => Text.ofString l.1 == name.toUpper).map (·.2)

def layoutOf : LogFormat → Text
  | .text => "%(asctime)s - %(name)s - %(levelname)s - %(message)s"
  | .json => Text.concat ["\x7b\"time\": \"%(asctime)s\", \"logger\": \"%(name)s\", ",
      "\"level\": \"%(levelname)s\", \"message\": \"%(message)s\"\x7d"]

def ofSettings (settings : Settings) : Except Failure LoggingSetup :=
  match level? settings.logLevel with
  | some level => .ok ⟨level, layoutOf settings.logFormat⟩
  | none => .error (.fault .badValue)

end LoggingSetup

end SignIn
