/-
Lines of the log.

* `LogLevel`, `LogLine`: what a module says about its work, and how important that
  is;
* `LogLine.throughSteps`: the lines of steps, as far as they get.
-/

namespace RecordRules

/-- How important a line is, the most important first. -/
inductive LogLevel where
  | error
  | warn
  | info
  | debug
  | trace
  deriving DecidableEq, Repr

/-- What is said about some work. -/
structure LogLine where
  level : LogLevel
  /-- The module that says it. -/
  target : String
  text : String
  deriving DecidableEq, Repr

/-- The lines of steps one after another, through the first step that stops. -/
def LogLine.throughSteps {α : Type} (lines : α → List LogLine) (stops : α → Bool) : List α → List LogLine
  | [] => []
  | step :: rest => lines step ++ if stops step then [] else throughSteps lines stops rest

end RecordRules
