/-
  TestScaffold.Verbosity — how much a run tells.

  Quiet wins over any number of requests for more.
-/

namespace TestScaffold

/-- How much is told, from least to most. -/
inductive Verbosity where
  /-- Errors only, and no summary. -/
  | quiet
  /-- Warnings too. -/
  | normal
  /-- Progress. -/
  | verbose
  /-- Details. -/
  | debug
  /-- Everything. -/
  | trace
  deriving DecidableEq, Repr, Inhabited

namespace Verbosity

/-- The amount that `verbose` requests for more and the wish for quiet give. -/
def ofFlags (verbose : Nat) (quiet : Bool) : Verbosity :=
  match quiet, verbose with
  | true, _ => .quiet
  | false, 0 => .normal
  | false, 1 => .verbose
  | false, 2 => .debug
  | false, _ => .trace

/-- The position in the order. -/
def rank : Verbosity → Nat
  | quiet => 0
  | normal => 1
  | verbose => 2
  | debug => 3
  | trace => 4

/-- The name of an amount. -/
def name : Verbosity → String
  | quiet => "Quiet"
  | normal => "Normal"
  | verbose => "Verbose"
  | debug => "Debug"
  | trace => "Trace"

/-- The least severe level that is still told. -/
def level : Verbosity → String
  | quiet => "ERROR"
  | normal => "WARN"
  | verbose => "INFO"
  | debug => "DEBUG"
  | trace => "TRACE"

/-- The directive that selects the level for this program. -/
def directive (v : Verbosity) : String :=
  "pystub=" ++ v.level

/-- Whether more is told than usual. -/
def aboveDefault (v : Verbosity) : Bool :=
  normal.rank < v.rank

end Verbosity

end TestScaffold
