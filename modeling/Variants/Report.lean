import Variants.Engine.Basic
import Variants.Number.Percentage

/-!
Usage reports: for every pivot of an engine, which of its choices conditions have referred to.
-/

namespace Variants

structure PivotUsage where
  pivot : String
  used : List String := []
  unused : List String := []
  deriving DecidableEq, Repr

structure Report where
  pivots : List PivotUsage := []
  rendered : Int := 0
  warnings : List String := []
  deriving DecidableEq, Repr

namespace PivotUsage

def total (usage : PivotUsage) : Nat :=
  usage.used.length + usage.unused.length

def coverage (usage : PivotUsage) (places : Nat) : String :=
  percentageText places usage.used.length usage.total

def listing (choices : List String) : String :=
  let joined := ",".intercalate choices
  if joined.isEmpty then "(none)" else joined

def line (usage : PivotUsage) : String :=
  "  " ++ usage.pivot ++ ": used " ++ listing usage.used ++ " | unused " ++ listing usage.unused ++
    " (" ++ usage.coverage 0 ++ "%)"

end PivotUsage

variable {Custom : Type}

namespace Report

def add (report : Report) (usage : PivotUsage) : Report :=
  if report.pivots.any (·.pivot == usage.pivot) then
    { report with pivots := report.pivots.map fun old =>
        if old.pivot = usage.pivot then usage else old }
  else { report with pivots := report.pivots ++ [usage] }

def warn (report : Report) (message : String) : Report :=
  if report.warnings.contains message then report
  else { report with warnings := report.warnings ++ [message] }

def unusedPivots (report : Report) : List String :=
  (report.pivots.filter (·.used.isEmpty)).map (·.pivot)

def lines (report : Report) : List String :=
  ("Rendered expressions: " ++ toString report.rendered) :: report.pivots.map PivotUsage.line ++
    report.warnings.map ("  WARNING: " ++ ·)

def text (report : Report) : String :=
  "\n".intercalate report.lines

def unusedWarning (pivot : String) : String :=
  "Pivot '" ++ pivot ++ "' is never referenced by any expression"

def usageOf (engine : Engine Custom) (pivot : Pivot) : PivotUsage where
  pivot := pivot.name
  used := pivot.choiceNames.filter (engine.usage.isUsed pivot.name)
  unused := pivot.choiceNames.filter (!engine.usage.isUsed pivot.name ·)

def addPivot (engine : Engine Custom) (report : Report) (pivot : Pivot) : Report :=
  let usage := usageOf engine pivot
  let report := report.add usage
  if usage.used.isEmpty then report.warn (unusedWarning pivot.name) else report

end Report

def Engine.analyze (engine : Engine Custom) : Report :=
  engine.registry.pivots.foldl (Report.addPivot engine) { rendered := engine.cache.size }

end Variants
