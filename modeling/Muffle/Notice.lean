/-
  Muffle.Notice

  Notices: what the program has to say about its own work, for a log. A notice is a cause; its
  name, level and fields are read off it.
-/

import Muffle.Diagnostic
import Muffle.Path

namespace Muffle

/-- How important a notice is. -/
inductive Notice.Level where
  | debug
  | info
  | warning
deriving DecidableEq, Repr

/-- The word for a level. -/
def Notice.Level.word : Notice.Level → String
  | .debug => "debug"
  | .info => "info"
  | .warning => "warning"

/-- Why a diagnostic was muffled. -/
inductive Notice.Reason where
  | pathFilter
  | globalFilter
  | directive (anchor : Value)

/-- One notice. -/
inductive Notice where
  /-- A directive came after one that encloses it. -/
  | outOfOrder (unit : SourceUnit) (anchor enclosing : Value)
  /-- A directive crosses an earlier one. -/
  | overlapAsOuter (unit : SourceUnit) (anchor overlapping : Value)
  | registered (unit : SourceUnit) (anchor : Value) (range : String) (pattern : Value)
  | replayed (unit : SourceUnit) (count : Nat)
  | suppressed (unit : SourceUnit) (reason : Notice.Reason)
  | unusedReported (unit : SourceUnit) (count : Nat)
  | markerUnavailable (globalFilters pathFilters : Nat)
  | duplicateSkipped (unit : SourceUnit) (anchor : Value)
  | invalidPattern (unit : SourceUnit) (anchor pattern reason : Value)
  | invalidSourceRoot (path : String)
  | unknownKeys (keys : List Value)
  | configNotFound (path : Path)
  | configLoaded (path : Path) (globalFilters pathFilters sourceRoots : Nat)
  | unknownOption (option : String)

namespace Notice

/-- The name of a notice. -/
def event : Notice → String
  | .outOfOrder .. => "suppression_registered_out_of_order"
  | .overlapAsOuter .. => "suppression_overlap_treated_as_outer"
  | .registered .. => "suppression_registered"
  | .replayed .. => "deferred_diagnostics_replayed"
  | .suppressed .. => "diagnostic_suppressed"
  | .unusedReported .. => "unused_suppressions_reported"
  | .markerUnavailable .. => "directive_marker_unavailable"
  | .duplicateSkipped .. => "duplicate_directive_skipped"
  | .invalidPattern .. => "invalid_directive_pattern"
  | .invalidSourceRoot .. => "invalid_source_root"
  | .unknownKeys .. => "unknown_config_keys"
  | .configNotFound .. => "filter_config_not_found"
  | .configLoaded .. => "filter_config_loaded"
  | .unknownOption .. => "unknown_option_ignored"

/-- The level of a notice. -/
def level : Notice → Level
  | .outOfOrder .. | .markerUnavailable .. | .invalidPattern .. | .invalidSourceRoot ..
  | .unknownKeys .. => .warning
  | .unusedReported .. | .configLoaded .. => .info
  | _ => .debug

/-- The name of a unit as a field. -/
def unitField (u : SourceUnit) : String × Value := ("unit", .str u.path)

/-- A count as a field. -/
def countField (name : String) (n : Nat) : String × Value := (name, .int n)

/-- The fields that tell why a diagnostic was muffled. -/
def Reason.fields : Reason → List (String × Value)
  | .pathFilter => [("reason", .str "path_filter")]
  | .globalFilter => [("reason", .str "global_filter")]
  | .directive a => [("reason", .str "directive"), ("anchor", a)]

/-- The fields of a notice. -/
def fields : Notice → List (String × Value)
  | .outOfOrder u a e => [unitField u, ("anchor", a), ("enclosing_anchor", e)]
  | .overlapAsOuter u a o => [unitField u, ("anchor", a), ("overlapping_anchor", o)]
  | .registered u a r p => [unitField u, ("anchor", a), ("range", .str r), ("pattern", p)]
  | .replayed u n => [unitField u, countField "count" n]
  | .suppressed u r => unitField u :: r.fields
  | .unusedReported u n => [unitField u, countField "count" n]
  | .markerUnavailable g p => [countField "global_filters" g, countField "path_filters" p]
  | .duplicateSkipped u a => [unitField u, ("anchor", a)]
  | .invalidPattern u a p r => [unitField u, ("anchor", a), ("pattern", p), ("error", r)]
  | .invalidSourceRoot p => [("path", .str p), ("reason", .str "not a directory")]
  | .unknownKeys ks => [("keys", .list ks)]
  | .configNotFound p => [("path", .str p.text)]
  | .configLoaded p g f r =>
    [("path", .str p.text), countField "global_filters" g, countField "path_filters" f,
     countField "source_roots" r]
  | .unknownOption o => [("option", .str o)]

end Notice

/-! ## Giving notice -/

/-- A computation that gives notices, which outlive a fault. -/
abbrev Noticed := ExceptT Fault (StateM (List Notice))

namespace Noticed

/-- Runs a computation. -/
def on {α : Type} (x : Noticed α) (notices : List Notice) : Except Fault α × List Notice :=
  (ExceptT.run x).run notices

/-- A computation without notices. -/
def ofExcept {α : Type} (x : Except Fault α) : Noticed α := ExceptT.mk (pure x)

/-- Gives notice of something, which never fails. -/
def notify (n : Notice) : Noticed Unit := modify fun ns => ns ++ [n]

end Noticed

end Muffle
