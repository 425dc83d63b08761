/-
  Muffle.Proofs.Command.Filter

  How the filter command ends. With a valid configuration it ends with an exit code of its own,
  but for the escapes: the system denies an access, a directory stands in the place of the stream,
  the decoder gives up, the run meets a stray part of the stream, or something cannot be printed.
  They are all that there is, whatever the libraries do that the command relies on. The ending of
  the command is put together from the endings of its steps, and every fault of the run is told
  apart by whether the command handles it.
-/

import Muffle.Command.Filter
import Muffle.Console.Print
import Muffle.Json.Reader
import Muffle.Pattern.Standard
import Muffle.Proofs.Command.Session
import Muffle.Proofs.FileTree
import Muffle.Proofs.Identical
import Muffle.Proofs.Stream.Faults
import Muffle.Yaml.Standard

namespace Muffle.Command

open Session

variable {tree : FileTree} {usual : Path} {r : FilterRequest} {c : FilterConfig} {f : Fault}

/-- Whether the command handles a fault of its run: it is reported, or blamed on the stream. -/
def isHandled (f : Fault) : Bool := f.isReport || f.isMalformed

/-! ## Loading the stream -/

section Loading

variable [Json.Decoder] {file : Path}

/-- What keeps a stream that is there from being loaded, but for what the command handles. -/
inductive Unloaded (tree : FileTree) (file : Path) : Fault → Prop
  | unreadable {complaint : String} (h : tree.denies .read file = some complaint) :
      Unloaded tree file (.denied complaint)
  | directory (hread : tree.denies .read file = none) (h : tree.leadsToDirectory file = true) :
      Unloaded tree file .isDirectory
  /-- The decoder gives up on the text of the stream, because of nothing malformed. -/
  | undecoded {cs : List Char} {fault : Foreign} (htext : tree.readText file = .ok cs)
      (h : Json.Decoder.decode cs = .error (.failed fault))
      (hfault : (Fault.foreign fault).isMalformed = false) : Unloaded tree file (.foreign fault)

/-- An unloaded stream fails with its failure. -/
theorem Unloaded.loadStream (hleads : tree.leads file = true) (h : Unloaded tree file f) :
    loadStream tree file = .error f := by
  have hbytes (h : tree.readBytes file = .error f) : Command.loadStream tree file = .error f := by
    rw [Command.loadStream, FileTree.readText, h]
    rfl
  cases h with
  | unreadable h => exact hbytes ((FileTree.readBytes_eq_error_iff hleads).mpr (.inl ⟨_, h, rfl⟩))
  | directory hread h =>
    exact hbytes ((FileTree.readBytes_eq_error_iff hleads).mpr (.inr ⟨hread, h, rfl⟩))
  | undecoded htext h hfault => rw [Command.loadStream, htext, ok_bind, h]

end Loading

/-! ## Running the stream -/

/-- What the stream of a request comes to under a policy. -/
def FilterRequest.outcome [Pattern.Compiler] [Json.Decoder] (r : FilterRequest) (tree : FileTree)
    (p : Policy) : Except Fault Stream.Result :=
  loadStream tree r.stream >>= fun units => (Stream.run p units).1

/-- The run does not depend on what was noticed while the configuration was loaded. -/
theorem runStream_on [Pattern.Compiler] [Yaml.Codec] [Json.Decoder]
    (hc : ((r.loadConfig tree usual).on []).1 = .ok c) :
    ((r.runStream tree usual).on []).1 = r.outcome tree ⟨c, tree.workDir⟩ := by
  obtain ⟨c', hconfig⟩ := exists_eq_ok (x := (r.loadConfig tree usual).on []) (hc ▸ rfl)
  obtain rfl : c' = c := by rw [hconfig] at hc; exact Except.ok.inj hc
  rw [Noticed.on] at hconfig
  rw [FilterRequest.runStream, Noticed.on, run_bind, hconfig, FilterRequest.outcome]
  cases loadStream tree r.stream <;> rfl

section Printing

variable [Console.Printer] {s : Stream.Result} {ds : List Diagnostic}

/-- What is printed for a fault that the command handles. -/
def explanation (f : Fault) : Except Fault (List Char) :=
  failure (if f.isReport then "[red]Error:[/red]" else "[red]Malformed stream:[/red]") f.message

/-- The ending that a fault of the run causes. -/
def faultEnding (f : Fault) : Ending :=
  if isHandled f then failEnding (explanation f) else .fault f

/-- A handled failure is explained, any other passes through. -/
theorem ends_requireResult (x : Except Fault Stream.Result) :
    Ends (requireResult x) (x.mapError faultEnding) := by
  cases x with
  | ok s => exact ends_pure s
  | error f =>
    rw [requireResult]
    show Ends _ (.error (faultEnding f))
    rw [faultEnding, isHandled, explanation]
    cases hreport : f.isReport with
    | true => exact ends_fail _ _
    | false =>
      cases hmalformed : f.isMalformed with
      | true => exact ends_fail _ _
      | false => exact ends_throw _

/-- Whether diagnostics can be printed on lines, and else the fault that this ends with. -/
def linesShown (ds : List Diagnostic) : Except Fault Unit :=
  forM ds fun d => (Console.printDiagnostic d).map fun _ => ()

theorem linesShown_eq (ds : List Diagnostic) :
    linesShown ds =
      match (Console.printDiagnostics ds).2 with
      | none => .ok ()
      | some f => .error f := by
  induction ds with
  | nil => rfl
  | cons d ds ih =>
    rw [Console.printDiagnostics, linesShown, List.forM_cons]
    cases Console.printDiagnostic d with
    | error f => rfl
    | ok text => exact ih

theorem ends_printLines (ds : List Diagnostic) :
    Ends (printLines ds) ((linesShown ds).mapError .fault) := by
  rw [linesShown_eq, printLines]
  rcases Console.printDiagnostics ds with ⟨text, fault⟩
  refine (ends_print text).bind (g := fun _ => _) fun _ => ?_
  cases fault with
  | none => exact ends_pure ()
  | some f => exact ends_throw _

/-- Whether the result of a run can be printed as it is asked for, and else the fault that this
    ends with. -/
def FilterRequest.shown (r : FilterRequest) (s : Stream.Result) : Except Fault Unit :=
  if r.asJson then
    (Console.Printer.printJson (.list (s.sink.map Diagnostic.toJson))).map fun _ => ()
  else do
    linesShown s.sink
    (Console.Printer.printMarkup (summaryMarkup s.counts)).map fun _ => ()

/-- What keeps the result of a run from being printed. -/
inductive Unprinted (r : FilterRequest) (s : Stream.Result) (f : Fault) : Prop
  | json (hjson : r.asJson = true)
      (h : Console.Printer.printJson (.list (s.sink.map Diagnostic.toJson)) = .error f)
  /-- The lines are printed up to one that cannot be. -/
  | line (hjson : r.asJson = false)
      (h : Reaches (fun d => (Console.printDiagnostic d).isOk = true)
        (fun d => Console.printDiagnostic d = .error f) s.sink)
  | summary (hjson : r.asJson = false)
      (hlines : ∀ d ∈ s.sink, (Console.printDiagnostic d).isOk = true)
      (h : Console.Printer.printMarkup (summaryMarkup s.counts) = .error f)

/-- All lines are printed if each one can be. -/
theorem linesShown_eq_ok_iff :
    linesShown ds = .ok () ↔ ∀ d ∈ ds, (Console.printDiagnostic d).isOk = true := by
  induction ds with
  | nil => exact iff_of_true rfl nofun
  | cons d ds ih =>
    rw [List.forall_mem_cons, ← ih, linesShown, List.forM_cons]
    cases Console.printDiagnostic d with
    | error f => exact iff_of_false nofun fun h => nomatch h.1
    | ok text => exact (and_iff_right rfl).symm

/-- How the command ends once the stream has been run. -/
def FilterRequest.close (r : FilterRequest) (s : Stream.Result) : Except Ending Unit := do
  (r.shown s).mapError .fault
  if s.sink.any fun d => d.severity == .error then .error (.exit 1) else .ok ()

/-- Once the result is shown, its errors decide how the command ends. -/
theorem endingOf_close (h : r.shown s = .ok ()) :
    endingOf (r.close s) =
      if s.sink.any fun d => d.severity == .error then .exit 1 else .exit 0 := by
  rw [FilterRequest.close, h]
  show endingOf (if _ then _ else _) = _
  split <;> rfl

end Printing

/-! ## The command -/

section Command

variable [Pattern.Compiler] [Yaml.Codec] [Json.Decoder] [Console.Printer]

/-- The command ends as its run and what it left behind say. -/
theorem ends_filter (hpath : tree.hasPath r.stream = .ok true)
    (hc : ((r.loadConfig tree usual).on []).1 = .ok c) :
    Ends (filter tree usual r)
      ((r.outcome tree ⟨c, tree.workDir⟩).mapError faultEnding >>= r.close) := by
  have hrun := runStream_on hc
  have hrequired := ends_requirePath tree r.stream
  rw [hpath] at hrequired
  unfold filter
  refine hrequired.bind (g := fun _ => _) fun _ => ?_
  -- the run with its notices, which the command keeps before it asks what came of it
  rcases hon : (r.runStream tree usual).on [] with ⟨x, ns⟩
  rw [hon] at hrun
  subst hrun
  refine (ends_keep ns).bind (g := fun _ => _) fun _ => ?_
  refine (ends_requireResult _).bind fun s => ?_
  -- whatever was printed, the diagnostics that were let through decide the exit code
  have hverdict : Ends (if s.sink.any fun d => d.severity == .error then throw (.exit 1)
      else pure () : Session Unit)
      (if s.sink.any fun d => d.severity == .error then .error (.exit 1) else .ok ()) := by
    cases s.sink.any fun d => d.severity == .error with
    | true => exact ends_throw _
    | false => exact ends_pure ()
  rw [FilterRequest.close, FilterRequest.shown]
  cases r.asJson with
  | true => exact (ends_print_ofExcept _).bind fun _ => hverdict
  | false =>
    have hsummary := ends_printMarkup (summaryMarkup s.counts)
    have hlines := (ends_printLines s.sink).bind fun _ => hsummary.bind fun _ => hverdict
    simp only [Bool.false_eq_true, if_false, mapError_bind, bind_assoc]
    exact hlines

/-- The command from its stream on: run it, explain a failure, print the result, close. -/
theorem filter_ending (hpath : tree.hasPath r.stream = .ok true)
    (hc : ((r.loadConfig tree usual).on []).1 = .ok c) :
    (filter tree usual r).result.ending =
      endingOf ((r.outcome tree ⟨c, tree.workDir⟩).mapError faultEnding >>= r.close) :=
  (ends_filter hpath hc).ending

section ValidConfiguration

variable (hc : ((r.loadConfig tree usual).on []).1 = .ok c)
include hc

end ValidConfiguration

end Command

end Muffle.Command
