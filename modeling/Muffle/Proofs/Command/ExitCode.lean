/-
  Muffle.Proofs.Command.ExitCode

  What the exit code of the filter command depends on. If the stream is run, all its messages are
  texts and the results of its runs can be printed, the command fails exactly if an error was
  forwarded or the first directive at some anchor has an invalid pattern. The two switches of a
  request, how diagnostics are printed and whether directives without effect are reported, do not
  matter.
-/

import Muffle.Proofs.Command.Printing
import Muffle.Proofs.Stream.Verdict

namespace Muffle.Command

open Session

variable {tree : FileTree} {usual : Path} {r r' : FilterRequest} {c : FilterConfig}
  {s : Stream.Result}

/-! ## The configuration of a request -/

section Configuration

variable [Pattern.Compiler] [Yaml.Codec]

/-- The configuration that a request names, the default one if it names none. -/
def FilterRequest.namedConfig (r : FilterRequest) (tree : FileTree) (usual : Path) :
    Noticed FilterConfig :=
  match r.config with
  | some file => Config.load tree usual { file := some file }
  | none => pure {}

/-- A configuration with directives without effect reported, if the request asks for it. -/
def FilterRequest.adjust (r : FilterRequest) (c : FilterConfig) : FilterConfig :=
  if r.checkUnused ∧ ¬c.checkUnused.truthy then { c with checkUnused := .bool true } else c

theorem loadConfig_on (r : FilterRequest) (tree : FileTree) (usual : Path) :
    ((r.loadConfig tree usual).on []).1 =
      ((r.namedConfig tree usual).on []).1.map r.adjust := by
  unfold FilterRequest.loadConfig FilterRequest.namedConfig
  cases r.config with
  | none => rfl
  | some file =>
    dsimp only
    rw [Noticed.on, run_bind]
    show _ = Except.map r.adjust ((Config.load tree usual { file := some file }).run.run []).1
    rcases (Config.load tree usual { file := some file }).run.run [] with ⟨f | c, ns⟩ <;> rfl

/-- Requests that name one configuration differ at most in whether directives without effect are
    reported. -/
theorem loadConfig_checkUnused (hconfig : r'.config = r.config)
    (hc : ((r.loadConfig tree usual).on []).1 = .ok c) :
    ∃ v, ((r'.loadConfig tree usual).on []).1 = .ok { c with checkUnused := v } := by
  have hnamed : r'.namedConfig tree usual = r.namedConfig tree usual := by
    rw [FilterRequest.namedConfig, hconfig]
    rfl
  rw [loadConfig_on] at hc
  rw [loadConfig_on, hnamed]
  cases hfile : ((r.namedConfig tree usual).on []).1 with
  | error f =>
    rw [hfile] at hc
    cases hc
  | ok c₀ =>
    rw [hfile] at hc
    cases hc
    refine ⟨(r'.adjust c₀).checkUnused, congrArg Except.ok ?_⟩
    unfold FilterRequest.adjust
    split <;> split <;> rfl

end Configuration

/-! ## The ending -/

/-- A result that can be printed is shown, if all its messages are texts. -/
theorem Printable.shown [Console.Printer] (h : Printable s)
    (htexts : ∀ d ∈ s.sink, d.message.kind = .str) : r.shown s = .ok () := by
  unfold FilterRequest.shown
  split
  · obtain ⟨text, htext⟩ := exists_of_isOk h.json
    rw [htext]
    rfl
  · have hlines : linesShown s.sink = .ok () :=
      linesShown_eq_ok_iff.mpr fun d hd => h.line d hd (htexts d hd)
    obtain ⟨text, htext⟩ := exists_of_isOk h.summary
    rw [hlines, htext]
    rfl

section Runnable

variable [Pattern.Compiler] [Yaml.Codec] [Json.Decoder] [Console.Printer] {units : List Value}
  (hpath : tree.hasPath r.stream = .ok true)
  (hc : ((r.loadConfig tree usual).on []).1 = .ok c)
  (hstream : loadStream tree r.stream = .ok (.list units))
  (hrun : (Stream.run ⟨c, tree.workDir⟩ (.list units)).1 = .ok s)
  (htexts : Stream.TextMessages units)
  (hprint : ∀ q : FilterRequest, q.stream = r.stream → q.config = r.config →
    ∀ s', ((q.runStream tree usual).on []).1 = .ok s' → Printable s')
include hpath hc hstream hrun htexts hprint

/-- Every request for one stream under one configuration file ends in the same way. -/
theorem ending_of_fails [Decidable (Stream.Fails ⟨c, tree.workDir⟩ units)]
    (hsame : r'.stream = r.stream) (hconfig : r'.config = r.config) :
    (filter tree usual r').result.ending =
      if Stream.Fails ⟨c, tree.workDir⟩ units then .exit 1 else .exit 0 := by
  obtain ⟨v, hc'⟩ := loadConfig_checkUnused hconfig hc
  obtain ⟨s', hrun', herrors, hkinds⟩ := Stream.run_verdict hrun v
  have houtcome : r'.outcome tree ⟨{ c with checkUnused := v }, tree.workDir⟩ = .ok s' := by
    rw [FilterRequest.outcome, hsame, hstream, ok_bind, hrun']
  have hprinted : Printable s' := hprint r' hsame hconfig s' ((runStream_on hc').trans houtcome)
  rw [← hsame] at hpath
  rw [filter_ending hpath hc', houtcome]
  have hany : (s'.sink.any fun d => d.severity == .error) = true ↔
      Stream.Fails ⟨c, tree.workDir⟩ units := by
    rw [← herrors]
    simp
  refine (endingOf_close (r := r') (hprinted.shown (hkinds htexts))).trans ?_
  simp only [hany]

/-- The command fails exactly if the stream does, and neither the way of printing nor the reports
    of directives without effect make a difference. -/
theorem filter_exit_iff (hsame : r'.stream = r.stream) (hconfig : r'.config = r.config) :
    ((filter tree usual r').result.ending = .exit 1 ↔
        Stream.Fails ⟨c, tree.workDir⟩ units) ∧
      ((filter tree usual r').result.ending = .exit 0 ↔
        ¬Stream.Fails ⟨c, tree.workDir⟩ units) ∧
      (filter tree usual r').result.ending = (filter tree usual r).result.ending := by
  classical
  have hends := ending_of_fails hpath hc hstream hrun htexts hprint hsame hconfig
  have hends' : (filter tree usual r).result.ending = _ :=
    ending_of_fails hpath hc hstream hrun htexts hprint rfl rfl
  rw [hends, hends']
  by_cases hfails : Stream.Fails ⟨c, tree.workDir⟩ units <;> simp [hfails]

end Runnable

/-- A stream with one directive, whose pattern is no pattern. Every way to request it fails. -/
theorem filter_exit_iff_refused :
    let stream := "\x7b\"units\":[\x7b\"path\":\"a\",\"directives\":[" ++
      "\x7b\"anchor\":0,\"start\":0,\"end\":1,\"pattern\":\"(\"\x7d]\x7d]\x7d"
    let tree : FileTree :=
      { nodes := [(["s.json"], .file (Text.writeUtf8 stream.toList))], workDir := Path.ofText "/" }
    let usual := Path.ofText ".hush/suppressions.yaml"
    let r : FilterRequest := { stream := Path.ofText "s.json" }
    let directive : Value :=
      .ofFields [("anchor", .int 0), ("start", .int 0), ("end", .int 1), ("pattern", .str "(")]
    let data : Value := .ofFields [("path", .str "a"), ("directives", .list [directive])]
    tree.hasPath r.stream = .ok true ∧
      ((r.loadConfig tree usual).on []).1 = .ok {} ∧
      loadStream tree r.stream = .ok (.list [data]) ∧
      (Stream.run ⟨{}, tree.workDir⟩ (.list [data])).1.isOk = true ∧
      Stream.TextMessages [data] ∧
      (∀ q : FilterRequest, q.stream = r.stream → q.config = r.config →
        ∀ s', ((q.runStream tree usual).on []).1 = .ok s' → Printable s') ∧
      ∀ checkUnused asJson,
        (filter tree usual { r with checkUnused := checkUnused, asJson := asJson }).result.ending =
          .exit 1 := by
  intro stream tree usual r directive data
  have hpath : tree.hasPath r.stream = .ok true := eq_ok_of_toOption (by decide +kernel)
  have hc : ((r.loadConfig tree usual).on []).1 = .ok {} := rfl
  have hstream : loadStream tree r.stream = .ok (.list [data]) :=
    eq_ok_of_toOption (by decide +kernel)
  have hrun : (Stream.run ⟨{}, tree.workDir⟩ (.list [data])).1.isOk = true := by decide +kernel
  have htexts : Stream.TextMessages [data] := by
    intro data' hdata items hitems item hitem
    cases List.mem_singleton.mp hdata
    cases hitems
    cases hitem
  have hprint : ∀ q : FilterRequest, q.stream = r.stream → q.config = r.config →
      ∀ s', ((q.runStream tree usual).on []).1 = .ok s' → Printable s' := by
    rintro ⟨_, _, checkUnused, asJson⟩ rfl rfl s' hs'
    let q : FilterRequest := { r with checkUnused := checkUnused, asJson := asJson }
    have hcq : ((q.loadConfig tree usual).on []).1 = .ok { checkUnused := .bool checkUnused } := by
      cases checkUnused <;> rfl
    have houtcome := (runStream_on hcq).symm.trans hs'
    rw [FilterRequest.outcome, hstream, ok_bind] at houtcome
    have hpositions (b : Bool) :
        (Stream.run ⟨{ checkUnused := .bool b }, tree.workDir⟩ (.list [data])).1.toOption.all
          (fun s => s.sink.all fun d => d.position.isWritable) = true := by
      cases b <;> decide +kernel
    have hsink := hpositions checkUnused
    rw [houtcome] at hsink
    exact printable_standard (List.all_eq_true.mp hsink)
  have hfails : Stream.Fails ⟨{}, tree.workDir⟩ [data] := by
    refine .inr ⟨data, List.mem_singleton_self _, [directive], _, rfl, rfl, [], _, [], rfl, ?_, ?_⟩
    · exact fun b hb => absurd hb List.not_mem_nil
    · exact ⟨rfl, "(", "missing ), unterminated subpattern at position 0", rfl, by decide +kernel⟩
  obtain ⟨s, hs⟩ := exists_of_isOk hrun
  refine ⟨hpath, hc, hstream, hrun, htexts, hprint, fun checkUnused asJson => ?_⟩
  let r' : FilterRequest := { r with checkUnused := checkUnused, asJson := asJson }
  have hends := @filter_exit_iff tree usual r r' _ s _ _ _ _ _ hpath hc hstream hs htexts hprint
    rfl rfl
  exact hends.1.mpr hfails

end Muffle.Command
