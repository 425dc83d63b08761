/-
  Muffle.Proofs.Stream.Verdict

  Whether the sink of a stream receives an error. The reports of refused directives are errors and
  those of directives without effect are not, so it does exactly if a directive was refused or an
  error was forwarded. Neither depends on whether directives without effect are reported.
-/

import Muffle.Proofs.Stream.Composition
import Muffle.Proofs.Stream.Decided
import Muffle.Proofs.Stream.Refused

namespace Muffle.Stream

variable {p p' : Policy} {d : Diagnostic} {ep : Episode} {eps : List Episode} {used : List Nat}
  {x : Entry}

/-! ## Entries of the transcript -/

theorem mem_forwarded {ds : List Decision} : d ∈ forwarded ds ↔ Among d .forwarded ds := by
  simp only [forwarded, Among, List.mem_map, List.mem_filter, decide_eq_true_eq, and_comm,
    and_left_comm]

theorem mem_entries :
    x ∈ ep.entries p used ↔
      (∃ q ∈ ep.collector.errors, x = .refused ep.unit q) ∨
        (∃ d, Among d .forwarded ep.decisions ∧ x = .passed d) ∨
        ∃ s ∈ ep.unused p used, x = .unused ep.unit s := by
  simp only [Episode.entries, List.mem_append, List.mem_map, or_assoc, mem_forwarded, eq_comm]

/-- An error in the transcript is a forwarded one or the report of a refused directive. -/
theorem error_mem_entries :
    (∃ x ∈ ep.entries p used, x.diagnostic.severity = .error) ↔
      (∃ d, d.severity = .error ∧ Among d .forwarded ep.decisions) ∨ ep.collector.errors ≠ [] := by
  constructor
  · rintro ⟨x, hx, herror⟩
    rcases mem_entries.mp hx with ⟨q, hq, rfl⟩ | ⟨d, hd, rfl⟩ | ⟨s, hs, rfl⟩
    · exact .inr (List.ne_nil_of_mem hq)
    · exact .inl ⟨d, herror, hd⟩
    · cases herror
  · rintro (⟨d, herror, hd⟩ | hrefused)
    · exact ⟨_, mem_entries.mpr (.inr (.inl ⟨d, hd, rfl⟩)), herror⟩
    · obtain ⟨q, hq⟩ := List.exists_mem_of_ne_nil _ hrefused
      exact ⟨_, mem_entries.mpr (.inl ⟨q, hq, rfl⟩), rfl⟩

/-- An error is sent if an error was forwarded or a directive refused; reports of unused directives
    are none. -/
theorem error_mem_transcript :
    (∃ x ∈ transcript p used eps, x.diagnostic.severity = .error) ↔
      (∃ d, d.severity = .error ∧ Among d .forwarded (decisions eps)) ∨
        ∃ ep ∈ eps, ep.collector.errors ≠ [] := by
  induction eps generalizing used with
  | nil => simp [transcript, decisions, Among]
  | cons ep rest ih =>
    have hdecisions : decisions (ep :: rest) = ep.decisions ++ decisions rest := rfl
    simp only [transcript, List.mem_append, or_and_right, exists_or, error_mem_entries, ih,
      hdecisions, among_append, and_or_left, List.exists_mem_cons_iff]
    exact or_or_or_comm

/-- If all forwarded diagnostics have texts as messages, so has all that the sink receives. -/
theorem kind_of_mem_transcript
    (htexts : ∀ d, Among d .forwarded (decisions eps) → d.message.kind = .str)
    (hx : x ∈ transcript p used eps) : x.diagnostic.message.kind = .str := by
  obtain ⟨ep, hep, used', hx⟩ := exists_mem_entries hx
  rcases mem_entries.mp hx with ⟨q, -, rfl⟩ | ⟨d, hd, rfl⟩ | ⟨s, -, rfl⟩
  · rfl
  · exact htexts d (among_decisions hep hd)
  · rfl

/-! ## Policies that decide alike -/

section Alike

variable (halike : rule p = rule p')
include halike

theorem ruleAll_congr (g : Registry) (items : List Value) :
    ruleAll p g items = ruleAll p' g items := by
  induction items with
  | nil => rfl
  | cons item rest ih => rw [ruleAll, ruleAll, halike, ih]

theorem play_congr [Pattern.Compiler] (stored : SourceUnit → Registry) (made : Nat) (data : Value) :
    play p stored made data = play p' stored made data := by
  simp only [play, ruleAll_congr halike]

/-- Decisions do not depend on the check for unused directives. -/
theorem episodes_congr [Pattern.Compiler] (stored : SourceUnit → Registry) (made : Nat)
    (units : List Value) :
    episodes p stored made units = episodes p' stored made units := by
  induction units generalizing stored made with
  | nil => rfl
  | cons data rest ih => simp only [episodes, play_congr halike, ih]

end Alike

/-- No decision looks at the switch that has directives without effect reported. -/
theorem rule_checkUnused (c : FilterConfig) (v : Value) (workDir : Path) :
    rule ⟨{ c with checkUnused := v }, workDir⟩ = rule ⟨c, workDir⟩ := rfl

/-! ## Runs -/

/-- All messages that a stream records are texts. -/
def TextMessages (units : List Value) : Prop :=
  ∀ data ∈ units, ∀ items, recordedItems data "diagnostics" = .ok items →
    ∀ item ∈ items, ∀ message, item.field "message" = .ok message → message.kind = .str

/-- A stream fails if an error is forwarded in its run, or if the first directive at some anchor of
    an entry has an invalid pattern. -/
def Fails [Pattern.Compiler] (p : Policy) (units : List Value) : Prop :=
  (∃ d, d.severity = .error ∧ Decided p d .forwarded {} units) ∨
    ∃ data ∈ units, RefusesFirst data

/-- Whether directives without effect are reported or not, the sink of a stream that is run receives
    an error exactly if the stream fails, and no message but texts if it records no others. -/
theorem run_verdict [Pattern.Compiler] {c : FilterConfig} {workDir : Path} {units : List Value}
    {s : Result} (h : (run ⟨c, workDir⟩ (.list units)).1 = .ok s) (v : Value) :
    ∃ s', (run ⟨{ c with checkUnused := v }, workDir⟩ (.list units)).1 = .ok s' ∧
      ((∃ d ∈ s'.sink, d.severity = .error) ↔ Fails ⟨c, workDir⟩ units) ∧
      (TextMessages units → ∀ d ∈ s'.sink, d.message.kind = .str) := by
  obtain ⟨eps, heps, -⟩ := run_ok h
  have heps' := (episodes_congr (rule_checkUnused c v workDir) noneStored 0 units).trans heps
  have hdecided (d : Diagnostic) : Decided ⟨c, workDir⟩ d .forwarded {} units ↔
      Among d .forwarded (decisions eps) := decided_iff rfl heps
  refine ⟨.ofEpisodes ⟨{ c with checkUnused := v }, workDir⟩ eps, ?_, ?_, ?_⟩
  · rw [run_eq, episodesOf, heps']
    rfl
  · simp only [Result.ofEpisodes, List.mem_map, exists_exists_and_eq_and, error_mem_transcript,
      Fails, hdecided, episodes_errors heps]
  · intro htexts d hd
    obtain ⟨x, hx, rfl⟩ := List.mem_map.mp hd
    refine kind_of_mem_transcript (fun d hd => ?_) hx
    obtain ⟨data, hdata, items, hitems, item, hitem, u, hread⟩ := ((hdecided d).mpr hd).read
    exact htexts data hdata items hitems item hitem _ (message_of_readDiagnostic hread)

end Muffle.Stream
