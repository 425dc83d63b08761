/-
  Muffle.Proofs.Stream.Replay

  What the sink of a stream received, written as JSON and run as a stream of its own. Tuples are
  written as lists, and only a list that is a whole position is read as a tuple again. That is
  enough, since a stream makes tuples of nothing else: each position in the sink is one that was
  recorded, of a diagnostic or as the anchor of a directive, and each message is recorded or a
  text. So the sink of the second run is that of the first one.
-/

import Muffle.Proofs.Collector.FailedAdd
import Muffle.Proofs.JsonForm
import Muffle.Proofs.Stream.UnusedReports
import Muffle.Proofs.Stream.Verdict

namespace Muffle.Stream

variable {p : Policy} {d : Diagnostic} {r : Recorded} {u : SourceUnit} {v data : Value}
  {items units : List Value} {c c' : Collector} {first made : Nat}
  {stored : SourceUnit → Registry} {ep : Episode} {eps : List Episode}

/-! ## Recorded positions -/

/-- A position in a stream is read back from its JSON form. -/
theorem position_toJson (h : v.IsJson) : position (position v).toJson = position v := by
  cases h with
  | list h =>
    -- a tuple has the form of the list that it was read from
    exact congrArg position (Value.IsJson.list h).toJson_eq
  | map h => exact congrArg position (Value.IsJson.map h).toJson_eq
  | _ => rfl

/-- A diagnostic that is read back from its JSON form. -/
structure Recordable (d : Diagnostic) : Prop where
  position : position d.position.toJson = d.position
  message : d.message.toJson = d.message

theorem isJson_recordedItems {name : String} (h : data.IsJson)
    (hitems : recordedItems data name = .ok items) : ∀ item ∈ items, item.IsJson := by
  obtain ⟨found, hfound, hparts⟩ := bind_eq_ok_iff.mp hitems
  exact (h.of_fieldD (.list (List.forall_mem_nil _)) hfound).of_parts hparts

/-- A diagnostic that was read can be recorded. -/
theorem recordable_of_readDiagnostic (h : v.IsJson) (hread : readDiagnostic u v = .ok d) :
    Recordable d := by
  obtain ⟨place, hplace, hread⟩ := bind_eq_ok_iff.mp hread
  obtain ⟨_, -, hread⟩ := bind_eq_ok_iff.mp hread
  obtain ⟨_, -, hread⟩ := bind_eq_ok_iff.mp hread
  obtain ⟨message, hmessage, hread⟩ := bind_eq_ok_iff.mp hread
  cases hread
  exact ⟨position_toJson (h.of_fieldD .null hplace), (h.of_field hmessage).toJson_eq⟩

theorem position_anchor (h : v.IsJson) (hread : Recorded.read v = .ok r) :
    position r.anchor.toJson = r.anchor := by
  obtain ⟨_, -, hread⟩ := bind_eq_ok_iff.mp hread
  obtain ⟨anchor, hanchor, hread⟩ := bind_eq_ok_iff.mp hread
  obtain ⟨_, -, hread⟩ := bind_eq_ok_iff.mp hread
  obtain ⟨_, -, hread⟩ := bind_eq_ok_iff.mp hread
  obtain ⟨_, -, hread⟩ := bind_eq_ok_iff.mp hread
  obtain ⟨_, -, hread⟩ := bind_eq_ok_iff.mp hread
  cases hread
  exact position_toJson (h.of_field hanchor)

/-! ## Anchors -/

/-- Where the directives are that a collector keeps or refused. -/
def anchors (c : Collector) : List Value := c.collected.map (·.anchor) ++ c.errors.map (·.anchor)

theorem gather_anchors [Pattern.Compiler] (h : gather first c r = .ok c') :
    ∀ v ∈ anchors c', v ∈ anchors c ∨ v = r.anchor := by
  intro v hv
  cases gather_cases h with
  | skipped => exact .inl hv
  | made _ hd =>
    simp only [anchors, List.map_append, List.mem_append, List.map_cons, List.map_nil,
      List.mem_singleton, Collector.anchor_of_directiveFor hd] at hv ⊢
    tauto
  | refused _ hp =>
    simp only [anchors, List.map_append, List.mem_append, List.map_cons, List.map_nil,
      List.mem_singleton, Collector.anchor_of_refused hp] at hv ⊢
    tauto

/-- By induction on the items: an anchor of a collection was read from one of them. -/
theorem gatherAll_anchors [Pattern.Compiler] (h : gatherAll first c items = .ok c') :
    ∀ v ∈ anchors c', v ∈ anchors c ∨
      ∃ item ∈ items, ∃ r, Recorded.read item = .ok r ∧ v = r.anchor := by
  induction items generalizing c with
  | nil =>
    cases h
    exact fun v hv => .inl hv
  | cons item rest ih =>
    obtain ⟨r, hread, h⟩ := bind_eq_ok_iff.mp h
    obtain ⟨c₁, hgather, h⟩ := bind_eq_ok_iff.mp h
    intro v hv
    rcases ih h v hv with hv | ⟨item', hitem', hanchor⟩
    · refine (gather_anchors hgather v hv).imp_right fun hanchor => ?_
      exact ⟨item, List.mem_cons_self, r, hread, hanchor⟩
    · exact .inr ⟨item', List.mem_cons_of_mem _ hitem', hanchor⟩

/-- The anchors of an episode are those of recorded directives. -/
theorem play_anchors [Pattern.Compiler] (h : play p stored made data = .ok ep) :
    ∀ v ∈ anchors ep.collector, ∃ items, recordedItems data "directives" = .ok items ∧
      ∃ item ∈ items, ∃ r, Recorded.read item = .ok r ∧ v = r.anchor := by
  obtain ⟨path, -, h⟩ := bind_eq_ok_iff.mp h
  obtain ⟨items, hitems, h⟩ := bind_eq_ok_iff.mp h
  obtain ⟨opened, hopening, h⟩ := bind_eq_ok_iff.mp h
  obtain ⟨c, hgather, hopening⟩ := bind_eq_ok_iff.mp hopening
  obtain ⟨g, -, hopening⟩ := bind_eq_ok_iff.mp hopening
  cases hopening
  obtain ⟨diagnostics, -, h⟩ := bind_eq_ok_iff.mp h
  obtain ⟨ds, -, h⟩ := bind_eq_ok_iff.mp h
  cases h
  intro v hv
  exact ⟨items, hitems, (gatherAll_anchors hgather v hv).resolve_left List.not_mem_nil⟩

theorem position_of_mem_anchors [Pattern.Compiler] (hjson : ∀ data ∈ units, data.IsJson)
    (h : episodes p stored made units = .ok eps) :
    ∀ ep ∈ eps, ∀ v ∈ anchors ep.collector, position v.toJson = v := by
  induction units generalizing stored made eps with
  | nil =>
    cases h
    exact nofun
  | cons data rest ih =>
    obtain ⟨hdata, hrest⟩ := List.forall_mem_cons.mp hjson
    obtain ⟨ep, hplay, h⟩ := bind_eq_ok_iff.mp h
    obtain ⟨eps', heps', h⟩ := bind_eq_ok_iff.mp h
    cases h
    refine List.forall_mem_cons.mpr ⟨fun v hv => ?_, ih hrest heps'⟩
    obtain ⟨items, hitems, item, hitem, r, hread, rfl⟩ := play_anchors hplay v hv
    exact position_anchor (isJson_recordedItems hdata hitems item hitem) hread

/-! ## What the sink receives -/

theorem mem_registry_of_mem_unused {used : List Nat} {s : Directive} (h : s ∈ ep.unused p used) :
    s ∈ ep.registry.directives := by
  unfold Episode.unused at h
  split at h
  · exact List.mem_of_mem_filter (List.mem_of_mem_filter h)
  · cases h

/-- Whatever the sink of a stream receives is read back from its JSON form, if the stream was read
    from JSON itself. -/
theorem recordable_of_mem_transcript [Pattern.Compiler] (hjson : ∀ data ∈ units, data.IsJson)
    (h : episodesOf p units = .ok eps) :
    ∀ x ∈ transcript p [] eps, Recordable x.diagnostic := by
  have hanchors := position_of_mem_anchors hjson h
  obtain ⟨hchain, -⟩ := episodes_chain shelved_none h
  intro x hx
  obtain ⟨ep, hep, used, hx⟩ := exists_mem_entries hx
  rcases mem_entries.mp hx with ⟨q, hq, rfl⟩ | ⟨d, hd, rfl⟩ | ⟨s, hs, rfl⟩
  · have hanchor : q.anchor ∈ anchors ep.collector :=
      List.mem_append_right _ (List.mem_map_of_mem hq)
    exact ⟨hanchors ep hep _ hanchor, rfl⟩
  · have hdecided : Decided p d .forwarded {} units :=
      (decided_iff (e := {}) rfl h).mpr (among_decisions hep hd)
    obtain ⟨data, hdata, items, hitems, item, hitem, u, hread⟩ := hdecided.read
    exact recordable_of_readDiagnostic
      (isJson_recordedItems (hjson data hdata) hitems item hitem) hread
  · -- the directive may have been registered by an earlier entry of its unit
    rcases hchain.mem_registered hep (mem_registry_of_mem_unused hs) with hs | ⟨u, hs⟩
    · obtain ⟨ep', hep', hs⟩ := List.mem_flatMap.mp hs
      have hanchor : s.anchor ∈ anchors ep'.collector :=
        List.mem_append_left _ (List.mem_map_of_mem hs)
      exact ⟨hanchors ep' hep' _ hanchor, rfl⟩
    · cases hs

/-! ## The second run -/

/-- The entry of a stream that records one diagnostic, made from its JSON form. -/
def entryFrom (json : Value) : Except Fault Value := do
  let diagnostic := Value.ofFields
    [("position", ← json.field "position"), ("severity", ← json.field "severity"),
      ("message", ← json.field "message")]
  return .ofFields [("path", ← json.field "unit"), ("diagnostics", .list [diagnostic])]

/-- A stream with one entry for each of some diagnostics, made from their JSON forms. -/
def recording (ds : List Diagnostic) : Except Fault (List Value) :=
  (ds.map Diagnostic.toJson).mapM entryFrom

/-- The record of a diagnostic. -/
def recordOf (d : Diagnostic) : Value :=
  .ofFields [("position", d.position.toJson), ("severity", .str d.severity.word),
    ("message", d.message.toJson)]

/-- The entry that records a diagnostic of its unit and nothing else. -/
def entryOf (d : Diagnostic) : Value :=
  .ofFields [("path", .str d.unit.path), ("diagnostics", .list [recordOf d])]

theorem entryFrom_toJson (d : Diagnostic) : entryFrom d.toJson = .ok (entryOf d) := by
  rw [Diagnostic.toJson_eq]
  rfl

/-- Recorded diagnostics are all read as entries of a stream. -/
theorem recording_eq (ds : List Diagnostic) : recording ds = .ok (ds.map entryOf) :=
  mapM_map_eq_ok fun d _ => entryFrom_toJson d

/-- A recorded diagnostic is read back. -/
theorem readDiagnostic_recordOf (h : Recordable d) :
    readDiagnostic d.unit (recordOf d) = .ok d := by
  have hposition : (recordOf d).fieldD "position" .null = .ok d.position.toJson := rfl
  have hseverity : (recordOf d).fieldD "severity" (.str "warning") =
      .ok (.str d.severity.word) := rfl
  have hmessage : (recordOf d).field "message" = .ok d.message.toJson := rfl
  have hparse : Severity.parse (.str d.severity.word) = .ok d.severity := by
    cases d.severity <;> rfl
  rw [readDiagnostic, hposition, ok_bind, hseverity, ok_bind, hparse, ok_bind, hmessage, ok_bind,
    h.position, h.message, pure_eq_ok]

variable (workDir : Path)

/-- The policy of a configuration that was left as it is by default. -/
def plainPolicy : Policy := ⟨{}, workDir⟩

/-- What an entry with one forwarded diagnostic comes to. -/
def forwardedEpisode (d : Diagnostic) : Episode :=
  ⟨{ unit := d.unit }, { unit := d.unit }, [⟨d, .forwarded⟩]⟩

/-- Without filters and directives everything is forwarded. -/
theorem rule_plain (u : SourceUnit) (d : Diagnostic) :
    rule (plainPolicy workDir) { unit := u } d = .ok .forwarded := by
  unfold rule
  split <;> rfl

/-- The step lemma: the entry of a recorded diagnostic forwards it, and nothing else happens. -/
theorem play_entryOf [Pattern.Compiler] (h : Recordable d) (made : Nat) :
    play (plainPolicy workDir) noneStored made (entryOf d) = .ok (forwardedEpisode d) := by
  have hpath : (entryOf d).field "path" = .ok (.str d.unit.path) := rfl
  have hdirectives : recordedItems (entryOf d) "directives" = .ok [] := rfl
  have hdiagnostics : recordedItems (entryOf d) "diagnostics" = .ok [recordOf d] := rfl
  have hopening : opening (noneStored d.unit) made [] =
      .ok ({ unit := d.unit }, { unit := d.unit }) := rfl
  have hruled : ruleAll (plainPolicy workDir) { unit := d.unit } [recordOf d] =
      .ok [⟨d, .forwarded⟩] := by
    rw [ruleAll, readDiagnostic_recordOf h, ok_bind, rule_plain]
    rfl
  rw [play, hpath, ok_bind]
  dsimp only [SourceUnit.of, Value.text]
  rw [hdirectives, ok_bind, hopening, ok_bind, hdiagnostics, ok_bind, hruled]
  rfl

/-- No directives come to be stored. -/
theorem store_forwardedEpisode (d : Diagnostic) :
    (forwardedEpisode d).store noneStored = noneStored := by
  funext v
  unfold Episode.store
  split
  · rename_i hv
    rw [hv]
    rfl
  · rfl

/-- The run lemma, by induction on the diagnostics. -/
theorem episodes_recorded [Pattern.Compiler] {ds : List Diagnostic} (h : ∀ d ∈ ds, Recordable d)
    (made : Nat) :
    episodes (plainPolicy workDir) noneStored made (ds.map entryOf) =
      .ok (ds.map forwardedEpisode) := by
  induction ds generalizing made with
  | nil => rfl
  | cons d rest ih =>
    obtain ⟨hd, hrest⟩ := List.forall_mem_cons.mp h
    rw [List.map_cons, episodes, play_entryOf workDir hd, ok_bind, store_forwardedEpisode,
      ih hrest]
    rfl

theorem transcript_forwarded (ds : List Diagnostic) (used : List Nat) :
    (transcript (plainPolicy workDir) used (ds.map forwardedEpisode)).map Entry.diagnostic =
      ds := by
  induction ds generalizing used with
  | nil => rfl
  | cons d rest ih =>
    rw [List.map_cons, transcript, List.map_append, ih]
    rfl

theorem tally_forwarded (ds : List Diagnostic) (counts : Counts) :
    tally counts (decisions (ds.map forwardedEpisode)) =
      { counts with forwarded := counts.forwarded + ds.length } := by
  induction ds generalizing counts with
  | nil => rfl
  | cons d rest ih =>
    refine (ih (counts.add .forwarded)).trans ?_
    rw [List.length_cons, Counts.add, Nat.add_assoc, Nat.add_comm 1]

/-- What the sink of a stream received, recorded from its JSON forms with one entry for each
    diagnostic, runs without filters to the same sink, and every diagnostic is forwarded. -/
theorem run_recording [Pattern.Compiler] (p : Policy) {units : List Value} {r : Result}
    (hjson : ∀ data ∈ units, data.IsJson) (h : (run p (.list units)).1 = .ok r) :
    ∃ again, recording r.sink = .ok again ∧
      (run (plainPolicy workDir) (.list again)).1 =
        .ok ⟨r.sink, { forwarded := r.sink.length }⟩ := by
  obtain ⟨eps, heps, rfl⟩ := run_ok h
  have hsink : ∀ d ∈ (Result.ofEpisodes p eps).sink, Recordable d :=
    List.forall_mem_map.mpr (recordable_of_mem_transcript hjson heps)
  refine ⟨_, recording_eq _, ?_⟩
  rw [run_eq, episodesOf, episodes_recorded workDir hsink, Except.map, Result.ofEpisodes,
    transcript_forwarded, tally_forwarded, Nat.zero_add]

/-- A stream with positions of all forms: a list of lists, none at all, the anchor of a refused
    directive and that of one without effect. -/
theorem run_recording_positions :
    let p : Policy := { config := { checkUnused := .bool true }, workDir := Path.ofText "/" }
    let place (line column : Int) : Value := .list [.int line, .int column]
    let units : List Value :=
      [.ofFields
        [("path", .str "a.c"),
          ("directives", .list
            [.ofFields [("anchor", place 1 0), ("start", place 1 0), ("end", place 9 0),
                ("pattern", .str "(")],
              .ofFields [("anchor", place 2 0), ("start", place 2 0), ("end", place 3 0)]]),
          ("diagnostics", .list
            [.ofFields [("position", place 5 1), ("severity", .str " Error "),
                ("message", .list [.str "x", .list [.null]])],
              .ofFields [("message", .str "y")]])],
        .ofFields
        [("path", .str "b.c"),
          ("diagnostics", .list
            [.ofFields [("position", .list [.list [.int 1], place 2 3]),
              ("message", .str "z")]])]]
    (∀ data ∈ units, data.IsJson) ∧
      ∃ r again, (run p (.list units)).1 = .ok r ∧ r.sink.length = 5 ∧
        recording r.sink = .ok again ∧
        (run (plainPolicy (Path.ofText "/")) (.list again)).1 = .ok ⟨r.sink, ⟨0, 5, 0⟩⟩ := by
  intro p place units
  have hjson : ∀ data ∈ units, data.IsJson := by simp [units, place]
  have hlength : (run p (.list units)).1.toOption.map (·.sink.length) = some 5 := by
    decide +kernel
  obtain ⟨r, h⟩ := exists_of_isOk (show (run p (.list units)).1.isOk = true by decide +kernel)
  rw [h] at hlength
  have hfive : r.sink.length = 5 := Option.some.inj hlength
  obtain ⟨again, hagain, hrun⟩ := run_recording (Path.ofText "/") p hjson h
  rw [hfive] at hrun
  exact ⟨hjson, r, again, h, hfive, hagain, hrun⟩

end Muffle.Stream
