import Rethrow.Lookup
import Rethrow.Proofs.Archive.Open

/-!
# Lookups told by their history

A chain keeps the archives it has opened and answers from them. Its history keeps none: for
every location it notes what was there when the location joined the chain, and what has happened
since, which is the lookups that have reached it, each with the disk as it was then, and the
changes of the disk. That is enough to tell every answer of a run (`LookupStep.runAll_history`):
the first lookup that could open an archive fixes what the archive answers from then on, be it
removed or replaced, and nothing else of the past counts but a text that was written into the
file while it was still in place (`LookupStep.runAll_history_overwritten`). Of all steps only a
write by a path that leads to the file does that (`LookupStep.fate_eq_overwritten`).
-/

namespace Rethrow

/-- A lookup, with the disk as it finds it. -/
structure Visit where
  disk : Disk
  unit : UnitId

/-- Whether an answer sends a lookup on to the next source. -/
def Answer.silent : Answer → Bool
  | .ok none => true
  | _ => false

/-- What happens to a location of a chain. -/
inductive Event where
  /-- A lookup reaches it. -/
  | visit (visit : Visit)
  /-- The disk changes, which means something for the file at each place. -/
  | change (fate : Place → Fate)

/-- The changes of the disk among some events. -/
def Event.changes (events : List Event) : List (Place → Fate) :=
  events.filterMap fun
    | .visit _ => none
    | .change fate => some fate

/-- A location of a chain and what has happened to it. -/
structure Station where
  path : Path
  /-- Whether a directory was there when the location joined the chain. -/
  wasDirectory : Bool
  /-- What has happened to the location since, oldest first. -/
  events : List Event := []

namespace Station

/-- A location that joins a chain. -/
def join (disk : Disk) (path : Path) : Station :=
  { path, wasDirectory := disk.isDirectory path }

/-- A location to which one more thing has happened. -/
def met (station : Station) (event : Event) : Station :=
  { station with events := station.events ++ [event] }

/-- What the first visit that could open an archive found, and the changes of the disk since. -/
def firstOpening (path : Path) : List Event → Option (Opened × List (Place → Fate))
  | [] => none
  | .change _ :: rest => firstOpening path rest
  | .visit visit :: rest =>
    match visit.disk.openArchive path with
    | .ok opened => some (opened, Event.changes rest)
    | .error _ => firstOpening path rest

/-- The archive at a location, if a visit could open it: what that visit found, after the changes
of the disk since. -/
def opened (station : Station) : Option Opened :=
  (firstOpening station.path station.events).map fun (opened, changes) => opened.later changes

/-- The failure of a lookup at a location. -/
def failure (station : Station) (visit : Visit) (cause : DiskError) : ReadFailure :=
  { location := station.path, entry := visit.unit.fileName, cause }

/-- What a lookup is answered at a location. What was a directory is read on the disk of the
lookup. An archive answers from what the first opening that succeeded has found, be it this one;
if none has, this one fails too and the lookup fails with it. -/
def answer (station : Station) (visit : Visit) : Answer :=
  if station.wasDirectory then
    (Source.readDirectory visit.disk station.path visit.unit).mapError (station.failure visit)
  else
    match station.opened with
    | some file => (Source.readArchive file.archive visit.unit).mapError (station.failure visit)
    | none =>
      match visit.disk.openArchive station.path with
      | .ok file => (Source.readArchive file.archive visit.unit).mapError (station.failure visit)
      | .error cause => .error (station.failure visit cause)

/-- The source that a chain has for a location. -/
def source (station : Station) : Source :=
  if station.wasDirectory then .directory station.path else .archive station.path station.opened

/-- How many of some locations a lookup reaches: those in front of the first that is not
silent, and that one. -/
def countReached (visit : Visit) (stations : List Station) : Nat :=
  (stations.takeWhile fun station => (station.answer visit).silent).length + 1

/-- Some locations after a lookup. Those that it does not reach are as they were. -/
def reachAll (visit : Visit) (stations : List Station) : List Station :=
  let count := countReached visit stations
  (stations.take count).map (·.met (.visit visit)) ++ stations.drop count

/-- The first answer that is not silent. -/
def firstAnswer (visit : Visit) (stations : List Station) : Answer :=
  ((stations.map (·.answer visit)).find? fun answer => !answer.silent).getD (.ok none)

end Station

/-- The history of a chain, and the disk as it is. -/
structure History where
  disk : Disk
  stations : List Station

namespace History

/-- The history of a chain of some locations that has served no lookup. -/
def start (disk : Disk) (locations : List Path) : History :=
  { disk, stations := locations.map (Station.join disk) }

/-- A lookup at this point of a history. -/
def visit (history : History) (unit : UnitId) : Visit :=
  { disk := history.disk, unit }

/-- The history after one more step, and the answer if the step reads a unit. -/
def step (history : History) : LookupStep → History × Option Answer
  | .read unit =>
    ({ history with stations := Station.reachAll (history.visit unit) history.stations },
      some (Station.firstAnswer (history.visit unit) history.stations))
  | .push path =>
    ({ history with stations := history.stations ++ [Station.join history.disk path] }, none)
  | step =>
    ({ disk := step.change history.disk
       stations := history.stations.map (·.met (.change (step.fate history.disk))) }, none)

/-- The history after some more steps, and the answers of those that read units. -/
def run (history : History) : List LookupStep → History × List Answer
  | [] => (history, [])
  | step :: rest =>
    let after := (history.step step).1.run rest
    (after.1, (history.step step).2.toList ++ after.2)

/-- The workspace that a history leads to. -/
def space (history : History) : Workspace :=
  { disk := history.disk, chain := history.stations.map Station.source }

end History

namespace Event

theorem changes_concat (events : List Event) (event : Event) :
    changes (events ++ [event]) = changes events ++ changes [event] :=
  List.filterMap_append

end Event

/-! ## One lookup -/

namespace Station

theorem firstOpening_concat (path : Path) (events : List Event) (event : Event) :
    firstOpening path (events ++ [event]) =
      match firstOpening path events with
      | some (opened, changes) => some (opened, changes ++ Event.changes [event])
      | none => firstOpening path [event] := by
  induction events with
  | nil => rfl
  | cons first rest ih =>
      cases first with
      | change fate => exact ih
      | visit visit =>
          simp only [List.cons_append, firstOpening]
          cases visit.disk.openArchive path with
          | ok opened => simp only [Event.changes_concat]
          | error e => exact ih

/-- A visit opens the archive unless it is open. -/
theorem opened_visit (station : Station) (visit : Visit) :
    (station.met (.visit visit)).opened =
      station.opened.or (visit.disk.openArchive station.path).toOption := by
  simp only [opened, met, firstOpening_concat]
  cases firstOpening station.path station.events with
  | some found => simp [Event.changes]
  | none =>
      simp only [firstOpening]
      cases visit.disk.openArchive station.path with
      | ok file => simp [Event.changes, Opened.later_nil, Except.toOption]
      | error e => rfl

/-- A change of the disk is felt by an archive that is open. -/
theorem opened_change (station : Station) (fate : Place → Fate) :
    (station.met (.change fate)).opened = station.opened.map (Opened.after fate) := by
  simp only [opened, met, firstOpening_concat]
  cases firstOpening station.path station.events with
  | some found => simp [Event.changes, Opened.later_concat]
  | none => rfl

theorem source_of_directory {station : Station} (kind : station.wasDirectory = true) :
    station.source = .directory station.path := by
  simp [source, kind]

theorem source_of_archive {station : Station} (kind : station.wasDirectory = false) :
    station.source = .archive station.path station.opened := by
  simp [source, kind]

/-- A source answers as its history tells, and its history tells what it is then. -/
theorem read_source (station : Station) (visit : Visit) :
    station.source.read visit.disk visit.unit =
      ((station.met (.visit visit)).source, station.answer visit) := by
  have kept := station.opened_visit visit
  cases kind : station.wasDirectory with
  | true =>
      have later : (station.met (.visit visit)).wasDirectory = true := kind
      rw [source_of_directory kind, source_of_directory later, answer, if_pos kind]
      rfl
  | false =>
      have later : (station.met (.visit visit)).wasDirectory = false := kind
      rw [source_of_archive kind, source_of_archive later, kept, answer, kind]
      -- Only an archive that no earlier lookup could open looks at the disk.
      cases station.opened with
      | some file => rfl
      | none =>
          simp only [Source.read, Source.opened]
          cases visit.disk.openArchive station.path with
          | error cause => rfl
          | ok file => rfl

/-- Unless a text was written into its file, an archive answers from what the visit that opened it
has found. -/
theorem answer_of_spared {station : Station} {opened : Opened} {changes : List (Place → Fate)}
    (kind : station.wasDirectory = false)
    (opening : firstOpening station.path station.events = some (opened, changes))
    (spared : .overwritten ∉ changes.map opened.fate) (visit : Visit) :
    station.answer visit =
      (Source.readArchive opened.archive visit.unit).mapError (station.failure visit) := by
  have held : station.opened = some (opened.later changes) := by
    rw [Station.opened, opening, Option.map_some]
  simp only [answer, kind, Bool.false_eq_true, if_false, held, Opened.archive_later spared]

/-- A source feels a change of the disk as its history tells. -/
theorem after_source (station : Station) (fate : Place → Fate) :
    station.source.after fate = (station.met (.change fate)).source := by
  have kept := station.opened_change fate
  cases kind : station.wasDirectory with
  | true =>
      have later : (station.met (.change fate)).wasDirectory = true := kind
      rw [source_of_directory kind, source_of_directory later]
      rfl
  | false =>
      have later : (station.met (.change fate)).wasDirectory = false := kind
      rw [source_of_archive kind, source_of_archive later, kept]
      rfl

theorem reachAll_cons (visit : Visit) (station : Station) (rest : List Station) :
    reachAll visit (station :: rest) =
      station.met (.visit visit) ::
        if (station.answer visit).silent then reachAll visit rest else rest := by
  cases silent : (station.answer visit).silent <;> simp [reachAll, countReached, silent]

theorem firstAnswer_cons (visit : Visit) (station : Station) (rest : List Station) :
    firstAnswer visit (station :: rest) =
      if (station.answer visit).silent then firstAnswer visit rest else station.answer visit := by
  cases silent : (station.answer visit).silent <;> simp [firstAnswer, silent]

/-- A lookup in a chain goes from location to location until one is not silent. -/
theorem read_chain (visit : Visit) (stations : List Station) :
    Chain.read visit.disk visit.unit (stations.map source) =
      ((reachAll visit stations).map source, firstAnswer visit stations) := by
  induction stations with
  | nil => rfl
  | cons station rest ih =>
      rw [List.map_cons, Chain.read, station.read_source visit, reachAll_cons, firstAnswer_cons]
      match station.answer visit with
      | .ok none => simp only [ih, Answer.silent, if_true, List.map_cons]
      | .ok (some text) => rfl
      | .error failure => rfl

end Station

/-! ## What a location counts as -/

/-- The location of a source, and whether it counts as a directory. -/
def Source.standing : Source → Path × Bool
  | .directory root => (root, true)
  | .archive path _ => (path, false)

theorem Source.standing_read (disk : Disk) (unit : UnitId) (source : Source) :
    (source.read disk unit).1.standing = source.standing := by
  match source with
  | .directory root => rfl
  | .archive path (some file) => rfl
  | .archive path none =>
      simp only [Source.read, Source.opened]
      cases disk.openArchive path with
      | error cause => rfl
      | ok file => rfl

theorem Chain.standing_after (fate : Place → Fate) (chain : Chain) :
    (chain.after fate).map Source.standing = chain.map Source.standing := by
  rw [after, List.map_map]
  refine List.map_congr_left fun source _ => ?_
  cases source <;> rfl

theorem Chain.standing_read (disk : Disk) (unit : UnitId) (chain : Chain) :
    (Chain.read disk unit chain).1.map Source.standing = chain.map Source.standing := by
  induction chain with
  | nil => rfl
  | cons source rest ih =>
      have same := source.standing_read disk unit
      rw [Chain.read]
      generalize source.read disk unit = looked at same ⊢
      match looked with
      | (now, .ok none) => exact List.cons_eq_cons.mpr ⟨same, ih⟩
      | (now, .ok (some text)) => exact List.cons_eq_cons.mpr ⟨same, rfl⟩
      | (now, .error failure) => exact List.cons_eq_cons.mpr ⟨same, rfl⟩

/-! ## Steps and runs -/

namespace LookupStep

/-- No step but a write overwrites a file, and it overwrites the one that its path leads to. -/
theorem fate_eq_overwritten {disk : Disk} {step : LookupStep} {place : Place}
    (felt : step.fate disk place = .overwritten) :
    ∃ path content, step = .write path content ∧ disk.locate path = .ok place := by
  cases step with
  | read unit => simp [fate] at felt
  | push path => simp [fate] at felt
  | put names entry =>
      simp only [fate] at felt
      split at felt
      · cases felt
      · split at felt <;> cases felt
  | remove names =>
      simp only [fate] at felt
      split at felt <;> cases felt
  | write path content =>
      refine ⟨path, content, rfl, ?_⟩
      simp only [fate] at felt
      split at felt
      · rw [Disk.writing] at felt
        cases located : disk.locate path <;> simp_all [Except.toOption]
      · cases felt

/-- A step adds to what the locations of a chain count as, and changes nothing of it. -/
theorem standing_run (space : Workspace) (step : LookupStep) :
    space.chain.map Source.standing <+: (step.run space).1.chain.map Source.standing := by
  cases step with
  | read unit =>
      have same := Chain.standing_read space.disk unit space.chain
      exact same ▸ List.prefix_rfl
  | push path =>
      refine ⟨[(Source.ofLocation space.disk path).standing], ?_⟩
      simp [run, Chain.push]
  | put _ _ | remove _ | write _ _ => exact (Chain.standing_after _ space.chain) ▸ List.prefix_rfl

theorem standing_runAll (space : Workspace) (steps : List LookupStep) :
    space.chain.map Source.standing <+: (runAll space steps).1.chain.map Source.standing := by
  induction steps generalizing space with
  | nil => exact List.prefix_rfl
  | cons step rest ih => exact (standing_run space step).trans (ih (step.run space).1)

theorem runAll_append (space : Workspace) (past future : List LookupStep) :
    (runAll space (past ++ future)).1 = (runAll (runAll space past).1 future).1 := by
  induction past generalizing space with
  | nil => rfl
  | cons step rest ih => exact ih (step.run space).1

/-- A step does what the history tells. -/
theorem run_history (history : History) (step : LookupStep) :
    step.run history.space = ((history.step step).1.space, (history.step step).2) := by
  cases step with
  | read unit =>
      have looked : Chain.read history.disk unit (history.stations.map Station.source) = _ :=
        Station.read_chain (history.visit unit) history.stations
      simp only [run, History.step, History.space, looked]
  | push path =>
      have joined : (Station.join history.disk path).source =
          Source.ofLocation history.disk path := rfl
      simp only [run, History.step, History.space, Chain.push, List.map_append, List.map_cons,
        List.map_nil, joined]
  | put _ _ | remove _ | write _ _ =>
      simp only [run, History.step, History.space, Chain.after, List.map_map, Prod.mk.injEq,
        Workspace.mk.injEq, true_and, and_true]
      exact List.map_congr_left fun station _ => station.after_source _

/-- A run does what the history tells. -/
theorem runAll_space (history : History) (steps : List LookupStep) :
    runAll history.space steps = ((history.run steps).1.space, (history.run steps).2) := by
  induction steps generalizing history with
  | nil => rfl
  | cons step rest ih => simp only [runAll, run_history, ih, History.run]

/-- Lookups over whole runs. From any locations, and whatever is read, pushed, put, removed and
written, a chain answers as its history tells and is what its history leads to. What a location
counts as never changes, and an archive answers from what it was found to hold at its first
opening, unless a text was written into that file. -/
theorem runAll_history (disk : Disk) (locations : List Path) (steps : List LookupStep) :
    let start : Workspace := { disk, chain := Chain.ofLocations disk locations }
    let told := (History.start disk locations).run steps
    runAll start steps = (told.1.space, told.2) ∧
      (∀ past future, steps = past ++ future →
        (runAll start past).1.chain.map Source.standing <+:
          (runAll start steps).1.chain.map Source.standing) ∧
      ∀ station ∈ told.1.stations, station.wasDirectory = false →
        ∀ opened changes,
          Station.firstOpening station.path station.events = some (opened, changes) →
          .overwritten ∉ changes.map opened.fate →
          ∀ visit, station.answer visit =
            (Source.readArchive opened.archive visit.unit).mapError (station.failure visit) := by
  intro start told
  have joined : (History.start disk locations).space = start := by
    simp only [History.space, History.start, List.map_map]
    rfl
  refine ⟨?_, ?_, ?_⟩
  · rw [← joined, runAll_space]
  · rintro past future rfl
    rw [runAll_append]
    exact standing_runAll _ future
  · intro station _ kind opened changes opening spared
    exact station.answer_of_spared kind opening spared

/-- A disk with an archive of two units where the file of a generated one goes. -/
def packed : Disk where
  entries :=
    [(["out".toList], .directory),
      (["out".toList, "UncheckedA.java".toList], .file (.archive {
        stored := [("A.java".toList, .text "class A\x7b\x7d".toList),
          ("B.java".toList, .text "class B\x7b\x7d".toList)] }))]

/-- A text that is written into the file of an open archive takes its entries away: what the
archive held when it was opened cannot be read any more, although nothing was removed. What it
lacked is still missing, and a new file in the place of the written one changes nothing. -/
theorem runAll_history_overwritten :
    let location : Path := { text := "out/UncheckedA.java".toList }
    let start : Workspace := { disk := packed, chain := Chain.ofLocations packed [location] }
    let generated : Text := "class UncheckedA \x7b\n\x7d\n".toList
    let names : List Text := ["out".toList, "UncheckedA.java".toList]
    ((packed.openArchive location).toOption.bind fun opened =>
        opened.archive.find? "B.java".toList) = some (.text "class B\x7b\x7d".toList) ∧
    (runAll start [.read ⟨"A".toList⟩, .write location generated, .read ⟨"B".toList⟩,
        .read ⟨"C".toList⟩, .put names (.file (.text [])), .read ⟨"B".toList⟩]).2 =
      [.ok (some "class A\x7b\x7d".toList),
        .error { location, entry := "B.java".toList, cause := .badArchive }, .ok none,
        .error { location, entry := "B.java".toList, cause := .badArchive }] ∧
    (runAll start [.read ⟨"A".toList⟩, .put names (.file (.text generated)),
        .read ⟨"B".toList⟩]).2 =
      [.ok (some "class A\x7b\x7d".toList), .ok (some "class B\x7b\x7d".toList)] := by
  decide +kernel

end LookupStep

end Rethrow
