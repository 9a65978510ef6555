import ConversionSynthesis.CommandLine.Session
import ConversionSynthesis.Delivery.Store
import ConversionSynthesis.Proofs.Delivery.Files
import ConversionSynthesis.Proofs.Sequence

/-! # Directories as stores

A directory and a store that are offered the same units answer alike, and the directory comes to
hold one file for each unit in the store. The store compares identifiers and the directory compares
paths; the two agree because only names of files are let through to the comparison.
-/

namespace ConversionSynthesis

open CommandLine

variable {path : String} {store : UnitStore} {directory : UnitDirectory} {unit : GeneratedUnit}
  {units : List GeneratedUnit} {session before after made : Session}

/-! ## Answers of a store -/

/-- The answer to a unit that is offered behind others. -/
def answerBehind (earlier : List GeneratedUnit) (unit : GeneratedUnit) : Except SinkError Unit :=
  if !isUnitIdentifier unit.identifier then .error (.invalidIdentifier unit.identifier)
  else if earlier.any (·.identifier == unit.identifier) then
    .error (.duplicateIdentifier unit.identifier)
  else .ok ()

namespace UnitStore

theorem sink_of_invalid (invalid : isUnitIdentifier unit.identifier = false)
    (store : UnitStore) :
    sink unit store = (.error (.invalidIdentifier unit.identifier), store) := by
  simp [sink, invalid]

theorem sink_of_held (valid : isUnitIdentifier unit.identifier = true)
    (held : store.holds unit.identifier = true) :
    sink unit store = (.error (.duplicateIdentifier unit.identifier), store) := by
  simp [sink, valid, held]

theorem sink_of_new (valid : isUnitIdentifier unit.identifier = true)
    (new : store.holds unit.identifier = false) : sink unit store = (.ok (), store.push unit) := by
  simp [sink, valid, new]

theorem holds_push (store : UnitStore) (unit : GeneratedUnit) (identifier : String) :
    (store.push unit).holds identifier =
      (store.holds identifier || unit.identifier == identifier) := by
  simp [holds]

theorem sink_cases (unit : GeneratedUnit) (store : UnitStore) :
    sink unit store = (.ok (), store.push unit) ∨
      ∃ error, sink unit store = (.error error, store) := by
  cases valid : isUnitIdentifier unit.identifier with
  | false => exact .inr ⟨_, sink_of_invalid valid store⟩
  | true =>
      cases held : store.holds unit.identifier with
      | false => exact .inl (sink_of_new valid held)
      | true => exact .inr ⟨_, sink_of_held valid held⟩

theorem sink_of_error {error : SinkError} (refused : (sink unit store).1 = .error error) :
    (sink unit store).2 = store := by
  rcases sink_cases unit store with taken | ⟨error, stays⟩
  · rw [taken] at refused
    cases refused
  · rw [stays]

theorem fst_sink (unit : GeneratedUnit) (store : UnitStore) :
    (sink unit store).1 = answerBehind store.units unit := by
  unfold sink answerBehind holds
  split
  · rfl
  · split <;> rfl

end UnitStore

/-- A store comes to hold the units that it answers well to. -/
theorem units_mapM_sink (units : List GeneratedUnit) (store : UnitStore) :
    (units.mapM UnitStore.sink store).2.units =
      store.units ++ ((units.zip (units.mapM UnitStore.sink store).1).filter
        (·.2.isOk)).map (·.1) := by
  induction units generalizing store with
  | nil => exact (List.append_nil _).symm
  | cons unit rest ih =>
      rw [mapM_cons_apply, ih, List.zip_cons_cons]
      rcases UnitStore.sink_cases unit store with taken | ⟨error, stays⟩
      · simp [taken, Except.isOk, Except.toBool]
      · simp [stays, Except.isOk, Except.toBool]

/-- Among the names of files, a store holds the identifiers that it was offered. -/
theorem holds_sink {name : String} (named : isUnitIdentifier name = true) (unit : GeneratedUnit)
    (store : UnitStore) :
    (UnitStore.sink unit store).2.holds name = (store.holds name || unit.identifier == name) := by
  cases valid : isUnitIdentifier unit.identifier with
  | false =>
      have other : unit.identifier ≠ name := by
        rintro rfl
        rw [named] at valid
        cases valid
      simp [UnitStore.sink_of_invalid valid, other]
  | true =>
      cases held : store.holds unit.identifier with
      | false => rw [UnitStore.sink_of_new valid held, UnitStore.holds_push]
      | true =>
          by_cases same : unit.identifier = name
          · simp [UnitStore.sink_of_held valid held, ← same, held]
          · simp [UnitStore.sink_of_held valid held, same]

/-- What a store answers is known from the units that it was offered. -/
theorem getElem?_mapM_sink {earlier : List GeneratedUnit}
    (holds : ∀ name, isUnitIdentifier name = true →
      store.holds name = earlier.any (·.identifier == name))
    (units : List GeneratedUnit) (i : Nat) :
    (units.mapM UnitStore.sink store).1[i]? =
      units[i]?.map (answerBehind (earlier ++ units.take i)) := by
  induction units generalizing store earlier i with
  | nil => rfl
  | cons unit rest ih =>
      have answer : (UnitStore.sink unit store).1 = answerBehind earlier unit := by
        rw [UnitStore.fst_sink, answerBehind, answerBehind]
        by_cases valid : isUnitIdentifier unit.identifier = true
        · rw [← holds _ valid, UnitStore.holds]
        · simp [valid]
      have later : ∀ name, isUnitIdentifier name = true →
          (UnitStore.sink unit store).2.holds name =
            (earlier ++ [unit]).any (·.identifier == name) := by
        intro name named
        simp [holds_sink named, holds name named]
      rw [mapM_cons_apply]
      cases i with
      | zero => simp [answer]
      | succ i => simp [ih later]

/-! ## Answers of a directory -/

namespace UnitDirectory

variable {σ : Type} {files : FileAccess (StateM σ)} {start next : σ}

theorem sink_of_invalid (invalid : isUnitIdentifier unit.identifier = false)
    (directory : UnitDirectory) (start : σ) :
    sink files unit directory start =
      ((.error (.invalidIdentifier unit.identifier), directory), start) := by
  simp only [sink, invalid]
  rfl

theorem sink_of_written (valid : isUnitIdentifier unit.identifier = true)
    (written : directory.written.any (samePath (pathIn directory.path unit.identifier)) = true)
    (start : σ) :
    sink files unit directory start =
      ((.error (.duplicateIdentifier unit.identifier), directory), start) := by
  simp only [sink, valid, written]
  rfl

theorem sink_of_unwritable (valid : isUnitIdentifier unit.identifier = true)
    (new : directory.written.any (samePath (pathIn directory.path unit.identifier)) = false)
    (failed : files.write (pathIn directory.path unit.identifier) unit.text start =
      (false, next)) :
    sink files unit directory start =
      ((.error (.unwritable (pathIn directory.path unit.identifier)), directory), next) := by
  simp only [sink, valid, new, Bool.not_true, Bool.false_eq_true, if_false, bind, StateT.bind,
    failed]
  rfl

theorem sink_of_new (valid : isUnitIdentifier unit.identifier = true)
    (new : directory.written.any (samePath (pathIn directory.path unit.identifier)) = false)
    (wrote : files.write (pathIn directory.path unit.identifier) unit.text start =
      (true, next)) :
    sink files unit directory start =
      ((.ok (), { directory with
        written := directory.written ++ [pathIn directory.path unit.identifier] }), next) := by
  simp only [sink, valid, new, Bool.not_true, Bool.false_eq_true, if_false, bind, StateT.bind,
    wrote]
  rfl

end UnitDirectory

namespace CommandLine.Session

/-- The sink of a directory among the files of a session. -/
abbrev directorySink : Sink (StateT UnitDirectory (StateM Session)) :=
  UnitDirectory.sink surroundings.toFileAccess

theorem mapM_directorySink_cons (unit : GeneratedUnit) (rest : List GeneratedUnit)
    (directory : UnitDirectory) (session : Session) :
    (unit :: rest).mapM directorySink directory session =
      let first := directorySink unit directory session
      let later := rest.mapM directorySink first.1.2 first.2
      ((first.1.1 :: later.1.1, later.1.2), later.2) := by
  rw [List.mapM_cons]
  rfl

theorem write_of_none {path text : String} (failed : session.files.write path text = none) :
    surroundings.write path text session = (false, session) := by
  simp only [surroundings, failed]

theorem write_of_some {path text : String} {files : FileTree}
    (wrote : session.files.write path text = some files) :
    surroundings.write path text session = (true, { session with files }) := by
  simp only [surroundings, wrote]

theorem directorySink_of_error {error : SinkError}
    (refused : (directorySink unit directory session).1.1 = .error error) :
    (directorySink unit directory session).1.2 = directory ∧
      (directorySink unit directory session).2 = session := by
  cases valid : isUnitIdentifier unit.identifier with
  | false =>
      rw [directorySink, UnitDirectory.sink_of_invalid valid]
      exact ⟨rfl, rfl⟩
  | true =>
      cases held : directory.written.any (samePath (pathIn directory.path unit.identifier)) with
      | true =>
          rw [directorySink, UnitDirectory.sink_of_written valid held]
          exact ⟨rfl, rfl⟩
      | false =>
          cases wrote : session.files.write (pathIn directory.path unit.identifier) unit.text with
          | none =>
              rw [directorySink, UnitDirectory.sink_of_unwritable valid held (write_of_none wrote)]
              exact ⟨rfl, rfl⟩
          | some files =>
              rw [directorySink, UnitDirectory.sink_of_new valid held (write_of_some wrote)]
                at refused
              cases refused

theorem create_of_inside (inside : leadsUpwards path = false) (session : Session) :
    UnitDirectory.create surroundings.toFileAccess path session =
      (if (session.files.makeDirectory path).2 then .ok { path } else .error (.unwritable path),
        { session with files := (session.files.makeDirectory path).1 }) := by
  simp only [UnitDirectory.create, inside, Bool.false_eq_true, if_false, bind, StateT.bind,
    surroundings]
  cases (session.files.makeDirectory path).2 <;> rfl

/-- A directory starts out empty, and its session with nothing but the directory added. -/
theorem create_eq_ok
    (created : UnitDirectory.create surroundings.toFileAccess path session =
      (.ok directory, made)) :
    leadsUpwards path = false ∧ directory = { path } ∧
      made = { session with files := (session.files.makeDirectory path).1 } := by
  cases inside : leadsUpwards path with
  | true =>
      simp only [UnitDirectory.create, inside] at created
      cases created
  | false =>
      rw [create_of_inside inside, Prod.mk.injEq] at created
      obtain ⟨answer, after⟩ := created
      split at answer
      · cases answer
        exact ⟨rfl, rfl, after.symm⟩
      · cases answer

/-- A directory that holds the units of a store in files, and else nothing that was not there
before. -/
structure Mirrors (path : String) (before : Session) (store : UnitStore)
    (directory : UnitDirectory) (after : Session) : Prop where
  path_eq : directory.path = path
  written : directory.written = store.units.map (pathIn path ·.identifier)
  named : ∀ unit ∈ store.units, isUnitIdentifier unit.identifier = true
  filed : ∀ unit ∈ store.units,
    after.files.node? (before.files.placeOf path ++ [unit.identifier]) =
      some (.file (.ofText unit.text))
  apart : ∀ place,
    (∀ unit ∈ store.units, place ≠ before.files.placeOf path ++ [unit.identifier]) →
      after.files.node? place = before.files.node? place
  directories : ∀ place, after.files.hasDirectory place = before.files.hasDirectory place
  current : after.files.current? = before.files.current?
  printed : after.printed = before.printed

namespace Mirrors

/-- The paths in a directory are told apart as the identifiers in a store are. -/
theorem held_iff (mirrors : Mirrors path before store directory after) {name : String}
    (valid : isUnitIdentifier name = true) :
    directory.written.any (samePath (pathIn directory.path name)) = store.holds name := by
  rw [mirrors.written, mirrors.path_eq, List.any_map, UnitStore.holds, Bool.eq_iff_iff,
    List.any_eq_true, List.any_eq_true]
  refine exists_congr fun unit => and_congr_right fun mem => ?_
  have plain := isFileName_of_isUnitIdentifier (mirrors.named unit mem)
  rw [Function.comp_apply, samePath_pathIn (isFileName_of_isUnitIdentifier valid) plain, beq_iff_eq,
    beq_iff_eq, eq_comm]

theorem directory_eq (mirrors : Mirrors path before store directory after) :
    directory = { path, written := store.units.map (pathIn path ·.identifier) } := by
  rw [← mirrors.written, ← mirrors.path_eq]

theorem placeOf_eq (mirrors : Mirrors path before store directory after) :
    after.files.placeOf path = before.files.placeOf path := by
  rw [FileTree.placeOf, FileTree.placeOf, FileTree.start, FileTree.start, mirrors.current]

theorem writable (mirrors : Mirrors path before store directory after) {file : String}
    (writable : before.files.Writable file) : after.files.Writable file := by
  rw [FileTree.writable_iff] at writable ⊢
  rw [FileTree.locate_congr mirrors.directories mirrors.current]
  simpa only [mirrors.directories] using writable

theorem push (mirrors : Mirrors path before store directory after)
    (valid : isUnitIdentifier unit.identifier = true)
    (new : store.holds unit.identifier = false)
    (free : after.files.hasDirectory (before.files.placeOf path ++ [unit.identifier]) = false) :
    Mirrors path before (store.push unit)
      { directory with written := directory.written ++ [pathIn directory.path unit.identifier] }
      { after with
        files := after.files.insert (before.files.placeOf path ++ [unit.identifier])
          (.file (.ofText unit.text)) } := by
  have below : before.files.placeOf path ++ [unit.identifier] ≠ [] :=
    List.append_ne_nil_of_right_ne_nil _ (List.cons_ne_nil _ _)
  have shows := after.files.node?_insert below (.file (.ofText unit.text))
  constructor
  case path_eq => exact mirrors.path_eq
  case written => simp [mirrors.written, mirrors.path_eq]
  case named =>
    intro other mem
    rcases List.mem_append.mp mem with old | own
    · exact mirrors.named other old
    · rw [List.mem_singleton.mp own]
      exact valid
  case filed =>
    intro other mem
    rw [shows]
    rcases List.mem_append.mp mem with old | own
    · have distinct : other.identifier ≠ unit.identifier := by
        rw [UnitStore.holds, List.any_eq_false] at new
        simpa using new other old
      rw [if_neg (by simpa using distinct)]
      exact mirrors.filed other old
    · rw [List.mem_singleton.mp own, if_pos rfl]
  case apart =>
    intro place elsewhere
    simp only [UnitStore.units_push, List.forall_mem_append, List.forall_mem_singleton]
      at elsewhere
    rw [shows, if_neg elsewhere.2]
    exact mirrors.apart place elsewhere.1
  case directories =>
    intro place
    rw [FileTree.hasDirectory_insert_file free]
    exact mirrors.directories place
  case current => exact mirrors.current
  case printed => exact mirrors.printed

theorem step (mirrors : Mirrors path before store directory after)
    (inside : leadsUpwards path = false)
    (writable : isUnitIdentifier unit.identifier = true →
      before.files.Writable (pathIn path unit.identifier)) :
    (directorySink unit directory after).1.1 = (UnitStore.sink unit store).1 ∧
      Mirrors path before (UnitStore.sink unit store).2 (directorySink unit directory after).1.2
        (directorySink unit directory after).2 := by
  obtain rfl := mirrors.path_eq
  cases valid : isUnitIdentifier unit.identifier with
  | false =>
      rw [directorySink, UnitDirectory.sink_of_invalid valid, UnitStore.sink_of_invalid valid]
      exact ⟨rfl, mirrors⟩
  | true =>
      have held := mirrors.held_iff valid
      cases new : store.holds unit.identifier with
      | true =>
          rw [directorySink, UnitDirectory.sink_of_written valid (held.trans new),
            UnitStore.sink_of_held valid new]
          exact ⟨rfl, mirrors⟩
      | false =>
          obtain ⟨free, wrote⟩ := FileTree.write_pathIn inside
            (isFileName_of_isUnitIdentifier valid) (mirrors.writable (writable valid)) unit.text
          rw [mirrors.placeOf_eq] at free wrote
          rw [directorySink, UnitDirectory.sink_of_new valid (held.trans new) (write_of_some wrote),
            UnitStore.sink_of_new valid new]
          exact ⟨rfl, mirrors.push valid new free⟩

theorem run (mirrors : Mirrors path before store directory after)
    (inside : leadsUpwards path = false)
    (writable : ∀ unit ∈ units, isUnitIdentifier unit.identifier = true →
      before.files.Writable (pathIn path unit.identifier)) :
    (units.mapM directorySink directory after).1.1 = (units.mapM UnitStore.sink store).1 ∧
      Mirrors path before (units.mapM UnitStore.sink store).2
        (units.mapM directorySink directory after).1.2
        (units.mapM directorySink directory after).2 := by
  induction units generalizing store directory after with
  | nil => exact ⟨rfl, mirrors⟩
  | cons unit rest ih =>
      rw [List.forall_mem_cons] at writable
      obtain ⟨first, kept⟩ := mirrors.step inside writable.1
      obtain ⟨later, kept'⟩ := ih kept writable.2
      rw [mapM_cons_apply, mapM_directorySink_cons]
      exact ⟨List.cons_eq_cons.mpr ⟨first, later⟩, kept'⟩

theorem start (path : String) (before : Session) : Mirrors path before {} { path } before := by
  constructor <;> simp

/-- A path that could be written to from the start leads to its file in the end. -/
theorem contents? (mirrors : Mirrors path before store directory after)
    (inside : leadsUpwards path = false) (mem : unit ∈ store.units)
    (writable : before.files.Writable (pathIn path unit.identifier)) :
    after.files.contents? (pathIn path unit.identifier) = some (.ofText unit.text) := by
  obtain ⟨place, located, -⟩ := FileTree.writable_iff.mp (mirrors.writable writable)
  have plain := isFileName_of_isUnitIdentifier (mirrors.named unit mem)
  apply FileTree.contents?_of_located located
  rw [FileTree.locate_pathIn inside plain located, mirrors.placeOf_eq]
  exact mirrors.filed unit mem

end Mirrors

/-- A directory answers as a store does. It comes to hold a file for every unit in the store, in the
order of its paths, and nothing else changes; a unit that is not taken in changes nothing. -/
theorem directory_mirrors_store
    (created : UnitDirectory.create surroundings.toFileAccess path session =
      (.ok directory, made))
    (units : List GeneratedUnit)
    (writable : ∀ unit ∈ units, isUnitIdentifier unit.identifier = true →
      made.files.Writable (pathIn path unit.identifier)) :
    let kept := units.mapM UnitStore.sink {}
    let filed := units.mapM directorySink directory made
    let stored := kept.2.units
    let final := filed.2
    let here := made.files.placeOf path
    filed.1.1 = kept.1 ∧
    (∀ i : Nat, kept.1[i]? = units[i]?.map (answerBehind (units.take i))) ∧
    stored = ((units.zip kept.1).filter (·.2.isOk)).map (·.1) ∧
    filed.1.2 = { path, written := stored.map (pathIn path ·.identifier) } ∧
    (∀ unit ∈ stored,
      final.files.contents? (pathIn path unit.identifier) = some (.ofText unit.text) ∧
      final.files.node? (here ++ [unit.identifier]) = some (.file (.ofText unit.text))) ∧
    (∀ place, (∀ unit ∈ stored, place ≠ here ++ [unit.identifier]) →
      final.files.node? place = made.files.node? place) ∧
    final.printed = session.printed ∧
    (∀ unit store error, (UnitStore.sink unit store).1 = .error error →
      (UnitStore.sink unit store).2 = store) ∧
    ∀ unit (directory : UnitDirectory) (session : Session) error,
      (directorySink unit directory session).1.1 = .error error →
        (directorySink unit directory session).1.2 = directory ∧
        (directorySink unit directory session).2 = session := by
  intro kept filed stored final here
  obtain ⟨inside, rfl, unchanged⟩ := create_eq_ok created
  obtain ⟨answers, mirrors⟩ := (Mirrors.start path made).run inside writable
  have accepted : stored = ((units.zip kept.1).filter (·.2.isOk)).map (·.1) :=
    units_mapM_sink units {}
  have offered : ∀ unit ∈ stored, unit ∈ units := by
    intro unit mem
    rw [accepted, List.mem_map] at mem
    obtain ⟨answered, mem, rfl⟩ := mem
    exact (List.of_mem_zip (List.mem_filter.mp mem).1).1
  refine ⟨answers, ?answers, accepted, ?directory, ?files, mirrors.apart, ?printed,
    fun _ _ _ => UnitStore.sink_of_error, fun _ _ _ _ => directorySink_of_error⟩
  case answers =>
    have held : ∀ name, isUnitIdentifier name = true →
        ({} : UnitStore).holds name = ([] : List GeneratedUnit).any (·.identifier == name) :=
      fun _ _ => rfl
    exact fun i => getElem?_mapM_sink held units i
  case directory =>
    exact mirrors.directory_eq
  case files =>
    intro unit mem
    have written := writable unit (offered unit mem) (mirrors.named unit mem)
    exact ⟨mirrors.contents? inside mem written, mirrors.filed unit mem⟩
  case printed =>
    rw [mirrors.printed, unchanged]

/-- Of two units with one identifier the first is kept, and a name that leads upwards is refused. -/
theorem directory_mirrors_store_repeated :
    let before : Session := { files := ⟨[(["notes"], .file (.ofText "kept"))], none⟩ }
    let made : Session :=
      { files := ⟨[(["notes"], .file (.ofText "kept")), (["out"], .directory)], none⟩ }
    let units : List GeneratedUnit := [⟨"A.g.cs", "one"⟩, ⟨"..", "two"⟩, ⟨"A.g.cs", "three"⟩]
    let filed := units.mapM directorySink { path := "out/" } made
    UnitDirectory.create surroundings.toFileAccess "out/" before =
        (.ok { path := "out/" }, made) ∧
      (∀ unit ∈ units, isUnitIdentifier unit.identifier = true →
        made.files.Writable (pathIn "out/" unit.identifier)) ∧
      filed.1.1 = [.ok (), .error (.invalidIdentifier ".."),
        .error (.duplicateIdentifier "A.g.cs")] ∧
      filed.1.2.written = ["out/A.g.cs"] ∧
      filed.2.files.contents? "out/A.g.cs" = some (.ofText "one") ∧
      filed.2.files.node? ["notes"] = some (.file (.ofText "kept")) := by
  intro before made units
  have created : UnitDirectory.create surroundings.toFileAccess "out/" before =
      (.ok { path := "out/" }, made) := by
    have added : before.files.makeDirectory "out/" = (made.files, true) := by decide +kernel
    rw [create_of_inside (by decide +kernel), added]
    rfl
  have joined : pathIn "out/" "A.g.cs" = "out/A.g.cs" := by decide +kernel
  have writable : ∀ unit ∈ units, isUnitIdentifier unit.identifier = true →
      made.files.Writable (pathIn "out/" unit.identifier) := by
    have located : made.files.locate "out/A.g.cs" = some ["out", "A.g.cs"] ∧
        made.files.hasDirectory ["out", "A.g.cs"] = false := by
      decide +kernel
    have first : made.files.Writable (pathIn "out/" "A.g.cs") := by
      rw [joined]
      exact FileTree.writable_iff.mpr ⟨_, located⟩
    simp only [units, List.forall_mem_cons]
    exact ⟨fun _ => first, fun up => absurd up (by decide), fun _ => first, nofun⟩
  have kept : units.mapM UnitStore.sink {} =
      ([.ok (), .error (.invalidIdentifier ".."), .error (.duplicateIdentifier "A.g.cs")],
        ⟨[⟨"A.g.cs", "one"⟩]⟩) := by
    rfl
  obtain ⟨answers, -, -, paths, texts, apart, -⟩ := directory_mirrors_store created units writable
  rw [kept] at answers paths texts apart
  generalize units.mapM directorySink { path := "out/" } made = filed
    at answers paths texts apart ⊢
  refine ⟨created, writable, answers, ?_, ?_, ?_⟩
  · rw [paths, List.map_singleton, joined]
  · rw [← joined]
    exact (texts _ (List.mem_singleton_self _)).1
  · rw [apart ["notes"] (by decide +kernel)]
    rfl

end CommandLine.Session

end ConversionSynthesis
