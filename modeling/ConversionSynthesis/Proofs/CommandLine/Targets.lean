import ConversionSynthesis.Proofs.Delivery.Mirror
import ConversionSynthesis.Proofs.Delivery.Offers

/-! # Both targets of a generation

Units are printed or written to a directory. The two targets take in the same units and fail with
the same causes, and a generation that fails leaves neither a printed line nor a file.
-/

namespace ConversionSynthesis

namespace CommandLine.Session

variable {path manifest : String} {directory : UnitDirectory} {store final : UnitStore}
  {unit : GeneratedUnit} {units rest : List GeneratedUnit} {session before after made : Session}
  {settings : BatchSettings} {types : List TypeDecl}

/-! ## Printing -/

/-- Prints a text, which always goes well. -/
abbrev printWhole (text : String) : StateM Session Bool := do
  surroundings.print text
  pure true

theorem writeAll_printWhole (texts : List String) (session : Session) :
    writeAll printWhole texts session =
      (true, { session with printed := session.printed ++ String.join texts }) := by
  induction texts generalizing session with
  | nil =>
      have nothing : writeAll printWhole [] session = (true, session) := rfl
      rw [nothing]
      simp
  | cons text rest ih =>
      have further : writeAll printWhole (text :: rest) session =
          writeAll printWhole rest { session with printed := session.printed ++ text } := rfl
      rw [further, ih]
      simp [String.append_assoc]

theorem listingSink_printWhole (valid : isUnitIdentifier unit.identifier = true)
    (session : Session) :
    listingSink printWhole unit session =
      (.ok (), { session with printed := session.printed ++ String.join unit.listing }) := by
  simp only [listingSink, valid, Bool.not_true, Bool.false_eq_true, if_false, bind, StateT.bind,
    writeAll_printWhole]
  rfl

theorem takesIn_listingSink (named : ∀ unit ∈ units, isUnitIdentifier unit.identifier = true)
    (session : Session) :
    TakesIn (listingSink printWhole) units session
      { session with
        printed := session.printed ++ String.join (units.flatMap (·.listing)) } := by
  induction units generalizing session with
  | nil => simpa using TakesIn.nil session
  | cons unit rest ih =>
      rw [List.forall_mem_cons] at named
      have later := ih named.2
        { session with printed := session.printed ++ String.join unit.listing }
      rw [List.flatMap_cons, String.join_append, ← String.append_assoc]
      exact .cons (listingSink_printWhole named.1 session) later

/-! ## Writing to a directory -/

theorem deliver_cons_of_taken
    (taken : (directorySink unit directory session).1.1 = .ok ()) (rest : List GeneratedUnit) :
    deliver directorySink (unit :: rest) directory session =
      deliver directorySink rest (directorySink unit directory session).1.2
        (directorySink unit directory session).2 := by
  rcases answered : directorySink unit directory session with ⟨⟨_ | _, next⟩, later⟩
  · rw [answered] at taken
    cases taken
  · simp only [deliver, bind, StateT.bind, answered]

/-- What a store takes in is delivered to the directory as well. -/
theorem Mirrors.deliver (mirrors : Mirrors path before store directory after)
    (inside : leadsUpwards path = false)
    (writable : ∀ unit ∈ units, before.files.Writable (pathIn path unit.identifier))
    (taken : TakesIn UnitStore.sink units store final) :
    (ConversionSynthesis.deliver directorySink units directory after).1.1 = .ok () ∧
      Mirrors path before final
        (ConversionSynthesis.deliver directorySink units directory after).1.2
        (ConversionSynthesis.deliver directorySink units directory after).2 := by
  induction taken generalizing directory after with
  | nil store => exact ⟨rfl, mirrors⟩
  | cons first _ ih =>
      rw [List.forall_mem_cons] at writable
      obtain ⟨answer, kept⟩ := mirrors.step inside fun _ => writable.1
      rw [first] at answer kept
      rw [deliver_cons_of_taken answer]
      exact ih kept writable.2

/-! ## Generation -/

/-- The units that a manifest gives, or why it gives none. -/
def unitsOf (session : Session) (manifest : String) (tuples : TupleSupport)
    (workers : Option Nat) : Except Failure (List GeneratedUnit) :=
  match (loadManifest surroundings manifest session).1 with
  | .error error => .error (.load error)
  | .ok declarations =>
      let settings : BatchSettings := { tuples := declarations.tuples.meet tuples, workers }
      match generateAll settings (fun _ => false) declarations.types with
      | .error cause => .error (.delivery (.batch cause))
      | .ok units => .ok units

/-- A manifest that can be read and is not too large declares what its text says. -/
theorem loadManifest_of_readable {contents : Contents}
    (held : session.files.contents? manifest = some contents)
    (small : ¬ maxManifestSize < contents.size) :
    loadManifest surroundings manifest session =
      (contents.text?.elim (.error (.unreadable manifest)) (Declarations.ofText manifest),
        session) := by
  have sized : surroundings.fileSize? manifest session = (some contents.size, session) := by
    simp only [surroundings, held, Option.map_some]
  have read : surroundings.fileText? manifest session = (contents.text?, session) := by
    simp only [surroundings, held, Option.bind_some]
  rw [loadManifest, bind_apply sized]
  simp only [if_neg small, bind_apply read]
  cases contents.text? <;> rfl

/-- Loading leaves a session as it is, and declares nothing that is not in a text. -/
theorem loadManifest_cases (manifest : String) (session : Session) :
    (∃ error, loadManifest surroundings manifest session = (.error error, session)) ∨
      ∃ text, loadManifest surroundings manifest session =
        (Declarations.ofText manifest text, session) := by
  cases held : session.files.contents? manifest with
  | none =>
      have sized : surroundings.fileSize? manifest session = (none, session) := by
        simp only [surroundings, held, Option.map_none]
      rw [loadManifest, bind_apply sized]
      exact .inl ⟨_, rfl⟩
  | some contents =>
      by_cases large : maxManifestSize < contents.size
      · have sized : surroundings.fileSize? manifest session = (some contents.size, session) := by
          simp only [surroundings, held, Option.map_some]
        rw [loadManifest, bind_apply sized]
        simp only [if_pos large]
        exact .inl ⟨_, rfl⟩
      · rw [loadManifest_of_readable held large]
        cases contents.text? with
        | none => exact .inl ⟨_, rfl⟩
        | some text => exact .inr ⟨text, rfl⟩

theorem exists_answer_loadManifest (manifest : String) (session : Session) :
    ∃ answer, loadManifest surroundings manifest session = (answer, session) := by
  rcases loadManifest_cases manifest session with ⟨error, failed⟩ | ⟨text, loaded⟩
  · exact ⟨_, failed⟩
  · exact ⟨_, loaded⟩

/-- What a manifest declares passed all checks. -/
theorem exists_declarations_of_ofText {name text : String} {declarations : Declarations}
    (read : Declarations.ofText name text = .ok declarations) :
    ∃ entries : Manifest, entries.declarations = .ok declarations.types := by
  unfold Declarations.ofText at read
  split at read
  · cases read
  · rename_i entries _
    split at read
    · cases read
    · rename_i types checked
      cases read
      exact ⟨entries, checked⟩

theorem exists_declarations_of_loaded {declarations : Declarations}
    (loaded : loadManifest surroundings manifest session = (.ok declarations, session)) :
    ∃ entries : Manifest, entries.declarations = .ok declarations.types := by
  rcases loadManifest_cases manifest session with ⟨error, failed⟩ | ⟨text, read⟩
  · rw [failed] at loaded
    cases loaded
  · rw [read, Prod.mk.injEq] at loaded
    exact exists_declarations_of_ofText loaded.1

theorem of_unitsOf_error {tuples : TupleSupport} {workers : Option Nat} {failure : Failure}
    (failed : session.unitsOf manifest tuples workers = .error failure) :
    (∃ error, failure = .load error ∧
      loadManifest surroundings manifest session = (.error error, session)) ∨
    ∃ declarations cause, failure = .delivery (.batch cause) ∧
      loadManifest surroundings manifest session = (.ok declarations, session) ∧
      generateAll { tuples := declarations.tuples.meet tuples, workers } (fun _ => false)
        declarations.types = .error cause := by
  obtain ⟨answer, loaded⟩ := exists_answer_loadManifest manifest session
  rw [unitsOf, loaded] at failed
  cases answer with
  | error error =>
      cases failed
      exact .inl ⟨error, rfl, loaded⟩
  | ok declarations =>
      dsimp only at failed
      split at failed
      · rename_i cause batch
        cases failed
        exact .inr ⟨declarations, cause, rfl, loaded, batch⟩
      · cases failed

theorem of_unitsOf_ok {tuples : TupleSupport} {workers : Option Nat}
    (given : session.unitsOf manifest tuples workers = .ok units) :
    ∃ declarations, loadManifest surroundings manifest session = (.ok declarations, session) ∧
      generateAll { tuples := declarations.tuples.meet tuples, workers } (fun _ => false)
        declarations.types = .ok units := by
  obtain ⟨answer, loaded⟩ := exists_answer_loadManifest manifest session
  rw [unitsOf, loaded] at given
  cases answer with
  | error error => cases given
  | ok declarations =>
      dsimp only at given
      split at given
      · cases given
      · rename_i batch
        cases given
        exact ⟨declarations, loaded, batch⟩

section

variable {run : BatchSettings → StateM Session (Except DeliveryError Nat)}

/-- The settings with the one worker that a session has for every run. -/
abbrev manned (settings : BatchSettings) : BatchSettings :=
  { settings with pool := fun _ => .inTurn }

theorem withWorkers_of_error {error : DeliveryError}
    (failed : run (manned settings) session = (.error error, after)) :
    withWorkers surroundings settings run session = (.error (.delivery error), after) :=
  (bind_apply rfl _).trans (bind_apply failed _)

theorem withWorkers_of_ok {count : Nat}
    (ran : run (manned settings) session = (.ok count, after)) :
    withWorkers surroundings settings run session = (.ok count, after) :=
  (bind_apply rfl _).trans (bind_apply ran _)

end

theorem generate_stdout_of_error {cause : BatchError}
    (failed : generateAll (manned settings) (fun _ => false) types = .error cause)
    (session : Session) :
    CommandLine.generate surroundings settings types .stdout session =
      (.error (.delivery (.batch cause)), session) :=
  bind_apply
    (withWorkers_of_error (generateInto_of_error failed (listingSink printWhole) session)) _

theorem generate_stdout_of_ok
    (generated : generateAll (manned settings) (fun _ => false) types = .ok units)
    (taken : TakesIn (listingSink printWhole) units session after) :
    CommandLine.generate surroundings settings types .stdout session = (.ok (), after) :=
  bind_apply (withWorkers_of_ok (generateInto_of_taken generated taken)) _

theorem generate_directory_of_error
    (created : UnitDirectory.create surroundings.toFileAccess path session = (.ok directory, made))
    {cause : BatchError}
    (failed : generateAll (manned settings) (fun _ => false) types = .error cause) :
    CommandLine.generate surroundings settings types (.directory path) session =
      (.error (.delivery (.batch cause)), made) := by
  have nothing : (generateInto (manned settings) (fun _ => false) types directorySink).run'
      directory made = (.error (.batch cause), made) := by
    rw [generateInto, failed]
    rfl
  exact (bind_apply created _).trans (bind_apply (withWorkers_of_error nothing) _)

theorem generate_directory_of_ok
    (created : UnitDirectory.create surroundings.toFileAccess path session = (.ok directory, made))
    (generated : generateAll (manned settings) (fun _ => false) types = .ok units)
    (delivered : (deliver directorySink units directory made).1.1 = .ok ()) :
    CommandLine.generate surroundings settings types (.directory path) session =
      (.ok (), { (deliver directorySink units directory made).2 with
        printed := (deliver directorySink units directory made).2.printed ++
          ("✓ Generated " ++ toString units.length ++ " unit(s) in: " ++ path ++ "\n") }) := by
  have all : (generateInto (manned settings) (fun _ => false) types directorySink).run'
      directory made = (.ok units.length, (deliver directorySink units directory made).2) := by
    rw [generateInto, generated]
    rcases answered : deliver directorySink units directory made with ⟨⟨_ | _, next⟩, later⟩
    · rw [answered] at delivered
      cases delivered
    · simp only [StateT.run', Functor.map, StateT.map, bind, StateT.bind, answered]
      rfl
  exact (bind_apply created _).trans (bind_apply (withWorkers_of_ok all) _)

/-! ## The command -/

section

variable {target : Target} {tuples : TupleSupport} {workers : Option Nat}
  {declarations : Declarations}

theorem run_generate_of_load_error {error : LoadError}
    (failed : loadManifest surroundings manifest session = (.error error, session)) :
    (Command.generate manifest target tuples workers).run surroundings session =
      (.error (.load error), session) :=
  bind_apply failed _

theorem run_generate_of_loaded
    (loaded : loadManifest surroundings manifest session = (.ok declarations, session))
    {answer : Except Failure Unit}
    (generated : CommandLine.generate surroundings
      { tuples := declarations.tuples.meet tuples, workers } declarations.types target session =
        (answer, after)) :
    (Command.generate manifest target tuples workers).run surroundings session =
      (answer, after) :=
  (bind_apply loaded _).trans generated

end

/-- The lines of units that end in a line break are printed as they are. -/
theorem join_listings (ended : ∀ unit ∈ units, unit.text.toList.getLast? = some '\n') :
    String.join (units.flatMap (·.listing)) =
      String.join (units.map fun unit => unit.banner ++ unit.text) := by
  induction units with
  | nil => rfl
  | cons unit rest ih =>
      rw [List.forall_mem_cons] at ended
      rw [List.flatMap_cons, String.join_append, ih ended.2, List.map_cons]
      simp [GeneratedUnit.listing, GeneratedUnit.lineEnd, ended.1]

theorem getLast?_text_of_generated
    (generated : generateAll settings (fun _ => false) types = .ok units) :
    ∀ unit ∈ units, unit.text.toList.getLast? = some '\n' := by
  intro unit mem
  obtain ⟨-, rfl, -⟩ := generateAll_eq_ok.mp generated
  obtain ⟨type, -, made⟩ := List.mem_filterMap.mp mem
  rw [TypeDecl.unit?_eq] at made
  split at made
  · cases made
  · cases made
    exact type.getLast?_unitText _ _

theorem run_of_unitsOf_error {tuples : TupleSupport} {workers : Option Nat} {failure : Failure}
    (created : UnitDirectory.create surroundings.toFileAccess path session = (.ok directory, made))
    (failed : session.unitsOf manifest tuples workers = .error failure) :
    (Command.generate manifest .stdout tuples workers).run surroundings session =
        (.error failure, session) ∧
      ∃ after, (after = session ∨ after = made) ∧
        (Command.generate manifest (.directory path) tuples workers).run surroundings session =
          (.error failure, after) := by
  rcases of_unitsOf_error failed with
    ⟨error, rfl, unloaded⟩ | ⟨declarations, cause, rfl, loaded, batch⟩
  · exact ⟨run_generate_of_load_error unloaded, session, .inl rfl,
      run_generate_of_load_error unloaded⟩
  · exact ⟨run_generate_of_loaded loaded (generate_stdout_of_error batch session), made, .inr rfl,
      run_generate_of_loaded loaded (generate_directory_of_error created batch)⟩

/-- Unit identifiers end in a suffix that leads to no other directory. -/
theorem suffix_inside : ∀ c ∈ ({} : UnitOptions).suffix.toList, leavesDirectory c = false := by
  simp [leavesDirectory]

theorem run_stdout_of_unitsOf {tuples : TupleSupport} {workers : Option Nat}
    (given : session.unitsOf manifest tuples workers = .ok units) :
    (Command.generate manifest .stdout tuples workers).run surroundings session =
      (.ok (), { session with
        printed := session.printed ++
          String.join (units.map fun unit => unit.banner ++ unit.text) }) := by
  obtain ⟨declarations, loaded, generated⟩ := of_unitsOf_ok given
  obtain ⟨entries, checked⟩ := exists_declarations_of_loaded loaded
  have named := isUnitIdentifier_of_generated checked suffix_inside generated
  have taken := takesIn_listingSink named session
  rw [join_listings (getLast?_text_of_generated generated)] at taken
  exact run_generate_of_loaded loaded (generate_stdout_of_ok generated taken)

theorem run_directory_of_unitsOf {tuples : TupleSupport} {workers : Option Nat}
    (created : UnitDirectory.create surroundings.toFileAccess path session = (.ok directory, made))
    (given : session.unitsOf manifest tuples workers = .ok units)
    (writable : ∀ unit ∈ units, made.files.Writable (pathIn path unit.identifier)) :
    ∃ (written : UnitDirectory) (final : Session), Mirrors path made ⟨units⟩ written final ∧
      (Command.generate manifest (.directory path) tuples workers).run surroundings session =
        (.ok (), { final with
          printed := session.printed ++
            ("✓ Generated " ++ toString units.length ++ " unit(s) in: " ++ path ++ "\n") }) := by
  obtain ⟨inside, rfl, unchanged⟩ := create_eq_ok created
  obtain ⟨declarations, loaded, generated⟩ := of_unitsOf_ok given
  obtain ⟨entries, checked⟩ := exists_declarations_of_loaded loaded
  have stored := takesIn_store_of_generated checked suffix_inside generated
  obtain ⟨delivered, mirrors⟩ := (Mirrors.start path made).deliver inside writable stored
  have printed : (deliver directorySink units { path } made).2.printed = session.printed := by
    rw [mirrors.printed, unchanged]
  have ran :=
    run_generate_of_loaded loaded (generate_directory_of_ok created generated delivered)
  rw [printed] at ran
  exact ⟨_, _, mirrors, ran⟩

theorem nodup_of_unitsOf {tuples : TupleSupport} {workers : Option Nat}
    (given : session.unitsOf manifest tuples workers = .ok units) :
    (units.map (·.identifier)).Nodup := by
  obtain ⟨declarations, -, generated⟩ := of_unitsOf_ok given
  exact (generateAll_eq_ok.mp generated).2.2

/-- A directory in which nothing was holds the files of the units and nothing else. -/
theorem Mirrors.node?_behind_iff (mirrors : Mirrors path before store directory after)
    (fresh : ∀ rest ≠ [], before.files.node? (before.files.placeOf path ++ rest) = none)
    {rest : List String} (behind : rest ≠ []) (node : FileNode) :
    after.files.node? (before.files.placeOf path ++ rest) = some node ↔
      ∃ unit ∈ store.units, rest = [unit.identifier] ∧ node = .file (.ofText unit.text) := by
  constructor
  · intro holds
    by_cases own : ∃ unit ∈ store.units, rest = [unit.identifier]
    · obtain ⟨unit, mem, rfl⟩ := own
      rw [mirrors.filed unit mem, Option.some.injEq] at holds
      exact ⟨unit, mem, rfl, holds.symm⟩
    · have elsewhere : ∀ unit ∈ store.units,
          before.files.placeOf path ++ rest ≠ before.files.placeOf path ++ [unit.identifier] := by
        intro unit mem same
        exact own ⟨unit, mem, List.append_cancel_left same⟩
      rw [mirrors.apart _ elsewhere, fresh rest behind] at holds
      cases holds
  · rintro ⟨unit, mem, rfl, rfl⟩
    exact mirrors.filed unit mem

/-- The units of a manifest, or the cause why there are none, come out of both targets. On success
the units are printed in order behind their banners, and a directory in which nothing was holds one
file for each of them and nothing else; on failure nothing is printed and no file is written. -/
theorem targets_agree (session : Session) (manifest : String) (tuples : TupleSupport)
    (workers : Option Nat)
    (created : UnitDirectory.create surroundings.toFileAccess path session = (.ok directory, made))
    (fresh : ∀ rest ≠ [], session.files.node? (session.files.placeOf path ++ rest) = none)
    (writable : ∀ units, session.unitsOf manifest tuples workers = .ok units →
      ∀ unit ∈ units, made.files.Writable (pathIn path unit.identifier)) :
    let printing := (Command.generate manifest .stdout tuples workers).run surroundings session
    let filing :=
      (Command.generate manifest (.directory path) tuples workers).run surroundings session
    let here := session.files.placeOf path
    filing.1 = printing.1 ∧
    (∀ failure, session.unitsOf manifest tuples workers = .error failure →
      printing = (.error failure, session) ∧
      filing.2.printed = session.printed ∧
      (∀ rest ≠ [], filing.2.files.node? (here ++ rest) = none) ∧
      ∀ place contents, filing.2.files.node? place = some (.file contents) ↔
        session.files.node? place = some (.file contents)) ∧
    ∀ units, session.unitsOf manifest tuples workers = .ok units →
      printing = (.ok (), { session with
        printed := session.printed ++ String.join (units.map fun unit =>
          "// ---- " ++ unit.identifier ++ "\n" ++ unit.text) }) ∧
      filing.2.printed = session.printed ++
        ("✓ Generated " ++ toString units.length ++ " unit(s) in: " ++ path ++ "\n") ∧
      (units.map (·.identifier)).Nodup ∧
      ∀ rest ≠ [], ∀ node, filing.2.files.node? (here ++ rest) = some node ↔
        ∃ unit ∈ units, rest = [unit.identifier] ∧ node = .file (.ofText unit.text) := by
  intro printing filing here
  obtain ⟨inside, rfl, unchanged⟩ := create_eq_ok created
  have files : made.files = (session.files.makeDirectory path).1 := by rw [unchanged]
  have stillFresh : ∀ rest ≠ [], made.files.node? (here ++ rest) = none := by
    intro rest behind
    rw [files, FileTree.node?_makeDirectory_behind _ _ behind]
    exact fresh rest behind
  refine ⟨?answers, ?failure, ?units⟩
  case answers =>
    cases given : session.unitsOf manifest tuples workers with
    | error failure =>
        obtain ⟨printed, after, -, filed⟩ := run_of_unitsOf_error created given
        rw [show printing = _ from printed, show filing = _ from filed]
    | ok units =>
        obtain ⟨written, final, -, filed⟩ :=
          run_directory_of_unitsOf created given (writable units given)
        rw [show printing = _ from run_stdout_of_unitsOf given, show filing = _ from filed]
  case failure =>
    intro failure failed
    obtain ⟨printed, after, left, filed⟩ := run_of_unitsOf_error created failed
    rw [show filing = _ from filed]
    rcases left with rfl | rfl
    · exact ⟨printed, rfl, fresh, fun _ _ => Iff.rfl⟩
    · refine ⟨printed, by rw [unchanged], stillFresh, fun place contents => ?_⟩
      rw [files]
      exact FileTree.file_makeDirectory_iff _ _ _ _
  case units =>
    intro units given
    obtain ⟨written, final, mirrors, filed⟩ :=
      run_directory_of_unitsOf created given (writable units given)
    rw [show filing = _ from filed]
    refine ⟨run_stdout_of_unitsOf given, rfl, nodup_of_unitsOf given, fun rest behind node => ?_⟩
    have same : made.files.placeOf path = here := by
      rw [files, FileTree.placeOf_makeDirectory]
    rw [← same] at stillFresh ⊢
    exact mirrors.node?_behind_iff stillFresh behind node

/-! ## A manifest of one type -/

/-- The text of a manifest of one type. -/
def innerText : String :=
  "\x7b\"types\":[\x7b\"name\":\"Inner\",\"constructors\":" ++
    "[\x7b\"parameters\":[[\"i\",\"int\"]]\x7d]\x7d]\x7d"

theorem lexemes_innerText : Json.lexemes innerText =
    [⟨.openBrace, 0, 1⟩, ⟨.string "types", 1, 8⟩, ⟨.colon, 8, 9⟩, ⟨.openBracket, 9, 10⟩,
      ⟨.openBrace, 10, 11⟩, ⟨.string "name", 11, 17⟩, ⟨.colon, 17, 18⟩, ⟨.string "Inner", 18, 25⟩,
      ⟨.comma, 25, 26⟩, ⟨.string "constructors", 26, 40⟩, ⟨.colon, 40, 41⟩, ⟨.openBracket, 41, 42⟩,
      ⟨.openBrace, 42, 43⟩, ⟨.string "parameters", 43, 55⟩, ⟨.colon, 55, 56⟩,
      ⟨.openBracket, 56, 57⟩, ⟨.openBracket, 57, 58⟩, ⟨.string "i", 58, 61⟩, ⟨.comma, 61, 62⟩,
      ⟨.string "int", 62, 67⟩, ⟨.closeBracket, 67, 68⟩, ⟨.closeBracket, 68, 69⟩,
      ⟨.closeBrace, 69, 70⟩, ⟨.closeBracket, 70, 71⟩, ⟨.closeBrace, 71, 72⟩,
      ⟨.closeBracket, 72, 73⟩, ⟨.closeBrace, 73, 74⟩] := by
  rw [Json.lexemes, Json.decisive_of_plain (by decide +kernel)]
  with_unfolding_all rfl

theorem ofText_innerText (name : String) :
    Declarations.ofText name innerText = .ok { types := [innerDecl none []] } := by
  have read : Manifest.ofJson innerText = .ok { types := [innerEntry none []] } := by
    apply Json.Reader.readText_eq_ok
    rw [lexemes_innerText]
    with_unfolding_all rfl
  have checked : Manifest.declarations { types := [innerEntry none []] } =
      .ok [innerDecl none []] := by
    with_unfolding_all rfl
  simp only [Declarations.ofText, read, checked]
  rfl

/-- A session with nothing but the manifest. -/
def innerSession : Session :=
  { files := ⟨[(["m.json"], .file (.ofText innerText))], none⟩ }

theorem unitsOf_innerSession {unit : GeneratedUnit}
    (made : (innerDecl none []).unit? .native {} = some unit) :
    innerSession.unitsOf "m.json" .native none = .ok [unit] := by
  have held : innerSession.files.contents? "m.json" = some (.ofText innerText) := by
    decide +kernel
  have small : ¬ maxManifestSize < (Contents.ofText innerText).size := by
    decide +kernel
  have generated : generateAll {} (fun _ => false) [innerDecl none []] = .ok [unit] := by
    have units : [innerDecl none []].filterMap (·.unit? .native {}) = [unit] := by
      simp [made]
    exact generateAll_eq_ok.mpr ⟨fun _ _ => rfl, units.symm, List.nodup_singleton _⟩
  rw [unitsOf, loadManifest_of_readable held small]
  simp only [Contents.text?, Option.elim_some, ofText_innerText]
  rw [show TupleSupport.native.meet .native = .native from rfl, generated]

/-- Both targets come to hold the one unit of the manifest. -/
theorem targets_agree_inner :
    ∃ (unit : GeneratedUnit) (made : Session),
      UnitDirectory.create surroundings.toFileAccess "out" innerSession =
        (.ok { path := "out" }, made) ∧
      (∀ rest ≠ [],
        innerSession.files.node? (innerSession.files.placeOf "out" ++ rest) = none) ∧
      innerSession.unitsOf "m.json" .native none = .ok [unit] ∧
      made.files.Writable (pathIn "out" unit.identifier) ∧
      (Command.generate "m.json" .stdout .native none).run surroundings innerSession =
        (.ok (), { innerSession with
          printed := "// ---- " ++ unit.identifier ++ "\n" ++ unit.text }) ∧
      ((Command.generate "m.json" (.directory "out") .native none).run surroundings
        innerSession).2.files.node? ["out", unit.identifier] =
          some (.file (.ofText unit.text)) := by
  obtain ⟨unit, generated⟩ := Option.isSome_iff_exists.mp
    (by decide +kernel : ((innerDecl none []).unit? .native {}).isSome = true)
  have identifier : unit.identifier = "Inner.g.cs" := by
    have named : (innerDecl none []).unitName? .native {} = some "Inner.g.cs" := by
      decide +kernel
    rw [TypeDecl.unitName?, generated, Option.map_some, Option.some.injEq] at named
    exact named
  have given := unitsOf_innerSession generated
  have place : innerSession.files.placeOf "out" = ["out"] := by decide +kernel
  have created : UnitDirectory.create surroundings.toFileAccess "out" innerSession =
      (.ok { path := "out" },
        { innerSession with files := (innerSession.files.makeDirectory "out").1 }) := by
    have succeeds : (innerSession.files.makeDirectory "out").2 = true := by decide +kernel
    rw [create_of_inside (by decide +kernel), if_pos succeeds]
  have fresh : ∀ rest ≠ [],
      innerSession.files.node? (innerSession.files.placeOf "out" ++ rest) = none := by
    intro rest _
    rw [place]
    simp [FileTree.node?, innerSession]
  have writable : (innerSession.files.makeDirectory "out").1.Writable
      (pathIn "out" unit.identifier) := by
    rw [identifier]
    exact FileTree.writable_iff.mpr ⟨["out", "Inner.g.cs"], by decide +kernel⟩
  obtain ⟨-, -, onUnits⟩ := targets_agree innerSession "m.json" .native none created fresh
    (by
      intro units given' listed mem
      rw [given, Except.ok.injEq] at given'
      rw [← given', List.mem_singleton] at mem
      rwa [mem])
  obtain ⟨printed, -, -, behind⟩ := onUnits [unit] given
  have filed := (behind [unit.identifier] (List.cons_ne_nil _ _) (.file (.ofText unit.text))).mpr
    ⟨unit, List.mem_singleton_self _, rfl, rfl⟩
  rw [place] at filed
  have alone (text : String) : innerSession.printed ++ String.join [text] = text := by
    simp [innerSession]
  rw [List.map_singleton, alone] at printed
  exact ⟨unit, _, created, fresh, given, writable, printed, filed⟩

end CommandLine.Session

end ConversionSynthesis
