import MavenResolution.Proofs.Files.Placing
import MavenResolution.Proofs.Session.Jars
import MavenResolution.Proofs.Session.Replies

/-! The body of a jar is written as a whole or not at all: it comes to a file beside its place, which is moved there
when nothing has interrupted the writing, and is gone otherwise. Then the path of the jar finds what it finds once its
directories are made, and that is not always nothing. -/
namespace MavenResolution

/-- The path of a jar ends in the name of a file, whatever the names in its coordinate are. -/
theorem Layout.namesFile_jarPath (directory : Path) (coordinate : ResolvedCoordinate) :
    (jarPath directory coordinate).NamesFile := by
  obtain ⟨front, last, segments, unslashed⟩ := exists_segments_fileName coordinate
  have ends (path : Path) : ∃ front', (path.join (fileName coordinate "jar")).segments =
      front' ++ [String.ofList (last ++ ".jar".toList)] := by
    unfold Path.join
    dsimp only
    split
    · exact ⟨path.segments ++ front, by rw [segments, List.append_assoc]⟩
    · exact ⟨front, segments⟩
  let group := directory.joinAll ((Text.pieces '.' coordinate.group.toList).map String.ofList)
  obtain ⟨front', named⟩ := ends ((group.join coordinate.artifact).join coordinate.version)
  refine Path.namesFile_of_ends named (jarName_ne_up last) ?_
  simp [unslashed]

namespace Session

open Files

variable {session : Session} {state after last : State} {source target : Location} {before : List UInt8}
  {chunks : List Http.Chunk} {path : Path} {coordinate : ResolvedCoordinate} {repository : Repository}
  {response : Http.Response} {failures : List Failure}

/-- All chunks of a body come, and are these bytes together. -/
def Brings (chunks : List Http.Chunk) (octets : List UInt8) : Prop :=
  ∃ pieces : List (List UInt8), chunks = pieces.map .ok ∧ octets = pieces.flatten

theorem Brings.cons (brings : Brings chunks octets) (piece : List UInt8) :
    Brings (.ok piece :: chunks) (piece ++ octets) := by
  obtain ⟨pieces, rfl, rfl⟩ := brings
  exact ⟨piece :: pieces, rfl, rfl⟩

/-- The fault comes in place of a chunk, or is one of those with which the system refuses to go on. -/
def Interrupts (files : Files) (chunks : List Http.Chunk) (fault : Http.Fault) : Prop :=
  .error fault ∈ chunks ∨ some fault ∈ files.refusals

theorem Interrupts.of_suffix {files after : Files} {fault : Http.Fault}
    (interrupts : Interrupts after chunks fault) (later : after.refusals <:+ files.refusals) :
    Interrupts files chunks fault :=
  interrupts.imp_right (later.subset ·)

theorem attempt_cases (change : Files → Files) (state : State) :
    (∃ fault, some fault ∈ state.files.refusals ∧
      attempt change state = (.error fault, { state with files := state.files.permit.2 })) ∨
    attempt change state = (.ok (), { state with files := change state.files.permit.2 }) := by
  have refusal {fault : Http.Fault} := @mem_refusals_of_permit state.files fault
  rw [attempt_apply]
  generalize state.files.permit = permission at refusal ⊢
  obtain ⟨refused, files⟩ := permission
  cases refused with
  | none => exact .inr rfl
  | some fault => exact .inl ⟨fault, refusal rfl, rfl⟩

/-- All chunks of a body come one after another to a file, or something interrupts them. -/
theorem writeChunks_cases (held : state.files.nodes.lookup source = some (.file before)) (chunks : List Http.Chunk) :
    ∃ files, WritesAt source state.files files ∧
      ((∃ octets, writeChunks source chunks state = (.ok (), { state with files }) ∧ Brings chunks octets ∧
          files.nodes.lookup source = some (.file (before ++ octets))) ∨
        ∃ fault, writeChunks source chunks state = (.error fault, { state with files }) ∧
          Interrupts state.files chunks fault) := by
  -- By induction on the chunks to come, whatever has come before.
  induction chunks generalizing state before with
  | nil => exact ⟨state.files, .refl _ _, .inl ⟨[], rfl, ⟨[], rfl, rfl⟩, by simpa using held⟩⟩
  | cons chunk rest ih =>
    match chunk with
    | .error fault => exact ⟨state.files, .refl _ _, .inr ⟨fault, rfl, .inl List.mem_cons_self⟩⟩
    | .ok [] =>
      obtain ⟨files, writes, ⟨octets, run, brings, wrote⟩ | ⟨fault, run, interrupts⟩⟩ := ih held
      · exact ⟨files, writes, .inl ⟨octets, run, brings.cons [], wrote⟩⟩
      · exact ⟨files, writes, .inr ⟨fault, run, interrupts.imp_left (List.mem_cons_of_mem _)⟩⟩
    | .ok (octet :: octets) =>
      have permits := writesAt_permit state.files source
      have applied : writeChunks source (.ok (octet :: octets) :: rest) state = _ := bind_apply _ _ state
      rw [applied]
      rcases attempt_cases (·.append source (octet :: octets)) state with ⟨fault, refused, tried⟩ | tried
      · rw [tried]
        exact ⟨_, permits, .inr ⟨fault, rfl, .inr refused⟩⟩
      · rw [tried]
        dsimp only
        have appended : (state.files.permit.2.append source (octet :: octets)).nodes.lookup source =
            some (.file (before ++ (octet :: octets))) := by
          unfold Files.append
          rw [show state.files.permit.2.nodes.lookup source = _ from held]
          exact lookup_set_self _ _ _
        have writes := permits.trans (writesAt_append state.files.permit.2 source (octet :: octets))
        obtain ⟨files, more, ⟨others, run, brings, wrote⟩ | ⟨fault, run, interrupts⟩⟩ :=
          @ih { state with files := state.files.permit.2.append source (octet :: octets) } _ appended
        · rw [List.append_assoc] at wrote
          exact ⟨files, writes.trans more, .inl ⟨_, run, brings.cons _, wrote⟩⟩
        · refine ⟨files, writes.trans more, .inr ⟨fault, run, ?_⟩⟩
          exact (interrupts.of_suffix writes.refusals).imp_left (List.mem_cons_of_mem _)

/-- A body is in a file when that is closed, or something has interrupted the writing. -/
theorem writeFile_cases (held : state.files.nodes.lookup source = some (.file before)) (chunks : List Http.Chunk) :
    ∃ files, WritesAt source state.files files ∧
      ((∃ octets, writeFile source chunks state = (.ok (), { state with files }) ∧ Brings chunks octets ∧
          files.nodes.lookup source = some (.file (before ++ octets))) ∨
        ∃ fault, writeFile source chunks state = (.error fault, { state with files }) ∧
          Interrupts state.files chunks fault) := by
  have applied : writeFile source chunks state = _ := bind_apply _ _ state
  rw [applied]
  obtain ⟨files, writes, written⟩ := writeChunks_cases held chunks
  have closes := writes.trans (writesAt_permit files source)
  refine ⟨files.permit.2, closes, ?_⟩
  rcases attempt_cases id { state with files } with ⟨refusal, refused, tried⟩ | tried
  · have interrupts : Interrupts state.files chunks refusal := .inr (writes.refusals.subset refused)
    refine .inr ⟨refusal, ?_, interrupts⟩
    rcases written with ⟨octets, run, -⟩ | ⟨fault, run, -⟩ <;> rw [run, bind_apply, tried] <;> rfl
  · refine written.imp (fun ⟨octets, run, brings, wrote⟩ => ⟨octets, ?_, brings, wrote⟩)
      fun ⟨fault, run, interrupts⟩ => ⟨fault, ?_, interrupts⟩ <;> rw [run, bind_apply, tried] <;> rfl

/-- A body comes to its place as a whole, or the place is as it was. -/
theorem completeFile_cases (held : state.files.nodes.lookup source = some (.file [])) (apart : target ≠ source)
    (chunks : List Http.Chunk) :
    ∃ files, WritesAt source state.files files ∧
      ((∃ octets, completeFile source target chunks state =
            (.ok (), { state with files := (files.set source none).set target (some (.file octets)) }) ∧
          Brings chunks octets ∧ state.files.nodeAt target ≠ some .directory) ∨
        ∃ fault, completeFile source target chunks state = (.error fault, { state with files }) ∧
          ((∃ interruption, fault = .stream interruption ∧ Interrupts state.files chunks interruption) ∨
            fault = .file .isDirectory ∧ state.files.nodeAt target = some .directory)) := by
  have applied : completeFile source target chunks state = _ := bind_apply _ _ state
  rw [applied]
  obtain ⟨files, writes, ⟨octets, run, brings, wrote⟩ | ⟨fault, run, interrupts⟩⟩ := writeFile_cases held chunks
  · rw [run]
    dsimp only
    have moves := writes.trans (writesAt_permit files source)
    have refusal {fault : Http.Fault} := @mem_refusals_of_permit files fault
    have held : files.permit.2.nodes.lookup source = some (.file octets) := wrote
    rw [moveFile_apply]
    generalize files.permit = permission at moves refusal held ⊢
    obtain ⟨refused, files'⟩ := permission
    dsimp only at moves held ⊢
    refine ⟨files', moves, ?_⟩
    cases refused with
    | some fault => exact .inr ⟨_, rfl, .inl ⟨fault, rfl, .inr (writes.refusals.subset (refusal rfl))⟩⟩
    | none =>
      dsimp only
      rw [move_of_lookup held, moves.nodeAt apart]
      by_cases occupied : state.files.nodeAt target = some .directory
      · rw [if_pos occupied]
        exact .inr ⟨_, rfl, .inr ⟨rfl, occupied⟩⟩
      · rw [if_neg occupied]
        exact .inl ⟨octets, rfl, brings, occupied⟩
  · rw [run]
    exact ⟨files, writes, .inr ⟨_, rfl, .inl ⟨fault, rfl, interrupts⟩⟩⟩

/-- What keeps a body from being written to a path. -/
inductive Hinders (files : Files) (path : Path) (chunks : List Http.Chunk) : WriteFault → Prop
  | interrupted {fault : Http.Fault} (interrupts : Interrupts files chunks fault) :
    Hinders files path chunks (.stream fault)
  | unreached {fault : Files.Fault} (refused : (files.makeDirectories path.parent).1 = .error fault) :
    Hinders files path chunks (.file fault)
  | unnamed {fault : Files.Fault} (directory : Location)
    (refused : (files.makeDirectories path.parent).2.beginPart directory path = .error fault) :
    Hinders files path chunks (.file fault)
  | occupied (lies : (files.makeDirectories path.parent).2.nodeAt (files.place path) = some .directory) :
    Hinders files path chunks (.file .isDirectory)

/-- A body is at its path as a whole, or something has hindered that, and all is as when the directories were
made. -/
theorem writeBody_cases (named : path.NamesFile) (chunks : List Http.Chunk) (state : State) :
    let made := (state.files.makeDirectories path.parent).2
    ∃ files, (state.files.Rooted → files.Rooted) ∧
      ((∃ octets, writeBody path chunks state = (.ok (), { state with files }) ∧ Brings chunks octets ∧
          files.look path = .ok (.file octets) ∧
          ∀ location, location ≠ state.files.place path → files.nodeAt location = made.nodeAt location) ∨
        ∃ fault, writeBody path chunks state = (.error fault, { state with files }) ∧
          Hinders state.files path chunks fault ∧ made.Alike files) := by
  intro made
  have applied : writeBody path chunks state = _ := get_bind_apply _ state
  rw [applied]
  dsimp only
  rw [setFiles_bind_apply]
  have rooted (before : state.files.Rooted) : made.Rooted := (before.makeDirectories path.parent).1
  cases reached : (state.files.makeDirectories path.parent).1 with
  | error fault => exact ⟨made, rooted, .inr ⟨_, rfl, .unreached reached, ⟨rfl, fun _ => rfl⟩⟩⟩
  | ok directory =>
    dsimp only
    cases begun : (state.files.makeDirectories path.parent).2.beginPart directory path with
    | error fault => exact ⟨made, rooted, .inr ⟨_, rfl, .unnamed directory begun, ⟨rfl, fun _ => rfl⟩⟩⟩
    | ok begin =>
      obtain ⟨part, opened⟩ := begin
      obtain ⟨rfl, free, apart⟩ := beginPart_free begun
      have placed := place_of_makeDirectories named reached
      have opens := writesAt_set made part (some (.file []))
      have opened : (made.set part (some (.file []))).nodes.lookup part = some (.file []) := lookup_set_self _ _ _
      obtain ⟨files, writes, completes⟩ := @completeFile_cases { state with files := made.set part (some (.file [])) }
        part (directory ++ [path.name]) opened apart.symm chunks
      have alike := (opens.trans writes).alike free
      dsimp only
      rw [setFiles_bind_apply, bind_apply]
      rcases completes with ⟨octets, run, brings, vacant⟩ | ⟨fault, run, hinders⟩
      · rw [run]
        rw [opens.nodeAt apart.symm] at vacant
        have filled := nodeAt_set_self (files.set part none) (some (.file octets))
          (outside_of_nodeAt fun occupied => vacant ((alike.nodeAt _).symm.trans occupied))
        have kept (location : Location) (other : location ≠ directory ++ [path.name]) :=
          (nodeAt_set_of_ne (some (.file octets)) other).trans (alike.nodeAt location)
        have here := alike.here.trans (makeDirectories_addsBelow [] state.files path.parent).here
        refine ⟨_, fun before => ?_, .inl ⟨octets, rfl, brings, ?_, ?_⟩⟩
        · exact (rooted before).of_placed ((before.makeDirectories path.parent).2 directory reached) vacant kept
        · exact look_of_placed named reached begun vacant here filled kept
        · rw [placed]
          exact kept
      · rw [run]
        refine ⟨_, fun before => (rooted before).of_alike alike, .inr ⟨fault, rfl, ?_, alike⟩⟩
        rcases hinders with ⟨interruption, rfl, interrupts⟩ | ⟨rfl, occupied⟩
        · refine .interrupted (interrupts.of_suffix ?_)
          rw [← makeDirectories_refusals state.files path.parent]
          exact opens.refusals
        · rw [opens.nodeAt apart.symm, ← placed] at occupied
          exact .occupied occupied

/-! The whole way. -/

/-- A jar that is to be had is written, the response is closed, and then its path is given or the fault is told of. -/
theorem fetchJar_apply (replied : (session.jarExchange coordinate repository state.requests).outcome = .ok response)
    (successful : response.isSuccess = true) (path : Path) :
    let sent := { state with
      requests := state.requests ++ (session.jarExchange coordinate repository state.requests).requests
      closings := state.closings ++ [0]
      log := state.log ++ (session.jarExchange coordinate repository state.requests).log }
    let writing := writeBody path response.chunks sent
    (session.fetchJar coordinate repository path).run state =
      (session.concludeJar coordinate repository path writing.1).run (closeResponse writing.2).2 := by
  intro sent writing
  have sends : session.send "artifact" (session.jarRequest coordinate repository) state = (.ok response, sent) := by
    unfold send
    rw [get_bind_apply]
    rw [show (session.transport.send session.server state.requests (some "artifact")
      (session.jarRequest coordinate repository)).outcome = .ok response from replied]
    rfl
  unfold jarRequest at sends
  unfold fetchJar
  dsimp only
  rw [run_bind_apply, run_lift_apply, sends]
  dsimp only
  rw [if_pos successful]
  rfl

theorem closeResponse_closings {earlier : List Nat} (received : state.closings = earlier ++ [0]) :
    (closeResponse state).2.closings = earlier ++ [1] := by
  change state.closings.modify (state.closings.length - 1) (· + 1) = _
  rw [received, List.length_append, List.length_singleton, Nat.add_sub_cancel, List.modify_eq_take_drop]
  simp

/-- What is a fault of a request or of the system is told of once, and any other goes on. -/
theorem concludeJar_failed (session : Session) (coordinate : ResolvedCoordinate) (repository : Repository)
    (path : Path) (fault : WriteFault) (tells : session.TellsMeanwhile state after []) :
    let run := (session.concludeJar coordinate repository path (.error fault)).run after
    run.2.files = after.files ∧ run.2.closings = after.closings ∧ match fault.reported? path with
      | some reason => run.1 = .ok none ∧
          session.TellsMeanwhile state run.2 [.jarUnavailable coordinate repository reason]
      | none => run.1 = .error (fault.failure path) ∧ session.TellsMeanwhile state run.2 [] := by
  rw [concludeJar]
  cases fault.reported? path with
  | none => exact ⟨rfl, rfl, rfl, tells⟩
  | some reason =>
    have unwritten (failure : Failure) : (session.report failure after).2.files = after.files ∧
        (session.report failure after).2.closings = after.closings := by
      unfold report
      cases session.reporting <;> exact ⟨rfl, rfl⟩
    obtain ⟨filed, closed⟩ := unwritten (.jarUnavailable coordinate repository reason)
    exact ⟨filed, closed, rfl, tells.report _⟩

/-- The jar is in its place, with all chunks of its body and nothing else, and its path is given. No other file has
come, gone or changed, and nothing is told. -/
structure Completed (session : Session) (path : Path) (chunks : List Http.Chunk) (state : State)
    (run : Except Failure (Option Path) × State) : Prop where
  gives : run.1 = .ok (some path)
  whole : ∃ octets, Brings chunks octets ∧ run.2.files.look path = .ok (.file octets)
  others : ∀ location, location ≠ state.files.place path → ∀ content,
    run.2.files.nodeAt location = some (.file content) ↔ state.files.nodeAt location = some (.file content)
  tells : session.TellsMeanwhile state run.2 []

/-- Something has hindered the jar from being written. No file has come, gone or changed; the path finds what it finds
when only the directories are made, and so nothing if it found nothing before and does not lead back up. What
is a fault of a request or of the system is told of once, and any other goes on. -/
structure Abandoned (session : Session) (coordinate : ResolvedCoordinate) (repository : Repository) (path : Path)
    (chunks : List Http.Chunk) (state : State) (run : Except Failure (Option Path) × State) : Prop where
  others : ∀ location content,
    run.2.files.nodeAt location = some (.file content) ↔ state.files.nodeAt location = some (.file content)
  finds : run.2.files.look path = (state.files.makeDirectories path.parent).2.look path
  absent : state.files.Rooted → ".." ∉ path.segments → (∀ node, state.files.look path ≠ .ok node) →
    ∀ node, run.2.files.look path ≠ .ok node
  ends : ∃ fault, Hinders state.files path chunks fault ∧
    match fault.reported? path with
    | some reason => run.1 = .ok none ∧
        session.TellsMeanwhile state run.2 [.jarUnavailable coordinate repository reason]
    | none => run.1 = .error (fault.failure path) ∧ session.TellsMeanwhile state run.2 []

/-- A jar that is to be had is written as a whole or not at all, wherever its body breaks off and whatever the system
refuses to do, and the response is closed once. Without steps upwards in its path there is nothing at the place of a
jar that was not written. -/
theorem fetchJar_all_or_nothing (session : Session) (directory : Path) (coordinate : ResolvedCoordinate)
    (repository : Repository) (state : State) (response : Http.Response)
    (replied : (session.jarExchange coordinate repository state.requests).outcome = .ok response)
    (successful : response.isSuccess = true) :
    let path := Layout.jarPath directory coordinate
    let run := (session.fetchJar coordinate repository path).run state
    run.2.closings = state.closings ++ [1] ∧ (state.files.Rooted → run.2.files.Rooted) ∧
      (session.Completed path response.chunks state run ∨
        session.Abandoned coordinate repository path response.chunks state run) := by
  intro path run
  have named : path.NamesFile := Layout.namesFile_jarPath directory coordinate
  have applied : run = _ := fetchJar_apply replied successful path
  let exchange := session.jarExchange coordinate repository state.requests
  let sent (files : Files) := { state with
    files
    requests := state.requests ++ exchange.requests
    closings := state.closings ++ [0]
    log := state.log ++ exchange.log }
  have closes (files : Files) : (closeResponse (sent files)).2.closings = state.closings ++ [1] :=
    closeResponse_closings rfl
  have silent (files : Files) : session.TellsMeanwhile state (closeResponse (sent files)).2 [] := by
    refine (TellsMeanwhile.refl session state).logged exchange.log (fun entry member => ?_) rfl rfl
    rw [Http.Transport.send_log session.server _ _ session.transport state.requests entry member]
    exact nofun
  have kept (location : Location) (content : List UInt8) :=
    makeDirectories_files state.files path.parent location content
  obtain ⟨files, rooted, ⟨octets, writing, brings, found, others⟩ | ⟨fault, writing, hinders, alike⟩⟩ :=
    writeBody_cases named response.chunks (sent state.files)
  · rw [writing] at applied
    rw [applied]
    refine ⟨closes files, rooted, .inl ⟨rfl, ⟨octets, brings, found⟩, fun location other content => ?_, ?_⟩⟩
    · exact (iff_of_eq (congrArg (· = _) (others location other))).trans (kept location content)
    · refine (silent files).logged _ (List.forall_mem_singleton.mpr ?_) rfl rfl
      exact nofun
  · rw [writing] at applied
    obtain ⟨filed, closed, ends⟩ := session.concludeJar_failed coordinate repository path fault (silent files)
    rw [← applied] at filed closed ends
    have same : (state.files.makeDirectories path.parent).2.Alike run.2.files := filed ▸ alike
    refine ⟨closed.trans (closes files), fun before => filed ▸ rooted before, .inr ?_⟩
    refine ⟨?_, same.look path, ?_, fault, hinders, ends⟩
    · intro location content
      exact (iff_of_eq (congrArg (· = _) (same.nodeAt location))).trans (kept location content)
    · intro rooted down missing node found
      rw [same.look] at found
      exact missing node (look_makeDirectories rooted named.ends down found)

/-- A body that breaks off leaves nothing at its path. -/
theorem fetchJar_broken_off :
    let session : Session :=
      { transport := Http.Transport.ofConfiguration {}, reporting := .collected
        server := fun _ _ => .ok { status := 200, chunks := [.ok [106], .ok [], .error ⟨.connection, "reset"⟩] } }
    let coordinate : ResolvedCoordinate := ⟨none, "org", "lib", "1", none⟩
    let repository : Repository := { id := some "a", uri := "https://a.example" }
    let path := Layout.jarPath (Path.ofText "jars") coordinate
    let run := (session.fetchJar coordinate repository path).run {}
    run.1 = .ok none ∧ run.2.closings = [1] ∧ run.2.files.Rooted ∧ ∀ node, run.2.files.look path ≠ .ok node := by
  intro session coordinate repository path run
  have none : run.1 = .ok none := eq_ok_of_toOption (by decide +kernel)
  have missing : ({} : Files).look path = .error .notFound := by decide +kernel
  have down : ".." ∉ path.segments := by decide +kernel
  obtain ⟨closings, rooted, ends⟩ := session.fetchJar_all_or_nothing (Path.ofText "jars") coordinate repository {} _
    rfl rfl
  have began : ({} : State).files.Rooted := Files.rooted_empty _ _
  -- Nothing needs to be evaluated from here on.
  clear_value session
  rcases ends with completed | abandoned
  · cases completed.gives.symm.trans none
  · refine ⟨none, closings, rooted began, abandoned.absent began down fun node found => ?_⟩
    cases missing.symm.trans found

/-- A path that leads back up may find the jar of another version once its directories are made, whether its own body
comes or not. -/
theorem exists_jar_found_unwritten :
    let session : Session :=
      { transport := Http.Transport.ofConfiguration {}
        server := fun _ _ => .ok { status := 200, chunks := [.ok [110], .error ⟨.connection, "reset"⟩] } }
    let coordinate : ResolvedCoordinate := ⟨none, "org", "x/../lib", "1", none⟩
    let repository : Repository := { id := some "a", uri := "https://a.example" }
    let path := Layout.jarPath (Path.ofText "jars") coordinate
    let files := ({} : Files).add (Path.ofText "jars/org/lib/1/lib-1.jar") [111, 108, 100]
    let run := (session.fetchJar coordinate repository path).run { files }
    (∀ node, files.look path ≠ .ok node) ∧ run.1 = .ok none ∧
      run.2.files.look path = .ok (.file [111, 108, 100]) := by
  intro session coordinate repository path files run
  have missing : files.look path = .error .notFound := by decide +kernel
  refine ⟨fun node found => ?_, eq_ok_of_toOption (by decide +kernel), by decide +kernel⟩
  cases missing.symm.trans found

end Session
end MavenResolution
