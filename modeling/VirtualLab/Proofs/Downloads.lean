import VirtualLab.Proofs.FaultyFiles

/-!
# Downloads

A file that is downloaded appears at its destination as a whole or not at all, whatever the server
sends and whichever operation on files fails: until the part is moved in place of the destination,
only the part is written.
-/

namespace VirtualLab

namespace Download

open FileSystem

variable {tool : SignatureToolConduct} {start before after final : FileSystem}
  {events : List (Event FileSystem)} {url : String} {part destination : Path}
  {response : Response} {outcome : Except LabError Unit}

/-! ## A download in steps

The part is begun anew, the pieces of the body are appended to it, and it is moved to the
destination.
-/

def fill (part : Path) (chunks : List Bytes) : LabTask Unit := do
  Attempt.orFail .file (← Attempt.ask (.writeFile part []))
  appendAll part chunks

def finish (url : String) (destination : Path) (response : Response) : LabTask Unit := do
  let part := destination.withSuffix partSuffix
  if let some reason := response.interruption then
    throw (.download url (.transport reason))
  if let some announced := response.announced then
    if announced ≠ 0 ∧ announced ≠ received response.chunks then
      let _ ← Attempt.ask (.removeFile part)
      throw (.download url (.incomplete (received response.chunks) announced))
  Attempt.orFail .file (← Attempt.ask (.renameFile part destination))

theorem download_eq (url : String) (destination : Path) :
    download url destination = (do
      let response ← Attempt.orFail (fun reason => .download url (.transport reason))
        (← Attempt.ask (.fetch url))
      if response.status < 200 ∨ 300 ≤ response.status then
        throw (.download url (.status response.status))
      else do
        fill (destination.withSuffix partSuffix) response.chunks
        finish url destination response) := by
  simp only [download, fill, finish, bind_assoc]
  rfl

/-! ## Filling the part -/

def Stages (url : String) (part : Path) : Request → Prop
  | .fetch other => other = url
  | .writeFile path _ => path = part
  | .appendFile path _ => path = part
  | .removeFile path => path = part
  | _ => False

theorem Stages.changesFilesAt {request : Request} (stages : Stages url part request) :
    request.ChangesFilesAt [part] := by
  cases request with
  | fetch => trivial
  | writeFile => exact List.mem_singleton.mpr stages
  | appendFile => exact List.mem_singleton.mpr stages
  | removeFile => exact List.mem_singleton.mpr stages
  | _ => exact stages.elim

/-- A step that deals with the part, succeeds exactly if nothing fails, and leaves this content if
it succeeds. -/
structure Filled (url : String) (part : Path) (content : Bytes) (events : List (Event FileSystem))
    (outcome : Except LabError Unit) (final : FileSystem) : Prop where
  stages : ∀ event ∈ events, Stages url part event.request
  succeeds : outcome = .ok () ↔ ∀ event ∈ events, ¬ Failed event.request event.answer
  content : outcome = .ok () → final.read part = .ok content

theorem Filled.cons {content : Bytes} {event : Event FileSystem}
    (stages : Stages url part event.request) (done : ¬ Failed event.request event.answer)
    (filled : Filled url part content events outcome final) :
    Filled url part content (event :: events) outcome final where
  stages := List.forall_mem_cons.mpr ⟨stages, filled.stages⟩
  succeeds := by rw [filled.succeeds, List.forall_mem_cons, and_iff_right done]
  content := filled.content

theorem filled_of_failed {content : Bytes} {event : Event FileSystem} {failure : LabError}
    (stages : Stages url part event.request) (failed : Failed event.request event.answer) :
    Filled url part content [event] (.error failure) final where
  stages := by simpa using stages
  succeeds := by simp [failed]
  content := nofun

theorem filled_of_appendAll {chunks : List Bytes} {content : Bytes}
    (held : start.read part = .ok content)
    (run : (appendAll part chunks).run.Runs (faultyConduct tool) start events outcome final) :
    Filled url part (content ++ chunks.flatten) events outcome final := by
  induction chunks generalizing start events content with
  | nil =>
      obtain ⟨rfl, rfl, rfl⟩ := Attempt.runs_pure.mp run
      exact ⟨by simp, by simp, fun _ => by simpa using held⟩
  | cons chunk rest induction =>
      obtain ⟨answer, middle, later, conducted, going, rfl⟩ := Attempt.runs_ask_bind.mp run
      rcases Attempt.runs_orFail_bind.mp going with
        ⟨cause, rfl, rfl, rfl, rfl⟩ | ⟨_, rfl, others⟩
      · exact filled_of_failed rfl rfl
      · have appended := Applies.eq_ok (conduct_of_not_failed conducted nofun)
        have filled := induction (read_of_modifyFile held appended) others
        rw [List.append_assoc] at filled
        exact filled.cons rfl nofun

theorem filled_of_fill (url : String) {chunks : List Bytes}
    (run : (fill part chunks).run.Runs (faultyConduct tool) start events outcome final) :
    Filled url part chunks.flatten events outcome final := by
  obtain ⟨answer, middle, later, conducted, going, rfl⟩ := Attempt.runs_ask_bind.mp run
  rcases Attempt.runs_orFail_bind.mp going with ⟨cause, rfl, rfl, rfl, rfl⟩ | ⟨_, rfl, filling⟩
  · exact filled_of_failed rfl rfl
  · have written := Applies.eq_ok (conduct_of_not_failed conducted nofun)
    exact (filled_of_appendAll (read_of_write written) filling).cons rfl nofun

/-! ## The course of a download -/

structure Complete (response : Response) : Prop where
  successful : 200 ≤ response.status ∧ response.status < 300
  uninterrupted : response.interruption = none
  enough : ∀ announced, response.announced = some announced →
    announced = 0 ∨ announced = received response.chunks

def Received (url : String) (start : FileSystem) (response : Response)
    (events : List (Event FileSystem)) : Prop :=
  ∃ rest, events = ⟨start, .fetch url, .ok response, start⟩ :: rest

def moving (destination : Path) (before : FileSystem) (answer : Except FileError Unit)
    (after : FileSystem) : Event FileSystem :=
  ⟨before, .renameFile (destination.withSuffix partSuffix) destination, answer, after⟩

/-- The courses of a download: it stops before anything is moved, because the answer is not complete
or an operation on files failed, or the complete part is moved, which may fail. -/
inductive Course (url : String) (destination : Path) (start : FileSystem) :
    List (Event FileSystem) → Except LabError Unit → FileSystem → Prop
  | stopped {events : List (Event FileSystem)} {failure : LabError} {final : FileSystem}
      (stages : ∀ event ∈ events, Stages url (destination.withSuffix partSuffix) event.request)
      (why : (∀ response, Received url start response events → ¬ Complete response) ∨
        ∃ event ∈ events, Failed event.request event.answer) :
      Course url destination start events (.error failure) final
  | moved {early : List (Event FileSystem)} {response : Response} {filled final : FileSystem}
      {answer : Except FileError Unit}
      (stages : ∀ event ∈ early, Stages url (destination.withSuffix partSuffix) event.request)
      (received : Received url start response early) (complete : Complete response)
      (unfailed : ∀ event ∈ early, ¬ Failed event.request event.answer)
      (held : filled.read (destination.withSuffix partSuffix) = .ok response.chunks.flatten) :
      Course url destination start (early ++ [moving destination filled answer final])
        (answer.mapError .file) final

theorem runs_move {filled : FileSystem}
    (run : (Attempt.ask (ε := LabError)
      (.renameFile (destination.withSuffix partSuffix) destination) >>= Attempt.orFail .file).run.Runs
        (faultyConduct tool) filled events outcome final) :
    ∃ answer, outcome = answer.mapError .file ∧
      events = [moving destination filled answer final] := by
  obtain ⟨answer, middle, later, _, ended, rfl⟩ := Attempt.runs_ask_bind.mp run
  obtain ⟨rfl, rfl, rfl⟩ := Attempt.runs_orFail.mp ended
  exact ⟨answer, rfl, rfl⟩

theorem runs_finish {filled : FileSystem}
    (run : (finish url destination response).run.Runs (faultyConduct tool) filled events outcome
      final) :
    (response.interruption = none ∧
      (∀ announced, response.announced = some announced →
        announced = 0 ∨ announced = received response.chunks) ∧
      ∃ answer, outcome = answer.mapError .file ∧
        events = [moving destination filled answer final]) ∨
    ¬ Complete response ∧ (∃ failure, outcome = .error failure) ∧
      ∀ event ∈ events, Stages url (destination.withSuffix partSuffix) event.request := by
  unfold finish at run
  cases interruption : response.interruption with
  | some reason =>
      rw [interruption] at run
      obtain ⟨rfl, rfl, rfl⟩ := Attempt.runs_throw.mp run
      refine .inr ⟨fun complete => ?_, ⟨_, rfl⟩, by simp⟩
      simp [complete.uninterrupted] at interruption
  | none =>
      rw [interruption] at run
      cases announcement : response.announced with
      | none =>
          rw [announcement] at run
          exact .inl ⟨rfl, nofun, runs_move run⟩
      | some announced =>
          rw [announcement] at run
          dsimp only at run
          split at run
          · rename_i short
            obtain ⟨answer, _, _, _, failing, rfl⟩ := Attempt.runs_ask_bind.mp run
            obtain ⟨rfl, rfl, rfl⟩ := Attempt.runs_throw.mp failing
            refine .inr ⟨fun complete => ?_, ⟨_, rfl⟩, by simp [Stages]⟩
            have enough := complete.enough announced announcement
            omega
          · rename_i enough
            refine .inl ⟨rfl, fun length same => ?_, runs_move run⟩
            cases same
            omega

theorem course_of_download
    (run : (download url destination).run.Runs (faultyConduct tool) start events outcome final) :
    Course url destination start events outcome final := by
  rw [download_eq] at run
  obtain ⟨answer, middle, later, conducted, responding, rfl⟩ := Attempt.runs_ask_bind.mp run
  have kept : middle = start := conducted.resolve_right fun failed => failed.1
  subst kept
  rcases Attempt.runs_orFail_bind.mp responding with
    ⟨reason, rfl, rfl, rfl, rfl⟩ | ⟨response, rfl, checking⟩
  · exact .stopped (by simp [Stages]) (.inl (by simp [Received]))
  have only : ∀ {rest other},
      Received url middle other (⟨middle, .fetch url, .ok response, middle⟩ :: rest) →
        other = response := by
    rintro rest other ⟨_, equal⟩
    simpa using (List.cons.inj equal).1.symm
  have fetched : Stages url (destination.withSuffix partSuffix) (.fetch url) := rfl
  split at checking
  · rename_i unsuccessful
    obtain ⟨rfl, rfl, rfl⟩ := Attempt.runs_throw.mp checking
    refine .stopped (by simpa using fetched) (.inl fun other received complete => ?_)
    have successful := complete.successful
    rw [only received] at successful
    omega
  rename_i successful
  rcases Attempt.runs_bind.mp checking with
    ⟨failure, failing, rfl⟩ | ⟨_, filling, filled, _, finished, finishing, rfl⟩
  · have fails := filled_of_fill url failing
    refine .stopped (List.forall_mem_cons.mpr ⟨fetched, fails.stages⟩) (.inr ?_)
    have some : ∃ event ∈ later, Failed event.request event.answer := by
      simpa using fails.succeeds.not.mp nofun
    obtain ⟨event, member, failed⟩ := some
    exact ⟨event, List.mem_cons_of_mem _ member, failed⟩
  · have fills := filled_of_fill url finished
    rcases runs_finish finishing with
      ⟨uninterrupted, enough, answer, rfl, rfl⟩ | ⟨incomplete, ⟨failure, rfl⟩, stages⟩
    · have complete : Complete response := ⟨by omega, uninterrupted, enough⟩
      rw [← List.cons_append]
      exact .moved (List.forall_mem_cons.mpr ⟨fetched, fills.stages⟩) ⟨filling, rfl⟩ complete
        (List.forall_mem_cons.mpr ⟨nofun, fills.succeeds.mp rfl⟩) (fills.content rfl)
    · refine .stopped (List.forall_mem_cons.mpr
        ⟨fetched, List.forall_mem_append.mpr ⟨fills.stages, stages⟩⟩) (.inl fun other received => ?_)
      rwa [only received]

/-! ## All or nothing -/

theorem Received.append {more : List (Event FileSystem)}
    (received : Received url start response events) :
    Received url start response (events ++ more) := by
  obtain ⟨rest, rfl⟩ := received
  exact ⟨rest ++ more, rfl⟩

theorem Received.unique {other : Response} (received : Received url start response events)
    (otherReceived : Received url start other events) : other = response := by
  obtain ⟨_, rfl⟩ := received
  obtain ⟨_, equal⟩ := otherReceived
  simpa using (List.cons.inj equal).1.symm

theorem destination_of_stages {event : Event FileSystem}
    (stages : Stages url (destination.withSuffix partSuffix) event.request)
    (conducted : faultyConduct tool event.request event.before event.answer event.after) :
    event.after.named? destination = event.before.named? destination := by
  have changes : event.request.ChangesFilesAt [destination.withSuffix partSuffix] :=
    stages.changesFilesAt
  refine (differs_of_faulty changes conducted).named? fun other member => ?_
  rw [List.mem_singleton.mp member]
  exact (Path.apart_withSuffix destination (by decide) (by decide)).symm

theorem unmoved_of_error {source target : Path} {cause : FileError}
    (conducted : faultyConduct tool (.renameFile source target) before (.error cause) after) :
    after = before := by
  rcases conducted with applies | ⟨_, left⟩
  · obtain ⟨_, impossible⟩ | ⟨_, _, _, kept⟩ := Applies.changed_or_failed applies
    · cases impossible
    · exact kept
  · exact left

structure Atomic (url : String) (destination : Path) (start : FileSystem)
    (events : List (Event FileSystem)) (outcome : Except LabError Unit) (final : FileSystem) :
    Prop where
  /-- The URL is fetched, and no path is dealt with but the destination and its part. -/
  asks : ∀ event ∈ events, Stages url (destination.withSuffix partSuffix) event.request ∨
    event.request = .renameFile (destination.withSuffix partSuffix) destination
  /-- All else is as it was. -/
  elsewhere : DiffersOnlyAt (paths destination) start final
  /-- Until a download succeeds, and for good if it does not, the destination is what it was. -/
  meanwhile : ∀ event ∈ events, event.after.named? destination = start.named? destination ∨
    outcome = .ok () ∧ event.after = final
  failed : ∀ failure, outcome = .error failure →
    final.named? destination = start.named? destination
  /-- A download succeeds exactly if the answer is complete and no operation on files fails. -/
  succeeds : outcome = .ok () ↔ (∃ response, Received url start response events ∧
    Complete response) ∧ ∀ event ∈ events, ¬ Failed event.request event.answer
  /-- What was downloaded is all that was received. -/
  whole : outcome = .ok () → ∀ response, Received url start response events →
    final.read destination = .ok response.chunks.flatten

/-- What a failed download leaves is not taken for the file. -/
theorem Atomic.pathExists {failure : LabError}
    (atomic : Atomic url destination start events (.error failure) final) :
    final.pathExists destination = start.pathExists destination := by
  rw [pathExists_eq_isSome, pathExists_eq_isSome, atomic.failed failure rfl]

theorem download_elsewhere
    (run : (download url destination).run.Runs (faultyConduct tool) start events outcome final) :
    DiffersOnlyAt (paths destination) start final := by
  refine run.related (DiffersOnlyAt.refl _) DiffersOnlyAt.trans fun event member => ?_
  have changes : event.request.ChangesFilesAt (paths destination) :=
    run.request_of_confined (download_confined (by simp [paths]) (by simp [paths])).run event member
  exact differs_of_faulty changes (run.conducted event member)

theorem atomic_of_stopped {failure : LabError}
    (run : (download url destination).run.Runs (faultyConduct tool) start events (.error failure)
      final)
    (stages : ∀ event ∈ events, Stages url (destination.withSuffix partSuffix) event.request)
    (why : (∀ response, Received url start response events → ¬ Complete response) ∨
      ∃ event ∈ events, Failed event.request event.answer) :
    Atomic url destination start events (.error failure) final := by
  obtain ⟨between, ended⟩ := run.kept
    (fun files => files.named? destination = start.named? destination)
    (fun event member was =>
      (destination_of_stages (stages event member) (run.conducted event member)).trans was) rfl
  refine ⟨fun event member => .inl (stages event member), download_elsewhere run,
    fun event member => .inl (between event member), fun _ _ => ended, iff_of_false nofun ?_, nofun⟩
  rintro ⟨⟨response, received, complete⟩, unfailed⟩
  rcases why with incomplete | ⟨event, member, failed⟩
  · exact incomplete response received complete
  · exact unfailed event member failed

theorem atomic_of_moved {early : List (Event FileSystem)} {filled : FileSystem}
    {answer : Except FileError Unit}
    (run : (download url destination).run.Runs (faultyConduct tool) start
      (early ++ [moving destination filled answer final]) (answer.mapError .file) final)
    (stages : ∀ event ∈ early, Stages url (destination.withSuffix partSuffix) event.request)
    (received : Received url start response early) (complete : Complete response)
    (unfailed : ∀ event ∈ early, ¬ Failed event.request event.answer)
    (held : filled.read (destination.withSuffix partSuffix) = .ok response.chunks.flatten) :
    Atomic url destination start (early ++ [moving destination filled answer final])
      (answer.mapError .file) final := by
  have conducted := List.forall_mem_append.mp run.conducted
  obtain ⟨between, reached⟩ := run.kept_so_far rfl
    (fun files => files.named? destination = start.named? destination)
    (fun event member was =>
      (destination_of_stages (stages event member) (conducted.1 event member)).trans was) rfl
  have before : filled.named? destination = start.named? destination :=
    reached (moving destination filled answer final) rfl
  have moved : faultyConduct tool (.renameFile (destination.withSuffix partSuffix) destination)
      filled answer final := conducted.2 _ List.mem_cons_self
  have asks : ∀ event ∈ early ++ [moving destination filled answer final],
      Stages url (destination.withSuffix partSuffix) event.request ∨
        event.request = .renameFile (destination.withSuffix partSuffix) destination :=
    List.forall_mem_append.mpr
      ⟨fun event member => .inl (stages event member), by simp [moving]⟩
  cases answer with
  | error cause =>
      obtain rfl := unmoved_of_error moved
      refine ⟨asks, download_elsewhere run, List.forall_mem_append.mpr
        ⟨fun event member => .inl (between event member), by simpa using .inl before⟩,
        fun _ _ => before, iff_of_false nofun fun ⟨_, others⟩ => ?_, nofun⟩
      exact others _ (List.mem_append_right _ List.mem_cons_self) rfl
  | ok value =>
      have renamed := Applies.eq_ok (conduct_of_not_failed moved nofun)
      refine ⟨asks, download_elsewhere run, List.forall_mem_append.mpr
        ⟨fun event member => .inl (between event member), by simp [moving, Except.mapError]⟩, nofun,
        iff_of_true rfl ⟨⟨response, received.append, complete⟩, List.forall_mem_append.mpr
          ⟨unfailed, List.forall_mem_singleton.mpr nofun⟩⟩, fun _ other otherReceived => ?_⟩
      rw [received.append.unique otherReceived]
      exact read_of_rename held renamed

/-- Whatever the server answers, whatever the destination and its part were before and whichever
operation on files fails, a file is downloaded as a whole or its destination is what it was. -/
theorem download_atomic
    (run : (download url destination).run.Runs (faultyConduct tool) start events outcome final) :
    Atomic url destination start events outcome final := by
  cases course_of_download run with
  | stopped stages why => exact atomic_of_stopped run stages why
  | moved stages received complete unfailed held =>
      exact atomic_of_moved run stages received complete unfailed held

/-! ## A body in two pieces -/

def twoPieces (url : String) : Except String Response :=
  if url = "https://host/a.img" then
    .ok ⟨200, some 5, [Bytes.ofText "abc", Bytes.ofText "de"], none⟩
  else .error "unreachable"

def leftoverShelf : FileSystem where
  entries := [(["images"], .directory), (["images", "a.img"], .file (Bytes.ofText "old")),
    (["images", "a.img.part"], .file (Bytes.ofText "left over"))]

def unused (_ : List String) (files : FileSystem) : Except ToolFailure ToolOutput × FileSystem :=
  (.ok {}, files)

def idleTool : SignatureToolConduct := fun _ before _ after => after = before

theorem faultyConduct_respond (request : Request) (files : FileSystem) :
    faultyConduct idleTool request files (respond unused twoPieces request files).1
      (respond unused twoPieces request files).2 :=
  .inl (conduct_respond (fun _ _ => rfl) request files)

/-- Files to which nothing can be appended: what they held is lost with the attempt. -/
def respondFull : Script.Responder FileSystem
  | .appendFile path _, files =>
      (.error (.other "no space"), ((files.write path (Bytes.ofText "a")).toOption.getD files))
  | request, files => respond unused twoPieces request files

theorem faultyConduct_respondFull (request : Request) (files : FileSystem) :
    faultyConduct idleTool request files (respondFull request files).1
      (respondFull request files).2 := by
  cases request with
  | appendFile path content =>
      refine .inr ⟨rfl, ?_⟩
      change DiffersOnlyAt [path] files ((files.write path (Bytes.ofText "a")).toOption.getD files)
      cases written : files.write path (Bytes.ofText "a") with
      | ok changed => exact modifyFile_differs written List.mem_cons_self
      | error cause => exact .refl _ _
  | _ => exact faultyConduct_respond _ _

/-- Two pieces replace an older file; where they cannot be written, the older file stays. -/
theorem pieces_replace_or_stay :
    (∃ events final, (download "https://host/a.img" ⟨"/images/a.img"⟩).run.Runs
        (faultyConduct idleTool) leftoverShelf events (.ok ()) final ∧
      Atomic "https://host/a.img" ⟨"/images/a.img"⟩ leftoverShelf events (.ok ()) final ∧
      final.read ⟨"/images/a.img"⟩ = .ok (Bytes.ofText "abcde")) ∧
    ∃ events failure final, (download "https://host/a.img" ⟨"/images/a.img"⟩).run.Runs
        (faultyConduct idleTool) leftoverShelf events (.error failure) final ∧
      Atomic "https://host/a.img" ⟨"/images/a.img"⟩ leftoverShelf events (.error failure) final ∧
      final.read ⟨"/images/a.img"⟩ = .ok (Bytes.ofText "old") := by
  constructor
  · obtain ⟨events, run⟩ := Script.runs_run faultyConduct_respond
      (download "https://host/a.img" ⟨"/images/a.img"⟩).run leftoverShelf
    have ended : ((download "https://host/a.img" ⟨"/images/a.img"⟩).run.run
        (respond unused twoPieces) leftoverShelf).1 = .ok () := by decide +kernel
    rw [ended] at run
    exact ⟨events, _, run, download_atomic run, by decide +kernel⟩
  · obtain ⟨events, run⟩ := Script.runs_run faultyConduct_respondFull
      (download "https://host/a.img" ⟨"/images/a.img"⟩).run leftoverShelf
    have ended : ((download "https://host/a.img" ⟨"/images/a.img"⟩).run.run
        respondFull leftoverShelf).1 = .error (.file (.other "no space")) := by decide +kernel
    rw [ended] at run
    exact ⟨events, _, _, run, download_atomic run, by decide +kernel⟩

end Download

end VirtualLab
