import VirtualLab.Proofs.Acquisition

/-!
# Where a digest comes from

An image is compared with a digest from its listing: the checksum file, or the copy of it that the
signature tool wrote. What is in the checksum file was there before or was fetched, complete, from
its URL in the same run, if the image keeps no other file in its place.
-/

namespace VirtualLab

theorem Path.isAbsolute_withSuffix (path : Path) {suffix : String}
    (relative : suffix.toList.head? ≠ some '/') :
    (path.withSuffix suffix).isAbsolute = path.isAbsolute := by
  cases text : path.text.toList <;>
    simp [isAbsolute, withSuffix, String.toList_append, text, relative]

namespace FileSystem

variable {before after : FileSystem} {path : Path}

theorem read_of_modifyFile {change : Bytes → Bytes} {content : Bytes}
    (held : before.read path = .ok content) (changed : before.modifyFile path change = .ok after) :
    after.read path = .ok (change content) := by
  obtain ⟨location, found, entry⟩ := read_eq_ok.mp held
  obtain ⟨file, located⟩ := fileLocation?_eq_some.mp found
  have same : before.modifyFile path change = before.write path (change content) := by
    simp [write, modifyFile, located, entry, file, bind, Except.bind]
  exact read_of_write (same ▸ changed)

theorem read_of_rename {source target : Path} {content : Bytes}
    (held : before.read source = .ok content) (renamed : before.rename source target = .ok after) :
    after.read target = .ok content := by
  unfold rename at renamed
  simp only [held, bind, Except.bind] at renamed
  cases located : before.locate source with
  | error cause => simp [located] at renamed
  | ok location =>
      simp only [located] at renamed
      exact read_of_write renamed

theorem Applies.eq_ok {result : Except FileError FileSystem} {value : Unit}
    (applies : before.Applies result (.ok value) after) : result = .ok after := by
  obtain ⟨changed, _⟩ | ⟨_, _, impossible, _⟩ := applies.changed_or_failed
  · exact changed
  · cases impossible

end FileSystem

namespace Download

open FileSystem

variable {tool : SignatureToolConduct} {start before after : FileSystem}
  {events : List (Event FileSystem)} {url : String} {path destination : Path} {content : Bytes}

/-- Among these events, this is the body of a complete and successful answer from the URL. -/
def Fetched (url : String) (content : Bytes) (events : List (Event FileSystem)) : Prop :=
  ∃ (response : Response) (before after : FileSystem),
    ⟨before, .fetch url, .ok response, after⟩ ∈ events ∧
      200 ≤ response.status ∧ response.status < 300 ∧ response.interruption = none ∧
        (∀ announced, response.announced = some announced →
          announced = 0 ∨ announced = received response.chunks) ∧
          content = response.chunks.flatten

theorem Fetched.mono {more : List (Event FileSystem)} (fetched : Fetched url content events)
    (included : ∀ event ∈ events, event ∈ more) : Fetched url content more := by
  obtain ⟨response, before, after, member, complete⟩ := fetched
  exact ⟨response, before, after, included _ member, complete⟩

theorem read_of_appendAll {chunks : List Bytes} (held : before.read path = .ok content)
    (run : (appendAll path chunks).run.Runs (conduct tool) before events (.ok ()) after) :
    after.read path = .ok (content ++ chunks.flatten) := by
  induction chunks generalizing before events content with
  | nil =>
      obtain ⟨_, _, rfl⟩ := Attempt.runs_pure.mp run
      simpa using held
  | cons chunk rest induction =>
      obtain ⟨answer, middle, _, applied, going, _⟩ := Attempt.runs_ask_bind.mp run
      rcases Attempt.runs_orFail_bind.mp going with ⟨_, _, _, impossible, _⟩ | ⟨_, rfl, others⟩
      · cases impossible
      · have appended := read_of_modifyFile held (Applies.eq_ok applied)
        have whole := induction appended others
        simpa using whole

private theorem not_runs_throw_ok {α β : Type} {failure : LabError} {next : α → LabTask β}
    {value : β} :
    ¬ ((throw failure : LabTask α) >>= next).run.Runs (conduct tool) before events (.ok value)
      after := by
  intro run
  obtain ⟨_, _, _, _, failing, _⟩ := Attempt.runs_bind_ok.mp run
  cases (Attempt.runs_throw.mp failing).2.1

theorem rename_of_moved
    (run : (Attempt.ask (ε := LabError) (.renameFile path destination) >>=
      Attempt.orFail .file).run.Runs (conduct tool) before events (.ok ()) after) :
    before.rename path destination = .ok after := by
  obtain ⟨answer, _, _, applied, done, _⟩ := Attempt.runs_ask_bind.mp run
  obtain ⟨_, succeeded, rfl⟩ := Attempt.runs_orFail.mp done
  cases answer with
  | error cause => cases succeeded
  | ok value => exact Applies.eq_ok applied

theorem rename_of_download
    (run : (download url destination).run.Runs (conduct tool) before events (.ok ()) after) :
    ∃ (filled : FileSystem) (content : Bytes), Fetched url content events ∧
      filled.read (destination.withSuffix partSuffix) = .ok content ∧
        filled.rename (destination.withSuffix partSuffix) destination = .ok after := by
  obtain ⟨answer, fetching, _, _, responding, rfl⟩ := Attempt.runs_ask_bind.mp run
  rcases Attempt.runs_orFail_bind.mp responding with
    ⟨_, _, _, impossible, _⟩ | ⟨response, rfl, checking⟩
  · cases impossible
  dsimp only at checking
  split at checking
  · exact absurd checking not_runs_throw_ok
  rename_i successful
  obtain ⟨_, begun, _, beginning, writing, rfl⟩ := Attempt.runs_ask_bind.mp checking
  rcases Attempt.runs_orFail_bind.mp writing with ⟨_, _, _, impossible, _⟩ | ⟨_, rfl, filling⟩
  · cases impossible
  obtain ⟨_, filled, whole, finished, appending, ending, rfl⟩ := Attempt.runs_bind_ok.mp filling
  have body : whole.read (destination.withSuffix partSuffix) = .ok response.chunks.flatten := by
    simpa using read_of_appendAll (read_of_write (Applies.eq_ok beginning)) appending
  suffices complete : response.interruption = none ∧
      (∀ announced, response.announced = some announced →
        announced = 0 ∨ announced = received response.chunks) ∧
      whole.rename (destination.withSuffix partSuffix) destination = .ok after by
    obtain ⟨uninterrupted, announced, renamed⟩ := complete
    refine ⟨whole, response.chunks.flatten, ?_, body, renamed⟩
    exact ⟨response, before, fetching, List.mem_cons_self, by omega, by omega, uninterrupted,
      announced, rfl⟩
  cases uninterrupted : response.interruption with
  | some reason =>
      rw [uninterrupted] at ending
      exact absurd ending not_runs_throw_ok
  | none =>
      rw [uninterrupted] at ending
      refine ⟨rfl, ?_⟩
      cases announcement : response.announced with
      | none =>
          rw [announcement] at ending
          exact ⟨by simp, rename_of_moved ending⟩
      | some announced =>
          rw [announcement] at ending
          dsimp only at ending
          split at ending
          · obtain ⟨_, _, _, _, failing, _⟩ := Attempt.runs_ask_bind.mp ending
            exact absurd failing not_runs_throw_ok
          · rename_i enough
            refine ⟨fun length same => ?_, rename_of_moved ending⟩
            cases same
            omega

theorem fetched_of_download
    (run : (download url destination).run.Runs (conduct tool) before events (.ok ()) after)
    (held : after.read destination = .ok content) : Fetched url content events := by
  obtain ⟨filled, body, fetched, filledHeld, renamed⟩ := rename_of_download run
  rwa [Except.ok.inj (held.symm.trans (read_of_rename filledHeld renamed))]

end Download

namespace CloudImage

open FileSystem Download

variable {tool : SignatureToolConduct} {start before after : FileSystem} {image : CloudImage}
  {events : List (Event FileSystem)}

/-! ## Downloads in a row -/

/-- What is read at a path after downloads, of which those to other places leave the path, was
fetched for it or was there before. -/
theorem origin_of_downloadMissing {sources : List (String × Path)} {downloaded : List Path}
    {url : String} {path : Path} {content : Bytes}
    (others : ∀ source ∈ sources,
      source = (url, path) ∨ ∀ other ∈ Download.paths source.2, other.Apart path)
    (run : (downloadMissing sources).run.Runs (conduct tool) before events (.ok downloaded) after)
    (held : after.read path = .ok content) :
    Fetched url content events ∨ before.read path = .ok content := by
  induction sources generalizing before events downloaded with
  | nil =>
      obtain ⟨_, _, rfl⟩ := Attempt.runs_pure.mp run
      exact .inr held
  | cons source rest induction =>
      obtain ⟨own, remaining⟩ := List.forall_mem_cons.mp others
      rcases downloadMissing_cons run with
        ⟨_, later, restRun, among⟩ | ⟨_, early, middle, late, _, downloading, restRun, _, among⟩
      · exact (induction remaining restRun).imp_left fun fetched => fetched.mono among
      · rcases induction remaining restRun with fetched | already
        · exact .inl (fetched.mono fun event member => among event (by simp [member]))
        · rcases own with rfl | apart
          · refine .inl ((fetched_of_download downloading already).mono fun event member => ?_)
            exact among event (by simp [member])
          · have differs : DiffersOnlyAt (Download.paths source.2) _ middle :=
              differs_of_runs (download_confined (by simp [Download.paths])
                (by simp [Download.paths])) downloading
            exact .inr ((differs.read apart).mp already)

/-! ## The listing

What an image is compared with is the checksum file or its verified copy, which was there before or
which the signature tool left.
-/

theorem part_apart_verified (checksum : Path) :
    (checksum.withSuffix partSuffix).Apart (checksum.withSuffix verifiedSuffix) := by
  refine Path.apart_of_siblings ?_ ?_ ?_
  · rw [Path.isAbsolute_withSuffix _ (by decide), Path.isAbsolute_withSuffix _ (by decide)]
  · rw [Path.earlierNames_withSuffix (by decide), Path.earlierNames_withSuffix (by decide)]
  · rw [Path.lastName_withSuffix (by decide), Path.lastName_withSuffix (by decide)]
    intro equal
    have suffixes := congrArg String.length equal
    rw [String.length_append, String.length_append] at suffixes
    have lengths : partSuffix.length ≠ verifiedSuffix.length := by decide
    omega

def besideListing (image : CloudImage) : List Path :=
  Download.paths image.imagePath ++ image.keyPath.toList.flatMap Download.paths ++
    [image.keyringPath]

def ListsAlone (image : CloudImage) (checksum : Path) : Prop :=
  ∀ path ∈ image.besideListing,
    path.Apart checksum ∧ path.Apart (checksum.withSuffix verifiedSuffix)

/-- Where the content of a checksum file comes from: it was fetched in the run, or the file was
there before. -/
def FromSource (url : String) (checksum : Path) (start : FileSystem)
    (events : List (Event FileSystem)) (content : Bytes) : Prop :=
  Fetched url content events ∨ start.read checksum = .ok content

inductive ListingOrigin (image : CloudImage) (url : String) (checksum : Path) (start : FileSystem)
    (events : List (Event FileSystem)) : Bytes → Prop
  | unsigned {listing : Bytes} (origin : FromSource url checksum start events listing) :
      ListingOrigin image url checksum start events listing
  /-- The listing is a verified copy that was there before, and the image has no keys. -/
  | kept {listing : Bytes} (noKey : image.keyPath = none)
      (held : start.read (checksum.withSuffix verifiedSuffix) = .ok listing) :
      ListingOrigin image url checksum start events listing
  /-- The listing is what the signature tool left as the verified copy of the checksum file. -/
  | signed {listing : Bytes} {output : ToolOutput} {before after : FileSystem}
      (decrypted : ⟨before, .runTool signatureTool (decryptArguments image.keyringPath checksum
        (checksum.withSuffix verifiedSuffix)), .ok output, after⟩ ∈ events)
      (origin : ∀ content, before.read checksum = .ok content →
        FromSource url checksum start events content)
      (written : after.read (checksum.withSuffix verifiedSuffix) = .ok listing) :
      ListingOrigin image url checksum start events listing

/-- In the run, the image was compared with a digest from a listing that comes from its own
checksum file. -/
inductive ComparedWithOwn (image : CloudImage) (url : String) (checksum : Path)
    (start : FileSystem) (events : List (Event FileSystem)) : Prop
  | intro {algorithm : ChecksumAlgorithm} {source : Path} {listing content : Bytes} {text : String}
      {state : FileSystem} (algorithmKnown : image.algorithm = .ok algorithm)
      (listingRead : ⟨state, .readFile source, .ok listing, state⟩ ∈ events)
      (imageRead : ⟨state, .readFile image.imagePath, .ok content, state⟩ ∈ events)
      (readable : Bytes.toText? listing = some text)
      (listed : ChecksumEntry.digestOf (ChecksumEntry.ofText text) image.fileName =
        some (algorithm.digest content))
      (origin : image.ListingOrigin url checksum start events listing)

/-! ## A run that compares -/

theorem acquire_compares {report : AcquireReport} (hasUrl : image.checksumUrl.isSome = true)
    (unmarked : (start.createDirectories image.directory).2.isFile image.markerPath = false)
    (run : image.acquire.run.Runs (conduct tool) start events (.ok report) after) :
    ∃ downloaded downloads signing comparing middle signed,
      (downloadMissing image.artifacts).run.Runs (conduct tool)
        (start.createDirectories image.directory).2 downloads (.ok downloaded) middle ∧
      image.verifySignature.run.Runs (conduct tool) middle signing (.ok ()) signed ∧
      image.verifyChecksum.run.Runs (conduct tool) signed comparing (.ok ()) after ∧
      ∀ event ∈ downloads ++ signing ++ comparing, event ∈ events := by
  rw [acquire, Attempt.runs_ask_bind] at run
  obtain ⟨made, ready, _, making, afterMaking, rfl⟩ := run
  have ready_eq : (start.createDirectories image.directory).2 = ready := congrArg Prod.snd making
  rw [ready_eq] at unmarked ⊢
  rcases Attempt.runs_orFail_bind.mp afterMaking with ⟨_, _, _, impossible, _⟩ | ⟨_, rfl, going⟩
  · cases impossible
  obtain ⟨downloaded, downloads, middle, _, downloading, checking, rfl⟩ :=
    Attempt.runs_bind_ok.mp going
  split at checking
  · rename_i noUrl
    simp [Option.isNone_iff_eq_none.mp noUrl] at hasUrl
  obtain ⟨marked, _, _, ⟨rfl, rfl⟩, settling, rfl⟩ := Attempt.runs_ask_bind.mp checking
  split at settling
  · rename_i settled
    obtain ⟨isMarked, nothing⟩ := Bool.and_eq_true_iff.mp settled
    rw [List.isEmpty_iff.mp nothing] at downloading
    rw [eq_of_downloadMissing_nil downloading, unmarked] at isMarked
    cases isMarked
  dsimp only at settling
  rw [verifySignature_of_key] at settling
  obtain ⟨_, signing, signed, _, verifying, judging, rfl⟩ := Attempt.runs_bind_ok.mp settling
  obtain ⟨verdict, comparing, succeeded⟩ := Attempt.runs_bind_pure.mp judging
  cases verdict with
  | error failure => cases succeeded
  | ok value =>
      refine ⟨downloaded, downloads, signing, _, _, signed, downloading, verifying, comparing,
        fun event member => ?_⟩
      simp only [List.mem_append] at member
      simp only [List.mem_append, List.mem_cons]
      tauto

theorem fromSource_of_downloads {url : String} {checksum : Path} {downloaded : List Path}
    {ready middle : FileSystem} {content : Bytes}
    (hasUrl : image.checksumUrl = some url) (hasChecksum : image.checksumPath = some checksum)
    (alone : image.ListsAlone checksum)
    (earlier : ∀ content, ready.read checksum = .ok content → start.read checksum = .ok content)
    (downloading : (downloadMissing image.artifacts).run.Runs (conduct tool) ready events
      (.ok downloaded) middle) (held : middle.read checksum = .ok content) :
    FromSource url checksum start events content := by
  refine (origin_of_downloadMissing (fun source member => ?_) downloading held).imp_right
    (earlier content)
  simp only [artifacts, hasUrl, hasChecksum, CloudImage.source, List.cons_append,
    List.nil_append, List.mem_cons] at member
  rcases member with rfl | rfl | key
  · refine .inr fun other changed => (alone other ?_).1
    simp [besideListing, changed]
  · exact .inl rfl
  · refine .inr fun other changed => (alone other ?_).1
    have isKey := eq_some_of_mem_source key
    simp [besideListing, isKey, changed]

theorem verified_of_downloads {checksum : Path} {outcome : Except LabError (List Path)}
    {ready middle : FileSystem} {content : Bytes} (hasChecksum : image.checksumPath = some checksum)
    (alone : image.ListsAlone checksum)
    (downloading : (downloadMissing image.artifacts).run.Runs (conduct tool) ready events outcome
      middle) :
    middle.read (checksum.withSuffix verifiedSuffix) = .ok content ↔
      ready.read (checksum.withSuffix verifiedSuffix) = .ok content := by
  have confined := downloadMissing_confined
    fun source (member : source ∈ image.artifacts) path changed =>
      List.mem_flatMap.mpr ⟨source, member, changed⟩
  refine (differs_of_runs confined downloading).read fun path changed => ?_
  obtain ⟨source, member, changed⟩ := List.mem_flatMap.mp changed
  rcases List.mem_cons.mp member with rfl | later
  · exact (alone path (by simp [besideListing, changed])).2
  · rcases List.mem_append.mp later with inChecksum | inKey
    · have isChecksum : checksum = source.2 := by
        simpa [hasChecksum] using eq_some_of_mem_source inChecksum
      subst isChecksum
      simp only [Download.paths, List.mem_cons, List.not_mem_nil, or_false] at changed
      rcases changed with rfl | rfl
      · exact part_apart_verified _
      · exact Path.apart_withSuffix _ (by decide) (by decide)
    · have isKey := eq_some_of_mem_source inKey
      exact (alone path (by simp [besideListing, isKey, changed])).2

/-- What a successful comparison reads comes from the image's own source. -/
theorem listingOrigin_of_verifySignature {url : String} {checksum source : Path}
    {middle signed : FileSystem} {listing : Bytes}
    (frame : ∀ {arguments before answer after}, tool arguments before answer after →
      KeepsToOutputs arguments before after)
    (hasChecksum : image.checksumPath = some checksum) (alone : image.ListsAlone checksum)
    (fromSource : ∀ content, middle.read checksum = .ok content →
      FromSource url checksum start events content)
    (verified : ∀ content, middle.read (checksum.withSuffix verifiedSuffix) = .ok content →
      start.read (checksum.withSuffix verifiedSuffix) = .ok content)
    {signing : List (Event FileSystem)}
    (verifying : image.verifySignature.run.Runs (conduct tool) middle signing (.ok ()) signed)
    (among : ∀ event ∈ signing, event ∈ events)
    (chosen : source = if signed.isFile (checksum.withSuffix verifiedSuffix) then
      checksum.withSuffix verifiedSuffix else checksum)
    (listingRead : signed.read source = .ok listing) :
    image.ListingOrigin url checksum start events listing := by
  have keyring := alone image.keyringPath (by simp [besideListing])
  cases hasKey : image.keyPath with
  | none =>
      simp only [verifySignature, hasChecksum, hasKey] at verifying
      obtain ⟨_, _, rfl⟩ := Attempt.runs_pure.mp verifying
      split at chosen <;> rw [chosen] at listingRead
      · exact .kept hasKey (verified _ listingRead)
      · exact .unsigned (fromSource _ listingRead)
  | some keyFile =>
      rcases verifySignature_runs hasChecksum hasKey verifying with
        ⟨_, _, impossible⟩ | ⟨imported, answer, between, importing, decrypting, rfl, equal⟩
      · cases impossible
      cases answer with
      | error cause => cases equal
      | ok decrypted =>
          have imports := (frame importing).importing _ _ rfl
          have decrypts := (frame decrypting).decrypting _ _ _ rfl
          have beforeDecrypting : ∀ content, between.read checksum = .ok content →
              FromSource url checksum start events content := fun content held =>
            fromSource content ((imports.read (by simpa using keyring.1)).mp held)
          split at chosen <;> rw [chosen] at listingRead
          · exact .signed (among _ (List.mem_cons_of_mem _ List.mem_cons_self)) beforeDecrypting
              listingRead
          · refine .unsigned (beforeDecrypting _ ((decrypts.read ?_).mp listingRead))
            simpa using ⟨keyring.1, (Path.apart_withSuffix checksum (by decide) (by decide)).symm⟩

/-- A run on an image that was not marked compares it with what its own source lists, whatever
servers and the signature tool do. -/
theorem comparedWithOwn_of_acquire {url : String} {checksum : Path} {report : AcquireReport}
    (frame : ∀ {arguments before answer after}, tool arguments before answer after →
      KeepsToOutputs arguments before after)
    (hasUrl : image.checksumUrl = some url) (hasChecksum : image.checksumPath = some checksum)
    (alone : image.ListsAlone checksum)
    (unmarked : (before.createDirectories image.directory).2.isFile image.markerPath = false)
    (earlier : ∀ path ∈ [checksum, checksum.withSuffix verifiedSuffix], ∀ content,
      (before.createDirectories image.directory).2.read path = .ok content →
        start.read path = .ok content)
    (run : image.acquire.run.Runs (conduct tool) before events (.ok report) after) :
    image.ComparedWithOwn url checksum start events := by
  obtain ⟨downloaded, downloads, signing, comparing, middle, signed, downloading, verifying,
    judging, among⟩ := acquire_compares (by simp [hasUrl]) unmarked run
  have included : ∀ event ∈ downloads, event ∈ events := fun event member =>
    among event (by simp [member])
  cases verdict_of_verifyChecksum hasChecksum judging with
  | matched hasSource chosen known listingRead readable imageRead listed written =>
      rename_i source algorithm listing bytes text
      cases hasSource.symm.trans hasChecksum
      have origin : image.ListingOrigin url checksum start events listing := by
        refine listingOrigin_of_verifySignature frame hasChecksum alone (fun content held => ?_)
          (fun content held => ?_) verifying (fun event member => among event (by simp [member]))
          chosen listingRead
        · have own := fromSource_of_downloads hasUrl hasChecksum alone (earlier _ (by simp))
            downloading held
          exact own.imp_left fun fetched => fetched.mono included
        · exact earlier _ (by simp) content
            ((verified_of_downloads hasChecksum alone downloading).mp held)
      have second : _ ∈ events := among _ (List.mem_append_right _
        (List.mem_cons_of_mem _ List.mem_cons_self))
      have third : _ ∈ events := among _ (List.mem_append_right _
        (List.mem_cons_of_mem _ (List.mem_cons_of_mem _ List.mem_cons_self)))
      exact .intro known second third readable listed origin

end CloudImage

end VirtualLab
