import VirtualLab.CommandLine.Run
import VirtualLab.Proofs.Acquisition

/-!
# Selected images

The images that are meant by some names are attempted one after the other, in the order in which
they are declared, whatever came of those before. All attempts count: the command succeeds if each
of them did, and otherwise tells how many failed, and which, and why.
-/

namespace VirtualLab

namespace Script

theorem exists_runs {σ α : Type} {conduct : Conduct σ}
    (answers : ∀ request state, ∃ answer after, conduct request state answer after)
    (script : Script α) (start : σ) :
    ∃ events value final, script.Runs conduct start events value final := by
  induction script generalizing start with
  | done value => exact ⟨[], value, start, .done value start⟩
  | ask request next induction =>
      obtain ⟨answer, middle, answered⟩ := answers request start
      obtain ⟨events, value, final, rest⟩ := induction answer middle
      exact ⟨_, value, final, .ask answered rest⟩

end Script

namespace Command

open FileSystem

structure ImageTrial (σ : Type) where
  declaration : ImageDeclaration
  before : σ
  events : List (Event σ)
  outcome : Except LabError Unit
  after : σ

variable {σ : Type} {conduct : Conduct σ} {environment : Environment}

namespace ImageTrial

def announced (image : CloudImage) (report : CloudImage.AcquireReport) (before after : σ) :
    Event σ :=
  ⟨before, .print (imageLine image report ++ "\n"), (), after⟩

inductive Follows (conduct : Conduct σ) (environment : Environment) : ImageTrial σ → Prop
  | unsettled {declaration : ImageDeclaration} {state : σ} {failure : LabError}
      (failed : CloudImage.resolve environment declaration = .error failure) :
      Follows conduct environment ⟨declaration, state, [], .error failure, state⟩
  | unacquired {declaration : ImageDeclaration} {image : CloudImage} {before after : σ}
      {events : List (Event σ)} {failure : LabError}
      (settled : CloudImage.resolve environment declaration = .ok image)
      (run : image.acquire.run.Runs conduct before events (.error failure) after) :
      Follows conduct environment ⟨declaration, before, events, .error failure, after⟩
  | ready {declaration : ImageDeclaration} {image : CloudImage} {before middle after : σ}
      {events : List (Event σ)} {report : CloudImage.AcquireReport}
      (settled : CloudImage.resolve environment declaration = .ok image)
      (run : image.acquire.run.Runs conduct before events (.ok report) middle)
      (printed : conduct (.print (imageLine image report ++ "\n")) middle () after) :
      Follows conduct environment
        ⟨declaration, before, events ++ [announced image report middle after], .ok (), after⟩

def failure? (trial : ImageTrial σ) : Option (String × LabError) :=
  match trial.outcome with
  | .ok () => none
  | .error failure => some (trial.declaration.name, failure)

def line? (trial : ImageTrial σ) : Option String :=
  trial.failure?.map fun failure => failure.1 ++ ": " ++ failure.2.message

theorem failure?_eq_none_iff {trial : ImageTrial σ} :
    trial.failure? = none ↔ trial.outcome = .ok () := by
  unfold failure?
  split
  · rename_i ready
    simp [ready]
  · rename_i failed
    simp [failed]

theorem failures_cons (trial : ImageTrial σ) (rest : List (ImageTrial σ)) :
    (trial :: rest).filterMap (·.failure?) =
      trial.failure?.toList ++ rest.filterMap (·.failure?) := by
  rw [List.filterMap_cons]
  cases trial.failure? <;> rfl

theorem runs_acquireImage {declaration : ImageDeclaration} {before after : σ}
    {events : List (Event σ)} {outcome : Except LabError Unit} :
    (acquireImage environment declaration).run.Runs conduct before events outcome after ↔
      Follows conduct environment ⟨declaration, before, events, outcome, after⟩ := by
  constructor
  · intro run
    rcases Attempt.runs_orFail_bind.mp run with ⟨_, failed, rfl, rfl, rfl⟩ | ⟨image, settled, going⟩
    · exact .unsettled failed
    rcases Attempt.runs_bind.mp going with ⟨_, acquiring, rfl⟩ |
      ⟨report, _, _, _, acquiring, printing, rfl⟩
    · exact .unacquired settled acquiring
    · obtain ⟨_, printed, rfl, rfl⟩ := Attempt.runs_ask.mp printing
      exact .ready settled acquiring printed
  · intro follows
    refine Attempt.runs_orFail_bind.mpr ?_
    cases follows with
    | unsettled failed => exact .inl ⟨_, failed, rfl, rfl, rfl⟩
    | unacquired settled acquiring =>
        exact .inr ⟨_, settled, Attempt.runs_bind.mpr (.inl ⟨_, acquiring, rfl⟩)⟩
    | ready settled acquiring printed =>
        refine .inr ⟨_, settled, Attempt.runs_bind.mpr (.inr ⟨_, _, _, _, acquiring, ?_, rfl⟩)⟩
        exact Attempt.runs_ask.mpr ⟨(), printed, rfl, rfl⟩

end ImageTrial

/-- One attempt comes after the other, however that ended. -/
inductive InTurn (conduct : Conduct σ) (environment : Environment) :
    σ → List (ImageTrial σ) → σ → Prop
  | nil (state : σ) : InTurn conduct environment state [] state
  | cons {trial : ImageTrial σ} {rest : List (ImageTrial σ)} {final : σ}
      (follows : trial.Follows conduct environment)
      (others : InTurn conduct environment trial.after rest final) :
      InTurn conduct environment trial.before (trial :: rest) final

theorem runs_acquireImages_cons {declaration : ImageDeclaration} {rest : List ImageDeclaration}
    {start final : σ} {events : List (Event σ)} {failures : List (String × LabError)} :
    (acquireImages environment (declaration :: rest)).Runs conduct start events failures final ↔
      ∃ outcome early middle late later,
        ImageTrial.Follows conduct environment ⟨declaration, start, early, outcome, middle⟩ ∧
        (acquireImages environment rest).Runs conduct middle late later final ∧
        events = early ++ late ∧
        failures =
          (ImageTrial.failure? ⟨declaration, start, early, outcome, middle⟩).toList ++ later := by
  rw [acquireImages, Script.runs_bind]
  constructor
  · rintro ⟨outcome, early, middle, _, acquiring, going, rfl⟩
    obtain ⟨later, late, _, _, others, ended, rfl⟩ := Script.runs_bind.mp going
    refine ⟨outcome, early, middle, late, later, ImageTrial.runs_acquireImage.mp acquiring, ?_⟩
    cases outcome with
    | ok | error =>
        obtain ⟨rfl, rfl, rfl⟩ := Script.runs_pure.mp ended
        exact ⟨others, by rw [List.append_nil], rfl⟩
  · rintro ⟨outcome, early, middle, late, later, follows, others, rfl, rfl⟩
    refine ⟨outcome, early, middle, late, ImageTrial.runs_acquireImage.mpr follows,
      Script.runs_bind.mpr ⟨later, late, final, [], others, ?_, by rw [List.append_nil]⟩, rfl⟩
    cases outcome <;> exact Script.runs_pure.mpr ⟨rfl, rfl, rfl⟩

/-- The declared images are attempted once each, in order, and their failures are collected. -/
theorem runs_acquireImages {declarations : List ImageDeclaration} {start final : σ}
    {events : List (Event σ)} {failures : List (String × LabError)} :
    (acquireImages environment declarations).Runs conduct start events failures final ↔
      ∃ trials, trials.map (·.declaration) = declarations ∧
        InTurn conduct environment start trials final ∧ events = trials.flatMap (·.events) ∧
        failures = trials.filterMap (·.failure?) := by
  -- The state that one attempt leaves is the one from which the others go on.
  induction declarations generalizing start events failures with
  | nil =>
      constructor
      · intro run
        obtain ⟨rfl, rfl, rfl⟩ := Script.runs_pure.mp run
        exact ⟨[], rfl, .nil _, rfl, rfl⟩
      · rintro ⟨trials, empty, inTurn, rfl, rfl⟩
        obtain rfl := List.map_eq_nil_iff.mp empty
        cases inTurn
        exact .done _ _
  | cons declaration rest induction =>
      rw [runs_acquireImages_cons]
      constructor
      · rintro ⟨outcome, early, middle, late, later, follows, others, rfl, rfl⟩
        obtain ⟨trials, rfl, inTurn, rfl, rfl⟩ := induction.mp others
        exact ⟨⟨declaration, start, early, outcome, middle⟩ :: trials, rfl,
          .cons follows inTurn, rfl, (ImageTrial.failures_cons _ trials).symm⟩
      · rintro ⟨trials, attempted, inTurn, rfl, rfl⟩
        cases inTurn with
        | nil => cases attempted
        | @cons trial trials _ follows others =>
            obtain ⟨rfl, rfl⟩ := List.cons.inj attempted
            exact ⟨trial.outcome, trial.events, trial.after, _, _, follows,
              induction.mpr ⟨trials, rfl, others, rfl, rfl⟩, rfl,
              ImageTrial.failures_cons trial trials⟩

/-! ## What the command says of all attempts -/

/-- The command succeeds if all attempts did. If not, it fails with those that failed, and says how
many these are and then, line by line, which. -/
structure SumsUp (trials : List (ImageTrial σ)) (outcome : Except CommandFailure Unit) : Prop where
  succeeds : outcome = .ok () ↔ ∀ trial ∈ trials, trial.outcome = .ok ()
  fails : ∀ failure, outcome = .error failure →
    failure = .imagesFailed (trials.filterMap (·.failure?)) ∧
      failure.message = toString (trials.filterMap (·.line?)).length ++ " image(s) failed:\n" ++
        Text.joined "\n" (trials.filterMap (·.line?))

theorem allReady_iff {trials : List (ImageTrial σ)} :
    trials.filterMap (·.failure?) = [] ↔ ∀ trial ∈ trials, trial.outcome = .ok () := by
  rw [List.filterMap_eq_nil_iff]
  exact forall₂_congr fun _ _ => ImageTrial.failure?_eq_none_iff

theorem message_imagesFailed (trials : List (ImageTrial σ)) :
    (CommandFailure.imagesFailed (trials.filterMap (·.failure?))).message =
      toString (trials.filterMap (·.line?)).length ++ " image(s) failed:\n" ++
        Text.joined "\n" (trials.filterMap (·.line?)) := by
  have lines : (trials.filterMap (·.failure?)).map
      (fun failure => failure.1 ++ ": " ++ failure.2.message) = trials.filterMap (·.line?) := by
    rw [List.map_filterMap]
    rfl
  rw [CommandFailure.message, lines, ← lines, List.length_map]

theorem sumsUp_iff {trials : List (ImageTrial σ)} {outcome : Except CommandFailure Unit} :
    SumsUp trials outcome ↔
      outcome = if trials.filterMap (·.failure?) = [] then .ok ()
        else .error (.imagesFailed (trials.filterMap (·.failure?))) := by
  constructor
  · rintro ⟨succeeds, fails⟩
    split
    · rename_i none
      exact succeeds.mpr (allReady_iff.mp none)
    · rename_i some
      cases outcome with
      | ok value => exact absurd (allReady_iff.mpr (succeeds.mp rfl)) some
      | error failure => rw [(fails failure rfl).1]
  · rintro rfl
    split
    · rename_i none
      exact ⟨iff_of_true rfl (allReady_iff.mp none), by simp⟩
    · rename_i some
      have notReady := fun ready => some (allReady_iff.mpr ready)
      refine ⟨iff_of_false (by simp) notReady, fun failure equal => ?_⟩
      cases equal
      exact ⟨rfl, message_imagesFailed trials⟩

theorem selectedImages_eq (images : List ImageDeclaration) (names : List String) :
    selectedImages images names =
      images.filter fun image => names = [] ∨ image.name ∈ names := by
  refine List.filter_congr fun image _ => ?_
  cases names <;> simp

theorem runs_conclusion {failures : List (String × LabError)} {start final : σ}
    {events : List (Event σ)} {outcome : Except CommandFailure Unit} :
    (if (!failures.isEmpty) = true then throw (.imagesFailed failures)
      else pure () : CommandTask Unit).run.Runs conduct start events outcome final ↔
      events = [] ∧
        outcome = (if failures = [] then .ok () else .error (.imagesFailed failures)) ∧
        final = start := by
  cases failures with
  | nil => exact Attempt.runs_pure
  | cons failure rest => exact Attempt.runs_throw

theorem runs_runInit {workspace : Workspace} {names : List String}
    (declared : ∀ name ∈ names, ∃ image ∈ workspace.manifest.images, image.name = name)
    {start final : σ} {events : List (Event σ)} {outcome : Except CommandFailure Unit} :
    (runInit workspace names).run.Runs conduct start events outcome final ↔
      ∃ trials, trials.map (·.declaration) =
          workspace.manifest.images.filter (fun image => names = [] ∨ image.name ∈ names) ∧
        InTurn conduct workspace.environment start trials final ∧
        events = trials.flatMap (·.events) ∧ SumsUp trials outcome := by
  have allFound : (names.find? fun name => (workspace.manifest.findImage name).isNone) = none := by
    refine List.find?_eq_none.mpr fun name named => ?_
    obtain ⟨image, among, same⟩ := declared name named
    rw [Manifest.findImage, Option.isNone_iff_eq_none, List.find?_eq_none]
    exact fun absent => absent image among (beq_iff_eq.mpr same)
  simp only [runInit, allFound]
  rw [Attempt.runs_lift_bind, ← selectedImages_eq]
  constructor
  · rintro ⟨failures, early, middle, late, acquiring, ending, rfl⟩
    obtain ⟨trials, attempted, inTurn, rfl, rfl⟩ := runs_acquireImages.mp acquiring
    obtain ⟨rfl, concluded, rfl⟩ := runs_conclusion.mp ending
    exact ⟨trials, attempted, inTurn, List.append_nil _, sumsUp_iff.mpr concluded⟩
  · rintro ⟨trials, attempted, inTurn, rfl, sums⟩
    exact ⟨_, _, final, [], runs_acquireImages.mpr ⟨trials, attempted, inTurn, rfl, rfl⟩,
      runs_conclusion.mpr ⟨rfl, sumsUp_iff.mp sums, rfl⟩, (List.append_nil _).symm⟩

/-- If every name is that of a declared image, the images that are meant are attempted, each in its
place among the declared ones and whatever came of the others, and the command sums up all attempts.
How often and in which order the names are given makes no difference. However the surroundings
answer, the command comes to an end. -/
theorem selected_images_attempted_once {workspace : Workspace} {names : List String}
    (declared : ∀ name ∈ names, ∃ image ∈ workspace.manifest.images, image.name = name) :
    (∀ (conduct : Conduct σ) start events outcome final,
      (runInit workspace names).run.Runs conduct start events outcome final ↔
        ∃ trials, trials.map (·.declaration) =
            workspace.manifest.images.filter (fun image => names = [] ∨ image.name ∈ names) ∧
          InTurn conduct workspace.environment start trials final ∧
          events = trials.flatMap (·.events) ∧ SumsUp trials outcome) ∧
      (∀ others : List String, (∀ name, name ∈ others ↔ name ∈ names) →
        ∀ (conduct : Conduct σ) start events outcome final,
          (runInit workspace others).run.Runs conduct start events outcome final ↔
            (runInit workspace names).run.Runs conduct start events outcome final) ∧
      ∀ conduct : Conduct σ, (∀ request state, ∃ answer after, conduct request state answer after) →
        ∀ start, ∃ events outcome final,
          (runInit workspace names).run.Runs conduct start events outcome final := by
  refine ⟨fun _ _ _ _ _ => runs_runInit declared, fun others same _ _ _ _ _ => ?_,
    fun _ answers start => Script.exists_runs answers _ start⟩
  have alsoDeclared : ∀ name ∈ others, ∃ image ∈ workspace.manifest.images, image.name = name :=
    fun name named => declared name ((same name).mp named)
  have empty : others = [] ↔ names = [] := by
    simp only [List.eq_nil_iff_forall_not_mem, same]
  rw [runs_runInit alsoDeclared, runs_runInit declared]
  simp only [same, empty]

/-- Two of the images have one name, and not all of them can be settled. -/
def repeatingWorkspace : Workspace where
  home := none
  manifest := {
    images := [
      { name := "a", imageUrl := "https://h/" },
      { name := "b", imageUrl := "https://h/b.img", networkVersion := some 9 },
      { name := "c", imageUrl := "https://h/c.img" },
      { name := "a", imageUrl := "https://h/a.img" }] }
  environment := {
    name := "lab", uri := "", domain := none, defaults := {}, diskImageDirectory := ⟨"/d"⟩,
    cloudImageDirectory := ⟨"/i"⟩ }

def oneImageFiles : FileSystem where
  entries := [(["i"], .directory), (["i", "cloud-images"], .directory),
    (["i", "cloud-images", "a.img"], .file [])]

def calmConduct : Conduct FileSystem := FileSystem.conduct fun _ before _ after => after = before

def repeatingFailures : List (String × LabError) := [
  ("a", .config (.imageUrlWithoutName "a" "https://h/")),
  ("b", .config (.imageNetworkVersion "b" 9))]

theorem repeated_names_attempted_once :
    (∀ name ∈ ["b", "a", "b"], ∃ image ∈ repeatingWorkspace.manifest.images, image.name = name) ∧
      ∃ events trials final,
        (runInit repeatingWorkspace ["b", "a", "b"]).run.Runs calmConduct oneImageFiles events
          (.error (.imagesFailed repeatingFailures)) final ∧
        trials.map (·.declaration.name) = ["a", "b", "a"] ∧
        InTurn calmConduct repeatingWorkspace.environment oneImageFiles trials final ∧
        events = trials.flatMap (·.events) ∧
        trials.filterMap (·.failure?) = repeatingFailures ∧
        (runInit repeatingWorkspace ["a", "b"]).run.Runs calmConduct oneImageFiles events
          (.error (.imagesFailed repeatingFailures)) final := by
  have declared : ∀ name ∈ ["b", "a", "b"],
      ∃ image ∈ repeatingWorkspace.manifest.images, image.name = name := by
    simp [repeatingWorkspace]
  obtain ⟨events, run⟩ : ∃ events, (runInit repeatingWorkspace ["b", "a", "b"]).run.Runs calmConduct
      oneImageFiles events (.error (.imagesFailed repeatingFailures)) oneImageFiles :=
    @runs_respond _ _ (fun _ files => (.ok {}, files)) (fun _ _ => rfl) (fun url => .error url) _
      oneImageFiles
  obtain ⟨trials, attempted, inTurn, split, sums⟩ :=
    ((selected_images_attempted_once declared).1 _ _ _ _ _).mp run
  refine ⟨declared, events, trials, _, run, ?_, inTurn, split, ?_, ?_⟩
  · have names := congrArg (List.map (·.name)) attempted
    rw [List.map_map] at names
    exact names
  · exact (CommandFailure.imagesFailed.inj (sums.fails _ rfl).1).symm
  · have same : ∀ name, name ∈ ["a", "b"] ↔ name ∈ ["b", "a", "b"] := by simp [or_comm]
    exact ((selected_images_attempted_once declared).2.1 _ same _ _ _ _ _).mpr run

end Command

end VirtualLab
