import VirtualLab.Proofs.ConfigurationErrors
import VirtualLab.Proofs.InstallOptions

/-!
# What the documents of a guest say

The first document says who the guest is and the second how it is set up. They are written exactly
when the key of the guest's user is found, if there is one to be found, and are read back to all
that the machine says of its guest, the commands for all hosts before its own. Machines that are
not alike in this have different documents.
-/

namespace VirtualLab.BootConfig

open Yaml (Value)

/-! ## Reading the documents

The first document gives the names of a guest and of its host, the second its set-up, which stands
after a line of its own.
-/

structure GuestSetup where
  hostname : String
  fqdn : String
  user : String
  keys : List String
  packages : List String
  timezone : Option String
  commands : List String
  deriving DecidableEq, Repr

def GuestSetup.of (machine : Machine) (hostsCommands keys : List String) : GuestSetup where
  hostname := machine.hostname
  fqdn := machine.fqdn
  user := machine.cloudInit.user
  keys := keys
  packages := machine.cloudInit.packages
  timezone := machine.cloudInit.timezone
  commands := hostsCommands ++ machine.cloudInit.runcmd

def identityOf (document : Value) : Option (String × String) := do
  let vmName ← (← document.field? "instance-id").text?
  let hostname ← (← document.field? "local-hostname").text?
  return (vmName, hostname)

def setupOf (document : Value) : Option GuestSetup := do
  let [guest] ← (← document.field? "users").items? | none
  return {
    hostname := ← (← document.field? "hostname").text?
    fqdn := ← (← document.field? "fqdn").text?
    user := ← (← guest.field? "name").text?
    keys := ← guest.listedTexts "ssh_authorized_keys"
    packages := ← document.listedTexts "packages"
    timezone := ← document.optionalText "timezone"
    commands := ← document.listedTexts "runcmd"
  }

def setupLine : String := "#cloud-config"

def bodyOf (text : String) : Option String := do
  let (line, body) ← Text.splitFirst ['\n'] text.toList
  if String.ofList line = setupLine then some (String.ofList body) else none

theorem bodyOf_header (body : String) : bodyOf (userDataHeader ++ body) = some body := by
  have lines : (userDataHeader ++ body).toList = setupLine.toList ++ '\n' :: body.toList := by
    rw [String.toList_append]
    rfl
  have plain : '\n' ∉ setupLine.toList := by decide
  rw [bodyOf, lines, InstallOptions.splitFirst_of_plain plain]
  simp

variable {machine : Machine} {hosts keys : List String}

theorem identityOf_metaDataFields :
    identityOf (.mapping (metaDataFields machine)) = some (machine.vmName, machine.hostname) := by
  simp [identityOf, metaDataFields, Value.text?]

theorem setupOf_userDataFields :
    setupOf (.mapping (userDataFields machine hosts keys)) =
      some (.of machine hosts keys) := by
  let written : Value := .mapping (userDataFields machine hosts keys)
  have readKeys : (guestUser machine.cloudInit.user keys).listedTexts "ssh_authorized_keys" =
      some keys := Value.listedTexts_of_field? (by simp [guestUser])
  have readPackages : written.listedTexts "packages" = some machine.cloudInit.packages :=
    Value.listedTexts_of_field? (by simp [written, userDataFields])
  have readTimezone : written.optionalText "timezone" = some machine.cloudInit.timezone :=
    Value.optionalText_of_field? (by simp [written, userDataFields])
  have readCommands : written.listedTexts "runcmd" = some (hosts ++ machine.cloudInit.runcmd) :=
    Value.listedTexts_of_field? (by simp [written, userDataFields])
  have guest : written.field? "users" =
      some (.sequence [guestUser machine.cloudInit.user keys]) := by
    simp [written, userDataFields]
  have name : (guestUser machine.cloudInit.user keys).field? "name" =
      some (.text machine.cloudInit.user) := by simp [guestUser]
  have hostname : written.field? "hostname" = some (.text machine.hostname) := by
    simp [written, userDataFields]
  have fqdn : written.field? "fqdn" = some (.text machine.fqdn) := by
    simp [written, userDataFields]
  change setupOf written = _
  simp [setupOf, guest, name, hostname, fqdn, readKeys, readPackages, readTimezone, readCommands,
    Value.items?, Value.text?, GuestSetup.of]

/-- A reader reads both documents of a machine as the values that were written. -/
structure Restores (read : String → Option Value) (machine : Machine) (hosts keys : List String) :
    Prop where
  metaData : read (Value.document (metaDataFields machine)) =
    some (.mapping (metaDataFields machine))
  userData : read (Value.document (userDataFields machine hosts keys)) =
    some (.mapping (userDataFields machine hosts keys))

/-- Read by a reader, the documents say who a machine is, and how it is set up when its user has
these keys. -/
structure Documents.Tell (documents : Documents) (read : String → Option Value) (machine : Machine)
    (hosts keys : List String) : Prop where
  identity : (read documents.metaData).bind identityOf = some (machine.vmName, machine.hostname)
  setup : ((bodyOf documents.userData).bind read).bind setupOf = some (.of machine hosts keys)

structure Alike (first second : Machine) (keys otherKeys : List String) : Prop where
  vmName : first.vmName = second.vmName
  hostname : first.hostname = second.hostname
  fqdn : first.fqdn = second.fqdn
  user : first.cloudInit.user = second.cloudInit.user
  keys : keys = otherKeys
  packages : first.cloudInit.packages = second.cloudInit.packages
  timezone : first.cloudInit.timezone = second.cloudInit.timezone
  runcmd : first.cloudInit.runcmd = second.cloudInit.runcmd

/-- Documents that are the same texts tell of machines that are alike. -/
theorem alike_of_tell {read : String → Option Value} {first second : Machine}
    {firstKeys secondKeys : List String} {documents other : Documents}
    (told : documents.Tell read first hosts firstKeys)
    (otherTold : other.Tell read second hosts secondKeys)
    (sameMetaData : documents.metaData = other.metaData)
    (sameUserData : documents.userData = other.userData) :
    Alike first second firstKeys secondKeys := by
  have names := otherTold.identity
  rw [← sameMetaData, told.identity] at names
  have setups := otherTold.setup
  rw [← sameUserData, told.setup] at setups
  simp only [GuestSetup.of, Option.some.injEq, Prod.mk.injEq, GuestSetup.mk.injEq] at names setups
  obtain ⟨hostname, fqdn, user, keys, packages, timezone, commands⟩ := setups
  exact ⟨names.1, hostname, fqdn, user, keys, packages, timezone, List.append_cancel_left commands⟩

/-! ## Writing the documents -/

variable {σ : Type} {conduct : Conduct σ} {home : Option Path} {start final : σ}
  {events : List (Event σ)}

inductive KeysFound (conduct : Conduct σ) (home : Option Path) (machine : Machine) (start : σ) :
    List (Event σ) → List String → σ → Prop
  | absent (unset : machine.cloudInit.pubkey = none) :
      KeysFound conduct home machine start [] [] start
  | resolved {value key : String} {events : List (Event σ)} {final : σ}
      (given : machine.cloudInit.pubkey = some value)
      (accepted : (PublicKey.resolve home value).run.Runs conduct start events (.ok key) final) :
      KeysFound conduct home machine start events [key] final

theorem runs_authorizedKeys :
    (authorizedKeys home machine).run.Runs conduct start events (.ok keys) final ↔
      KeysFound conduct home machine start events keys final := by
  unfold authorizedKeys
  constructor
  · intro run
    cases given : machine.cloudInit.pubkey with
    | none =>
      rw [given] at run
      obtain ⟨rfl, equal, rfl⟩ := Attempt.runs_pure.mp run
      cases equal
      exact .absent given
    | some value =>
      rw [given] at run
      obtain ⟨result, resolving, equal⟩ := Attempt.runs_bind_pure.mp run
      cases result with
      | error failure => cases equal
      | ok key =>
        cases equal
        exact .resolved given resolving
  · intro found
    cases found with
    | absent unset =>
      rw [unset]
      exact Attempt.runs_pure.mpr ⟨rfl, rfl, rfl⟩
    | resolved given accepted =>
      rw [given]
      exact Attempt.runs_bind_pure.mpr ⟨_, accepted, rfl⟩

/-- The documents are written just when the keys are found and the schema exists. -/
theorem runs_render {version : Nat} {documents : Documents} :
    (Documents.render home machine version hosts).run.Runs conduct start events (.ok documents)
        final ↔
      ∃ keys network, KeysFound conduct home machine start events keys final ∧
        networkConfig machine version = .ok network ∧
        documents = ⟨metaData machine,
          userDataHeader ++ Value.document (userDataFields machine hosts keys), network⟩ := by
  unfold Documents.render userData
  constructor
  · intro run
    obtain ⟨text, early, middle, late, writing, rest, rfl⟩ := Attempt.runs_bind_ok.mp run
    obtain ⟨result, finding, equal⟩ := Attempt.runs_bind_pure.mp writing
    rcases Attempt.runs_orFail_bind.mp rest with ⟨_, _, _, impossible, _⟩ | ⟨network, schema, ended⟩
    · cases impossible
    · obtain ⟨rfl, equal', rfl⟩ := Attempt.runs_pure.mp ended
      cases equal'
      cases result with
      | error failure => cases equal
      | ok keys =>
        cases equal
        refine ⟨keys, network, ?_, schema, rfl⟩
        rw [List.append_nil]
        exact runs_authorizedKeys.mp finding
  · rintro ⟨keys, network, found, schema, rfl⟩
    refine Attempt.runs_bind_ok.mpr ⟨_, events, final, [],
      Attempt.runs_bind_pure.mpr ⟨.ok keys, runs_authorizedKeys.mpr found, rfl⟩, ?_,
      (List.append_nil events).symm⟩
    exact Attempt.runs_orFail_bind.mpr
      (.inr ⟨network, schema, Attempt.runs_pure.mpr ⟨rfl, rfl, rfl⟩⟩)

theorem networkConfig_of_schema {version : Nat} (schema : version = 1 ∨ version = 2) :
    ∃ network, networkConfig machine version = .ok network := by
  rcases schema with rfl | rfl <;> exact ⟨_, rfl⟩

/-- Where a reader restores the documents, those that are written tell of the machine with the keys
that were found. -/
theorem tell_of_render {read : String → Option Value} {version : Nat} {documents : Documents}
    (reads : ∀ {keys}, KeysFound conduct home machine start events keys final →
      Restores read machine hosts keys)
    (run : (Documents.render home machine version hosts).run.Runs conduct start events
      (.ok documents) final) :
    ∃ keys, KeysFound conduct home machine start events keys final ∧
      documents.Tell read machine hosts keys := by
  obtain ⟨keys, network, found, _, rfl⟩ := runs_render.mp run
  obtain ⟨readMetaData, readUserData⟩ := reads found
  refine ⟨keys, found, ?_, ?_⟩
  · change (read (Value.document (metaDataFields machine))).bind identityOf = _
    rw [readMetaData]
    exact identityOf_metaDataFields
  · rw [bodyOf_header, Option.bind_some, readUserData]
    exact setupOf_userDataFields

/-- Of machines whose documents a reader restores: with the schema of an image that is accepted, the
documents of a machine are written exactly when its key is found, or there is none to be found. They
tell all that the machine says of its guest, and those of a machine that is not alike are others. -/
theorem documents_tell_machine {directory : Path} {declaration : ImageDeclaration}
    {image : CloudImage} (accepted : CloudImage.resolveIn directory declaration = .ok image)
    (machines : List Machine) (read : String → Option Value)
    (reads : ∀ machine ∈ machines, ∀ {start events keys final},
      KeysFound conduct home machine start events keys final → Restores read machine hosts keys) :
    ∀ machine ∈ machines, ∀ start events final,
      ((∃ documents, (Documents.render home machine image.networkVersion hosts).run.Runs conduct
          start events (.ok documents) final) ↔
        ∃ keys, KeysFound conduct home machine start events keys final) ∧
      ∀ documents, (Documents.render home machine image.networkVersion hosts).run.Runs conduct
          start events (.ok documents) final →
        ∃ keys, KeysFound conduct home machine start events keys final ∧
          documents.Tell read machine hosts keys ∧
          ∀ other ∈ machines, ∀ {otherVersion otherStart otherEvents otherFinal otherDocuments},
            (Documents.render home other otherVersion hosts).run.Runs conduct otherStart
              otherEvents (.ok otherDocuments) otherFinal →
            documents.metaData = otherDocuments.metaData →
            documents.userData = otherDocuments.userData →
            ∃ otherKeys, KeysFound conduct home other otherStart otherEvents otherKeys otherFinal ∧
              Alike machine other keys otherKeys := by
  intro machine member start events final
  refine ⟨⟨?_, ?_⟩, fun documents run => ?_⟩
  · rintro ⟨documents, run⟩
    obtain ⟨keys, _, found, _⟩ := runs_render.mp run
    exact ⟨keys, found⟩
  · rintro ⟨keys, found⟩
    obtain ⟨network, written⟩ :=
      networkConfig_of_schema (CloudImage.networkVersion_of_resolveIn accepted)
    exact ⟨_, runs_render.mpr ⟨keys, network, found, written, rfl⟩⟩
  · obtain ⟨keys, found, told⟩ := tell_of_render (reads machine member) run
    refine ⟨keys, found, told, fun other among _ _ _ _ _ otherRun sameMetaData sameUserData =>
      ?_⟩
    obtain ⟨otherKeys, otherFound, otherTold⟩ := tell_of_render (reads other among) otherRun
    exact ⟨otherKeys, otherFound, alike_of_tell told otherTold sameMetaData sameUserData⟩

/-! ### Two guests -/

def keyedMachine : MachineDeclaration where
  vmName := some "web"
  cloudInit := some {
    pubkey := some "ssh-ed25519 AAAA lab\n", timezone := some "Europe/Berlin"
    packages := some ["vim"], runcmd := some ["systemctl enable web"] }

def keylessMachine : MachineDeclaration where
  vmName := some "db"
  hostname := some "web"

def publishedImage : ImageDeclaration where
  name := "fedora40"
  imageUrl := "https://example.org/fedora.qcow2"
  networkVersion := some 2

def silent : Conduct Unit := fun _ _ _ _ => False

theorem keysFound_of_line {value key : String} (given : machine.cloudInit.pubkey = some value)
    (resolved : PublicKey.resolve home value = pure key)
    (found : KeysFound conduct home machine start events keys final) : keys = [key] := by
  cases found with
  | absent unset => simp [unset] at given
  | resolved configured accepted =>
    cases given.symm.trans configured
    rw [resolved] at accepted
    cases (Attempt.runs_pure.mp accepted).2.1
    rfl

theorem keysFound_of_none (unset : machine.cloudInit.pubkey = none)
    (found : KeysFound conduct home machine start events keys final) : keys = [] := by
  cases found with
  | absent => rfl
  | resolved configured _ => simp [unset] at configured

theorem two_guests_told_apart :
    ∃ image web db, CloudImage.resolveIn ⟨"/images"⟩ publishedImage = .ok image ∧
      Machine.resolve Machine.pairEnvironment keyedMachine = .ok web ∧
      Machine.resolve Machine.pairEnvironment keylessMachine = .ok db ∧
      ∃ read documents other,
        (Documents.render none web image.networkVersion ["ping -c1 db"]).run.Runs silent () []
          (.ok documents) () ∧
        (Documents.render none db image.networkVersion ["ping -c1 db"]).run.Runs silent () []
          (.ok other) () ∧
        documents.Tell read web ["ping -c1 db"] ["ssh-ed25519 AAAA lab"] ∧
        other.Tell read db ["ping -c1 db"] [] ∧
        (documents.metaData, documents.userData) ≠ (other.metaData, other.userData) := by
  obtain ⟨image, accepted⟩ :
      ∃ image, CloudImage.resolveIn ⟨"/images"⟩ publishedImage = .ok image := ⟨_, rfl⟩
  obtain ⟨web, webResolved⟩ :
      ∃ web, Machine.resolve Machine.pairEnvironment keyedMachine = .ok web := ⟨_, rfl⟩
  obtain ⟨db, dbResolved⟩ :
      ∃ db, Machine.resolve Machine.pairEnvironment keylessMachine = .ok db := ⟨_, rfl⟩
  have hasLine : web.cloudInit.pubkey = some "ssh-ed25519 AAAA lab\n" := by
    cases webResolved
    rfl
  have noKey : db.cloudInit.pubkey = none := by
    cases dbResolved
    rfl
  have line : PublicKey.resolve none "ssh-ed25519 AAAA lab\n" = pure "ssh-ed25519 AAAA lab" := by
    rfl
  let hosts := ["ping -c1 db"]
  let written := [metaDataFields web, userDataFields web hosts ["ssh-ed25519 AAAA lab"],
    metaDataFields db, userDataFields db hosts []]
  have apart : (written.map Value.document).Nodup := by
    cases webResolved
    cases dbResolved
    decide +kernel
  have reads : ∀ machine ∈ [web, db], ∀ {start events keys final},
      KeysFound silent none machine start events keys final →
        Restores (Machine.readerOf written) machine hosts keys := by
    intro machine member start events keys final found
    rcases List.mem_pair.mp member with rfl | rfl
    · obtain rfl := keysFound_of_line hasLine line found
      exact ⟨Machine.readerOf_document apart (by simp [written]),
        Machine.readerOf_document apart (by simp [written])⟩
    · obtain rfl := keysFound_of_none noKey found
      exact ⟨Machine.readerOf_document apart (by simp [written]),
        Machine.readerOf_document apart (by simp [written])⟩
  have told := documents_tell_machine accepted [web, db] _ reads
  obtain ⟨webWritten, webTells⟩ := told web (by simp) () [] ()
  obtain ⟨dbWritten, dbTells⟩ := told db (by simp) () [] ()
  obtain ⟨documents, run⟩ := webWritten.mpr
    ⟨_, .resolved hasLine (line ▸ Attempt.runs_pure.mpr ⟨rfl, rfl, rfl⟩)⟩
  obtain ⟨other, otherRun⟩ := dbWritten.mpr ⟨_, .absent noKey⟩
  obtain ⟨keys, found, tells, apartFrom⟩ := webTells documents run
  obtain ⟨otherKeys, otherFound, otherTells, _⟩ := dbTells other otherRun
  obtain rfl := keysFound_of_line hasLine line found
  obtain rfl := keysFound_of_none noKey otherFound
  refine ⟨image, web, db, accepted, webResolved, dbResolved, _, documents, other, run, otherRun,
    tells, otherTells, fun same => ?_⟩
  obtain ⟨sameMetaData, sameUserData⟩ := Prod.mk.inj same
  obtain ⟨_, _, alike⟩ := apartFrom db (by simp) otherRun sameMetaData sameUserData
  have sameName := alike.vmName
  cases webResolved
  cases dbResolved
  exact absurd sameName (by decide)

end VirtualLab.BootConfig
