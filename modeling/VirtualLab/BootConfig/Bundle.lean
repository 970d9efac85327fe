import VirtualLab.BootConfig.Documents

/-!
# The boot medium

The documents are written to the machine's directory and packed into an image that the guest finds
by its volume name.
-/

namespace VirtualLab.BootConfig

structure Bundle where
  metaData : Path
  userData : Path
  networkConfig : Path
  medium : Path
  deriving DecidableEq, Repr, Inhabited

namespace Bundle

def packingTool : String := "genisoimage"

def volumeName : String := "cidata"

def inDirectory (directory : Path) : Bundle where
  metaData := directory.join "meta-data"
  userData := directory.join "user-data"
  networkConfig := directory.join "network-config"
  medium := directory.join "cidata.iso"

def paths (bundle : Bundle) : List Path :=
  [bundle.metaData, bundle.userData, bundle.networkConfig, bundle.medium]

def stageDocument (path : Path) (content : String) : LabTask Unit := do
  if let some directory := path.parent then
    Attempt.orFail (.staging directory) (← Attempt.ask (.createDirectories directory))
  Attempt.orFail (.staging path) (← Attempt.ask (.writeFile path (Bytes.ofText content)))

def stage (bundle : Bundle) (documents : Documents) : LabTask Unit := do
  stageDocument bundle.metaData documents.metaData
  stageDocument bundle.userData documents.userData
  stageDocument bundle.networkConfig documents.networkConfig

def packingArguments (bundle : Bundle) : List String :=
  ["-output", bundle.medium.text, "-volid", volumeName, "-joliet", "-rock",
    bundle.userData.text, bundle.metaData.text, bundle.networkConfig.text]

def package (bundle : Bundle) : Attempt ToolFailure Unit := do
  let _ ← Attempt.orFail id (← Attempt.ask (.runTool packingTool bundle.packingArguments))

/-- Removes the files that are there. A file that cannot be removed stays. -/
def deleteAll : List Path → Script Unit
  | [] => return ()
  | path :: rest => do
    if ← Script.request (.pathExists path) then
      let _ ← Script.request (.removeFile path)
    deleteAll rest

def delete (bundle : Bundle) : Script Unit := deleteAll bundle.paths

end Bundle

end VirtualLab.BootConfig
