import VirtualLab.Manifest.Declaration
import VirtualLab.Script
import VirtualLab.Yaml.Node.Decode
import VirtualLab.Yaml.Node.Read

/-!
# Reading manifests

How the records of a manifest are written in a document, and how a manifest is loaded from a file.
-/

namespace VirtualLab

open Yaml.Node (Decoder Fields)

def Manifest.numberBound : Nat := Nat.pow 2 32

def NameserversDeclaration.decode : Decoder NameserversDeclaration := fun document node => do
  let fields ← Fields.ofNode ["addresses", "search"] document node
  return {
    addresses := ← fields.getD "addresses" Decoder.text.list []
    search := ← fields.getD "search" Decoder.text.list []
  }

def InterfaceDeclaration.decode : Decoder InterfaceDeclaration := fun document node => do
  let fields ← Fields.ofNode ["name", "network", "ip4", "ip4gw", "nameservers"] document node
  return {
    name := ← fields.get? "name" .text
    network := ← fields.get? "network" .text
    address := ← fields.get? "ip4" .text
    gateway := ← fields.get? "ip4gw" .text
    nameservers := ← fields.get? "nameservers" NameserversDeclaration.decode
  }

def DiskDeclaration.decode : Decoder DiskDeclaration := fun document node => do
  let fields ← Fields.ofNode ["name", "size"] document node
  return { name := ← fields.get "name" .text, size := ← fields.get? "size" .text }

def CloudInitDeclaration.decode : Decoder CloudInitDeclaration := fun document node => do
  let fields ← Fields.ofNode ["user", "pubkey", "timezone", "packages", "runcmd"] document node
  return {
    user := ← fields.get? "user" .text
    pubkey := ← fields.get? "pubkey" .text
    timezone := ← fields.get? "timezone" .text
    packages := ← fields.get? "packages" Decoder.text.list
    runcmd := ← fields.get? "runcmd" Decoder.text.list
  }

def Mount.decode : Decoder Mount := fun document node => do
  let fields ← Fields.ofNode ["source", "target", "readonly"] document node
  return {
    source := ← fields.get "source" .text
    target := ← fields.get "target" .text
    readonly := ← fields.getD "readonly" .flag false
  }

def DefaultsDeclaration.decode : Decoder DefaultsDeclaration := fun document node => do
  let fields ← Fields.ofNode
    ["domain", "os", "cpu", "memory", "cloud_image_basedir", "disk_image_basedir", "interfaces",
      "disks", "cloud_init", "mounts"] document node
  return {
    domain := ← fields.get? "domain" .text
    os := ← fields.get? "os" .text
    cpu := ← fields.get? "cpu" (.number Manifest.numberBound)
    memory := ← fields.get? "memory" (.number Manifest.numberBound)
    cloudImageDirectory := ← fields.get? "cloud_image_basedir" .text
    diskImageDirectory := ← fields.get? "disk_image_basedir" .text
    interfaces := ← fields.getD "interfaces" InterfaceDeclaration.decode {}
    disks := ← fields.getD "disks" (Decoder.list DiskDeclaration.decode) []
    cloudInit := ← fields.getD "cloud_init" CloudInitDeclaration.decode {}
    mounts := ← fields.getD "mounts" (Decoder.list Mount.decode) []
  }

def MachineDeclaration.decode : Decoder MachineDeclaration := fun document node => do
  let fields ← Fields.ofNode
    ["vm_name", "hostname", "fqdn", "os", "cpu", "memory", "interfaces", "disks", "cloud_init"]
    document node
  return {
    vmName := ← fields.get? "vm_name" .text
    hostname := ← fields.get? "hostname" .text
    fqdn := ← fields.get? "fqdn" .text
    os := ← fields.get? "os" .text
    cpu := ← fields.get? "cpu" (.number Manifest.numberBound)
    memory := ← fields.get? "memory" (.number Manifest.numberBound)
    interfaces := ← fields.getD "interfaces" (Decoder.list InterfaceDeclaration.decode) []
    disks := ← fields.getD "disks" (Decoder.list DiskDeclaration.decode) []
    cloudInit := ← fields.get? "cloud_init" CloudInitDeclaration.decode
  }

def EnvironmentDeclaration.decode : Decoder EnvironmentDeclaration := fun document node => do
  let fields ← Fields.ofNode ["name", "libvirt_uri", "config_defaults", "machines"] document node
  return {
    name := ← fields.get? "name" .text
    uri := ← fields.get? "libvirt_uri" .text
    defaults := ← fields.getD "config_defaults" DefaultsDeclaration.decode {}
    machines := ← fields.getD "machines" (Decoder.list MachineDeclaration.decode) []
  }

def ImageDeclaration.decode : Decoder ImageDeclaration := fun document node => do
  let fields ← Fields.ofNode
    ["name", "image_url", "checksum_url", "checksum_type", "checksum_url_gpg", "network_version",
      "os_variant"] document node
  return {
    name := ← fields.get "name" .text
    imageUrl := ← fields.get "image_url" .text
    checksumUrl := ← fields.get? "checksum_url" .text
    checksumType := ← fields.get? "checksum_type" .text
    keyUrl := ← fields.get? "checksum_url_gpg" .text
    networkVersion := ← fields.get? "network_version" (.number 256)
    osVariant := ← fields.get? "os_variant" .text
  }

namespace Manifest

/-- Reads a manifest. A text without a document is the empty manifest. -/
def ofText (text : String) : Except Yaml.ReadError Manifest := do
  match ← Yaml.Node.ofText text with
  | none => return {}
  | some document =>
    let fields ← Fields.ofNode ["environment", "images"] document document
    return {
      environments := ← fields.getD "environment" (Decoder.list EnvironmentDeclaration.decode) []
      images := ← fields.getD "images" (Decoder.list ImageDeclaration.decode) []
    }

def parse (text : String) : Except LabError Manifest :=
  (ofText text).mapError fun error => .malformed error.message

def load (path : Path) : LabTask Manifest := do
  if !(← Attempt.ask (.isFile path)) then throw (.config (.manifestMissing path))
  let text ← Attempt.orFail .file (← ExceptT.lift (Script.readText path))
  Attempt.orFail (fun error => .config (.manifestMalformed path (LabError.message error)))
    (parse text)

end Manifest

end VirtualLab
