import VirtualLab.Domain
import VirtualLab.Error

/-!
# Calls to the hypervisor

What a lab asks of its hypervisor, and what each call is answered with when it succeeds. Nothing is
remembered between calls: a state is as old as the call that read it.
-/

namespace VirtualLab.Hypervisor

inductive Call where
  | domains
  | status (domain : String)
  | start (domain : String)
  | shutdown (domain : String)
  | stop (domain : String)
  | undefine (domain : String)
  | createSnapshot (domain snapshot description : String)
  | snapshots (domain : String)
  | deleteSnapshot (domain snapshot : String)
  | capabilities
  deriving DecidableEq, Repr

abbrev Call.Value : Call → Type
  | .domains => List String
  | .status _ => DomainStatus
  | .start _ => Unit
  | .shutdown _ => Unit
  | .stop _ => Unit
  | .undefine _ => Unit
  | .createSnapshot _ _ _ => Unit
  | .snapshots _ => List String
  | .deleteSnapshot _ _ => Unit
  | .capabilities => String

end VirtualLab.Hypervisor
