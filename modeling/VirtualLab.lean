import VirtualLab.Main
import VirtualLab.Proofs.AcquiringAgain
import VirtualLab.Proofs.BackingImages
import VirtualLab.Proofs.ChecksumVerdicts
import VirtualLab.Proofs.ComparedDigests
import VirtualLab.Proofs.Defaults
import VirtualLab.Proofs.DiskAttempts
import VirtualLab.Proofs.DomainReports
import VirtualLab.Proofs.Downloads
import VirtualLab.Proofs.EarlyStops
import VirtualLab.Proofs.ExistenceChecks
import VirtualLab.Proofs.GuestDocuments
import VirtualLab.Proofs.HostsBlock
import VirtualLab.Proofs.HostsCommands
import VirtualLab.Proofs.ImageFiles
import VirtualLab.Proofs.InstallRequests
import VirtualLab.Proofs.KeyLines
import VirtualLab.Proofs.MachineNames
import VirtualLab.Proofs.Neighbours
import VirtualLab.Proofs.ReadyImages
import VirtualLab.Proofs.Releases
import VirtualLab.Proofs.Removal
import VirtualLab.Proofs.ReportedStates
import VirtualLab.Proofs.Retrying
import VirtualLab.Proofs.SelectedImages
import VirtualLab.Proofs.SignedChecksum
import VirtualLab.Rehearsal.Programs
import VirtualLab.Rehearsal.Session
