import TreeShell.Proofs.Client.Delivery
import TreeShell.Proofs.Client.Exhausted
import TreeShell.Proofs.Client.Files
import TreeShell.Proofs.Command.InTurn
import TreeShell.Proofs.Command.Making
import TreeShell.Proofs.Command.Merging
import TreeShell.Proofs.Command.Moving
import TreeShell.Proofs.Command.Registry
import TreeShell.Proofs.Path.Refinement
import TreeShell.Proofs.Service.Shared
import TreeShell.Proofs.Session.Faults
import TreeShell.Proofs.Session.Programs
import TreeShell.Proofs.Session.Quarantine
import TreeShell.Proofs.Session.Reached
import TreeShell.Proofs.Session.Target
import TreeShell.Proofs.Tree.Snapshot
import TreeShell.Session.Settings
