import SidecarAgent.Main
import SidecarAgent.Simulation.Scenario
import SidecarAgent.Proofs.Replay
import SidecarAgent.Proofs.Difference
import SidecarAgent.Proofs.MergedView
import SidecarAgent.Proofs.Mergings
import SidecarAgent.Proofs.ManagerSteps
import SidecarAgent.Proofs.ManagerRun
import SidecarAgent.Proofs.ListenerReplay
import SidecarAgent.Proofs.Publishing
import SidecarAgent.Proofs.EgressPublication
import SidecarAgent.Proofs.PulledSubsets
import SidecarAgent.Proofs.SourceEvents
import SidecarAgent.Proofs.OnlySource
import SidecarAgent.Proofs.EndpointPublication
import SidecarAgent.Proofs.WholesaleMerging
import SidecarAgent.Proofs.CursorHistory
import SidecarAgent.Proofs.ConcurrentPulls
import SidecarAgent.Proofs.SharedSource
import SidecarAgent.Proofs.FailingDialogues
import SidecarAgent.Proofs.FailedCycles
import SidecarAgent.Proofs.PullingProcesses
import SidecarAgent.Proofs.TakingTurns
import SidecarAgent.Proofs.RehearsedSteps
import SidecarAgent.Proofs.Rehearsals
import SidecarAgent.Proofs.TagLookups
import SidecarAgent.Proofs.PublishedTags
import SidecarAgent.Proofs.TaggedInstances
import SidecarAgent.Proofs.RuleValidation
import SidecarAgent.Proofs.SoundSides
import SidecarAgent.Proofs.DerivedEgress
import SidecarAgent.Proofs.RefreshedSources
import SidecarAgent.Proofs.DeletionsLast
import SidecarAgent.Proofs.FailingSources
import SidecarAgent.Proofs.ConcurrentSources
import SidecarAgent.Proofs.RegistrationOrder
import SidecarAgent.Proofs.Patches
import SidecarAgent.Proofs.EgressLookup
import SidecarAgent.Proofs.NameSpellings
import SidecarAgent.Proofs.Texts
import SidecarAgent.Proofs.EndpointLookup
import SidecarAgent.Proofs.HostNames
import SidecarAgent.Proofs.FirstMembers
import SidecarAgent.Proofs.FirstViolations
import SidecarAgent.Proofs.DecodedResponses
import SidecarAgent.Proofs.NamedLookups
import SidecarAgent.Proofs.SubsetLabels
import SidecarAgent.Proofs.PartialRuns
import SidecarAgent.Proofs.InterleavedWaits
import SidecarAgent.Proofs.ScheduledWaits
import SidecarAgent.Proofs.CoalescedSignals
import SidecarAgent.Proofs.TickSpacing
import SidecarAgent.Proofs.BoundedSettings
import SidecarAgent.Proofs.KeptSchedules
import SidecarAgent.Proofs.LedgerReadings
import SidecarAgent.Proofs.Turns
import SidecarAgent.Proofs.Books
import SidecarAgent.Proofs.EndpointInstances
