import Readiness.Main
import Readiness.Config.Encode
import Readiness.File.Tree
import Readiness.Host.Fixed
import Readiness.Process.Script
import Readiness.Proofs.Decision
import Readiness.Proofs.Turns
import Readiness.Proofs.Interleaving
import Readiness.Proofs.Isolation
import Readiness.Proofs.DatabaseDirectory
import Readiness.Proofs.YamlEntries
import Readiness.Terminal.Recording
import Readiness.Proofs.Layering
import Readiness.Proofs.YamlReading
import Readiness.Proofs.Escaping
import Readiness.Proofs.Markup
import Readiness.Proofs.HtmlReport
import Readiness.Proofs.Digits
import Readiness.Proofs.JsonReading
import Readiness.Proofs.JsonReport
import Readiness.Proofs.Delivery
import Readiness.Proofs.Steps
import Readiness.Proofs.ConfigFailure
import Readiness.Proofs.HumanReport
import Readiness.Proofs.ProbeFailure
import Readiness.Proofs.EffectiveConfig
import Readiness.Proofs.Product
import Readiness.Proofs.DiskSpace
import Readiness.Proofs.LastOf
import Readiness.Proofs.StoreNames
import Readiness.Proofs.UnsetEntries
import Readiness.Proofs.Faults
import Readiness.Proofs.Blame
import Readiness.Proofs.FirewallPolicy
import Readiness.Proofs.Questions
import Readiness.Proofs.Progress
import Readiness.Proofs.Numerals
import Readiness.Proofs.Rows
import Readiness.Proofs.DottedVersion
import Readiness.Proofs.VersionSources
import Readiness.Proofs.Ports
import Readiness.Proofs.KernelTable
import Readiness.Proofs.SocketListing
import Readiness.Proofs.Tally
import Readiness.Proofs.Records
import Readiness.Proofs.NumberFields
import Readiness.Proofs.SavedConfig
import Readiness.Proofs.JsonGrammar
import Readiness.Proofs.AgentFile
import Readiness.Proofs.PlainReport
import Readiness.Proofs.Unstyled
import Readiness.Proofs.ReportEntries
import Readiness.Proofs.HostCalls
import Readiness.Proofs.SuppliedFacts
import Readiness.Proofs.ConcernedFacts
import Readiness.Proofs.Candidates
import Readiness.Proofs.Components
import Readiness.Proofs.Spelling
import Readiness.Proofs.ProjectRoot
