import RouterConf.Main
import RouterConf.Proofs.Dnsmasq.Rendering
import RouterConf.Proofs.Record.Store
import RouterConf.Proofs.Json.RoundTrip
import RouterConf.Proofs.Time.RoundTrip
import RouterConf.Proofs.Files.LastSegment
import RouterConf.Proofs.Record.RoundTrip
import RouterConf.Proofs.Files.Footprint
import RouterConf.Proofs.Files.Operations
import RouterConf.Proofs.Files.Changes
import RouterConf.Proofs.Dnsmasq.Apply
import RouterConf.Proofs.Dnsmasq.Failure
import RouterConf.Proofs.Files.Correspondence
import RouterConf.Proofs.Record.Times
import RouterConf.Proofs.Dnsmasq.Coherence
import RouterConf.Proofs.Dnsmasq.Session
import RouterConf.Proofs.Dnsmasq.OnRecord
import RouterConf.Proofs.Plan.System
import RouterConf.Proofs.Dnsmasq.Teardown
import RouterConf.Proofs.Section.Index
import RouterConf.Proofs.Dnsmasq.Relevance
import RouterConf.Proofs.Dnsmasq.Isolation
import RouterConf.Proofs.Dnsmasq.Commit
import RouterConf.Proofs.Files.Directories
import RouterConf.Proofs.Files.Siblings
import RouterConf.Proofs.Files.Locality
import RouterConf.Proofs.Dnsmasq.Independence
import RouterConf.Proofs.Dnsmasq.DryRun
import RouterConf.Proofs.Record.History
import RouterConf.Proofs.Files.Places
import RouterConf.Proofs.Files.NewDirectories
import RouterConf.Proofs.Dnsmasq.Containment
import RouterConf.Proofs.Text.Lines
import RouterConf.Proofs.Dnsmasq.Directives
import RouterConf.Proofs.Dnsmasq.LineBreaks
import RouterConf.Proofs.Yaml.Mapping
import RouterConf.Proofs.Section.Options
import RouterConf.Proofs.Plan.Order
import RouterConf.Proofs.Dnsmasq.SignalFirst
import RouterConf.Proofs.Cli.Records
import RouterConf.Proofs.Cli.Cycles
import RouterConf.Proofs.Dnsmasq.Reapply
import RouterConf.Proofs.Decimal.Numeral
import RouterConf.Proofs.Net.Ipv4
import RouterConf.Proofs.Net.Netmask
import RouterConf.Proofs.Net.DhcpRange
import RouterConf.Proofs.Section.Instantiation
import RouterConf.Proofs.Dnsmasq.Resolution
import RouterConf.Proofs.Plan.Execution
import RouterConf.Proofs.Dnsmasq.TeardownPlan
import RouterConf.Proofs.Section.Idempotence
import RouterConf.Proofs.Files.Settled
import RouterConf.Proofs.Dnsmasq.ApplyAgain
import RouterConf.Proofs.Section.Answers
import RouterConf.Proofs.Files.Replacement
import RouterConf.Proofs.Record.Saving
import RouterConf.Proofs.Text.ByteOrder
import RouterConf.Proofs.Files.Listing
import RouterConf.Proofs.Section.Loading
import RouterConf.Proofs.Files.Absence
import RouterConf.Proofs.Plan.PidFile
import RouterConf.Proofs.Plan.Absent
import RouterConf.Proofs.Dnsmasq.RangeNetmask
import RouterConf.Proofs.Dnsmasq.InstanceFiles
