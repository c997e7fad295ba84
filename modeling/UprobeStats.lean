import UprobeStats.Lib.Machine
import UprobeStats.Lib.Histories
import UprobeStats.Lib.Bytes
import UprobeStats.Lib.Lossy
import UprobeStats.Lib.FiniteMap
import UprobeStats.Lib.Grouping
import UprobeStats.Lib.Memory
import UprobeStats.Lib.Traced
import UprobeStats.Lib.Ownership
import UprobeStats.Lib.Checked
import UprobeStats.Lib.Rules
import UprobeStats.Lib.Paths
import UprobeStats.Lib.Tokens
import UprobeStats.Lib.Simulation
import UprobeStats.Lib.Mailbox
import UprobeStats.Lib.Postbox
import UprobeStats.Error
import UprobeStats.Strings
import UprobeStats.Config
import UprobeStats.Guardrail
import UprobeStats.MethodNames
import UprobeStats.Resolver
import UprobeStats.FilterResolution
import UprobeStats.ConfigAcceptance
import UprobeStats.Daemon
import UprobeStats.FlagRules
import UprobeStats.ConfiguredNames
import UprobeStats.BinderMap
import UprobeStats.MapAccessor
import UprobeStats.BpfFns
import UprobeStats.JavaStrings
import UprobeStats.BinderProgram
import UprobeStats.Poll
import UprobeStats.PollTiming
import UprobeStats.Execute
import UprobeStats.SharedFilters
import UprobeStats.Deliveries
import UprobeStats.DeliveryOrigins
import UprobeStats.Reporting
import UprobeStats.AppStart
import UprobeStats.ProcessResolution
import UprobeStats.RequestedProcess
import UprobeStats.OffsetResolver
import UprobeStats.Sinks
import UprobeStats.StatsEvents
import UprobeStats.Sending
import UprobeStats.Accessibility
import UprobeStats.AccessibilityProgram
import UprobeStats.Attribution
import UprobeStats.Bitmap
import UprobeStats.BitmapSystem
import UprobeStats.BitmapHistory
import UprobeStats.DisruptiveApp
import UprobeStats.UserBuilds
import UprobeStats.StaleBytes
import UprobeStats.DisruptiveAppRecords
import UprobeStats.BackgroundStarts
import UprobeStats.DisabledLaunchers
import UprobeStats.TaskHandlers
import UprobeStats.ProcessPrograms
import UprobeStats.RecordedStrings
import UprobeStats.ConfigFaults
import UprobeStats.BinderReports
import UprobeStats.RegisterCapture
import UprobeStats.Clocks
import UprobeStats.AccessibilitySinks
import UprobeStats.PermissionGrants
import UprobeStats.StatsdDelivery
import UprobeStats.Bridge
import UprobeStats.BridgeHistory
import UprobeStats.BridgeWaiters
import UprobeStats.EventTrip
import UprobeStats.EventJourney
import UprobeStats.Elf
import UprobeStats.ElfLoader
import UprobeStats.ElfTables
import UprobeStats.CodeSections
import UprobeStats.ProgramSections
import UprobeStats.ObjectLoader
import UprobeStats.ObjectTables
import UprobeStats.MapPairing
import UprobeStats.Pinning
import UprobeStats.LoaderBoot
import UprobeStats.LoaderBounds
