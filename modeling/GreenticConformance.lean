import GreenticConformance.Runs.Since
import GreenticConformance.OAuthMock.Types
import GreenticConformance.OAuthMock.Handlers
import GreenticConformance.OAuthMock.Server
import GreenticConformance.OAuthMock.Outcomes
import GreenticConformance.OAuthMock.Steps
import GreenticConformance.OAuthMock.History
import GreenticConformance.OAuthMock.Stores
import GreenticConformance.OAuthMock.Invariant
import GreenticConformance.OAuthMock.Signing
import GreenticConformance.OAuthMock.AuthorizationCodes
import GreenticConformance.OAuthMock.DeviceCodes
import GreenticConformance.OAuthMock.DeviceDecisions
import GreenticConformance.OAuthMock.RefreshFamilies
import GreenticConformance.OAuthMock.TokenStatus
import GreenticConformance.OAuthMock.Grants
import GreenticConformance.OAuthMock.Isolation
import GreenticConformance.OAuthMock.Credentials
import GreenticConformance.OAuthMock.Issued
import GreenticConformance.OAuthMock.Expiry
import GreenticConformance.OAuthMock.IntrospectionData
import GreenticConformance.OAuthMock.ScopeRules
import GreenticConformance.OAuthMock.Discovery
import GreenticConformance.Checks.Flags
import GreenticConformance.Checks.Guards
import GreenticConformance.Checks.Verdict
import GreenticConformance.Host.Text
import GreenticConformance.Host.Error
import GreenticConformance.Host.Path
import GreenticConformance.Host.Json
import GreenticConformance.Host.World
import GreenticConformance.Host.Process
import GreenticConformance.PackSuite.Manifest
import GreenticConformance.PackSuite.Verify
import GreenticConformance.FlowSuite.Validation
import GreenticConformance.FlowSuite.WellFormed
import GreenticConformance.FlowSuite.Folder
import GreenticConformance.FlowSuite.FolderChecked
import GreenticConformance.ComponentSuite
import GreenticConformance.RunnerSuite
import GreenticConformance.RunnerSuite.Fragments
import GreenticConformance.RunnerSuite.Judgement
import GreenticConformance.DeployerSuite
import GreenticConformance.Cli.Report
import GreenticConformance.Cli.Pack
import GreenticConformance.Cli.Checks
import GreenticConformance.Cli.Main
import GreenticConformance.Cli.PackChecked
import GreenticConformance.Checks.Rows
import GreenticConformance.RepoStoreSuite
import GreenticConformance.HostedPlan.Driver
import GreenticConformance.HostedPlan.Listings
import GreenticConformance.HostedPlan.Passed
import GreenticConformance.HostedPlan.Undriven
import GreenticConformance.Pipes.Exchange
import GreenticConformance.ProcessHarness
import GreenticConformance.Assertions
import GreenticConformance.Env
import GreenticConformance.Suites.PackRunner
import GreenticConformance.Suites.Signatures
import GreenticConformance.Suites.BuilderChains
import GreenticConformance.OAuthMock.AuthorizeAtomic
import GreenticConformance.Suites.Policy
import GreenticConformance.Host.Lexical
import GreenticConformance.PackSuite.Artifacts
import GreenticConformance.Suites.Backoff
import GreenticConformance.OAuthMock.ScopeStrings
import GreenticConformance.OAuthMock.BasicCredentials
import GreenticConformance.OAuthMock.DevicePolling
import GreenticConformance.Host.Components
import GreenticConformance.PackSuite.ComponentFile
import GreenticConformance.Urls.Percent
import GreenticConformance.Urls.Form
import GreenticConformance.Suites.OAuthProvider
import GreenticConformance.Locks.ReadWrite
import GreenticConformance.OAuthMock.Concurrent
import GreenticConformance.OAuthMock.Provenance
import GreenticConformance.Runs.Balance
import GreenticConformance.OAuthMock.Balance
import GreenticConformance.Urls.Serialize
import GreenticConformance.OAuthMock.RelyingParty
import GreenticConformance.Pipes.Capture
import GreenticConformance.ProcessHarness.Output
import GreenticConformance.Runs.Together
import GreenticConformance.HostedPlan.FailFast
import GreenticConformance.HostedPlan.Main
import GreenticConformance.Suites.EmbeddedProvider
import GreenticConformance.Suites.OAuthSuite
import GreenticConformance.Suites.OAuthReport
import GreenticConformance.Serde.Record
import GreenticConformance.Host.Codecs
import GreenticConformance.FlowSuite.Serialize
import GreenticConformance.PackSuite.Serialize
import GreenticConformance.OAuthBrokerSuite
import GreenticConformance.Checks.Firsts
import GreenticConformance.EventsSuite
import GreenticConformance.Telemetry
import GreenticConformance.OAuthMock.DefaultClient
import GreenticConformance.Cli.Ready
import GreenticConformance.Cli.ComponentVerdict
import GreenticConformance.Cli.RunnerVerdict
import GreenticConformance.Cli.DeployerVerdict
import GreenticConformance.Cli.Relaxed
import GreenticConformance.Runs.Within
import GreenticConformance.HostedPlan.Ending
import GreenticConformance.FlowSuite.Parts
