import UnifiMcp.Lib.Machine
import UnifiMcp.Lib.Text
import UnifiMcp.Lib.NewestFirst
import UnifiMcp.Lib.Percent
import UnifiMcp.Lib.Json
import UnifiMcp.Api.Error
import UnifiMcp.Api.Http
import UnifiMcp.Api.Response
import UnifiMcp.Api.ProtectEvents
import UnifiMcp.Api.Session
import UnifiMcp.Api.LegacyClient
import UnifiMcp.Api.LoginFlow
import UnifiMcp.Api.Reauth
import UnifiMcp.Api.Csrf
import UnifiMcp.Server.Auth
import UnifiMcp.Lib.Base64
import UnifiMcp.Lib.LineProtocol
import UnifiMcp.Lib.Packing
import UnifiMcp.Api.Collection
import UnifiMcp.Server.Publication
import UnifiMcp.Server.PublicationSound
import UnifiMcp.Server.PublicationBound
import UnifiMcp.Lib.SortedMap
import UnifiMcp.Lib.RoundRobin
import UnifiMcp.Server.Worker
import UnifiMcp.Server.Fairness
import UnifiMcp.Lib.Offsets
import UnifiMcp.Mcp.Tools
import UnifiMcp.Mcp.Verified
import UnifiMcp.Mcp.Scan
import UnifiMcp.Mcp.Paging
import UnifiMcp.Mcp.EventSearch
import UnifiMcp.Mcp.FirewallPolicyRequest
import UnifiMcp.Lib.Digits
import UnifiMcp.Lib.JsonReader
import UnifiMcp.Lib.Lines
import UnifiMcp.Server.StateFiles
import UnifiMcp.Server.BoundedStdio
import UnifiMcp.Api.Totals
import UnifiMcp.Mcp.NumberRange
import UnifiMcp.Mcp.NumberEquivalence
import UnifiMcp.Mcp.SystemLog
import UnifiMcp.Api.ProtectSubscription
import UnifiMcp.Mcp.CameraSettings
import UnifiMcp.Mcp.PolicyPreview
import UnifiMcp.Mcp.LocalSearch
import UnifiMcp.Lib.Fallible
import UnifiMcp.Mcp.ContentBlocks
import UnifiMcp.Mcp.WanReconciliation
import UnifiMcp.Mcp.DeviceSettings
import UnifiMcp.Server.Hours
import UnifiMcp.Server.DurableState
import UnifiMcp.Server.Selector
import UnifiMcp.Server.Gaps
import UnifiMcp.Server.Delivery
import UnifiMcp.Server.Retrieval
import UnifiMcp.Lib.JsonSchema
import UnifiMcp.Mcp.PortableSchema
import UnifiMcp.Mcp.LegacyWrite
import UnifiMcp.Api.Integration
import UnifiMcp.Lib.Pool
import UnifiMcp.Mcp.NetworkPool
import UnifiMcp.Lib.Dialogue
import UnifiMcp.Mcp.SiteIdentity
import UnifiMcp.Mcp.PolicyWrite
import UnifiMcp.Mcp.Vouchers
import UnifiMcp.Mcp.NetworkServer
import UnifiMcp.Mcp.Reports
