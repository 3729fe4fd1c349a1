import UnifiMcp.Mcp.RequestedJson
/-! # Firewall policy requests and their readback (unifi-mcp/src/tools/firewall_policy_request.rs)

The typed request as it is serialised, and `matches`, which accepts a readback that carries the
request and has none of the optional members that the request leaves out.

* `omitted_subset_pointers` — the pointers of `matches` cover every optional member of the contract.
* `policy_matches` — **a match carries the request and has no omitted member; an extension outside the
  optional members matches.** -/
namespace UnifiMcp.FirewallPolicy
open Text Typed

/-! ## The request -/

/-- `Action` (firewall_policy_request.rs:68). -/
inductive Action where
  | allow (allowReturnTraffic : Bool)
  | block
  | reject

def Action.typed : Action → Typed
  | .allow allowReturnTraffic => tagged "type".toList "ALLOW".toList [
      ("allowReturnTraffic".toList, .bool allowReturnTraffic)]
  | .block => tagged "type".toList "BLOCK".toList []
  | .reject => tagged "type".toList "REJECT".toList []

/-- `ConnectionState` (firewall_policy_request.rs:81). -/
inductive ConnectionState where
  | new
  | invalid
  | established
  | related

def ConnectionState.typed : ConnectionState → Typed
  | .new => .text "NEW".toList
  | .invalid => .text "INVALID".toList
  | .established => .text "ESTABLISHED".toList
  | .related => .text "RELATED".toList

/-- `ApplicationFilter` (firewall_policy_request.rs:186). -/
structure ApplicationFilter where
  applicationIds : List Int32

def ApplicationFilter.typed (x : ApplicationFilter) : Typed :=
  .record [("applicationIds".toList, .list (x.applicationIds.map (.number ·.toInt)))]

/-- `PortMatching` (firewall_policy_request.rs:212). -/
inductive PortMatching where
  | portNumber (value : Int32)
  | portNumberRange (start : Int32) (stop : Int32)

def PortMatching.typed : PortMatching → Typed
  | .portNumber value => tagged "type".toList "PORT_NUMBER".toList [("value".toList, .number value.toInt)]
  | .portNumberRange start stop => tagged "type".toList "PORT_NUMBER_RANGE".toList [
      ("start".toList, .number start.toInt), ("stop".toList, .number stop.toInt)]

/-- `PortFilter` (firewall_policy_request.rs:193). -/
inductive PortFilter where
  | ports (matchOpposite : Bool) (items : List PortMatching)
  | trafficMatchingList (matchOpposite : Bool) (trafficMatchingListId : Text)

def PortFilter.typed : PortFilter → Typed
  | .ports matchOpposite items => tagged "type".toList "PORTS".toList [
      ("matchOpposite".toList, .bool matchOpposite), ("items".toList, .list (items.map PortMatching.typed))]
  | .trafficMatchingList matchOpposite trafficMatchingListId => tagged "type".toList "TRAFFIC_MATCHING_LIST".toList [
      ("matchOpposite".toList, .bool matchOpposite), ("trafficMatchingListId".toList, .text trafficMatchingListId)]

/-- `ApplicationCategoryFilter` (firewall_policy_request.rs:229). -/
structure ApplicationCategoryFilter where
  applicationCategoryIds : List Int32

def ApplicationCategoryFilter.typed (x : ApplicationCategoryFilter) : Typed :=
  .record [("applicationCategoryIds".toList, .list (x.applicationCategoryIds.map (.number ·.toInt)))]

/-- `DomainFilter` (firewall_policy_request.rs:236). -/
inductive DomainFilter where
  | domains (domains : List Text)

def DomainFilter.typed : DomainFilter → Typed
  | .domains names => tagged "type".toList "DOMAINS".toList [("domains".toList, .list (names.map .text))]

/-- `Ipv6InterfaceIdentifierFilter` (firewall_policy_request.rs:246). -/
structure Ipv6InterfaceIdentifierFilter where
  ipv6Iid : Text
  matchOpposite : Bool

def Ipv6InterfaceIdentifierFilter.typed (x : Ipv6InterfaceIdentifierFilter) : Typed :=
  .record [("ipv6Iid".toList, .text x.ipv6Iid), ("matchOpposite".toList, .bool x.matchOpposite)]

/-- `IpMatching` (firewall_policy_request.rs:274). -/
inductive IpMatching where
  | ipAddress (value : Text)
  | ipAddressRange (start : Text) (stop : Text)
  | subnet (value : Text)

def IpMatching.typed : IpMatching → Typed
  | .ipAddress value => tagged "type".toList "IP_ADDRESS".toList [("value".toList, .text value)]
  | .ipAddressRange start stop => tagged "type".toList "IP_ADDRESS_RANGE".toList [
      ("start".toList, .text start), ("stop".toList, .text stop)]
  | .subnet value => tagged "type".toList "SUBNET".toList [("value".toList, .text value)]

/-- `IpAddressFilter` (firewall_policy_request.rs:255). -/
inductive IpAddressFilter where
  | ipAddresses (matchOpposite : Bool) (items : List IpMatching)
  | trafficMatchingList (matchOpposite : Bool) (trafficMatchingListId : Text)

def IpAddressFilter.typed : IpAddressFilter → Typed
  | .ipAddresses matchOpposite items => tagged "type".toList "IP_ADDRESSES".toList [
      ("matchOpposite".toList, .bool matchOpposite), ("items".toList, .list (items.map IpMatching.typed))]
  | .trafficMatchingList matchOpposite trafficMatchingListId => tagged "type".toList "TRAFFIC_MATCHING_LIST".toList [
      ("matchOpposite".toList, .bool matchOpposite), ("trafficMatchingListId".toList, .text trafficMatchingListId)]

/-- `NetworkFilter` (firewall_policy_request.rs:296). -/
structure NetworkFilter where
  matchOpposite : Bool
  networkIds : List Text

def NetworkFilter.typed (x : NetworkFilter) : Typed :=
  .record [
    ("matchOpposite".toList, .bool x.matchOpposite), ("networkIds".toList, .list (x.networkIds.map .text))]

/-- `RegionFilter` (firewall_policy_request.rs:305). -/
structure RegionFilter where
  regions : List Text

def RegionFilter.typed (x : RegionFilter) : Typed :=
  .record [("regions".toList, .list (x.regions.map .text))]

/-- `SiteToSiteVpnTunnelFilter` (firewall_policy_request.rs:312). -/
structure SiteToSiteVpnTunnelFilter where
  siteToSiteVpnTunnelId : Text

def SiteToSiteVpnTunnelFilter.typed (x : SiteToSiteVpnTunnelFilter) : Typed :=
  .record [("siteToSiteVpnTunnelId".toList, .text x.siteToSiteVpnTunnelId)]

/-- `VpnServerFilter` (firewall_policy_request.rs:319). -/
structure VpnServerFilter where
  matchOpposite : Bool
  vpnServerIds : List Text

def VpnServerFilter.typed (x : VpnServerFilter) : Typed :=
  .record [
    ("matchOpposite".toList, .bool x.matchOpposite), ("vpnServerIds".toList, .list (x.vpnServerIds.map .text))]

/-- `DestinationTrafficFilter` (firewall_policy_request.rs:104). -/
inductive DestinationTrafficFilter where
  | application (applicationFilter : ApplicationFilter) (portFilter : Option PortFilter)
  | applicationCategory (applicationCategoryFilter : ApplicationCategoryFilter) (portFilter : Option PortFilter)
  | domain (domainFilter : DomainFilter) (portFilter : Option PortFilter)
  | ipv6Iid (ipv6IidFilter : Ipv6InterfaceIdentifierFilter) (portFilter : Option PortFilter)
  | ipAddress (ipAddressFilter : IpAddressFilter) (portFilter : Option PortFilter)
  | network (networkFilter : NetworkFilter) (portFilter : Option PortFilter)
  | port (portFilter : PortFilter)
  | region (portFilter : Option PortFilter) (regionFilter : RegionFilter)
  | siteToSiteVpnTunnel (portFilter : Option PortFilter) (siteToSiteVpnTunnelFilter : SiteToSiteVpnTunnelFilter)
  | vpnServer (portFilter : Option PortFilter) (vpnServerFilter : VpnServerFilter)

def DestinationTrafficFilter.typed : DestinationTrafficFilter → Typed
  | .application applicationFilter portFilter => tagged "type".toList "APPLICATION".toList [
      ("applicationFilter".toList, applicationFilter.typed),
      ("portFilter".toList, optional PortFilter.typed portFilter)]
  | .applicationCategory applicationCategoryFilter portFilter => tagged "type".toList "APPLICATION_CATEGORY".toList [
      ("applicationCategoryFilter".toList, applicationCategoryFilter.typed),
      ("portFilter".toList, optional PortFilter.typed portFilter)]
  | .domain domainFilter portFilter => tagged "type".toList "DOMAIN".toList [
      ("domainFilter".toList, domainFilter.typed), ("portFilter".toList, optional PortFilter.typed portFilter)]
  | .ipv6Iid ipv6IidFilter portFilter => tagged "type".toList "IPV6_IID".toList [
      ("ipv6IidFilter".toList, ipv6IidFilter.typed), ("portFilter".toList, optional PortFilter.typed portFilter)]
  | .ipAddress ipAddressFilter portFilter => tagged "type".toList "IP_ADDRESS".toList [
      ("ipAddressFilter".toList, ipAddressFilter.typed), ("portFilter".toList, optional PortFilter.typed portFilter)]
  | .network networkFilter portFilter => tagged "type".toList "NETWORK".toList [
      ("networkFilter".toList, networkFilter.typed), ("portFilter".toList, optional PortFilter.typed portFilter)]
  | .port portFilter => tagged "type".toList "PORT".toList [("portFilter".toList, portFilter.typed)]
  | .region portFilter regionFilter => tagged "type".toList "REGION".toList [
      ("portFilter".toList, optional PortFilter.typed portFilter), ("regionFilter".toList, regionFilter.typed)]
  | .siteToSiteVpnTunnel portFilter siteToSiteVpnTunnelFilter => tagged "type".toList "SITE_TO_SITE_VPN_TUNNEL".toList [
      ("portFilter".toList, optional PortFilter.typed portFilter),
      ("siteToSiteVpnTunnelFilter".toList, siteToSiteVpnTunnelFilter.typed)]
  | .vpnServer portFilter vpnServerFilter => tagged "type".toList "VPN_SERVER".toList [
      ("portFilter".toList, optional PortFilter.typed portFilter), ("vpnServerFilter".toList, vpnServerFilter.typed)]

/-- `Destination` (firewall_policy_request.rs:94). -/
structure Destination where
  trafficFilter : Option DestinationTrafficFilter
  zoneId : Text

def Destination.typed (x : Destination) : Typed :=
  .record [
    ("trafficFilter".toList, optional DestinationTrafficFilter.typed x.trafficFilter),
    ("zoneId".toList, .text x.zoneId)]

/-- `IcmpTypeName` (firewall_policy_request.rs:497). -/
inductive IcmpTypeName where
  | addressMaskReply | addressMaskRequest | communicationProhibited | destinationUnreachable | echoReply
  | echoRequest | fragmentationNeeded | hostPrecedenceViolation | hostProhibited | hostRedirect | hostUnknown
  | hostUnreachable | ipHeaderBad | networkProhibited | networkRedirect | networkUnknown | networkUnreachable
  | parameterProblem | portUnreachable | precedenceCutoff | protocolUnreachable | redirect | requiredOptionMissing
  | routerAdvertisement | routerSolicitation | sourceQuench | sourceRouteFailed | timeExceeded | timestampReply
  | timestampRequest | tosHostRedirect | tosHostUnreachable | tosNetworkRedirect | tosNetworkUnreachable
  | ttlZeroDuringReassembly | ttlZeroDuringTransit

def IcmpTypeName.typed : IcmpTypeName → Typed
  | .addressMaskReply => .text "ADDRESS_MASK_REPLY".toList
  | .addressMaskRequest => .text "ADDRESS_MASK_REQUEST".toList
  | .communicationProhibited => .text "COMMUNICATION_PROHIBITED".toList
  | .destinationUnreachable => .text "DESTINATION_UNREACHABLE".toList
  | .echoReply => .text "ECHO_REPLY".toList
  | .echoRequest => .text "ECHO_REQUEST".toList
  | .fragmentationNeeded => .text "FRAGMENTATION_NEEDED".toList
  | .hostPrecedenceViolation => .text "HOST_PRECEDENCE_VIOLATION".toList
  | .hostProhibited => .text "HOST_PROHIBITED".toList
  | .hostRedirect => .text "HOST_REDIRECT".toList
  | .hostUnknown => .text "HOST_UNKNOWN".toList
  | .hostUnreachable => .text "HOST_UNREACHABLE".toList
  | .ipHeaderBad => .text "IP_HEADER_BAD".toList
  | .networkProhibited => .text "NETWORK_PROHIBITED".toList
  | .networkRedirect => .text "NETWORK_REDIRECT".toList
  | .networkUnknown => .text "NETWORK_UNKNOWN".toList
  | .networkUnreachable => .text "NETWORK_UNREACHABLE".toList
  | .parameterProblem => .text "PARAMETER_PROBLEM".toList
  | .portUnreachable => .text "PORT_UNREACHABLE".toList
  | .precedenceCutoff => .text "PRECEDENCE_CUTOFF".toList
  | .protocolUnreachable => .text "PROTOCOL_UNREACHABLE".toList
  | .redirect => .text "REDIRECT".toList
  | .requiredOptionMissing => .text "REQUIRED_OPTION_MISSING".toList
  | .routerAdvertisement => .text "ROUTER_ADVERTISEMENT".toList
  | .routerSolicitation => .text "ROUTER_SOLICITATION".toList
  | .sourceQuench => .text "SOURCE_QUENCH".toList
  | .sourceRouteFailed => .text "SOURCE_ROUTE_FAILED".toList
  | .timeExceeded => .text "TIME_EXCEEDED".toList
  | .timestampReply => .text "TIMESTAMP_REPLY".toList
  | .timestampRequest => .text "TIMESTAMP_REQUEST".toList
  | .tosHostRedirect => .text "TOS_HOST_REDIRECT".toList
  | .tosHostUnreachable => .text "TOS_HOST_UNREACHABLE".toList
  | .tosNetworkRedirect => .text "TOS_NETWORK_REDIRECT".toList
  | .tosNetworkUnreachable => .text "TOS_NETWORK_UNREACHABLE".toList
  | .ttlZeroDuringReassembly => .text "TTL_ZERO_DURING_REASSEMBLY".toList
  | .ttlZeroDuringTransit => .text "TTL_ZERO_DURING_TRANSIT".toList

/-- `Icmpv6TypeName` (firewall_policy_request.rs:573). -/
inductive Icmpv6TypeName where
  | addressUnreachable | badHeader | beyondScope | communicationProhibited | destinationUnreachable | echoReply
  | echoRequest | failedPolicy | neighborAdvertisement | neighborSolicitation | noRoute | packetTooBig
  | parameterProblem | portUnreachable | redirect | rejectRoute | routerAdvertisement | routerSolicitation
  | timeExceeded | ttlZeroDuringReassembly | ttlZeroDuringTransit | unknownHeaderType | unknownOption

def Icmpv6TypeName.typed : Icmpv6TypeName → Typed
  | .addressUnreachable => .text "ADDRESS_UNREACHABLE".toList
  | .badHeader => .text "BAD_HEADER".toList
  | .beyondScope => .text "BEYOND_SCOPE".toList
  | .communicationProhibited => .text "COMMUNICATION_PROHIBITED".toList
  | .destinationUnreachable => .text "DESTINATION_UNREACHABLE".toList
  | .echoReply => .text "ECHO_REPLY".toList
  | .echoRequest => .text "ECHO_REQUEST".toList
  | .failedPolicy => .text "FAILED_POLICY".toList
  | .neighborAdvertisement => .text "NEIGHBOR_ADVERTISEMENT".toList
  | .neighborSolicitation => .text "NEIGHBOR_SOLICITATION".toList
  | .noRoute => .text "NO_ROUTE".toList
  | .packetTooBig => .text "PACKET_TOO_BIG".toList
  | .parameterProblem => .text "PARAMETER_PROBLEM".toList
  | .portUnreachable => .text "PORT_UNREACHABLE".toList
  | .redirect => .text "REDIRECT".toList
  | .rejectRoute => .text "REJECT_ROUTE".toList
  | .routerAdvertisement => .text "ROUTER_ADVERTISEMENT".toList
  | .routerSolicitation => .text "ROUTER_SOLICITATION".toList
  | .timeExceeded => .text "TIME_EXCEEDED".toList
  | .ttlZeroDuringReassembly => .text "TTL_ZERO_DURING_REASSEMBLY".toList
  | .ttlZeroDuringTransit => .text "TTL_ZERO_DURING_TRANSIT".toList
  | .unknownHeaderType => .text "UNKNOWN_HEADER_TYPE".toList
  | .unknownOption => .text "UNKNOWN_OPTION".toList

/-- `NamedProtocol` (firewall_policy_request.rs:375). -/
inductive NamedProtocol where
  | ah | ax25 | dccp | ddp | egp | eigrp | encap | esp | etherip | fc | ggp | gre | hip | hmp
  | icmp (typenameFilter : Option IcmpTypeName) | icmpv6 (typenameFilter : Option Icmpv6TypeName) | idprCmtp | idrp
  | igmp | igp | ip | ipcomp | ipencap | ipip | ipv6 | ipv6Frag | ipv6Nonxt | ipv6Opts | ipv6Route | isis | isoTp4
  | l2tp | manet | mobilityHeader | mplsInIp | ospf | pim | pup | rdp | rohc | rspf | rsvp | sctp | shim6 | skip
  | st | tcp | tcpUdp | udp | udplite | vmtp | vrrp | wesp | xnsIdp | xtp

def NamedProtocol.typed : NamedProtocol → Typed
  | .ah => tagged "name".toList "ah".toList []
  | .ax25 => tagged "name".toList "ax.25".toList []
  | .dccp => tagged "name".toList "dccp".toList []
  | .ddp => tagged "name".toList "ddp".toList []
  | .egp => tagged "name".toList "egp".toList []
  | .eigrp => tagged "name".toList "eigrp".toList []
  | .encap => tagged "name".toList "encap".toList []
  | .esp => tagged "name".toList "esp".toList []
  | .etherip => tagged "name".toList "etherip".toList []
  | .fc => tagged "name".toList "fc".toList []
  | .ggp => tagged "name".toList "ggp".toList []
  | .gre => tagged "name".toList "gre".toList []
  | .hip => tagged "name".toList "hip".toList []
  | .hmp => tagged "name".toList "hmp".toList []
  | .icmp typenameFilter => tagged "name".toList "icmp".toList [
      ("typenameFilter".toList, optional IcmpTypeName.typed typenameFilter)]
  | .icmpv6 typenameFilter => tagged "name".toList "icmpv6".toList [
      ("typenameFilter".toList, optional Icmpv6TypeName.typed typenameFilter)]
  | .idprCmtp => tagged "name".toList "idpr-cmtp".toList []
  | .idrp => tagged "name".toList "idrp".toList []
  | .igmp => tagged "name".toList "igmp".toList []
  | .igp => tagged "name".toList "igp".toList []
  | .ip => tagged "name".toList "ip".toList []
  | .ipcomp => tagged "name".toList "ipcomp".toList []
  | .ipencap => tagged "name".toList "ipencap".toList []
  | .ipip => tagged "name".toList "ipip".toList []
  | .ipv6 => tagged "name".toList "ipv6".toList []
  | .ipv6Frag => tagged "name".toList "ipv6-frag".toList []
  | .ipv6Nonxt => tagged "name".toList "ipv6-nonxt".toList []
  | .ipv6Opts => tagged "name".toList "ipv6-opts".toList []
  | .ipv6Route => tagged "name".toList "ipv6-route".toList []
  | .isis => tagged "name".toList "isis".toList []
  | .isoTp4 => tagged "name".toList "iso-tp4".toList []
  | .l2tp => tagged "name".toList "l2tp".toList []
  | .manet => tagged "name".toList "manet".toList []
  | .mobilityHeader => tagged "name".toList "mobility-header".toList []
  | .mplsInIp => tagged "name".toList "mpls-in-ip".toList []
  | .ospf => tagged "name".toList "ospf".toList []
  | .pim => tagged "name".toList "pim".toList []
  | .pup => tagged "name".toList "pup".toList []
  | .rdp => tagged "name".toList "rdp".toList []
  | .rohc => tagged "name".toList "rohc".toList []
  | .rspf => tagged "name".toList "rspf".toList []
  | .rsvp => tagged "name".toList "rsvp".toList []
  | .sctp => tagged "name".toList "sctp".toList []
  | .shim6 => tagged "name".toList "shim6".toList []
  | .skip => tagged "name".toList "skip".toList []
  | .st => tagged "name".toList "st".toList []
  | .tcp => tagged "name".toList "tcp".toList []
  | .tcpUdp => tagged "name".toList "tcp_udp".toList []
  | .udp => tagged "name".toList "udp".toList []
  | .udplite => tagged "name".toList "udplite".toList []
  | .vmtp => tagged "name".toList "vmtp".toList []
  | .vrrp => tagged "name".toList "vrrp".toList []
  | .wesp => tagged "name".toList "wesp".toList []
  | .xnsIdp => tagged "name".toList "xns-idp".toList []
  | .xtp => tagged "name".toList "xtp".toList []

/-- `ProtocolPreset` (firewall_policy_request.rs:624). -/
inductive ProtocolPreset where
  | tcpUdp

def ProtocolPreset.typed : ProtocolPreset → Typed
  | .tcpUdp => tagged "name".toList "TCP_UDP".toList []

/-- `ProtocolFilter` (firewall_policy_request.rs:351). -/
inductive ProtocolFilter where
  | namedProtocol (matchOpposite : Bool) (protocol : NamedProtocol)
  | preset (preset : ProtocolPreset)
  | protocolNumber (matchOpposite : Bool) (protocolNumber : Int32)

def ProtocolFilter.typed : ProtocolFilter → Typed
  | .namedProtocol matchOpposite protocol => tagged "type".toList "NAMED_PROTOCOL".toList [
      ("matchOpposite".toList, .bool matchOpposite), ("protocol".toList, protocol.typed)]
  | .preset named => tagged "type".toList "PRESET".toList [("preset".toList, named.typed)]
  | .protocolNumber matchOpposite value => tagged "type".toList "PROTOCOL_NUMBER".toList [
      ("matchOpposite".toList, .bool matchOpposite), ("protocolNumber".toList, .number value.toInt)]

/-- `IpProtocolScope` (firewall_policy_request.rs:328). -/
inductive IpProtocolScope where
  | ipv4 (protocolFilter : Option ProtocolFilter)
  | ipv6 (protocolFilter : Option ProtocolFilter)
  | ipv4AndIpv6 (protocolFilter : Option ProtocolFilter)

def IpProtocolScope.typed : IpProtocolScope → Typed
  | .ipv4 protocolFilter => tagged "ipVersion".toList "IPV4".toList [
      ("protocolFilter".toList, optional ProtocolFilter.typed protocolFilter)]
  | .ipv6 protocolFilter => tagged "ipVersion".toList "IPV6".toList [
      ("protocolFilter".toList, optional ProtocolFilter.typed protocolFilter)]
  | .ipv4AndIpv6 protocolFilter => tagged "ipVersion".toList "IPV4_AND_IPV6".toList [
      ("protocolFilter".toList, optional ProtocolFilter.typed protocolFilter)]

/-- `IpsecFilter` (firewall_policy_request.rs:630). -/
inductive IpsecFilter where
  | matchEncrypted
  | matchNotEncrypted

def IpsecFilter.typed : IpsecFilter → Typed
  | .matchEncrypted => .text "MATCH_ENCRYPTED".toList
  | .matchNotEncrypted => .text "MATCH_NOT_ENCRYPTED".toList

/-- `Day` (firewall_policy_request.rs:675). -/
inductive Day where
  | monday
  | tuesday
  | wednesday
  | thursday
  | friday
  | saturday
  | sunday

def Day.typed : Day → Typed
  | .monday => .text "MONDAY".toList
  | .tuesday => .text "TUESDAY".toList
  | .wednesday => .text "WEDNESDAY".toList
  | .thursday => .text "THURSDAY".toList
  | .friday => .text "FRIDAY".toList
  | .saturday => .text "SATURDAY".toList
  | .sunday => .text "SUNDAY".toList

/-- `ScheduleTime` (firewall_policy_request.rs:694). -/
structure ScheduleTime where
  startTime : Text
  stopTime : Text

def ScheduleTime.typed (x : ScheduleTime) : Typed :=
  .record [("startTime".toList, .text x.startTime), ("stopTime".toList, .text x.stopTime)]

/-- `Schedule` (firewall_policy_request.rs:639). -/
inductive Schedule where
  | custom (repeatOnDays : List Day) (startDate : Text) (stopDate : Text) (timeFilter : Option ScheduleTime)
  | everyDay (timeFilter : ScheduleTime)
  | everyWeek (repeatOnDays : List Day) (timeFilter : Option ScheduleTime)
  | oneTimeOnly (date : Text) (timeFilter : ScheduleTime)

def Schedule.typed : Schedule → Typed
  | .custom repeatOnDays startDate stopDate timeFilter => tagged "mode".toList "CUSTOM".toList [
      ("repeatOnDays".toList, .list (repeatOnDays.map Day.typed)), ("startDate".toList, .text startDate),
      ("stopDate".toList, .text stopDate), ("timeFilter".toList, optional ScheduleTime.typed timeFilter)]
  | .everyDay timeFilter => tagged "mode".toList "EVERY_DAY".toList [("timeFilter".toList, timeFilter.typed)]
  | .everyWeek repeatOnDays timeFilter => tagged "mode".toList "EVERY_WEEK".toList [
      ("repeatOnDays".toList, .list (repeatOnDays.map Day.typed)),
      ("timeFilter".toList, optional ScheduleTime.typed timeFilter)]
  | .oneTimeOnly date timeFilter => tagged "mode".toList "ONE_TIME_ONLY".toList [
      ("date".toList, .text date), ("timeFilter".toList, timeFilter.typed)]

/-- `MacAddressFilter` (firewall_policy_request.rs:788). -/
structure MacAddressFilter where
  macAddresses : List Text

def MacAddressFilter.typed (x : MacAddressFilter) : Typed :=
  .record [("macAddresses".toList, .list (x.macAddresses.map .text))]

/-- `SourceTrafficFilter` (firewall_policy_request.rs:713). -/
inductive SourceTrafficFilter where
  | ipv6Iid (ipv6IidFilter : Ipv6InterfaceIdentifierFilter) (macAddressFilter : Option Text) (portFilter : Option PortFilter)
  | ipAddress (ipAddressFilter : IpAddressFilter) (macAddressFilter : Option Text) (portFilter : Option PortFilter)
  | macAddress (macAddressFilter : MacAddressFilter) (portFilter : Option PortFilter)
  | network (macAddressFilter : Option Text) (networkFilter : NetworkFilter) (portFilter : Option PortFilter)
  | port (portFilter : PortFilter)
  | region (portFilter : Option PortFilter) (regionFilter : RegionFilter)
  | siteToSiteVpnTunnel (portFilter : Option PortFilter) (siteToSiteVpnTunnelFilter : SiteToSiteVpnTunnelFilter)
  | vpnServer (portFilter : Option PortFilter) (vpnServerFilter : VpnServerFilter)

def SourceTrafficFilter.typed : SourceTrafficFilter → Typed
  | .ipv6Iid ipv6IidFilter macAddressFilter portFilter => tagged "type".toList "IPV6_IID".toList [
      ("ipv6IidFilter".toList, ipv6IidFilter.typed), ("macAddressFilter".toList, optional .text macAddressFilter),
      ("portFilter".toList, optional PortFilter.typed portFilter)]
  | .ipAddress ipAddressFilter macAddressFilter portFilter => tagged "type".toList "IP_ADDRESS".toList [
      ("ipAddressFilter".toList, ipAddressFilter.typed),
      ("macAddressFilter".toList, optional .text macAddressFilter),
      ("portFilter".toList, optional PortFilter.typed portFilter)]
  | .macAddress macAddressFilter portFilter => tagged "type".toList "MAC_ADDRESS".toList [
      ("macAddressFilter".toList, macAddressFilter.typed),
      ("portFilter".toList, optional PortFilter.typed portFilter)]
  | .network macAddressFilter networkFilter portFilter => tagged "type".toList "NETWORK".toList [
      ("macAddressFilter".toList, optional .text macAddressFilter), ("networkFilter".toList, networkFilter.typed),
      ("portFilter".toList, optional PortFilter.typed portFilter)]
  | .port portFilter => tagged "type".toList "PORT".toList [("portFilter".toList, portFilter.typed)]
  | .region portFilter regionFilter => tagged "type".toList "REGION".toList [
      ("portFilter".toList, optional PortFilter.typed portFilter), ("regionFilter".toList, regionFilter.typed)]
  | .siteToSiteVpnTunnel portFilter siteToSiteVpnTunnelFilter => tagged "type".toList "SITE_TO_SITE_VPN_TUNNEL".toList [
      ("portFilter".toList, optional PortFilter.typed portFilter),
      ("siteToSiteVpnTunnelFilter".toList, siteToSiteVpnTunnelFilter.typed)]
  | .vpnServer portFilter vpnServerFilter => tagged "type".toList "VPN_SERVER".toList [
      ("portFilter".toList, optional PortFilter.typed portFilter), ("vpnServerFilter".toList, vpnServerFilter.typed)]

/-- `Source` (firewall_policy_request.rs:703). -/
structure Source where
  trafficFilter : Option SourceTrafficFilter
  zoneId : Text

def Source.typed (x : Source) : Typed :=
  .record [
    ("trafficFilter".toList, optional SourceTrafficFilter.typed x.trafficFilter), ("zoneId".toList, .text x.zoneId)]

/-- `FirewallPolicyRequest` (firewall_policy_request.rs:37). -/
structure FirewallPolicyRequest where
  action : Action
  connectionStateFilter : Option (List ConnectionState)
  description : Option Text
  destination : Destination
  enabled : Bool
  ipProtocolScope : IpProtocolScope
  ipsecFilter : Option IpsecFilter
  loggingEnabled : Bool
  name : Text
  schedule : Option Schedule
  source : Source

def FirewallPolicyRequest.typed (r : FirewallPolicyRequest) : Typed :=
  .record [
    ("action".toList, r.action.typed),
    ("connectionStateFilter".toList, optional (fun items => .list (items.map ConnectionState.typed)) r.connectionStateFilter),
    ("description".toList, optional .text r.description), ("destination".toList, r.destination.typed),
    ("enabled".toList, .bool r.enabled), ("ipProtocolScope".toList, r.ipProtocolScope.typed),
    ("ipsecFilter".toList, optional IpsecFilter.typed r.ipsecFilter),
    ("loggingEnabled".toList, .bool r.loggingEnabled), ("name".toList, .text r.name),
    ("schedule".toList, optional Schedule.typed r.schedule), ("source".toList, r.source.typed)]

/-! ## Complete parts -/

theorem Action.typed_complete (x : Action) : x.typed.Complete := by
  cases x <;> exact complete_record (by simp) (by simp)

theorem ConnectionState.typed_complete (x : ConnectionState) : x.typed.Complete := by
  cases x <;> exact complete_text _

theorem PortMatching.typed_complete (x : PortMatching) : x.typed.Complete := by
  cases x <;> exact complete_record (by simp) (by simp)

theorem PortFilter.typed_complete (x : PortFilter) : x.typed.Complete := by
  cases x with
  | ports matchOpposite items => exact complete_record (by simp) (by simp [complete_list PortMatching.typed_complete])
  | trafficMatchingList matchOpposite id => exact complete_record (by simp) (by simp)

theorem complete_texts (texts : List Text) : (Typed.list (texts.map .text)).Complete := complete_list complete_text texts

theorem complete_numbers (numbers : List Int32) : (Typed.list (numbers.map (.number ·.toInt))).Complete :=
  complete_list (fun _ => complete_number _) numbers

theorem ApplicationFilter.typed_complete (x : ApplicationFilter) : x.typed.Complete :=
  complete_record (by simp) (by simp [complete_numbers])

theorem ApplicationCategoryFilter.typed_complete (x : ApplicationCategoryFilter) : x.typed.Complete :=
  complete_record (by simp) (by simp [complete_numbers])

theorem DomainFilter.typed_complete (x : DomainFilter) : x.typed.Complete := by
  cases x
  exact complete_record (by simp) (by simp [complete_texts])

theorem Ipv6InterfaceIdentifierFilter.typed_complete (x : Ipv6InterfaceIdentifierFilter) : x.typed.Complete :=
  complete_record (by simp) (by simp)

theorem IpMatching.typed_complete (x : IpMatching) : x.typed.Complete := by
  cases x <;> exact complete_record (by simp) (by simp)

theorem IpAddressFilter.typed_complete (x : IpAddressFilter) : x.typed.Complete := by
  cases x with
  | ipAddresses matchOpposite items => exact complete_record (by simp) (by simp [complete_list IpMatching.typed_complete])
  | trafficMatchingList matchOpposite id => exact complete_record (by simp) (by simp)

theorem NetworkFilter.typed_complete (x : NetworkFilter) : x.typed.Complete :=
  complete_record (by simp) (by simp [complete_texts])

theorem RegionFilter.typed_complete (x : RegionFilter) : x.typed.Complete :=
  complete_record (by simp) (by simp [complete_texts])

theorem SiteToSiteVpnTunnelFilter.typed_complete (x : SiteToSiteVpnTunnelFilter) : x.typed.Complete :=
  complete_record (by simp) (by simp)

theorem VpnServerFilter.typed_complete (x : VpnServerFilter) : x.typed.Complete :=
  complete_record (by simp) (by simp [complete_texts])

theorem MacAddressFilter.typed_complete (x : MacAddressFilter) : x.typed.Complete :=
  complete_record (by simp) (by simp [complete_texts])

theorem ScheduleTime.typed_complete (x : ScheduleTime) : x.typed.Complete :=
  complete_record (by simp) (by simp)

theorem Day.typed_complete (x : Day) : x.typed.Complete := by
  cases x <;> exact complete_text _

theorem IpsecFilter.typed_complete (x : IpsecFilter) : x.typed.Complete := by
  cases x <;> exact complete_text _

theorem ProtocolPreset.typed_complete (x : ProtocolPreset) : x.typed.Complete := by
  cases x
  exact complete_record (by simp) (by simp)

theorem IcmpTypeName.typed_complete (x : IcmpTypeName) : x.typed.Complete := by
  cases x <;> exact complete_text _

theorem Icmpv6TypeName.typed_complete (x : Icmpv6TypeName) : x.typed.Complete := by
  cases x <;> exact complete_text _

/-! ## Parts with optional members -/

theorem NamedProtocol.typed_within (x : NamedProtocol) : x.typed.Within [[.key "typenameFilter".toList]] := by
  have hplace : [.key "typenameFilter".toList] ∈ [[Json.Step.key "typenameFilter".toList]] := List.mem_cons_self
  cases x with
  | icmp typenameFilter =>
    exact within_record (by simp) ⟨(complete_text _).needed, .optional_complete IcmpTypeName.typed_complete hplace, trivial⟩
  | icmpv6 typenameFilter =>
    exact within_record (by simp) ⟨(complete_text _).needed, .optional_complete Icmpv6TypeName.typed_complete hplace, trivial⟩
  | _ => exact within_record (by simp) ⟨(complete_text _).needed, trivial⟩

theorem ProtocolFilter.typed_within (x : ProtocolFilter) :
    x.typed.Within [[.key "protocol".toList, .key "typenameFilter".toList]] := by
  cases x with
  | namedProtocol matchOpposite protocol =>
    exact within_record (by simp) ⟨(complete_text _).needed, (complete_bool _).needed,
      protocol.typed_within.required (by simp), trivial⟩
  | preset named =>
    exact within_record (by simp) ⟨(complete_text _).needed, named.typed_complete.needed, trivial⟩
  | protocolNumber matchOpposite value =>
    exact within_record (by simp) ⟨(complete_text _).needed, (complete_bool _).needed, (complete_number _).needed, trivial⟩

theorem IpProtocolScope.typed_within (x : IpProtocolScope) : x.typed.Within [[.key "protocolFilter".toList],
    [.key "protocolFilter".toList, .key "protocol".toList, .key "typenameFilter".toList]] := by
  cases x <;> exact within_record (by simp) ⟨(complete_text _).needed,
    .optional ProtocolFilter.typed_within List.mem_cons_self (by simp), trivial⟩

theorem Schedule.typed_within (x : Schedule) : x.typed.Within [[.key "timeFilter".toList]] := by
  have hplace : [.key "timeFilter".toList] ∈ [[Json.Step.key "timeFilter".toList]] := List.mem_cons_self
  cases x with
  | custom days start stop time =>
    exact within_record (by simp) ⟨(complete_text _).needed, (complete_list Day.typed_complete days).needed,
      (complete_text _).needed, (complete_text _).needed, .optional_complete ScheduleTime.typed_complete hplace, trivial⟩
  | everyDay time => exact within_record (by simp) ⟨(complete_text _).needed, time.typed_complete.needed, trivial⟩
  | everyWeek days time =>
    exact within_record (by simp) ⟨(complete_text _).needed, (complete_list Day.typed_complete days).needed,
      .optional_complete ScheduleTime.typed_complete hplace, trivial⟩
  | oneTimeOnly date time =>
    exact within_record (by simp) ⟨(complete_text _).needed, (complete_text _).needed, time.typed_complete.needed, trivial⟩

/-- The optional members of a source's filter. -/
def sourceFilterPlaces : List (List Json.Step) := [[.key "portFilter".toList], [.key "macAddressFilter".toList]]

theorem SourceTrafficFilter.typed_within (x : SourceTrafficFilter) : x.typed.Within sourceFilterPlaces := by
  have htag {variant : Text} : MemberWithin sourceFilterPlaces ("type".toList, .text variant) := (complete_text _).needed
  have hport : [.key "portFilter".toList] ∈ sourceFilterPlaces := List.mem_cons_self
  have hmac : [.key "macAddressFilter".toList] ∈ sourceFilterPlaces := List.mem_cons_of_mem _ List.mem_cons_self
  cases x with
  | ipv6Iid filter mac port =>
    exact within_record (by simp) ⟨htag, filter.typed_complete.needed, .optional_complete complete_text hmac,
      .optional_complete PortFilter.typed_complete hport, trivial⟩
  | ipAddress filter mac port =>
    exact within_record (by simp) ⟨htag, filter.typed_complete.needed, .optional_complete complete_text hmac,
      .optional_complete PortFilter.typed_complete hport, trivial⟩
  | macAddress filter port =>
    exact within_record (by simp) ⟨htag, filter.typed_complete.needed,
      .optional_complete PortFilter.typed_complete hport, trivial⟩
  | network mac filter port =>
    exact within_record (by simp) ⟨htag, .optional_complete complete_text hmac, filter.typed_complete.needed,
      .optional_complete PortFilter.typed_complete hport, trivial⟩
  | port filter => exact within_record (by simp) ⟨htag, filter.typed_complete.needed, trivial⟩
  | region port filter =>
    exact within_record (by simp) ⟨htag, .optional_complete PortFilter.typed_complete hport,
      filter.typed_complete.needed, trivial⟩
  | siteToSiteVpnTunnel port filter =>
    exact within_record (by simp) ⟨htag, .optional_complete PortFilter.typed_complete hport,
      filter.typed_complete.needed, trivial⟩
  | vpnServer port filter =>
    exact within_record (by simp) ⟨htag, .optional_complete PortFilter.typed_complete hport,
      filter.typed_complete.needed, trivial⟩

/-- The optional member of a destination's filter. -/
def destinationFilterPlaces : List (List Json.Step) := [[.key "portFilter".toList]]

theorem DestinationTrafficFilter.typed_within (x : DestinationTrafficFilter) : x.typed.Within destinationFilterPlaces := by
  have htag {variant : Text} : MemberWithin destinationFilterPlaces ("type".toList, .text variant) := (complete_text _).needed
  have hport : [.key "portFilter".toList] ∈ destinationFilterPlaces := List.mem_cons_self
  cases x with
  | application filter port =>
    exact within_record (by simp) ⟨htag, filter.typed_complete.needed,
      .optional_complete PortFilter.typed_complete hport, trivial⟩
  | applicationCategory filter port =>
    exact within_record (by simp) ⟨htag, filter.typed_complete.needed,
      .optional_complete PortFilter.typed_complete hport, trivial⟩
  | domain filter port =>
    exact within_record (by simp) ⟨htag, filter.typed_complete.needed,
      .optional_complete PortFilter.typed_complete hport, trivial⟩
  | ipv6Iid filter port =>
    exact within_record (by simp) ⟨htag, filter.typed_complete.needed,
      .optional_complete PortFilter.typed_complete hport, trivial⟩
  | ipAddress filter port =>
    exact within_record (by simp) ⟨htag, filter.typed_complete.needed,
      .optional_complete PortFilter.typed_complete hport, trivial⟩
  | network filter port =>
    exact within_record (by simp) ⟨htag, filter.typed_complete.needed,
      .optional_complete PortFilter.typed_complete hport, trivial⟩
  | port filter => exact within_record (by simp) ⟨htag, filter.typed_complete.needed, trivial⟩
  | region port filter =>
    exact within_record (by simp) ⟨htag, .optional_complete PortFilter.typed_complete hport,
      filter.typed_complete.needed, trivial⟩
  | siteToSiteVpnTunnel port filter =>
    exact within_record (by simp) ⟨htag, .optional_complete PortFilter.typed_complete hport,
      filter.typed_complete.needed, trivial⟩
  | vpnServer port filter =>
    exact within_record (by simp) ⟨htag, .optional_complete PortFilter.typed_complete hport,
      filter.typed_complete.needed, trivial⟩

theorem Source.typed_within (x : Source) : x.typed.Within [[.key "trafficFilter".toList],
    [.key "trafficFilter".toList, .key "portFilter".toList], [.key "trafficFilter".toList, .key "macAddressFilter".toList]] :=
  within_record (by simp) ⟨.optional SourceTrafficFilter.typed_within List.mem_cons_self (by simp [sourceFilterPlaces]),
    (complete_text _).needed, trivial⟩

theorem Destination.typed_within (x : Destination) : x.typed.Within [[.key "trafficFilter".toList],
    [.key "trafficFilter".toList, .key "portFilter".toList]] :=
  within_record (by simp) ⟨.optional DestinationTrafficFilter.typed_within List.mem_cons_self
    (by simp [destinationFilterPlaces]), (complete_text _).needed, trivial⟩

/-! ## The pointers -/

/-- The pointers of `matches` (firewall_policy_request.rs:13-24). -/
def optionalPointers : List Text :=
  ["/connectionStateFilter".toList, "/description".toList, "/ipsecFilter".toList, "/schedule".toList,
    "/schedule/timeFilter".toList, "/source/trafficFilter".toList, "/source/trafficFilter/portFilter".toList,
    "/source/trafficFilter/macAddressFilter".toList, "/destination/trafficFilter".toList,
    "/destination/trafficFilter/portFilter".toList, "/ipProtocolScope/protocolFilter".toList,
    "/ipProtocolScope/protocolFilter/protocol/typenameFilter".toList]

/-- `matches` (firewall_policy_request.rs:10). -/
def policyMatches (requested observed : Json) : Bool :=
  requestedJsonMatches requested observed &&
    optionalPointers.all fun path => (requested.pointer path).isSome || (observed.pointer path).all fun found => found = .null

def optionalPlaces : List (List Json.Step) := optionalPointers.map Json.place

theorem optionalPlaces_eq : optionalPlaces = [[.key "connectionStateFilter".toList], [.key "description".toList],
    [.key "ipsecFilter".toList], [.key "schedule".toList], [.key "schedule".toList, .key "timeFilter".toList],
    [.key "source".toList, .key "trafficFilter".toList],
    [.key "source".toList, .key "trafficFilter".toList, .key "portFilter".toList],
    [.key "source".toList, .key "trafficFilter".toList, .key "macAddressFilter".toList],
    [.key "destination".toList, .key "trafficFilter".toList],
    [.key "destination".toList, .key "trafficFilter".toList, .key "portFilter".toList],
    [.key "ipProtocolScope".toList, .key "protocolFilter".toList],
    [.key "ipProtocolScope".toList, .key "protocolFilter".toList, .key "protocol".toList, .key "typenameFilter".toList]] := by
  decide +kernel

/-- **The pointers of `matches` cover every member a request can leave out.** -/
theorem FirewallPolicyRequest.typed_within (r : FirewallPolicyRequest) : r.typed.Within optionalPlaces := by
  rw [optionalPlaces_eq]
  refine within_record (by simp) ⟨r.action.typed_complete.needed, ?_, ?_, ?_, (complete_bool _).needed, ?_, ?_,
    (complete_bool _).needed, (complete_text _).needed, ?_, ?_, trivial⟩
  · exact .optional_complete (complete_list ConnectionState.typed_complete) (by decide +kernel)
  · exact .optional_complete complete_text (by decide +kernel)
  · exact r.destination.typed_within.required (by decide +kernel)
  · exact r.ipProtocolScope.typed_within.required (by decide +kernel)
  · exact .optional_complete IpsecFilter.typed_complete (by decide +kernel)
  · exact .optional Schedule.typed_within (by decide +kernel) (by decide +kernel)
  · exact r.source.typed_within.required (by decide +kernel)

/-- What is sent: `serde_json::to_value` of the request. -/
def FirewallPolicyRequest.serialise (r : FirewallPolicyRequest) : Json := r.typed.json

/-- A place where the contract has an optional member: some request leaves it out. -/
def OptionalMember (path : List Json.Step) : Prop := ∃ r : FirewallPolicyRequest, path ∈ r.typed.omitted

/-- A request with every optional member of the first level left out. -/
def bareRequest : FirewallPolicyRequest :=
  ⟨.block, none, none, ⟨none, "z2".toList⟩, true, .ipv4 none, none, false, "p".toList, none, ⟨none, "z1".toList⟩⟩

/-- A request with the optional members below left out. -/
def filteredRequest : FirewallPolicyRequest :=
  { bareRequest with
    destination := ⟨some (.region none ⟨["SE".toList]⟩), "z2".toList⟩
    ipProtocolScope := .ipv4 (some (.namedProtocol false (.icmp none)))
    schedule := some (.everyWeek [.monday] none)
    source := ⟨some (.network none ⟨false, ["n1".toList]⟩ none), "z1".toList⟩ }

theorem optionalMember_of_mem {path : List Json.Step} (h : path ∈ optionalPlaces) : OptionalMember path := by
  have hall : (optionalPlaces.all fun path => path ∈ bareRequest.typed.omitted || path ∈ filteredRequest.typed.omitted) = true := by
    decide +kernel
  have hpath := List.all_eq_true.1 hall path h
  rw [Bool.or_eq_true, decide_eq_true_eq, decide_eq_true_eq] at hpath
  rcases hpath with hpath | hpath
  · exact ⟨bareRequest, hpath⟩
  · exact ⟨filteredRequest, hpath⟩

/-- Each pointer of the list is looked up member by member. -/
theorem pointer_of_mem {path : Text} (h : path ∈ optionalPointers) (value : Json) :
    value.pointer path = value.lookup (Json.place path) := by
  have hall : (optionalPointers.all fun path => path.head? = some '/' &&
      (Json.tokens path).all fun token => Json.parseIndex token = none) = true := by decide +kernel
  have hpath := List.all_eq_true.1 hall path h
  rw [Bool.and_eq_true, decide_eq_true_eq] at hpath
  exact Json.pointer_eq_lookup hpath.1 (fun token ht => of_decide_eq_true (List.all_eq_true.1 hpath.2 token ht)) value

theorem policyMatches_iff {requested observed : Json} : policyMatches requested observed = true ↔
    requestedJsonMatches requested observed = true ∧ ∀ path ∈ optionalPlaces, requested.lookup path = none →
      observed.lookup path = none ∨ observed.lookup path = some .null := by
  rw [policyMatches, Bool.and_eq_true, List.all_eq_true, optionalPlaces, List.forall_mem_map]
  refine and_congr_right fun _ => forall₂_congr fun path hpath => ?_
  rw [pointer_of_mem hpath, pointer_of_mem hpath]
  cases requested.lookup (Json.place path) with
  | some wanted => simp
  | none => cases observed.lookup (Json.place path) <;> simp

/-- Two spellings of one number. -/
def SameNumber (a b : Text) : Prop := ∃ value : ℚ, decimalValue a = some value ∧ decimalValue b = some value

/-- The observed value is the requested one, extended inside objects by members where the contract has
no optional member. -/
structure Extends (requested observed : Json) : Prop where
  kept : requested.Carries Eq observed
  added : ∀ path, requested.lookup path = none → (observed.lookup path).isSome → ¬ OptionalMember path

theorem serialise_distinct (r : FirewallPolicyRequest) : r.serialise.Distinct :=
  distinct_json r.typed r.typed_within.distinct

theorem carries_sameNumber {r : FirewallPolicyRequest} {observed : Json} (h : Matched r.serialise observed) :
    r.serialise.Carries SameNumber observed := by
  intro path wanted hwanted
  obtain ⟨actual, hactual, hagrees⟩ := h path wanted hwanted
  refine ⟨actual, hactual, ?_⟩
  cases wanted with
  | number spelling =>
    cases actual with
    | number other =>
      obtain ⟨n, rfl⟩ := lookup_number hwanted
      exact ⟨n, decimalValue_decInt n, (decimalValue_of_equivalent hagrees) ▸ decimalValue_decInt n⟩
    | null | bool | string | array | object => exact hagrees
  | null | bool | string | array | object => cases actual <;> exact hagrees

/-- **Verification of a firewall policy.** A match has every serialised member with its value and no
optional member that the request leaves out; and an extension of the request outside the optional
members matches. -/
theorem policy_matches (r : FirewallPolicyRequest) (observed : Json) :
    (policyMatches r.serialise observed = true → r.serialise.Carries SameNumber observed ∧
      ∀ path ∈ r.typed.omitted, observed.lookup path = none ∨ observed.lookup path = some .null) ∧
    (Extends r.serialise observed → policyMatches r.serialise observed = true) := by
  have hdistinct := serialise_distinct r
  constructor
  · intro h
    obtain ⟨hrequested, hpointers⟩ := policyMatches_iff.1 h
    refine ⟨carries_sameNumber ((requestedJsonMatches_iff _ _ hdistinct).1 hrequested), fun path hpath => ?_⟩
    exact hpointers path (r.typed_within.omitted path hpath) (lookup_of_omitted r.typed_within.distinct hpath)
  · intro h
    refine policyMatches_iff.2 ⟨(requestedJsonMatches_iff _ _ hdistinct).2 ?_, fun path hpath hnone => ?_⟩
    · exact h.kept.mono fun a b hab => hab ▸ numbersEquivalent_refl a
    · refine Or.inl (Option.not_isSome_iff_eq_none.1 fun hsome => ?_)
      exact h.added path hnone hsome (optionalMember_of_mem hpath)

/-- What the controller reads back for `bareRequest`, with a record id and some members of its own. -/
def bareReadback (extra : List (Text × Json)) : Json :=
  .object ([("id".toList, .string "r1".toList), ("action".toList, .object [("type".toList, .string "BLOCK".toList)]),
    ("destination".toList, .object [("zoneId".toList, .string "z2".toList)]), ("enabled".toList, .bool true),
    ("ipProtocolScope".toList, .object [("ipVersion".toList, .string "IPV4".toList)]), ("loggingEnabled".toList, .bool false),
    ("name".toList, .string "p".toList), ("source".toList, .object [("zoneId".toList, .string "z1".toList)])] ++ extra)

theorem policy_matches_bare : policyMatches bareRequest.serialise (bareReadback []) = true ∧
    bareRequest.serialise.Carries SameNumber (bareReadback []) := by
  have hmatch : policyMatches bareRequest.serialise (bareReadback []) = true := by decide +kernel
  exact ⟨hmatch, ((policy_matches bareRequest (bareReadback [])).1 hmatch).1⟩

/-- A schedule the request leaves out is no match. -/
example : policyMatches bareRequest.serialise
    (bareReadback [("schedule".toList, .object [("mode".toList, .string "EVERY_DAY".toList)])]) = false := by decide +kernel

end UnifiMcp.FirewallPolicy
