import NordVPN.Auth.Erasure
import NordVPN.Daemon.AutoConnect
import NordVPN.Daemon.Concurrency
import NordVPN.Daemon.Ipv6
import NordVPN.Daemon.Nameservers
import NordVPN.Daemon.Response
import NordVPN.Daemon.SharedContext
import NordVPN.Daemon.Subnets
import NordVPN.Daemon.Ucred
import NordVPN.Dns.Hosts
import NordVPN.Dns.ResolvConf
import NordVPN.ExitNode.AllowlistRuns
import NordVPN.Fileshare.AcceptPaths
import NordVPN.Fileshare.SendPaths
import NordVPN.Fileshare.Streams
import NordVPN.Fileshare.Totals
import NordVPN.Fileshare.TransferPath
import NordVPN.Firewall.Deletion
import NordVPN.Firewall.IptablesManager
import NordVPN.Firewall.PortRanges
import NordVPN.Kernel.Sysctl
import NordVPN.Meshnet.Agreement
import NordVPN.Meshnet.Identity
import NordVPN.Meshnet.Interleaving
import NordVPN.Meshnet.LateRefresh
import NordVPN.Meshnet.PeerNames
import NordVPN.Network.Resolver
import NordVPN.Networker.Blocking
import NordVPN.Networker.DnsLeak
import NordVPN.Networker.LocalOption
import NordVPN.Networker.PeerScope
import NordVPN.Networker.RefreshReport
import NordVPN.Networker.Retry
import NordVPN.NordLynx.Identity
import NordVPN.NordLynx.KernelSpace
import NordVPN.NordLynx.Watching
import NordVPN.Norduser.Fileshare
import NordVPN.Norduser.ProcessMonitor
import NordVPN.OpenVPN.ManagementClient
import NordVPN.OpenVPN.Notices
import NordVPN.OpenVPN.Retries
import NordVPN.Request.QuicTransport
import NordVPN.Routes.Ifgroup
import NordVPN.Routes.Retriever
import NordVPN.Routes.Switching
import NordVPN.Servers.DedicatedIP
import NordVPN.Servers.ListingOrder
import NordVPN.Settings.Manager
