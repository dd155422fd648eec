import Orizon.Lib.Digits
import Orizon.Lib.Ladder
import Orizon.Lib.Word
import Orizon.Rsa.Bytes
import Orizon.Rsa.Modular
import Orizon.Rsa.Verify
import Orizon.Rsa.Crt
import Orizon.Rsa.Keygen
import Orizon.X25519.Field
import Orizon.X25519.Packing
import Orizon.X25519.Ladder
import Orizon.Kmalloc.Run
import Orizon.Kmalloc.Refusal
import Orizon.Vfs.KernelHeap
import Orizon.Vfs.Load
import Orizon.Vfs.Frame
import Orizon.Vfs.Handles
import Orizon.Vfs.WellFormed
import Orizon.Vfs.Refine
import Orizon.Vfs.Clear
import Orizon.Vfs.Save
import Orizon.Vfs.Within
import Orizon.Vfs.LastWritten
import Orizon.Vfs.Alternation
import Orizon.Aes
import Orizon.GcmStandard
import Orizon.Ccm
import Orizon.Lib.History
import Orizon.Lib.Lockout
import Orizon.Net.TcpServer
import Orizon.Ssh.Auth
import Orizon.Ssh.Channel
import Orizon.Ssh.Handlers
import Orizon.Ssh.Lockout
import Orizon.Ssh.Flow
import Orizon.Ssh.Queue
import Orizon.Ssh.Shell
import Orizon.Ssh.Negotiation
import Orizon.Ssh.Guard
import Orizon.Ssh.RoundTrip
import Orizon.Net.TcpStream
import Orizon.Net.TcpServerStream
import Orizon.Net.TlsRecord
import Orizon.Net.CertificateChain
import Orizon.Net.HttpsRange
import Orizon.Wifi.Receive
import Orizon.Wifi.Mpdu
import Orizon.Wifi.Delivery
import Orizon.Wifi.Link
import Orizon.System.Klog
import Orizon.System.Sched
import Orizon.Vfs.Restore
import Orizon.Wifi.Plan
import Orizon.Terminal.Pipeline
import Orizon.Terminal.Installer
import Orizon.Install.Mark
import Orizon.Install.Esp
import Orizon.Desktop.Session
import Orizon.Update.Limine
import Orizon.Packages.Sections
import Orizon.Packages.Footprint
import Orizon.Net.SignatureAgreement
import Orizon.Lib.Labels
import Orizon.Net.DnsName
import Orizon.Lib.Agree
import Orizon.Net.CertificateWalk
import Orizon.Lib.Checked
import Orizon.Net.Received
import Orizon.Net.Dhcp
import Orizon.Net.DnsQuery
import Orizon.System.Printf
import Orizon.Update.Manifest
import Orizon.Update.RawPath
import Orizon.Lib.OnesComplement
import Orizon.Net.SendTcp
import Orizon.Net.Ipv4Text
import Orizon.Net.StaticConfig
import Orizon.Net.TlsHandshake
import Orizon.KeyWrap
import Orizon.CtrStandard
import Orizon.System.PrintfStandard
import Orizon.System.DefaultsTwice
import Orizon.Wifi.Response
import Orizon.Wifi.Ssid
import Orizon.Wifi.WpaStandard
import Orizon.Wifi.Inside
import Orizon.Lib.Strncpy
import Orizon.Install.Format
import Orizon.Rsa.Prime
import Orizon.Wifi.FirmwareTlv
import Orizon.Terminal.Filters
import Orizon.Terminal.EditorLines
import Orizon.Terminal.History
import Orizon.Desktop.HitTest
