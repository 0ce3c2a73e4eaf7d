import NsProxy.FakeDns.Question
import NsProxy.Proxy.HttpRequest
import NsProxy.Setup.Protocol
import NsProxy.EventLoop.OutboundClose
import NsProxy.EventLoop.Carriers
import NsProxy.FakeDns.Response
import NsProxy.Process.Outlives
import NsProxy.Process.ForwardOnce
import NsProxy.Setup.RegularFiles
import NsProxy.Setup.Publish
import NsProxy.EventLoop.Readiness
import NsProxy.EventLoop.Destinations
import NsProxy.Setup.Inheritance
import NsProxy.EventLoop.AcceptTasks
import NsProxy.Process.Launch
import NsProxy.Supervisor.ExitCode
import NsProxy.EventLoop.Device
import NsProxy.Proxy.Connect
import NsProxy.Rule.Written
import NsProxy.Setup.IdMaps
