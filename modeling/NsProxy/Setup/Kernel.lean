import Mathlib.Logic.Function.Basic
import NsProxy.Lib.Calls
import NsProxy.Lib.Memory
import NsProxy.Setup.BindMounts

/-!
# The system calls of the set-up

The calls that `namespace.rs` makes, the requests it passes with them as they lie in memory,
and what the kernel does with a call that succeeds. Any call may fail with any error number. A
descriptor that is opened was not open before; a descriptor is gone after `close`, whether or
not `close` reports an error.
-/

namespace NsProxy.Setup

open Calls

/-! ## Requests -/

/-- `IF_NAMESIZE`. -/
def ifNamesize : Nat := 16

/-- `TUN_NAME`. -/
def tunName : String := "eth0"

/-- `TUN_PREFIX`. -/
def tunPrefix : UInt8 := 31

/-- `TUN_MTU`. -/
def tunMtu : UInt32 := 65000

/-- `AF_INET`. -/
def afInet : UInt16 := 2

/-- `IFF_TUN | IFF_NO_PI`. -/
def tunFlags : UInt16 := 0x0001 ||| 0x1000

/-- `IFF_UP | IFF_RUNNING`. -/
def upFlags : UInt16 := 0x1 ||| 0x40

/-- `RTF_UP | RTF_GATEWAY`. -/
def routeFlags : UInt16 := 0x1 ||| 0x2

/-- `sockaddr`, of the size of a `sockaddr_in`. -/
abbrev Sockaddr : Type := Block 16

namespace Sockaddr

/-- `sin_family` and `sin_addr` are written into a zeroed `sockaddr`; the address is a
`u32::from_be_bytes(octets).to_be()`. -/
def inet (endian : Endian) (address : UInt32) : Sockaddr :=
  (Block.zeroed.write 0 (endian.store16 afInet)).write 4 (endian.store32 (endian.toBe address))

/-- `sin_family` as the kernel reads it. -/
def family (endian : Endian) (addr : Sockaddr) : UInt16 := endian.load16 (addr.read 0 2)

/-- The octets of `sin_addr` as the kernel reads them. -/
def octets (addr : Sockaddr) : List UInt8 := addr.read 4 4

end Sockaddr

/-- `ifreq`: the name, and the union of what can be asked for. -/
structure Ifreq where
  /-- `ifr_name`. -/
  ifrName : Block 16
  /-- `ifr_ifru`. -/
  ifrIfru : Block 24

namespace Ifreq

/-- `std::mem::zeroed` with a name copied in. -/
def named (name : Block 16) : Ifreq := ⟨name, .zeroed⟩

/-- `ifru_flags` is written. -/
def setFlags (request : Ifreq) (endian : Endian) (flags : UInt16) : Ifreq :=
  { request with ifrIfru := request.ifrIfru.write 0 (endian.store16 flags) }

/-- `ifru_mtu` is written. -/
def setMtu (request : Ifreq) (endian : Endian) (mtu : UInt32) : Ifreq :=
  { request with ifrIfru := request.ifrIfru.write 0 (endian.store32 mtu) }

/-- `sin_family` and `sin_addr` of `ifru_addr` are written. -/
def setAddr (request : Ifreq) (endian : Endian) (address : UInt32) : Ifreq :=
  { request with
    ifrIfru := (request.ifrIfru.write 0 (endian.store16 afInet)).write 4
      (endian.store32 (endian.toBe address)) }

/-- The name as the kernel reads it, up to the first NUL. -/
def name (request : Ifreq) : List UInt8 := (request.ifrName.read 0 16).takeWhile (· ≠ 0)

/-- `ifru_flags` as the kernel reads it. -/
def flags (request : Ifreq) (endian : Endian) : UInt16 :=
  endian.load16 (request.ifrIfru.read 0 2)

/-- `ifru_mtu` as the kernel reads it. -/
def mtu (request : Ifreq) (endian : Endian) : UInt32 := endian.load32 (request.ifrIfru.read 0 4)

/-- `sin_family` of `ifru_addr` as the kernel reads it. -/
def family (request : Ifreq) (endian : Endian) : UInt16 :=
  endian.load16 (request.ifrIfru.read 0 2)

/-- The octets of `sin_addr` of `ifru_addr` as the kernel reads them. -/
def octets (request : Ifreq) : List UInt8 := request.ifrIfru.read 4 4

end Ifreq

/-- `rtentry`, with the name that `rt_dev` points to. -/
structure Rtentry where
  /-- `rt_dst`. -/
  rtDst : Sockaddr
  /-- `rt_gateway`. -/
  rtGateway : Sockaddr
  /-- `rt_genmask`. -/
  rtGenmask : Sockaddr
  /-- `rt_flags`. -/
  rtFlags : UInt16
  /-- `rt_dev`. -/
  rtDev : Block 16

/-- The requests made with `ioctl`. -/
inductive Request
  /-- `TUNSETIFF`. -/
  | tunSetIff (request : Ifreq)
  /-- `SIOCSIFMTU`. -/
  | setMtu (request : Ifreq)
  /-- `SIOCSIFADDR`. -/
  | setAddr (request : Ifreq)
  /-- `SIOCSIFNETMASK`. -/
  | setNetmask (request : Ifreq)
  /-- `SIOCSIFFLAGS`. -/
  | setFlags (request : Ifreq)
  /-- `SIOCADDRT`. -/
  | addRoute (route : Rtentry)

/-! ## Networks -/

/-- Whether an interface is a TUN interface, whether it then stays without a descriptor, and
whether it has one. -/
inductive Link
  | plain
  | tun (persistent attached : Bool)
  deriving DecidableEq, Repr

/-- What has been set on an interface. -/
structure Interface where
  /-- The MTU. -/
  mtu : Option UInt32
  /-- The address. -/
  address : Option (List UInt8)
  /-- The netmask. -/
  netmask : Option (List UInt8)
  /-- The flags. -/
  flags : Option UInt16
  /-- What it is. -/
  link : Link
  deriving DecidableEq, Repr

/-- An interface on which nothing has been set. -/
def Interface.blank : Interface := ⟨none, none, none, none, .plain⟩

/-- A route. -/
structure Route where
  /-- The destination. -/
  destination : List UInt8
  /-- The gateway. -/
  gateway : List UInt8
  /-- The mask of the destination. -/
  mask : List UInt8
  /-- The flags. -/
  flags : UInt16
  /-- The name of the interface. -/
  device : List UInt8
  deriving DecidableEq, Repr

/-- The interfaces and routes of a network namespace. -/
structure Network where
  /-- The interfaces by name. -/
  interface : List UInt8 → Option Interface
  /-- The routes that were added. -/
  routes : List Route

namespace Network

/-- The name of the loopback interface. -/
def loopback : List UInt8 := Text.asBytes "lo"

/-- A new namespace has the loopback interface only. -/
def fresh : Network := ⟨Function.update (fun _ => none) loopback (some .blank), []⟩

/-- An interface under a name. -/
def put (network : Network) (name : List UInt8) (interface : Interface) : Network :=
  { network with interface := Function.update network.interface name (some interface) }

/-- An interface that exists is changed. -/
def change (network : Network) (name : List UInt8) (how : Interface → Interface) :
    Option Network :=
  (network.interface name).map fun found => network.put name (how found)

/-- A descriptor is attached to a new TUN interface, or to a persistent one that has none. -/
def attach (network : Network) (name : List UInt8) : Option Network :=
  match network.interface name with
  | none => some (network.put name { Interface.blank with link := .tun false true })
  | some found =>
    if found.link = .tun true false then
      some (network.put name { found with link := .tun true true })
    else none

/-- The last descriptor of a TUN interface is gone: unless it is persistent, the interface goes,
and with it the routes through it. -/
def detach (network : Network) (name : List UInt8) : Network :=
  match network.interface name with
  | none => network
  | some found =>
    match found.link with
    | .plain => network
    | .tun true _ => network.put name { found with link := .tun true false }
    | .tun false _ =>
      ⟨Function.update network.interface name none, network.routes.filter (·.device ≠ name)⟩

/-- An address is set on an interface, if it is an Internet address. -/
def changeAddress (network : Network) (endian : Endian) (request : Ifreq)
    (how : List UInt8 → Interface → Interface) : Option Network :=
  if request.family endian = afInet then network.change request.name (how request.octets)
  else none

/-- What a request does, if it can succeed. -/
def apply (endian : Endian) (network : Network) : Request → Option Network
  | .tunSetIff request =>
    if request.flags endian = tunFlags then network.attach request.name else none
  | .setMtu request =>
    network.change request.name fun found => { found with mtu := some (request.mtu endian) }
  | .setAddr request =>
    network.changeAddress endian request fun octets found => { found with address := some octets }
  | .setNetmask request =>
    network.changeAddress endian request fun octets found => { found with netmask := some octets }
  | .setFlags request =>
    network.change request.name fun found => { found with flags := some (request.flags endian) }
  | .addRoute route =>
    if route.rtGateway.family endian = afInet ∧ route.rtDst.family endian = afInet ∧
        route.rtGenmask.family endian = afInet then
      some { network with
        routes := network.routes ++ [⟨route.rtDst.octets, route.rtGateway.octets,
          route.rtGenmask.octets, route.rtFlags, (route.rtDev.read 0 16).takeWhile (· ≠ 0)⟩] }
    else none

end Network

/-! ## Calls -/

/-- The namespaces that are asked for. -/
inductive CloneFlags
  /-- `CLONE_NEWNET`. -/
  | newNet
  /-- `CLONE_NEWUSER | CLONE_NEWNET`. -/
  | newUserNet
  /-- `CLONE_NEWNS`. -/
  | newNs
  deriving DecidableEq, Repr

/-- What a descriptor leads to. -/
inductive Handle
  /-- `/dev/net/tun`, with the interface that was attached. -/
  | tun (interface : Option (List UInt8))
  /-- A datagram socket. -/
  | socket
  /-- A temporary file. -/
  | temporary (path : String)
  /-- A detached mount of a source. -/
  | tree (source : String)
  /-- An end of the set-up channel. -/
  | channel
  /-- What was open before. -/
  | inherited
  deriving DecidableEq, Repr

/-- The interface that a descriptor keeps. -/
def Handle.attached : Handle → Option (List UInt8)
  | tun interface => interface
  | _ => none

/-- A mount that was made. -/
inductive Mounted
  /-- The root was made private. -/
  | rootPrivate
  /-- A file with a content and a mode covers a target. -/
  | file (content : String) (mode : Nat) (target : String)
  /-- What a source names covers a target. -/
  | object (source target : String)
  /-- A `tmpfs` covers a target. -/
  | tmpfs (target : String)
  deriving DecidableEq, Repr

/-- The calls. Where the source reads the error of a failed call out of `errno`, the error
number in the result of the call is not used, and `lastOsError` is called. -/
inductive SystemCall
  /-- `unshare`. -/
  | unshare (flags : CloneFlags)
  /-- `open` of `/dev/net/tun`. -/
  | openTun
  /-- `socket`. -/
  | socket
  /-- `ioctl`. -/
  | ioctl (fd : Fd) (request : Request)
  /-- `close`. -/
  | close (fd : Fd)
  /-- `std::io::Error::last_os_error`. -/
  | lastOsError
  /-- `mount` of `/` with `MS_REC | MS_PRIVATE`. -/
  | mountPrivate
  /-- `mkstemp`. -/
  | mkstemp
  /-- `write_all`; a short or interrupted write is continued. -/
  | writeAll (fd : Fd) (content : String)
  /-- `set_permissions`. -/
  | setPermissions (fd : Fd) (mode : Nat)
  /-- `mount` with `MS_BIND`. -/
  | mountBind (path target : String)
  /-- `unlink`. -/
  | unlink (path : String)
  /-- `open_tree`. -/
  | openTree (source : String)
  /-- `move_mount`. -/
  | moveMount (fd : Fd) (target : String)
  /-- `mount` of a `tmpfs`. -/
  | mountTmpfs (target : String)
  /-- `write` or `sendmsg` on the set-up channel. -/
  | send (fd : Fd) (message : Message)
  /-- `read` or `recvmsg` on the set-up channel; an interrupted read is made again. -/
  | receive (fd : Fd)
  /-- A call that the set-up makes as a whole. -/
  | perform (op : Op)

/-- What the calls return. -/
def SystemCall.Result : SystemCall → Type
  | openTun | socket | openTree _ => Except Errno Fd
  | mkstemp => Except Errno (Fd × String)
  | lastOsError => Errno
  -- Nothing at the end of the stream.
  | receive _ => Except Errno (Option Message)
  | perform op => Except Error op.Result
  | _ => Except Errno Unit

/-- The programs of `namespace.rs`. -/
abbrev systemCalls : Calls.Signature := ⟨SystemCall, SystemCall.Result⟩

/-- What the calls of a process work on. -/
structure Machine where
  /-- The open descriptors. -/
  opened : Fd → Option Handle
  /-- The network namespace that the process is in. -/
  network : Network
  /-- The network namespaces that the process has left, as it left them. -/
  behind : List Network
  /-- Whether the process has made a user namespace of its own. -/
  userNamespace : Bool
  /-- The temporary files with content and mode. -/
  files : String → Option (String × Nat)
  /-- The mounts that were made, oldest first. -/
  mounts : List Mounted
  /-- The interfaces of the network whose descriptors the process has sent to its parent, which
  holds them until it is gone. -/
  passed : List (List UInt8)

/-- A machine with what has been called on it. -/
structure World where
  /-- The machine. -/
  machine : Machine
  /-- The calls that failed, oldest first. -/
  failed : List (SystemCall × Errno)
  /-- The set-up calls that were made as a whole, oldest first. -/
  performed : List Op

namespace World

/-- `errno`: it was set by the last call that failed. -/
def errno (world : World) : Errno :=
  match world.failed.getLast? with
  | some (_, errno) => errno
  | none => ⟨0, "UnknownErrno", "Success"⟩

/-- A call with an effect on the machine returns. -/
def settle {α : Type} (world : World) (call : SystemCall) (effect : α → Machine → Machine) :
    Except Errno α → World
  | .ok value => { world with machine := effect value world.machine }
  | .error errno => { world with failed := world.failed ++ [(call, errno)] }

end World

namespace Machine

/-- A descriptor is opened. -/
def install (handle : Handle) (fd : Fd) (machine : Machine) : Machine :=
  { machine with opened := Function.update machine.opened fd (some handle) }

/-- A descriptor is gone. -/
def closed (fd : Fd) (machine : Machine) : Machine :=
  { machine with opened := Function.update machine.opened fd none }

/-- A descriptor is closed. An interface that it was attached to, in the network the process is
in, loses its last descriptor unless the parent has a copy. -/
def release (fd : Fd) (machine : Machine) : Machine :=
  match (machine.opened fd).bind Handle.attached with
  | none => machine.closed fd
  | some name =>
    if name ∈ machine.passed then machine.closed fd
    else { machine.closed fd with network := machine.network.detach name }

/-- A descriptor that goes with a message is copied. -/
def passOn (message : Message) (machine : Machine) : Machine :=
  match (message.fd.bind machine.opened).bind Handle.attached with
  | none => machine
  | some name => { machine with passed := name :: machine.passed }

/-- At the end of the stream the parent is gone, with its copies. -/
def heard (read : Option Message) (machine : Machine) : Machine :=
  match read with
  | none => { machine with passed := [] }
  | some _ => machine

/-- New namespaces. -/
def unshared : CloneFlags → Machine → Machine
  | .newNet, machine =>
    { machine with
      network := .fresh, behind := machine.behind ++ [machine.network], passed := [] }
  | .newUserNet, machine =>
    { machine with
      network := .fresh, behind := machine.behind ++ [machine.network], passed := []
      userNamespace := true }
  | .newNs, machine => machine

/-- A mount is added. -/
def mounted (mount : Mounted) (machine : Machine) : Machine :=
  { machine with mounts := machine.mounts ++ [mount] }

/-- A request is carried out. -/
def configured (endian : Endian) (fd : Fd) (request : Request) (machine : Machine) : Machine :=
  let opened :=
    match request with
    | .tunSetIff asked => Function.update machine.opened fd (some (.tun (some asked.name)))
    | _ => machine.opened
  { machine with
    opened := opened, network := (machine.network.apply endian request).getD machine.network }

/-- The temporary file of a descriptor is changed. -/
def changeFile (fd : Fd) (how : String × Nat → String × Nat) (machine : Machine) : Machine :=
  match machine.opened fd with
  | some (.temporary path) =>
    { machine with
      files := Function.update machine.files path ((machine.files path).map how) }
  | _ => machine

/-- The temporary file at a path is mounted over a target. -/
def bound (path target : String) (machine : Machine) : Machine :=
  match machine.files path with
  | some (content, mode) => machine.mounted (.file content mode target)
  | none => machine

/-- The detached mount of a descriptor is put over a target. -/
def moved (fd : Fd) (target : String) (machine : Machine) : Machine :=
  match machine.opened fd with
  | some (.tree source) => machine.mounted (.object source target)
  | _ => machine

end Machine

/-- The calls that make sense: each descriptor is open and of the kind the call is for, and a
path that is unlinked is there. Which operations may be called as a whole is given. -/
def Legal (allowed : World → Op → Prop) (world : World) : SystemCall → Prop
  | .ioctl fd (.tunSetIff _) => world.machine.opened fd = some (.tun none)
  | .ioctl fd _ => world.machine.opened fd = some .socket
  | .close fd => world.machine.opened fd ≠ none
  | .writeAll fd _ | .setPermissions fd _ =>
    ∃ path, world.machine.opened fd = some (.temporary path) ∧ world.machine.files path ≠ none
  | .mountBind path _ | .unlink path => world.machine.files path ≠ none
  | .moveMount fd _ => ∃ source, world.machine.opened fd = some (.tree source)
  | .send fd message =>
    world.machine.opened fd = some .channel ∧
      ∀ passed ∈ message.fd, world.machine.opened passed ≠ none
  | .receive fd => world.machine.opened fd = some .channel
  | .perform op => allowed world op
  | _ => True

/-- What a call can return. -/
def Answers (endian : Endian) (world : World) : (call : SystemCall) → call.Result → Prop
  | .openTun, .ok fd | .socket, .ok fd | .openTree _, .ok fd => world.machine.opened fd = none
  | .mkstemp, .ok (fd, path) =>
    world.machine.opened fd = none ∧ world.machine.files path = none
  | .ioctl _ request, .ok _ => (world.machine.network.apply endian request).isSome
  | .lastOsError, errno => errno = world.errno
  | _, _ => True

/-- The world after a call. -/
def after (endian : Endian) (world : World) : (call : SystemCall) → call.Result → World
  | .unshare flags, result => world.settle (.unshare flags) (fun _ => .unshared flags) result
  | .openTun, result => world.settle .openTun (.install (.tun none)) result
  | .socket, result => world.settle .socket (.install .socket) result
  | .ioctl fd request, result =>
    world.settle (.ioctl fd request) (fun _ => .configured endian fd request) result
  | .close fd, result =>
    { world with machine := world.machine.release fd }.settle (.close fd) (fun _ => id) result
  | .lastOsError, _ => world
  | .mountPrivate, result => world.settle .mountPrivate (fun _ => .mounted .rootPrivate) result
  | .mkstemp, result =>
    world.settle .mkstemp (fun made machine =>
      { machine.install (.temporary made.2) made.1 with
        files := Function.update machine.files made.2 (some ("", 0o600)) }) result
  | .writeAll fd content, result =>
    world.settle (.writeAll fd content)
      (fun _ => .changeFile fd fun file => (file.1 ++ content, file.2)) result
  | .setPermissions fd mode, result =>
    world.settle (.setPermissions fd mode)
      (fun _ => .changeFile fd fun file => (file.1, mode)) result
  | .mountBind path target, result =>
    world.settle (.mountBind path target) (fun _ => .bound path target) result
  | .unlink path, result =>
    world.settle (.unlink path)
      (fun _ machine => { machine with files := Function.update machine.files path none }) result
  | .openTree source, result =>
    world.settle (.openTree source) (.install (.tree source)) result
  | .moveMount fd target, result =>
    world.settle (.moveMount fd target) (fun _ => .moved fd target) result
  | .mountTmpfs target, result =>
    world.settle (.mountTmpfs target) (fun _ => .mounted (.tmpfs target)) result
  | .send fd message, result => world.settle (.send fd message) (fun _ => .passOn message) result
  | .receive fd, result => world.settle (.receive fd) .heard result
  | .perform op, _ => { world with performed := world.performed ++ [op] }

/-- The system under the set-up. -/
def kernel (endian : Endian) (allowed : World → Op → Prop) : Calls.System systemCalls :=
  ⟨World, Legal allowed, Answers endian, after endian⟩

end NsProxy.Setup
