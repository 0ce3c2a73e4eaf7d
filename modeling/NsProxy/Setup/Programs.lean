import NsProxy.EventLoop.Published
import NsProxy.Lib.SocketPair
import NsProxy.Process.Descendants

/-!
# The two processes before the command starts

`child_main` and the set-up part of `parent_main` of `main.rs`, with `fd_passing.rs`. After the
fork they share one socket pair; every message on it is a single byte, which may carry a
descriptor. What a byte is meant for is not on the wire: no program looks at it.
-/

namespace NsProxy

/-- `PublishSpec::host_addr`, as it is displayed. -/
def PublishSpec.hostAddr (spec : PublishSpec) : String :=
  spec.hostIp.toText ++ ":" ++ toString spec.hostPort.toNat

namespace Setup

open SocketPair

/-- An open file behind a `RawFd`; a descriptor that is passed on names the same file. -/
abbrev Fd : Type := Nat

/-- `BindMount`. -/
structure BindMount where
  /-- `source`. -/
  source : String
  /-- `target`. -/
  target : String
  deriving DecidableEq, Repr

/-- The fields of `Config` that the set-up reads. -/
structure Config where
  /-- `bind_mounts`. -/
  bindMounts : List BindMount
  /-- `publishes`. -/
  publishes : List PublishSpec
  /-- `command`. -/
  command : List String

/-- What a byte on the set-up channel is meant for. -/
inductive Purpose
  | unshareSignal
  | tunFd
  | mapsDone
  | readySignal
  deriving DecidableEq, Repr

/-- A byte on the set-up channel, with the descriptor of its `SCM_RIGHTS` control message. -/
structure Message where
  /-- The byte. -/
  byte : UInt8
  /-- The descriptor. -/
  fd : Option Fd
  /-- What the sender means it for. -/
  purpose : Purpose
  deriving DecidableEq, Repr

/-- The calls of the two programs. -/
inductive Op
  /-- `namespace::create_namespace`. -/
  | createNamespace
  /-- `namespace::bringup_loopback`. -/
  | bringupLoopback
  /-- `namespace::create_tun`. -/
  | createTun
  /-- `namespace::setup_mount_namespace`. -/
  | setupMountNamespace (mounts : List BindMount)
  /-- `close` of the TUN descriptor. -/
  | closeTun (fd : Fd)
  /-- `process::run_command_tree`. -/
  | runCommandTree (command : List String)
  /-- `namespace::write_id_maps` for the child. -/
  | writeIdMaps
  /-- `TcpListener::bind`. -/
  | bind (spec : PublishSpec)
  /-- `set_nonblocking`. -/
  | setNonblocking (spec : PublishSpec)
  /-- `Builder::build`. -/
  | buildRuntime
  /-- `TcpListener::from_std`. -/
  | register (spec : PublishSpec)
  /-- `tokio::signal::unix::signal`. -/
  | listen (signal : Process.Signal)
  /-- `block_on`: the event loop until the child has exited. -/
  | serve (fd : Fd)

/-- What the calls return. -/
def Op.Result : Op → Type
  -- Whether a user namespace was created.
  | createNamespace => Bool
  | createTun => Fd
  -- The exit code.
  | runCommandTree _ => Int
  | serve _ => Int
  | _ => Unit

/-- The programs of the set-up. -/
abbrev setup : Signature := ⟨Op, Op.Result, Message, Purpose, Message.purpose⟩

/-- `read_control_byte`; an interrupted read is made again. -/
def readControlByte (purpose : Purpose) (label : String) (next : UInt8 → Program setup) :
    Program setup :=
  .receive purpose ["setup channel closed before " ++ label] ["read " ++ label] fun message =>
    next message.byte

/-- A control byte is written. -/
def writeControlByte (purpose : Purpose) (byte : UInt8) (context : String)
    (next : Program setup) : Program setup :=
  .send ⟨byte, none, purpose⟩ [context] next

/-- `send_fd` with the context of its caller. -/
def sendFd (fd : Fd) (next : Program setup) : Program setup :=
  .send ⟨0, some fd, .tunFd⟩ ["send_fd", "sendmsg (send_fd)"] next

/-- The error of `recv_fd` when no descriptor came, also at the end of the stream. -/
def noFd : Error := ["recv_fd", "recv_fd: no file descriptor found in ancillary data"]

/-- `recv_fd` with the context of its caller. -/
def recvFd (next : Fd → Program setup) : Program setup :=
  .receive .tunFd noFd ["recv_fd", "recvmsg (recv_fd)"] fun message =>
    match message.fd with
    | some fd => next fd
    | none => .ret (.error noFd)

/-- `child_main` from step 9 on. -/
def runCommand (config : Config) (fd : Fd) : Program setup :=
  .close (.perform (.closeTun fd) none fun _ =>
    .perform (.runCommandTree config.command) (some ["run command tree"]) fun code =>
      .ret (.ok code))

/-- `child_main` from step 4 on. -/
def setUpChild (config : Config) : Program setup :=
  .perform .bringupLoopback (some ["bringup_loopback"]) fun _ =>
  .perform .createTun (some ["create_tun"]) fun fd =>
  .perform (.setupMountNamespace config.bindMounts) (some ["setup_mount_namespace"]) fun _ =>
  sendFd fd <|
  readControlByte .readySignal "ready signal" fun ready =>
    if ready ≠ 1 then .ret (.error ["invalid ready signal byte " ++ toString ready.toNat])
    else runCommand config fd

/-- `child_main` from step 2 on. -/
def signalParent (config : Config) (needsMaps : Bool) : Program setup :=
  writeControlByte .unshareSignal (if needsMaps then 1 else 0) "signal parent after unshare" <|
    if needsMaps then
      readControlByte .mapsDone "maps-done acknowledgement" fun ack =>
        if ack ≠ 1 then
          .ret (.error ["invalid maps-done acknowledgement byte " ++ toString ack.toNat])
        else setUpChild config
    else setUpChild config

/-- `child_main`. -/
def childMain (config : Config) : Program setup :=
  .perform .createNamespace (some ["create_namespace"]) (signalParent config)

/-- `bind_publish_specs`. -/
def bindPublishSpecs : List PublishSpec → Program setup → Program setup
  | [], next => next
  | spec :: specs, next =>
    .perform (.bind spec)
      (some ["bind --publish", "bind published TCP endpoint " ++ spec.hostAddr]) fun _ =>
    .perform (.setNonblocking spec)
      (some ["bind --publish", "make published TCP endpoint " ++ spec.hostAddr ++ " nonblocking"])
      fun _ => bindPublishSpecs specs next

/-- `register_publish_specs`. -/
def registerPublishSpecs : List PublishSpec → Program setup → Program setup
  | [], next => next
  | spec :: specs, next =>
    .perform (.register spec)
      (some ["register --publish", "register published TCP endpoint " ++ spec.hostAddr]) fun _ =>
    registerPublishSpecs specs next

/-- `parent_main` from the listeners for signals on. -/
def release (fd : Fd) : Program setup :=
  .perform (.listen .sigterm) (some ["listen for SIGTERM"]) fun _ =>
  .perform (.listen .sigint) (some ["listen for SIGINT"]) fun _ =>
  .perform (.listen .sighup) (some ["listen for SIGHUP"]) fun _ =>
  writeControlByte .readySignal 1 "write ready signal" <|
  .perform (.serve fd) (some []) fun code =>
  .perform (.closeTun fd) none fun _ =>
  .close (.ret (.ok code))

/-- `parent_main` from step 3 on. -/
def setUpParent (config : Config) : Program setup :=
  recvFd fun fd =>
  bindPublishSpecs config.publishes <|
  .perform .buildRuntime (some ["build tokio runtime"]) fun _ =>
  registerPublishSpecs config.publishes <|
  release fd

/-- `parent_main` once the unshare signal was read. -/
def answerChild (config : Config) (unshareSignal : UInt8) : Program setup :=
  if unshareSignal = 0 then setUpParent config
  else if unshareSignal = 1 then
    .perform .writeIdMaps (some ["write id maps for child"]) fun _ =>
    writeControlByte .mapsDone 1 "signal child maps done" <|
    setUpParent config
  else .ret (.error ["invalid unshare signal byte " ++ toString unshareSignal.toNat])

/-- `parent_main`. -/
def parentMain (config : Config) : Program setup :=
  readControlByte .unshareSignal "unshare signal from child" (answerChild config)

/-- Both processes after the fork. -/
def programs (config : Config) : Side → Program setup
  | .child => childMain config
  | .parent => parentMain config

end Setup

end NsProxy
