import NsProxy.Setup.Kernel

/-!
# `namespace.rs` by its system calls

The functions of `namespace.rs` that the child calls, call by call: what is opened, what is
asked of the kernel, and what is closed and unlinked on each way out. `execute` puts them under
`child_main`, whose program names them as single operations.
-/

namespace NsProxy.Namespace

open Calls Setup

/-- A function that makes system calls and may fail. -/
abbrev Effect (α : Type) : Type := Program.Fallible systemCalls Error α

/-- A single call. -/
def call (made : SystemCall) : Program systemCalls made.Result :=
  @Program.make systemCalls made

/-- A call, whose failure is a result. -/
def syscall (made : SystemCall) : Effect made.Result := ExceptT.lift (call made)

/-- `close`, whose result is not looked at. -/
def close (fd : Fd) : Effect Unit := do
  let _ ← syscall (.close fd)

/-- `?` on the result of a call, with a context. -/
def context {α : Type} (text : Errno → String) (message : String) (result : Except Errno α) :
    Effect α := ExceptT.mk (pure (Errno.context text message result))

/-- `context` on a function. -/
def within {α : Type} (message : String) (body : Effect α) : Effect α :=
  ExceptT.mk (do return Error.context message (← body.run))

/-- `create_namespace`. -/
def createNamespace : Effect Bool := do
  match ← syscall (.unshare .newNet) with
  | .ok _ => return false
  | .error _ =>
    context Errno.nixText "unshare(CLONE_NEWUSER|CLONE_NEWNET)" (← syscall (.unshare .newUserNet))
    return true

/-- `ifreq_for`: the first bytes of the name are copied, and the last byte stays zero. -/
def ifreqFor (name : String) : Ifreq :=
  .named (Block.zeroed.write 0 ((Text.asBytes name).take (ifNamesize - 1)))

/-- The hint for a request that was not permitted. -/
def apparmorHint : String :=
  "\nhint: If you are using Ubuntu >= 23.10, run:\n\nsudo sysctl -w " ++
  "kernel.apparmor_restrict_unprivileged_userns=0\n\n" ++
  "Or add to /etc/sysctl.d/70-apparmor-userns.conf:\n" ++
  "kernel.apparmor_restrict_unprivileged_userns=0\n" ++
  "then: sudo sysctl -p /etc/sysctl.d/70-apparmor-userns.conf"

/-- `EPERM`. -/
def eperm : Nat := 1

/-- The request of `bringup_loopback`. -/
def loopbackRequest (endian : Endian) : Request :=
  .setFlags ((Ifreq.named (Block.zeroed.write 0 (Network.loopback ++ [0]))).setFlags endian upFlags)

/-- `bringup_loopback`. -/
def bringupLoopback (endian : Endian) : Effect Unit := do
  match ← syscall .socket with
  | .error _ =>
    let errno ← syscall .lastOsError
    throw ["socket() for loopback: " ++ Errno.ioText errno]
  | .ok sock =>
    match ← syscall (.ioctl sock (loopbackRequest endian)) with
    | .error _ =>
      -- The error is read before the socket is closed.
      let errno ← syscall .lastOsError
      close sock
      if Errno.code errno = eperm then
        throw ["ioctl SIOCSIFFLAGS lo: " ++ Errno.ioText errno ++ apparmorHint]
      else throw ["ioctl SIOCSIFFLAGS lo: " ++ Errno.ioText errno]
    | .ok _ => close sock

/-- `netmask_octets`. -/
def netmaskOctets (prefixLen : UInt8) : UInt32 :=
  if prefixLen = 0 then 0 else (0xFFFFFFFF : UInt32) <<< (32 - prefixLen.toUInt32)

/-- The buffer with the name of the interface. -/
def nameBuf : Block 16 := Block.zeroed.write 0 (Text.asBytes tunName)

/-- A request of `create_tun` on the configuration socket. When it fails, both descriptors are
closed before the error is read. -/
def configure (sock fd : Fd) (request : Request) (message : String) : Effect Unit := do
  match ← syscall (.ioctl sock request) with
  | .ok _ => return ()
  | .error _ =>
    close sock
    close fd
    let errno ← syscall .lastOsError
    throw [message ++ ": " ++ Errno.ioText errno]

/-- The request for the MTU. -/
def mtuRequest (endian : Endian) : Ifreq := (Ifreq.named nameBuf).setMtu endian tunMtu

/-- The requests of `create_tun` on the configuration socket, in order, with the messages of
their errors. The flags are written into the union that still holds the MTU. -/
def configuration (endian : Endian) : List (Request × String) :=
  [(.setMtu (mtuRequest endian), "ioctl SIOCSIFMTU"),
    (.setAddr ((Ifreq.named nameBuf).setAddr endian tunAddr.bits), "ioctl SIOCSIFADDR"),
    (.setNetmask ((Ifreq.named nameBuf).setAddr endian (netmaskOctets tunPrefix)),
      "ioctl SIOCSIFNETMASK"),
    (.setFlags ((mtuRequest endian).setFlags endian upFlags),
      "ioctl SIOCSIFFLAGS " ++ tunName ++ " UP"),
    (.addRoute ⟨.inet endian 0, .inet endian tunGw.bits, .inet endian 0, routeFlags, nameBuf⟩,
      "ioctl SIOCADDRT")]

/-- The requests are made one after the other. -/
def configureAll (sock fd : Fd) : List (Request × String) → Effect Unit
  | [] => return ()
  | (request, message) :: rest => do
    configure sock fd request message
    configureAll sock fd rest

/-- `create_tun` from the configuration socket on. -/
def configureTun (endian : Endian) (fd : Fd) : Effect Fd := do
  match ← syscall .socket with
  | .error _ =>
    close fd
    let errno ← syscall .lastOsError
    throw ["socket() for tun config: " ++ Errno.ioText errno]
  | .ok sock =>
    configureAll sock fd (configuration endian)
    close sock
    return fd

/-- `create_tun`. -/
def createTun (endian : Endian) : Effect Fd := do
  if ifNamesize ≤ (Text.asBytes tunName).length then
    throw ["configured TUN_NAME " ++ Http.debugText tunName ++ " exceeds IF_NAMESIZE (" ++
      toString ifNamesize ++ ")"]
  match ← syscall .openTun with
  | .error _ =>
    let errno ← syscall .lastOsError
    throw ["open /dev/net/tun", Errno.ioText errno]
  | .ok fd =>
    match ← syscall (.ioctl fd (.tunSetIff ((ifreqFor tunName).setFlags endian tunFlags))) with
    | .error _ =>
      let errno ← syscall .lastOsError
      close fd
      throw ["ioctl TUNSETIFF", Errno.ioText errno]
    | .ok _ => configureTun endian fd

/-- The part of `bind_mount_tmpfile` in which the file is open; every way out closes it. -/
def writeTmpfile (fd : Fd) (path content : String) : Effect Unit := do
  let written ← syscall (.writeAll fd content)
  match written with
  | .error errno =>
    close fd
    throw ["write " ++ Http.debugText path, Errno.ioText errno]
  | .ok _ =>
    let permitted ← syscall (.setPermissions fd 0o644)
    close fd
    match permitted with
    | .error errno =>
      throw ["make internal DNS configuration readable by all users", Errno.ioText errno]
    | .ok _ => return ()

/-- A body under an `UnlinkOnDrop` guard. -/
def unlinkOnDrop (path : String) (body : Effect Unit) : Effect Unit :=
  ExceptT.mk (do
    let result ← body.run
    let _ ← call (.unlink path)
    return result)

/-- `bind_mount_tmpfile` under its guard. -/
def mountTmpfile (fd : Fd) (path content target : String) : Effect Unit := do
  writeTmpfile fd path content
  context Errno.nixText ("bind-mount " ++ Http.debugText path ++ " → " ++ target)
    (← syscall (.mountBind path target))

/-- `bind_mount_tmpfile`. -/
def bindMountTmpfile (content target : String) : Effect Unit := do
  let (fd, path) ← context Errno.nixText "mkstemp" (← syscall .mkstemp)
  unlinkOnDrop path (mountTmpfile fd path content target)

/-- The error of a call of the new mount API. -/
def mountError (call : String) (errno : Errno) (message : String) : Error :=
  if errno.code = Errno.enosys.code then
    ["file bind mounts require Linux 5.2 or newer: " ++ call ++ " is unavailable (" ++
      errno.ioText ++ ")"]
  else [message, errno.ioText]

/-- `bind_mount_nofollow`; the error is read before the descriptor is dropped. -/
def bindMountNofollow (bind : BindMount) : Effect Unit := do
  ExceptT.mk (pure (Error.context
    ("bind mount source " ++ Http.debugText bind.source ++ " contains a NUL byte")
    (cString bind.source)))
  ExceptT.mk (pure (Error.context
    ("bind mount target " ++ Http.debugText bind.target ++ " contains a NUL byte")
    (cString bind.target)))
  match ← syscall (.openTree bind.source) with
  | .error _ =>
    let errno ← syscall .lastOsError
    throw (mountError "open_tree" errno
      ("open bind-mount source object " ++ Http.debugText bind.source))
  | .ok mountFd =>
    match ← syscall (.moveMount mountFd bind.target) with
    | .error _ =>
      let errno ← syscall .lastOsError
      close mountFd
      throw (mountError "move_mount" errno
        ("attach bind-mount source " ++ Http.debugText bind.source ++ " over target " ++
          Http.debugText bind.target))
    | .ok _ => close mountFd

/-- The loop of `setup_mount_namespace` over the user's mounts. -/
def bindMountAll : List BindMount → Effect Unit
  | [] => return ()
  | bind :: rest => do
    bindMountNofollow bind
    bindMountAll rest

/-- `setup_mount_namespace`. -/
def setupMountNamespace (bindMounts : List BindMount) : Effect Unit := do
  context Errno.nixText "unshare(CLONE_NEWNS)" (← syscall (.unshare .newNs))
  context Errno.nixText "make root mount private" (← syscall .mountPrivate)
  within "bind-mount resolv.conf" (bindMountTmpfile resolvConf "/etc/resolv.conf")
  within "bind-mount nsswitch.conf" (bindMountTmpfile nsswitchConf "/etc/nsswitch.conf")
  bindMountAll bindMounts
  let _ ← syscall (.mountTmpfs "/etc/ssh/ssh_config.d")

/-! ## The child -/

/-- The operations of the set-up by their calls. What the child does not call, and the command,
are calls of their own. -/
def operation (endian : Endian) : (op : Op) → Effect op.Result
  | .createNamespace => createNamespace
  | .bringupLoopback => bringupLoopback endian
  | .createTun => createTun endian
  | .setupMountNamespace mounts => setupMountNamespace mounts
  | .closeTun fd => close fd
  | op => ExceptT.mk (call (.perform op))

/-- A program of the set-up, on its end of the channel. -/
def execute (endian : Endian) (sock : Fd) : SocketPair.Program setup → Effect Int
  | .ret result => ExceptT.mk (pure result)
  | .perform op context next => do
    let result ← ExceptT.mk (do
      return match ← (operation endian op).run with
        | .ok value => .ok value
        | .error causes => .error (context.getD [] ++ causes))
    execute endian sock (next result)
  | .send message causes next => do
    match ← syscall (.send sock message) with
    | .error errno => throw (causes ++ [Errno.nixText errno])
    | .ok _ => execute endian sock next
  | .receive _ eof causes next => do
    match ← syscall (.receive sock) with
    | .error errno => throw (causes ++ [Errno.nixText errno])
    | .ok none => throw eof
    | .ok (some message) => execute endian sock (next message)
  | .close next => do
    close sock
    execute endian sock next

/-- The exit code of the child: an error of `child_main` is exit code one. -/
def childExit (endian : Endian) (childSock : Fd) (config : Setup.Config) :
    Program systemCalls Int := do
  match ← (execute endian childSock (childMain config)).run with
  | .ok code => return code
  | .error _ => return 1

/-- The branch of `main` in the child, which closes the end of the parent first. -/
def forkedChild (endian : Endian) (parentSock childSock : Fd) (config : Setup.Config) :
    Program systemCalls Int := do
  let _ ← call (.close parentSock)
  childExit endian childSock config

end NsProxy.Namespace
