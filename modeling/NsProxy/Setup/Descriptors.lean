import NsProxy.Setup.Namespace

/-!
# Descriptors, temporary files and the network of the child

Whatever the kernel answers, every call of `namespace.rs` is made on descriptors that are open
and of the right kind. A function that fails has closed what it opened; one that succeeds
leaves open what it returns and nothing else.
-/

namespace NsProxy.Namespace

open Calls Setup

variable {endian : Endian} {allowed : World → Op → Prop} {α β : Type} {world : World}

/-! ## Requests -/

/-- The name of the interface. -/
def eth0 : List UInt8 := Text.asBytes tunName

/-- The requests that configure the device name eth0. -/
theorem name_named_nameBuf : (Ifreq.named nameBuf).name = eth0 := by decide

/-- The request that makes the device names eth0. -/
theorem name_ifreqFor : (ifreqFor tunName).name = eth0 := by decide

/-- The request that brings up the loopback names it. -/
theorem name_loopback :
    (Ifreq.named (Block.zeroed.write 0 (Network.loopback ++ [0]))).name = Network.loopback := by
  decide

/-- The route goes out on eth0. -/
theorem device_nameBuf : (nameBuf.read 0 16).takeWhile (· ≠ 0) = eth0 := by decide

/-- Writing into the union leaves the name. -/
@[simp] theorem name_setFlags (request : Ifreq) (flags : UInt16) :
    (request.setFlags endian flags).name = request.name := rfl

/-- Setting the MTU leaves the name. -/
@[simp] theorem name_setMtu (request : Ifreq) (mtu : UInt32) :
    (request.setMtu endian mtu).name = request.name := rfl

/-- Setting the address leaves the name. -/
@[simp] theorem name_setAddr (request : Ifreq) (address : UInt32) :
    (request.setAddr endian address).name = request.name := rfl

/-- The kernel reads the flags that were written, whatever the union held. -/
@[simp] theorem flags_setFlags (request : Ifreq) (flags : UInt16) :
    (request.setFlags endian flags).flags endian = flags := by
  have back := request.ifrIfru.read_write 0 (endian.store16 flags)
    (endian.length_store16 flags) (by omega)
  simp [Ifreq.setFlags, Ifreq.flags, back]

/-- The MTU that is set is read back. -/
@[simp] theorem mtu_setMtu (request : Ifreq) (mtu : UInt32) :
    (request.setMtu endian mtu).mtu endian = mtu := by
  have back := request.ifrIfru.read_write 0 (endian.store32 mtu)
    (endian.length_store32 mtu) (by omega)
  simp [Ifreq.setMtu, Ifreq.mtu, back]

/-- An address in a block that holds at least a `sockaddr_in`, as the kernel reads it. -/
theorem read_inet {size : Nat} (block : Block size) (fits : 8 ≤ size) (address : UInt32) :
    ((block.write 0 (endian.store16 afInet)).write 4
        (endian.store32 (endian.toBe address))).read 4 4 = Bytes.be32 address ∧
      endian.load16 (((block.write 0 (endian.store16 afInet)).write 4
        (endian.store32 (endian.toBe address))).read 0 2) = afInet := by
  constructor
  · rw [Endian.store32_toBe]
    exact Block.read_write _ 4 _ (Bytes.length_be32 address) (by omega)
  · rw [Block.read_write_after _ (by omega), Block.read_write _ 0 _
      (endian.length_store16 afInet) (by omega)]
    exact endian.load16_store16 afInet

/-- The kernel reads an address as its octets, on either machine. -/
@[simp] theorem octets_setAddr (request : Ifreq) (address : UInt32) :
    (request.setAddr endian address).octets = Bytes.be32 address :=
  (read_inet request.ifrIfru (by omega) address).1

/-- An address is set with the family of IPv4. -/
@[simp] theorem family_setAddr (request : Ifreq) (address : UInt32) :
    (request.setAddr endian address).family endian = afInet :=
  (read_inet request.ifrIfru (by omega) address).2

/-- The octets of an address stand in network order. -/
@[simp] theorem octets_inet (address : UInt32) :
    (Sockaddr.inet endian address).octets = Bytes.be32 address :=
  (read_inet .zeroed (by omega) address).1

/-- A socket address has the family of IPv4. -/
@[simp] theorem family_inet (address : UInt32) :
    (Sockaddr.inet endian address).family endian = afInet :=
  (read_inet .zeroed (by omega) address).2

/-! ## The network -/

/-- What is set on the interface. -/
def tunInterface (persistent : Bool) : Interface :=
  ⟨some tunMtu, some tunAddr.octets, some [255, 255, 255, 254], some upFlags,
    .tun persistent true⟩

/-- The route for every destination, through the interface. -/
def defaultRoute : Route := ⟨[0, 0, 0, 0], tunGw.octets, [0, 0, 0, 0], routeFlags, eth0⟩

/-- A network with the interface and the route. -/
def withTun (network : Network) (persistent : Bool) : Network where
  interface := Function.update network.interface eth0 (some (tunInterface persistent))
  routes := network.routes ++ [defaultRoute]

/-- The interface is not there, or it is persistent and has no descriptor. -/
def Attachable (network : Network) (persistent : Bool) : Prop :=
  network.interface eth0 = none ∧ persistent = false ∨
    ∃ found, network.interface eth0 = some found ∧ found.link = .tun true false ∧
      persistent = true

/-- An interface is found under its name. -/
theorem interface_put (network : Network) (name : List UInt8) (interface : Interface) :
    (network.put name interface).interface name = some interface := by
  simp [Network.put]

/-- The interfaces under other names stay. -/
theorem interface_put_of_ne (network : Network) {name other : List UInt8} (interface : Interface)
    (apart : other ≠ name) : (network.put name interface).interface other =
      network.interface other := by
  simp [Network.put, apart]

/-- Changing an interface once more replaces it. -/
theorem change_put (network : Network) (interface : Interface) (how : Interface → Interface) :
    (network.put eth0 interface).change eth0 how = some (network.put eth0 (how interface)) := by
  simp [Network.put, Network.change]

/-- The loopback interface is brought up. -/
theorem apply_loopbackRequest (network : Network) :
    network.apply endian (loopbackRequest endian) =
      network.change Network.loopback fun found => { found with flags := some upFlags } := by
  simp [Network.apply, loopbackRequest, name_loopback]

/-- A list of requests that can all be carried out, one after the other. -/
def applyAll (endian : Endian) (network : Network) (requests : List (Request × String)) :
    Option Network :=
  requests.foldlM (fun network request => network.apply endian request.1) network

/-- The requests give the interface its settings and add the route, on either machine. -/
theorem applyAll_configuration (network : Network) {interface : Interface} {persistent : Bool}
    (attached : interface.link = .tun persistent true) :
    applyAll endian (network.put eth0 interface) (configuration endian) =
      some (withTun network persistent) := by
  have mask : Bytes.be32 (netmaskOctets tunPrefix) = [255, 255, 255, 254] := by decide
  have zero : Bytes.be32 0 = [0, 0, 0, 0] := by decide
  simp only [applyAll, configuration, List.foldlM_cons, List.foldlM_nil, Network.apply,
    Network.changeAddress, mtuRequest, name_setMtu, name_setAddr, name_setFlags, mtu_setMtu,
    octets_setAddr, family_setAddr, flags_setFlags, name_named_nameBuf, change_put,
    octets_inet, family_inet, device_nameBuf, mask, zero, attached, if_true, and_self,
    Option.bind_eq_bind, Option.bind_some, Option.pure_def]
  rfl

/-- The interface has its descriptor, and nothing else is changed but routes through it. -/
structure Attached (before : Network) (persistent : Bool) (network : Network) : Prop where
  /-- The interface is there. -/
  link : ∃ found, network.interface eth0 = some found ∧ found.link = .tun persistent true
  /-- The other interfaces are as they were. -/
  interface : ∀ name, name ≠ eth0 → network.interface name = before.interface name
  /-- So are the routes that do not go through it. -/
  routes : network.routes.filter (·.device ≠ eth0) = before.routes.filter (·.device ≠ eth0)

/-- `TUNSETIFF` attaches the interface. -/
theorem attached_put {network : Network} {interface : Interface} {persistent : Bool}
    (link : interface.link = .tun persistent true) :
    Attached network persistent (network.put eth0 interface) where
  link := ⟨interface, interface_put network eth0 interface, link⟩
  interface _ other := interface_put_of_ne network interface other
  routes := rfl

/-- A change of the interface keeps its descriptor. -/
theorem Attached.change {before network next : Network} {persistent : Bool}
    (attached : Attached before persistent network) {how : Interface → Interface}
    (same : ∀ found, (how found).link = found.link)
    (changed : network.change eth0 how = some next) : Attached before persistent next := by
  obtain ⟨found, there, link⟩ := attached.link
  rw [Network.change, there, Option.map_some, Option.some.injEq] at changed
  rw [← changed]
  refine ⟨⟨how found, interface_put .., by rw [same, link]⟩, ?_, attached.routes⟩
  intro name other
  rw [← attached.interface name other]
  exact interface_put_of_ne network _ other

/-- Every request of the configuration keeps the descriptor of the interface. -/
theorem Attached.apply {before network next : Network} {persistent : Bool}
    (attached : Attached before persistent network) {request : Request × String}
    (member : request ∈ configuration endian)
    (applied : network.apply endian request.1 = some next) : Attached before persistent next := by
  simp only [configuration, List.mem_cons, List.not_mem_nil, or_false] at member
  rcases member with same | same | same | same | same
  all_goals
    rw [same] at applied
    simp only [Network.apply, Network.changeAddress, mtuRequest, name_setMtu, name_setAddr,
      name_setFlags, family_setAddr, name_named_nameBuf, family_inet, if_true,
      and_self] at applied
  · refine attached.change ?_ applied
    exact fun _ => rfl
  · refine attached.change ?_ applied
    exact fun _ => rfl
  · refine attached.change ?_ applied
    exact fun _ => rfl
  · refine attached.change ?_ applied
    exact fun _ => rfl
  · rw [device_nameBuf, Option.some.injEq] at applied
    rw [← applied]
    refine ⟨attached.link, attached.interface, ?_⟩
    rw [← attached.routes]
    simp [List.filter_append]

/-- What is left of a network when the interface has lost its descriptor. -/
structure Unwound (before after : Network) : Prop where
  /-- The other interfaces are as they were. -/
  interface : ∀ name, name ≠ eth0 → after.interface name = before.interface name
  /-- So are the routes that do not go through it. -/
  routes : after.routes.filter (·.device ≠ eth0) = before.routes.filter (·.device ≠ eth0)
  /-- It is gone if it was not there before. -/
  gone : before.interface eth0 = none → after.interface eth0 = none

/-- A network that was not changed. -/
theorem Unwound.refl (network : Network) : Unwound network network :=
  ⟨fun _ _ => rfl, rfl, id⟩

/-- The last descriptor of the interface is closed. -/
theorem Attached.detach {before network : Network} {persistent : Bool}
    (attached : Attached before persistent network)
    (known : before.interface eth0 = none → persistent = false) :
    Unwound before (network.detach eth0) := by
  obtain ⟨found, there, link⟩ := attached.link
  cases persistent with
  | true =>
    have detached : network.detach eth0 =
        network.put eth0 { found with link := .tun true false } := by
      simp [Network.detach, there, link]
    rw [detached]
    refine ⟨fun name other => ?_, attached.routes, fun absent => ?_⟩
    · rw [← attached.interface name other]
      exact interface_put_of_ne network _ other
    · cases known absent
  | false =>
    have detached : network.detach eth0 = ⟨Function.update network.interface eth0 none,
        network.routes.filter (·.device ≠ eth0)⟩ := by
      simp [Network.detach, there, link]
    rw [detached]
    refine ⟨fun name other => ?_, ?_, fun _ => by simp⟩
    · rw [← attached.interface name other]
      simp [other]
    · rw [List.filter_filter, ← attached.routes]
      simp

/-- A machine in a changed network. -/
def inNetwork (network : Network) (machine : Machine) : Machine :=
  { machine with network := network }

section Networks

variable (network other : Network) (machine : Machine)

/-- Another network leaves the descriptors alone. -/
@[simp] theorem opened_inNetwork : (inNetwork network machine).opened = machine.opened := rfl

/-- The network is the one that was put in place. -/
@[simp] theorem network_inNetwork : (inNetwork network machine).network = network := rfl

/-- Only the last network counts. -/
@[simp] theorem inNetwork_inNetwork :
    inNetwork network (inNetwork other machine) = inNetwork network machine := rfl

/-- The own network changes nothing. -/
@[simp] theorem inNetwork_network : inNetwork machine.network machine = machine := rfl

/-- Closing a descriptor and changing the network commute. -/
@[simp] theorem closed_inNetwork (fd : Fd) :
    (inNetwork network machine).closed fd = inNetwork network (machine.closed fd) := rfl

/-- Opening a descriptor and changing the network commute. -/
@[simp] theorem install_inNetwork (handle : Handle) (fd : Fd) :
    (inNetwork network machine).install handle fd =
      inNetwork network (machine.install handle fd) := rfl

end Networks

/-! ## Calls -/

/-- What the calls of `namespace.rs` leave of what was called before. -/
structure Frame (world last : World) : Prop where
  /-- No operation is called as a whole. -/
  performed : last.performed = world.performed
  /-- A failed call stays recorded. -/
  failed : world.failed <+: last.failed

/-- A world is framed by itself. -/
theorem Frame.refl (world : World) : Frame world world := ⟨rfl, List.prefix_rfl⟩

/-- Frames compose. -/
theorem Frame.trans {first second third : World} (one : Frame first second)
    (two : Frame second third) : Frame first third :=
  ⟨two.performed.trans one.performed, one.failed.trans two.failed⟩

/-- The calls whose failure is not looked at. -/
def ignored : SystemCall → Bool
  | .close _ | .unlink _ | .mountTmpfs _ => true
  | _ => false

/-- A call has failed in between whose failure is looked at. -/
def Failed (world last : World) : Prop :=
  ∃ earlier made errno later, last.failed = earlier ++ (made, errno) :: later ∧
    world.failed <+: earlier ∧ ignored made = false

/-- A failure of a later part. -/
theorem Failed.before {first second third : World} (frame : Frame first second)
    (failed : Failed second third) : Failed first third := by
  obtain ⟨earlier, made, errno, later, recorded, kept, looked⟩ := failed
  exact ⟨earlier, made, errno, later, recorded, frame.failed.trans kept, looked⟩

/-- A failure of an earlier part. -/
theorem Failed.after {first second third : World} (failed : Failed first second)
    (frame : Frame second third) : Failed first third := by
  obtain ⟨earlier, made, errno, later, recorded, kept, looked⟩ := failed
  obtain ⟨more, whole⟩ := frame.failed
  refine ⟨earlier, made, errno, later ++ more, ?_, kept, looked⟩
  rw [← whole, recorded]
  simp

/-- A call fails. -/
theorem Failed.now {last : World} {made : SystemCall} {errno : Errno}
    (recorded : last.failed = world.failed ++ [(made, errno)]) (looked : ignored made = false) :
    Failed world last :=
  ⟨world.failed, made, errno, [], recorded, List.prefix_rfl, looked⟩

/-- Every call but an operation as a whole keeps the frame. -/
theorem after_frame (endian : Endian) (world : World) {made : SystemCall}
    (small : ∀ op, made ≠ .perform op) (result : made.Result) :
    Frame world (after endian world made result) := by
  cases made with
  | lastOsError => exact Frame.refl world
  | perform op => exact absurd rfl (small op)
  | _ => cases result <;> exact ⟨rfl, by simp [after, World.settle]⟩

variable {wanted : Except Error α → World → Prop}

/-- A call is made when it is legal, and the function goes on with every answer. -/
theorem ensures_syscall {made : SystemCall} {next : made.Result → Effect α}
    (small : ∀ op, made ≠ .perform op) (legal : Legal allowed world made)
    (rest : ∀ result last, Answers endian world made result → Frame world last →
      last.machine = (after endian world made result).machine →
      last.failed = (after endian world made result).failed →
      Ensures (kernel endian allowed) wanted (next result).run last) :
    Ensures (kernel endian allowed) wanted (syscall made >>= next).run world :=
  ⟨legal, fun result possible =>
    rest result _ possible (after_frame endian world small result) rfl rfl⟩

/-- A descriptor is closed, whatever `close` returns. -/
theorem ensures_close {fd : Fd} {next : Unit → Effect α} (isOpen : world.machine.opened fd ≠ none)
    (rest : ∀ last, Frame world last → last.machine = world.machine.release fd →
      Ensures (kernel endian allowed) wanted (next ()).run last) :
    Ensures (kernel endian allowed) wanted (close fd >>= next).run world := by
  refine ⟨isOpen, fun result _ => ?_⟩
  apply rest
  · have small : ∀ op, SystemCall.close fd ≠ .perform op := by simp
    exact after_frame endian world small result
  · cases result <;> rfl

/-- A request is made on a socket; it changes nothing but the network, if it succeeds. -/
theorem ensures_ioctl {sock : Fd} {request : Request} {next : Except Errno Unit → Effect α}
    (plain : ∀ asked, request ≠ .tunSetIff asked)
    (isSocket : world.machine.opened sock = some .socket)
    (failed : ∀ errno last, Frame world last → Failed world last → last.machine = world.machine →
      Ensures (kernel endian allowed) wanted (next (.error errno)).run last)
    (went : ∀ last network, Frame world last →
      world.machine.network.apply endian request = some network →
      last.machine = inNetwork network world.machine →
      Ensures (kernel endian allowed) wanted (next (.ok ())).run last) :
    Ensures (kernel endian allowed) wanted (syscall (.ioctl sock request) >>= next).run world := by
  apply ensures_syscall (by simp)
  · cases request with
    | tunSetIff asked => exact absurd rfl (plain asked)
    | _ => exact isSocket
  intro result last possible frame machine recorded
  cases result with
  | error errno => exact failed errno last frame (.now recorded rfl) machine
  | ok done =>
    have possible : (world.machine.network.apply endian request).isSome := possible
    obtain ⟨network, applied⟩ := Option.isSome_iff_exists.mp possible
    apply went last network frame applied
    cases request with
    | tunSetIff asked => exact absurd rfl (plain asked)
    | _ => simp [machine, after, World.settle, Machine.configured, applied, inNetwork]

/-- The error number is read. -/
theorem ensures_lastOsError {next : Errno → Effect α}
    (rest : Ensures (kernel endian allowed) wanted (next world.errno).run world) :
    Ensures (kernel endian allowed) wanted (syscall .lastOsError >>= next).run world := by
  refine ⟨trivial, fun errno same => ?_⟩
  have known : errno = world.errno := same
  rw [known]
  exact rest

/-- A failure ends the function where it stands. -/
theorem ensures_throw {causes : Error} (met : wanted (.error causes) world) :
    Ensures (kernel endian allowed) wanted (throw causes : Effect α).run world := met

/-- A value ends the function where it stands. -/
theorem ensures_pure {value : α} (met : wanted (.ok value) world) :
    Ensures (kernel endian allowed) wanted (pure value : Effect α).run world := met

/-- The result of a call is looked at with a context. -/
theorem ensures_context {text : Errno → String} {message : String} {result : Except Errno β}
    {next : β → Effect α}
    (failed : ∀ errno, result = .error errno → wanted (.error [message, text errno]) world)
    (went : ∀ value, result = .ok value →
      Ensures (kernel endian allowed) wanted (next value).run world) :
    Ensures (kernel endian allowed) wanted (context text message result >>= next).run world := by
  cases result with
  | error errno => exact failed errno rfl
  | ok value => exact went value rfl

/-! ## Functions -/

/-- How a function ends: on success and on failure the machine is in a given state, and only a
call that failed makes it fail. -/
def Ends (world : World) (good : α → Machine → Prop) (bad : Machine → Prop)
    (result : Except Error α) (last : World) : Prop :=
  Frame world last ∧
    match result with
    | .ok value => good value last.machine
    | .error _ => Failed world last ∧ bad last.machine

/-- A descriptor without an interface is just closed. -/
theorem release_plain {machine : Machine} {fd : Fd} {handle : Handle}
    (isOpen : machine.opened fd = some handle) (plain : handle.attached = none) :
    machine.release fd = machine.closed fd := by
  simp [Machine.release, isOpen, plain]

/-- The last descriptor of an interface. -/
theorem release_attached {machine : Machine} {fd : Fd} {name : List UInt8}
    (isOpen : machine.opened fd = some (.tun (some name))) (own : name ∉ machine.passed) :
    machine.release fd = inNetwork (machine.network.detach name) (machine.closed fd) := by
  simp [Machine.release, isOpen, Handle.attached, own, inNetwork]

/-- A descriptor of which the parent has a copy is just closed. -/
theorem release_shared {machine : Machine} {fd : Fd} {name : List UInt8}
    (isOpen : machine.opened fd = some (.tun (some name))) (shared : name ∈ machine.passed) :
    machine.release fd = machine.closed fd := by
  simp [Machine.release, isOpen, Handle.attached, shared]

/-- A descriptor that was opened and closed again leaves no trace. -/
theorem closed_install {machine : Machine} {fd : Fd} (handle : Handle)
    (free : machine.opened fd = none) : (machine.install handle fd).closed fd = machine := by
  simp [Machine.install, Machine.closed, ← free]

/-- The descriptor is open once it was opened. -/
theorem opened_install {machine : Machine} {fd : Fd} (handle : Handle) :
    (machine.install handle fd).opened fd = some handle := by
  simp [Machine.install]

/-- `bringup_loopback` keeps the descriptors, and sets the flags of the loopback interface when
it succeeds. -/
theorem bringupLoopback_ends (world : World) :
    Ensures (kernel endian allowed)
      (Ends world
        (fun _ machine => ∃ network,
          world.machine.network.apply endian (loopbackRequest endian) = some network ∧
            machine = inNetwork network world.machine)
        (fun machine => machine = world.machine))
      (bringupLoopback endian).run world := by
  unfold bringupLoopback
  apply ensures_syscall (by simp) (by trivial)
  intro result second free first machine recorded
  cases result with
  | error errno =>
    apply ensures_lastOsError
    exact ensures_throw ⟨first, .now recorded rfl, machine⟩
  | ok sock =>
    have free : world.machine.opened sock = none := free
    have machine : second.machine = world.machine.install .socket sock := machine
    have isSocket : second.machine.opened sock = some .socket := by
      rw [machine, opened_install]
    apply ensures_ioctl (by simp [loopbackRequest]) isSocket
    · intro errno third asked failed same
      rw [← same] at isSocket
      apply ensures_lastOsError
      apply ensures_close (by simp [isSocket])
      intro last closed released
      rw [release_plain isSocket rfl, same, machine, closed_install _ free] at released
      have whole := (first.trans asked).trans closed
      have gaveUp := (failed.before first).after closed
      split
      · exact ensures_throw ⟨whole, gaveUp, released⟩
      · exact ensures_throw ⟨whole, gaveUp, released⟩
    · intro third network asked applied changed
      have still : third.machine.opened sock = some .socket := by
        rw [changed, opened_inNetwork, isSocket]
      apply ensures_close (by simp [still])
      intro last closed released
      rw [machine] at applied changed
      refine ensures_pure ⟨(first.trans asked).trans closed, network, applied, ?_⟩
      rw [released, release_plain still rfl, changed, closed_inNetwork, closed_install _ free]

/-! ## The interface -/

/-- A request of `create_tun`: a failure closes both descriptors. -/
theorem configure_ends {sock fd : Fd} {request : Request} (message : String)
    (plain : ∀ asked, request ≠ .tunSetIff asked) (apart : sock ≠ fd)
    (isSocket : world.machine.opened sock = some .socket)
    (isOpen : world.machine.opened fd ≠ none) :
    Ensures (kernel endian allowed)
      (Ends world
        (fun _ machine => ∃ network, world.machine.network.apply endian request = some network ∧
          machine = inNetwork network world.machine)
        (fun machine => machine = (world.machine.closed sock).release fd))
      (configure sock fd request message).run world := by
  unfold configure
  apply ensures_ioctl plain isSocket
  · intro errno second asked failed same
    rw [← same] at isSocket
    apply ensures_close (by simp [isSocket])
    intro third closed released
    rw [release_plain isSocket rfl, same] at released
    apply ensures_close
    · simp [released, Machine.closed, Function.update, apart.symm, isOpen]
    intro last again gone
    apply ensures_lastOsError
    apply ensures_throw
    exact ⟨(asked.trans closed).trans again, (failed.after closed).after again,
      by rw [gone, released]⟩
  · intro last network asked applied changed
    exact ensures_pure ⟨asked, network, applied, changed⟩

/-- The requests of `create_tun` one after the other, by induction on what is left of them. -/
theorem configureAll_ends {sock fd : Fd} (apart : sock ≠ fd) {kept : Network → Prop}
    (requests : List (Request × String))
    (plain : ∀ request ∈ requests, ∀ asked, request.1 ≠ .tunSetIff asked)
    (keeps : ∀ request ∈ requests, ∀ network next, kept network →
      network.apply endian request.1 = some next → kept next)
    (start : kept world.machine.network)
    (isSocket : world.machine.opened sock = some .socket)
    (isOpen : world.machine.opened fd ≠ none) :
    Ensures (kernel endian allowed)
      (Ends world
        (fun _ machine => ∃ network, applyAll endian world.machine.network requests = some network ∧
          machine = inNetwork network world.machine)
        (fun machine => ∃ network, kept network ∧
          machine = (inNetwork network (world.machine.closed sock)).release fd))
      (configureAll sock fd requests).run world := by
  induction requests generalizing world with
  | nil => exact ensures_pure ⟨Frame.refl world, world.machine.network, rfl, rfl⟩
  | cons request rest ih =>
    obtain ⟨asked, message⟩ := request
    unfold configureAll
    apply Ensures.tryThen
      (configure_ends message (plain _ List.mem_cons_self) apart isSocket isOpen)
    · rintro causes last ⟨frame, failed, machine⟩
      exact ⟨frame, failed, world.machine.network, start, machine⟩
    · rintro _ second ⟨frame, network, applied, machine⟩
      have still : second.machine.opened sock = some .socket := by rw [machine]; exact isSocket
      have other : second.machine.opened fd ≠ none := by rw [machine]; exact isOpen
      have going : kept second.machine.network := by
        rw [machine]
        exact keeps _ List.mem_cons_self _ _ start applied
      apply (ih (fun later member => plain _ (List.mem_cons_of_mem _ member))
        (fun later member => keeps _ (List.mem_cons_of_mem _ member)) going still other).mono
      rintro result last ⟨later, ended⟩
      refine ⟨frame.trans later, ?_⟩
      rw [machine] at ended
      cases result with
      | error causes => exact ⟨ended.1.before frame, ended.2⟩
      | ok done =>
        obtain ⟨reached, allApplied, same⟩ := ended
        refine ⟨reached, ?_, by simpa using same⟩
        simpa [applyAll, applied] using allApplied

/-- What `create_tun` leaves of a machine: the descriptor, and the interface it stands for. -/
def tunAttached (machine : Machine) (fd : Fd) (persistent : Bool) : Machine :=
  inNetwork (withTun machine.network persistent) (machine.install (.tun (some eth0)) fd)

/-- No request on the configuration socket attaches an interface. -/
theorem configuration_plain :
    ∀ request ∈ configuration endian, ∀ asked, request.1 ≠ .tunSetIff asked := by
  simp [configuration]

/-- `create_tun` from the configuration socket on: a failure closes the device, and the interface
loses its last descriptor. -/
theorem configureTun_ends {fd : Fd} {network : Network} {interface : Interface} {persistent : Bool}
    (isOpen : world.machine.opened fd = some (.tun (some eth0)))
    (own : eth0 ∉ world.machine.passed) (link : interface.link = .tun persistent true)
    (attached : world.machine.network = network.put eth0 interface) :
    Ensures (kernel endian allowed)
      (Ends world
        (fun result machine => result = fd ∧
          machine = inNetwork (withTun network persistent) world.machine)
        (fun machine => ∃ reached, Attached network persistent reached ∧
          machine = inNetwork (reached.detach eth0) (world.machine.closed fd)))
      (configureTun endian fd).run world := by
  have start : Attached network persistent world.machine.network := by
    rw [attached]
    exact attached_put link
  unfold configureTun
  apply ensures_syscall (by simp) (by trivial)
  intro result second free first machine recorded
  cases result with
  | error errno =>
    have machine : second.machine = world.machine := machine
    rw [← machine] at isOpen own
    apply ensures_close (by simp [isOpen])
    intro last closed released
    rw [release_attached isOpen own, machine] at released
    have failed : Failed world second := .now recorded rfl
    apply ensures_lastOsError
    exact ensures_throw ⟨first.trans closed, failed.after closed, _, start, released⟩
  | ok sock =>
    have free : world.machine.opened sock = none := free
    have machine : second.machine = world.machine.install .socket sock := machine
    have apart : sock ≠ fd := by
      intro same
      rw [same, isOpen] at free
      cases free
    have isSocket : second.machine.opened sock = some .socket := by
      rw [machine, opened_install]
    have stillOpen : second.machine.opened fd ≠ none := by
      simp [machine, Machine.install, Function.update, apart.symm, isOpen]
    have going : Attached network persistent second.machine.network := by
      rw [machine]
      exact start
    apply Ensures.tryThen
      (configureAll_ends apart (configuration endian) configuration_plain
        (fun request member network next kept applied => kept.apply member applied)
        going isSocket stillOpen)
    · rintro causes last ⟨asked, failed, reached, kept, released⟩
      refine ⟨first.trans asked, failed.before first, reached, kept, ?_⟩
      rw [machine, closed_install _ free] at released
      have still : (inNetwork reached world.machine).opened fd = some (.tun (some eth0)) := isOpen
      rw [released, release_attached still own]
      rfl
    · rintro _ third ⟨asked, reached, applied, configured⟩
      have whole : reached = withTun network persistent := by
        rw [machine] at applied
        have begun : (world.machine.install .socket sock).network = network.put eth0 interface :=
          attached
        rw [begun, applyAll_configuration network link] at applied
        exact (Option.some.inj applied).symm
      have still : third.machine.opened sock = some .socket := by
        rw [configured, opened_inNetwork, isSocket]
      apply ensures_close (by simp [still])
      intro last closed released
      refine ensures_pure ⟨(first.trans asked).trans closed, rfl, ?_⟩
      rw [released, release_plain still rfl, configured, closed_inNetwork, machine,
        closed_install _ free, whole]

/-- `TUNSETIFF` attaches a new interface or a persistent one to the descriptor. -/
theorem tunSetIff_attaches {second third : World} {fd : Fd}
    (machine : second.machine = world.machine.install (.tun none) fd)
    (possible : Answers endian second
      (.ioctl fd (.tunSetIff ((ifreqFor tunName).setFlags endian tunFlags))) (.ok ()))
    (after : third.machine = (after endian second
      (.ioctl fd (.tunSetIff ((ifreqFor tunName).setFlags endian tunFlags))) (.ok ())).machine) :
    ∃ persistent interface, Attachable world.machine.network persistent ∧
      interface.link = .tun persistent true ∧
      third.machine = inNetwork (world.machine.network.put eth0 interface)
        (world.machine.install (.tun (some eth0)) fd) := by
  have same : second.machine.network = world.machine.network := by rw [machine]; rfl
  have possible : (second.machine.network.apply endian
    (.tunSetIff ((ifreqFor tunName).setFlags endian tunFlags))).isSome := possible
  rw [same] at possible
  simp only [Network.apply, flags_setFlags, name_setFlags, name_ifreqFor, if_true] at possible
  obtain ⟨reached, attaches⟩ := Option.isSome_iff_exists.mp possible
  have result : third.machine = inNetwork reached
      (world.machine.install (.tun (some eth0)) fd) := by
    rw [after]
    simp [Setup.after, World.settle, Machine.configured, Network.apply, name_ifreqFor, machine,
      inNetwork, Machine.install, attaches]
  unfold Network.attach at attaches
  split at attaches
  · next absent =>
    injection attaches with put
    exact ⟨false, _, Or.inl ⟨absent, rfl⟩, rfl, by rw [result, ← put]⟩
  · next found there =>
    split at attaches
    · next detached =>
      injection attaches with put
      exact ⟨true, _, Or.inr ⟨found, there, detached, rfl⟩, rfl, by rw [result, ← put]⟩
    · cases attaches

/-- `create_tun` closes everything on failure, and on success leaves the descriptor and the
configured interface. -/
theorem createTun_ends (world : World) (own : eth0 ∉ world.machine.passed) :
    Ensures (kernel endian allowed)
      (Ends world
        (fun fd machine => world.machine.opened fd = none ∧ ∃ persistent,
          Attachable world.machine.network persistent ∧
            machine = tunAttached world.machine fd persistent)
        (fun machine => ∃ network, Unwound world.machine.network network ∧
          machine = inNetwork network world.machine))
      (createTun endian).run world := by
  have short : ¬ ifNamesize ≤ (Text.asBytes tunName).length := by decide
  unfold createTun
  rw [if_neg short]
  apply ensures_syscall (by simp) (by trivial)
  intro result second free first machine recorded
  cases result with
  | error errno =>
    apply ensures_lastOsError
    exact ensures_throw ⟨first, .now recorded rfl, _, Unwound.refl _, machine⟩
  | ok fd =>
    have free : world.machine.opened fd = none := free
    have machine : second.machine = world.machine.install (.tun none) fd := machine
    apply ensures_syscall (by simp) (by simp [Legal, machine, Machine.install])
    intro result third possible asked after refusal
    cases result with
    | error errno =>
      have after : third.machine = second.machine := after
      have failed : Failed second third := .now refusal rfl
      have isTun : third.machine.opened fd = some (.tun none) := by
        rw [after, machine, opened_install]
      apply ensures_lastOsError
      apply ensures_close (by simp [isTun])
      intro last closed released
      rw [release_plain isTun rfl, after, machine, closed_install _ free] at released
      exact ensures_throw ⟨(first.trans asked).trans closed, (failed.before first).after closed,
        _, Unwound.refl _, released⟩
    | ok _ =>
      obtain ⟨persistent, interface, attachable, link, attached⟩ :=
        tunSetIff_attaches machine possible after
      have isOpen : third.machine.opened fd = some (.tun (some eth0)) := by
        rw [attached, opened_inNetwork, opened_install]
      have alone : eth0 ∉ third.machine.passed := by
        rw [attached]
        exact own
      have start : third.machine.network = world.machine.network.put eth0 interface := by
        rw [attached, network_inNetwork]
      apply (configureTun_ends isOpen alone link start).mono
      rintro result last ⟨later, ended⟩
      have whole := (first.trans asked).trans later
      rw [attached] at ended
      refine ⟨whole, ?_⟩
      cases result with
      | error causes =>
        obtain ⟨failed, reached, kept, released⟩ := ended
        refine ⟨failed.before (first.trans asked), reached.detach eth0, ?_, ?_⟩
        · apply kept.detach
          intro absent
          rcases attachable with ⟨_, new⟩ | ⟨found, there, _⟩
          · exact new
          · rw [absent] at there
            cases there
        · rw [closed_inNetwork, inNetwork_inNetwork, closed_install _ free] at released
          exact released
      | ok made =>
        obtain ⟨same, reached⟩ := ended
        rw [same]
        exact ⟨free, persistent, attachable, reached⟩

/-- A process with nothing open in a new network. -/
def idleWorld : World := ⟨⟨fun _ => none, .fresh, [], false, fun _ => none, [], []⟩, [], []⟩

/-- The answers of a system on which everything succeeds, and of a parent that is ready. -/
def obliging : (made : SystemCall) → made.Result
  | .openTun => .ok 7
  | .socket => .ok 8
  | .openTree _ => .ok 9
  | .mkstemp => .ok (9, "/tmp/nsproxy-Ab3dEf")
  | .lastOsError => Errno.enoent
  | .receive _ => .ok (some ⟨1, none, .readySignal⟩)
  | .perform _ => .error []
  | .unshare _ | .ioctl _ _ | .close _ | .mountPrivate | .writeAll _ _ | .setPermissions _ _
  | .mountBind _ _ | .unlink _ | .moveMount _ _ | .mountTmpfs _ | .send _ _ => .ok ()

/-- Where these answers are possible. -/
def canOblige (endian : Endian) (world : World) : SystemCall → Bool
  | .openTun => world.machine.opened 7 = none
  | .socket => world.machine.opened 8 = none
  | .openTree _ => world.machine.opened 9 = none
  | .mkstemp =>
    world.machine.opened 9 = none ∧ world.machine.files "/tmp/nsproxy-Ab3dEf" = none
  | .ioctl _ request => (world.machine.network.apply endian request).isSome
  | .lastOsError => false
  | _ => true

/-- The answers are possible there. -/
theorem answers_obliging (endian : Endian) (world : World) (made : SystemCall)
    (can : canOblige endian world made = true) : Answers endian world made (obliging made) := by
  cases made with
  | openTun | socket | openTree _ | mkstemp =>
    simpa [canOblige, Answers, obliging] using can
  | ioctl fd request => exact can
  | lastOsError => cases can
  | _ => trivial

end NsProxy.Namespace
