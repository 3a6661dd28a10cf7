import AcceptanceBench.Proofs.Balance
import AcceptanceBench.Proofs.Stop

/-!
What closing every channel comes to. Each link is disconnected once, in the order of opening,
whatever faults that raises; the faults are reported by channel, in the same order.
-/

namespace AcceptanceBench

/-- Disconnecting a link that holds its device closes the device, which may raise its fault then. -/
theorem Link.disconnect_of_held {link : Link} (held : link.IsHeld) (r : Rack) :
    link.disconnect r
      = ((r.device link.endpoint).fault .close, r.alter link.endpoint .closed) := by
  cases link with
  | plain endpoint baud bits => rfl
  | serial p =>
    have there : p.held = true := held
    unfold disconnect SerialPort.disconnect
    dsimp only
    rw [if_pos there]
    rfl

/-- The rack after the links of channels were disconnected, one after another. -/
def Rack.disconnectAll (channels : List Channel) (r : Rack) : Rack :=
  channels.foldl (fun r c => (c.link.disconnect r).2) r

namespace Registry

/-- The channels whose links raise a fault when they are disconnected, each with its fault. -/
def closeFailures (channels : List Channel) (r : Rack) : List (String × Fault) :=
  channels.filterMap fun c => (c.link.disconnect r).1.map fun f => (c.name, f)

/-- Closing a device leaves the faults of all devices as they are. -/
theorem fault_disconnect {link : Link} (held : link.IsHeld) (r : Rack) (endpoint : String) :
    ((link.disconnect r).2.device endpoint).fault = (r.device endpoint).fault := by
  rw [link.disconnect_of_held held]
  dsimp only
  rw [Rack.device_alter]
  split
  · next same => rw [same]; rfl
  · rfl

theorem closeFailures_congr {channels : List Channel} (held : ∀ c ∈ channels, c.link.IsHeld)
    {r r' : Rack} (faults : ∀ endpoint, (r'.device endpoint).fault = (r.device endpoint).fault) :
    closeFailures channels r' = closeFailures channels r := by
  refine List.filterMap_congr fun c there => ?_
  rw [Link.disconnect_of_held (held c there), Link.disconnect_of_held (held c there), faults]

theorem devices_disconnectAll {channels : List Channel} (held : ∀ c ∈ channels, c.link.IsHeld)
    {r r' : Rack} (same : r'.devices = r.devices) :
    (r'.disconnectAll channels).devices = (r.disconnectAll channels).devices := by
  induction channels generalizing r r' with
  | nil => exact same
  | cons c rest ih =>
    refine ih (fun d there => held d (List.mem_cons_of_mem c there)) ?_
    have disconnected (r : Rack) : (c.link.disconnect r).2.devices
        = r.devices.alter c.link.endpoint .fresh .closed := by
      rw [Link.disconnect_of_held (held c List.mem_cons_self)]
      rfl
    rw [disconnected, disconnected, same]

/-- Shutting channels down disconnects the link of each once, in order, and reports the faults of
those that fail. It leaves the thread alone. -/
theorem shutDownAll_report {channels : List Channel} (held : ∀ c ∈ channels, c.link.IsHeld)
    (b : Bench) :
    (shutDownAll channels b).1 = closeFailures channels b.toRack
      ∧ (shutDownAll channels b).2.devices = (b.toRack.disconnectAll channels).devices
      ∧ b.SameThread (shutDownAll channels b).2 := by
  induction channels generalizing b with
  | nil => exact ⟨rfl, rfl, rfl, rfl, rfl⟩
  | cons c rest ih =>
    have held' : ∀ d ∈ rest, d.link.IsHeld := fun d there => held d (List.mem_cons_of_mem c there)
    -- A fault may be noted before the others are shut down.
    have onward {later : Bench} (devices : later.devices = (shutDown c b).2.devices)
        (thread : b.SameThread later) :
        (shutDownAll rest later).1 = closeFailures rest b.toRack
          ∧ (shutDownAll rest later).2.devices = (b.toRack.disconnectAll (c :: rest)).devices
          ∧ b.SameThread (shutDownAll rest later).2 := by
      obtain ⟨failures, closed, thread'⟩ := ih held' later
      refine ⟨failures.trans (closeFailures_congr held' fun endpoint => ?_),
        closed.trans (devices_disconnectAll held' devices), thread.trans thread'⟩
      rw [Rack.device_congr devices]
      exact fault_disconnect (held c List.mem_cons_self) b.toRack endpoint
    have fault : (shutDown c b).1 = (c.link.disconnect b.toRack).1 := rfl
    unfold shutDownAll closeFailures
    dsimp only
    rw [List.filterMap_cons, ← fault]
    cases (shutDown c b).1 with
    | none => exact onward rfl ⟨rfl, rfl, rfl⟩
    | some f =>
      obtain ⟨failures, closed, thread⟩ :=
        @onward ((shutDown c b).2.note (.channelNotClosed c.name f)) rfl ⟨rfl, rfl, rfl⟩
      exact ⟨congrArg ((c.name, f) :: ·) failures, closed, thread⟩

/-- Closing every channel fails if and only if some link does, and reports all those faults. -/
theorem closeAll_report {g : Registry} (held : ∀ c ∈ g.opened, c.link.IsHeld) :
    g.closeAll.1 = (if closeFailures g.opened g.bench.toRack = [] then .ok ()
        else .error (.closing g.opened.length (closeFailures g.opened g.bench.toRack)))
      ∧ g.closeAll.2.bench.devices = (g.bench.toRack.disconnectAll g.opened).devices
      ∧ g.bench.SameThread g.closeAll.2.bench := by
  obtain ⟨failures, devices, thread⟩ := shutDownAll_report held g.bench
  unfold closeAll
  dsimp only
  rw [failures]
  by_cases none : closeFailures g.opened g.bench.toRack = []
  · rw [if_pos none, if_pos (List.isEmpty_iff.mpr none)]
    exact ⟨rfl, devices, thread⟩
  · rw [if_neg none, if_neg (mt List.isEmpty_iff.mp none)]
    exact ⟨rfl, devices, thread⟩

end Registry

end AcceptanceBench
