import AcceptanceBench.Configuration
import AcceptanceBench.Lifecycle
import AcceptanceBench.Wait

/-!
Named channels. Opening a channel finds its device, opens a link to it and subscribes the link, so
that whatever arrives is appended to the channel's buffer. Closing ends the subscription before it
closes the link.
-/

namespace AcceptanceBench

/-- An open channel; `buffer` is the place of its buffer on the bench. -/
structure Channel where
  name : String
  link : Link
  buffer : Nat
  subscription : Subscription
  deriving Repr, DecidableEq

/-- The channels of a bench. `opened` are the open ones in the order of opening. `latest` tells the
buffer that a name was last opened with, and `links` the link: links are numbered as they are made,
and `made` counts them. Links are serial ports or plain ones. -/
structure Registry where
  channels : Channels
  environ : Table String
  serial : Bool
  opened : List Channel
  latest : Table Nat
  links : Table Nat
  made : Nat
  bench : Bench

namespace Registry

/-- A registry without open channels. The usual channels are there unless others are given. -/
def make (channels : Option Channels) (environ : Table String) (serial : Bool)
    (bench : Bench) : Registry :=
  { channels := channels.getD usualChannels, environ, serial, opened := [], latest := .empty,
    links := .empty, made := 0, bench }

/-- The registry with its bench changed. -/
def onBench (change : Bench → Bench) (g : Registry) : Registry :=
  { g with bench := change g.bench }

/-- The open channel of a name. -/
def find? (g : Registry) (name : String) : Option Channel :=
  g.opened.find? (·.name == name)

/-- Whether a channel is open. -/
def isOpen (g : Registry) (name : String) : Bool :=
  (g.find? name).isSome

/-- The names of the open channels, in the order of opening. -/
def openNames (g : Registry) : List String :=
  g.opened.map (·.name)

/-- The open channel of a name, which has to be open. -/
def active (g : Registry) (name : String) : Except Error Channel :=
  match g.find? name with
  | some c => .ok c
  | none => .error (.notOpen name)

/-- A link to a device that was not opened yet. -/
def makeLink (g : Registry) (endpoint : String) (baud bits : Whole) : Except Error Link :=
  if g.serial then Link.makeSerial endpoint baud bits
  else Link.makePlain endpoint (some baud) (some bits) g.bench.toRack

/-- The registry after one more link was made, with the rack that connecting it has left behind. -/
def linkMade (rack : Rack) (g : Registry) : Registry :=
  { g with made := g.made + 1, bench := { g.bench with toRack := rack } }

/-- Subscribes the link that was made last, which is open, as a channel. If that fails the link is
closed again, and a fault that closing raises takes the place of the error. -/
def enrol (g : Registry) (name : String) (link : Link) : Except Error Channel × Registry :=
  let index := g.bench.buffers.length
  match g.bench.scheduler.subscribe link (.buffer index) name with
  | .ok (subscription, scheduler) =>
    let channel : Channel := ⟨name, link, index, subscription⟩
    (.ok channel,
      { g with
        opened := g.opened ++ [channel]
        latest := g.latest.set name index
        links := g.links.set name g.made
        bench := { g.bench with scheduler, buffers := g.bench.buffers ++ [.empty name] } })
  | .error e =>
    let (fault, rack) := link.disconnect g.bench.toRack
    let g := g.onBench fun b => { b with toRack := rack }
    match fault with
    | some f => (.error (.fault f), g)
    | none => (.error e, g)

/-- Opens a channel. -/
def openChannel (name : String) (baud bits : Whole) (g : Registry) :
    Except Error Channel × Registry :=
  if g.isOpen name then (.error (.alreadyOpen name), g)
  else
    let found := devicePath g.channels g.environ name
    match found with
    | .error e => (.error e, g.onBench fun b => (lookupNotices found).foldl (fun b n => b.note n) b)
    | .ok endpoint =>
      match g.makeLink endpoint baud bits with
      | .error e => (.error e, g)
      | .ok link =>
        let (connected, rack) := link.connect ("open " ++ name) g.bench.toRack
        match connected with
        | .error e => (.error e, g.linkMade rack)
        | .ok link => (g.linkMade rack).enrol name link

/-- Ends a channel's subscription and closes its link. -/
def shutDown (c : Channel) (b : Bench) : Option Fault × Bench :=
  let b := b.onScheduler (·.remove c.subscription.id)
  let (fault, rack) := c.link.disconnect b.toRack
  (fault, { b with toRack := rack })

/-- Closes a channel. It is no longer open afterwards even if its link raises a fault. -/
def close (name : String) (g : Registry) : Except Error Unit × Registry :=
  match g.active name with
  | .error e => (.error e, g)
  | .ok c =>
    let (fault, bench) := shutDown c g.bench
    let g := { g with opened := g.opened.filter (·.name != name), bench }
    match fault with
    | some f => (.error (.fault f), g)
    | none => (.ok (), g)

/-- Shuts channels down one after another and logs every fault. The faults are given by channel. -/
def shutDownAll : List Channel → Bench → List (String × Fault) × Bench
  | [], b => ([], b)
  | c :: rest, b =>
    let (fault, b) := shutDown c b
    let b := match fault with
      | some f => b.note (.channelNotClosed c.name f)
      | none => b
    let (failures, b) := shutDownAll rest b
    ((fault.toList.map fun f => (c.name, f)) ++ failures, b)

/-- Closes every open channel. All of them are closed whatever faults they raise; the faults are
reported together. -/
def closeAll (g : Registry) : Except Error Unit × Registry :=
  let (failures, bench) := shutDownAll g.opened g.bench
  let closed := { g with opened := [], bench }
  if failures.isEmpty then (.ok (), closed)
  else (.error (.closing g.opened.length failures), closed)

/-- Another name for closing every channel. -/
def reset (g : Registry) : Except Error Unit × Registry :=
  g.closeAll

/-- Sends data to a channel. The answer is the number of bytes written. -/
def write (name : String) (data : Data) (g : Registry) : Except Error Int × Registry :=
  match g.active name with
  | .error e => (.error e, g)
  | .ok c =>
    let (count, rack) := c.link.write data.outbound ("write " ++ name) g.bench.toRack
    (count, g.onBench fun b => { b with toRack := rack })

/-- Discards what a channel has received so far. -/
def resetData (name : String) (g : Registry) : Except Error Unit × Registry :=
  match g.active name with
  | .error e => (.error e, g)
  | .ok c => (.ok (), g.onBench fun b => { b with buffers := b.buffers.modify c.buffer .reset })

end Registry

/-- The surroundings of a wait on one buffer of a bench that is part of a larger state. The thread
runs until it is idle whenever the surroundings settle. -/
def Surroundings.ofBench {σ ε ρ : Type} (bench : σ → Bench) (put : Bench → σ → σ)
    (bench_put : ∀ b s, bench (put b s) = b) (index : Nat) (happen : ε → σ → ρ × σ) :
    Surroundings σ ε ρ where
  buffer s := (bench s).buffer index
  settle s := put (bench s).settle s
  happen := happen
  backlog s := (bench s).load
  settle_lt s h := by
    rw [bench_put]
    apply (bench s).load_settle.2
    intro same
    apply h
    simp [bench_put, Bench.buffer, same]

end AcceptanceBench
