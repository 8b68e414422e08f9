import RoadTraffic.Slot.Basic

/-!
# The world

The road map, the settings and the slots of a session. The traffic moves in all slots that it
drives; a slot whose vehicles fail is reported and does not stop the others.
-/

namespace RoadTraffic

/-- A session. -/
structure World (α ρ : Type) where
  map : RoadMap α
  settings : Settings α
  slots : Array (Slot α ρ)
  random : ρ

namespace World

variable {α ρ : Type} [Scalar α] [RandomSource ρ]

/-- A session without slots. Settings without a seed count as having the seed zero. -/
def make (map : RoadMap α) (settings : Settings α) :
    Logged α (Except (SettingsError α) (World α ρ)) := do
  match settings.check with
  | .error e => return .error e
  | .ok () =>
    note (.createdWorld map.size map.splines.length)
    return .ok {
      map, settings
      slots := #[]
      random := RandomSource.seeded (settings.seed.getD 0) }

/-- Adds a slot for a car. -/
def addSlot (model skin : String) (mode : ControlMode) (w : World α ρ) : World α ρ :=
  let (seed, random) := RandomSource.longWord w.random
  let slot := Slot.new (SlotKey.nth w.slots.size) model skin mode w.settings seed
  { w with slots := w.slots.push slot, random }

/-- The place of the slot with a key. -/
def place? (w : World α ρ) (key : SlotKey) : Option Nat := w.slots.findIdx? (·.key = key)

/-- The slot with a key. -/
def slot? (w : World α ρ) (key : SlotKey) : Option (Slot α ρ) := w.slots.find? (·.key = key)

/-- The slot with a key, which has to be known. -/
def demandSlot (w : World α ρ) (key : SlotKey) : Except UnknownSlot (Slot α ρ) :=
  match w.slot? key with
  | some slot => .ok slot
  | none => .error ⟨key⟩

/-- Puts a slot in the place of the one with its key. -/
def store (w : World α ρ) (slot : Slot α ρ) : World α ρ :=
  match w.place? slot.key with
  | some i => { w with slots := w.slots.setIfInBounds i slot }
  | none => w

/-- The slots that the traffic drives at present. -/
def trafficSlots (w : World α ρ) : List (Slot α ρ) := w.slots.toList.filter (·.byTraffic)

/-- The number of players who are there and drive. -/
def connectedPlayers (w : World α ρ) : Nat :=
  (w.slots.toList.filter fun slot => !slot.byTraffic && slot.player.isSome).length

/-- The players who drive and were heard of recently. -/
def activePlayers (w : World α ρ) (now : Millis) : List (SlotKey × Player α) :=
  let driven := w.slots.toList.filter (!·.byTraffic)
  let players := driven.filterMap fun slot => slot.player.map fun player => (slot.key, player)
  players.filter fun (_, player) =>
    player.hasReported && decide (now - player.lastActive < w.settings.idleTimeout)

/-- What vehicles see of all vehicles on the road. -/
def snapshots (w : World α ρ) : List (Snapshot α) := w.trafficSlots.flatMap (·.snapshots)

/-- The reports of all vehicles on the road, with their slots. -/
def statuses (w : World α ρ) : List (SlotKey × Status α) :=
  w.trafficSlots.flatMap fun slot => slot.statuses.map fun status => (slot.key, status)

/-- Moves the vehicles of a slot if the traffic drives it. -/
def updateSlot (m : RoadMap α) (s : Settings α) (now : Millis) (slot : Slot α ρ) :
    Logged α (Slot α ρ) := do
  if !slot.byTraffic then return slot
  let (outcome, slot) ← slot.update m s now
  if let .error cause := outcome then note (.updateFailed slot.key cause)
  return slot

/-- Moves all vehicles on to a time. -/
def update (now : Millis) (w : World α ρ) : Logged α (World α ρ) := do
  let slots ← w.slots.toList.mapM (updateSlot w.map w.settings now)
  return { w with slots := slots.toArray }

/-- What the vehicles look out for at a time. -/
def surroundings (now : Millis) (w : World α ρ) : Surroundings α where
  vehicles := .ofList w.snapshots
  players := (w.activePlayers now).map fun (slot, player) =>
    ⟨slot, player.status.position, player.status.velocity⟩

/-- Lets all vehicles choose their target speeds. They all see the same moment. -/
def lookOut (now : Millis) (w : World α ρ) : Except Fault (World α ρ) := do
  let around := w.surroundings now
  let slots ← w.slots.toList.mapM fun slot =>
    if slot.byTraffic then slot.lookOut w.map w.settings around now else pure slot
  return { w with slots := slots.toArray }

end World

/-- Where the traffic around a player is centred: some way ahead of the player. -/
def Player.focus {α : Type} [Scalar α] (player : Player α) (lead : α) : Vec3 α :=
  player.status.position + player.status.velocity.direction.scale lead

end RoadTraffic
