import Werift.Js.Map
import Werift.Lib.Claiming
import Werift.Lib.FrontOrder

/-!
# BUNDLE transports (`webrtc/src/negotiation/bundleTopology.ts`, `webrtc/src/negotiationTransaction.ts`)

Each m-line of a description has an owner, and all m-lines of an owner use one transport.  `stageLocalOffer` and
`preparePending` give each owner the transport it is bound to, if no owner before it has taken it, and a new one
otherwise.  While they wait, `close` may run.
-/

namespace Werift.Js.Map

variable {K V : Type} [DecidableEq K] {f : K → V} {key : K} {keys : List K} {m : Map K V}

/-- Set each of the keys to the value that belongs to it. -/
def setAll (m : Map K V) (f : K → V) (keys : List K) : Map K V := keys.foldl (fun m key => m.set key (f key)) m

lemma get?_setAll : (m.setAll f keys).get? key = if key ∈ keys then some (f key) else m.get? key := by
  induction keys generalizing m with
  | nil => rw [setAll, List.foldl_nil, if_neg List.not_mem_nil]
  | cons key' keys ih =>
    rw [setAll, List.foldl_cons, ← setAll, ih, get?_set]
    by_cases hmem : key ∈ keys
    · rw [if_pos hmem, if_pos (List.mem_cons_of_mem _ hmem)]
    · rw [if_neg hmem]
      by_cases heq : key = key'
      · rw [if_pos heq, if_pos (heq ▸ List.mem_cons_self), heq]
      · rw [if_neg heq, if_neg (fun h => (List.mem_cons.mp h).elim heq hmem)]

end Werift.Js.Map

namespace Werift.Webrtc.BundleTopology

open Js

/-! ## Descriptions and the connection -/

/-- `BundlePolicy`. -/
inductive BundlePolicy
  | maxCompat
  | maxBundle
  | disable
deriving DecidableEq

/-- The type of a session description. -/
inductive SdpType
  | offer
  | answer
  | pranswer
deriving DecidableEq

structure GroupDescription where
  semantic : String
  items : List String
deriving DecidableEq

/-- An m-line: `muxId` is its MID, and port 0 rejects it. -/
structure MediaDescription where
  kind : String
  port : ℕ
  muxId : Option String
deriving DecidableEq

/-- A session description; `id` is the identity of the object. -/
structure SessionDescription where
  id : ℕ
  type : SdpType
  group : List GroupDescription := []
  media : List MediaDescription := []
deriving DecidableEq

/-- `RTCRtpTransceiver`, with the MIME types of its codecs.  Transports are numbered in the order in which they have
been created. -/
structure RTCRtpTransceiver where
  mid : Option String
  codecs : List String
  dtlsTransport : ℕ
deriving DecidableEq

/-- `SCTP_STATE`. -/
inductive SctpState
  | closed
  | cookieWait
  | cookieEchoed
  | established
  | shutdownPending
  | shutdownSent
  | shutdownReceived
  | shutdownAckSent
deriving DecidableEq

structure RTCSctpTransport where
  mid : Option String
  associationState : Option SctpState
  dtlsTransport : ℕ
deriving DecidableEq

/-- `ProposalResources`, as far as it holds transports. -/
structure ProposalResources where
  prepared : Map String ℕ := {}
  pendingOnly : List ℕ := []
  owners : List ℕ := []
  emittedCandidates : List ℕ := []
  preparedFor : Option SessionDescription := none

structure DOMException where
  message : String
  name : String
deriving DecidableEq

/-- A peer connection: `baseline` and `offerSnapshot` are the transports that the two snapshots of the negotiation
bind, `isDisposed` says that `close` has disposed of the negotiation, `stopped` are the transports that have been
stopped, and `nextTransport` is the number of the next one. -/
structure Connection where
  bundlePolicy : Option BundlePolicy := some .maxCompat
  currentRemoteDescription : Option SessionDescription := none
  pendingRemoteDescription : Option SessionDescription := none
  transceivers : List RTCRtpTransceiver := []
  sctpTransport : Option RTCSctpTransport := none
  resources : ProposalResources := {}
  createdTransports : List ℕ := []
  baseline : List ℕ := []
  offerSnapshot : List ℕ := []
  isClosed : Bool := false
  isDisposed : Bool := false
  stopped : List ℕ := []
  nextTransport : ℕ := 0

namespace Connection

variable (c : Connection) (description offer : SessionDescription) (mid : String)

/-- `transport.stop()` for each of the transports: one that is closed is forgotten by `createdTransports`. -/
def stopAll (transports : List ℕ) : Connection :=
  { c with
    createdTransports := c.createdTransports.filter (· ∉ transports)
    stopped := transports ++ c.stopped }

/-- The transports that `dispose` of the negotiation stops. -/
def disposable : List ℕ :=
  c.createdTransports ++ (c.resources.pendingOnly ++ c.resources.owners) ++ c.resources.prepared.values ++
    c.baseline ++ c.offerSnapshot

/-- `dispose` of the negotiation. -/
def dispose : Connection :=
  { c with
    createdTransports := []
    offerSnapshot := []
    baseline := []
    resources := {}
    isDisposed := true
    stopped := c.disposable ++ c.stopped }

def prepareTransport (transport : ℕ) (pendingOnly : Bool) : Connection :=
  { c with
    resources := { c.resources with
      preparedFor := some description
      prepared := c.resources.prepared.set mid transport
      pendingOnly := if pendingOnly then c.resources.pendingOnly ++ [transport] else c.resources.pendingOnly } }

def discardPreparedTransports : Connection :=
  { c with
    resources := { c.resources with
      prepared := {}
      pendingOnly := []
      emittedCandidates := []
      preparedFor := none } }.stopAll c.resources.pendingOnly

/-! ## Owners -/

def bundleTagOf (mid : String) : Option String :=
  if c.bundlePolicy = some .disable then none
  else
    (description.group.find? fun group => group.semantic = "BUNDLE" && group.items.contains mid).bind
      (·.items.head?)

/-- The MID of an m-line, unless it is rejected or has none. -/
def acceptedMid (media : MediaDescription) : Option String :=
  if media.port = 0 then none else media.muxId.filter (· ≠ "")

def liveTransportByMid : Map String ℕ :=
  let byMid := c.transceivers.foldl (fun byMid transceiver =>
    match transceiver.mid.filter (· ≠ "") with
    | some mid => byMid.set mid transceiver.dtlsTransport
    | none => byMid) {}
  match c.sctpTransport with
  | none => byMid
  | some sctp =>
    match sctp.mid.filter (· ≠ "") with
    | some mid => byMid.set mid sctp.dtlsTransport
    | none => byMid

/-- The live transports, and those assigned to MIDs that have none. -/
def currentByMid (assigned : Map String ℕ) : Map String ℕ :=
  assigned.entries.foldl (fun current entry =>
    if (current.get? entry.1).isSome then current else current.set entry.1 entry.2) c.liveTransportByMid

/-- The peer has accepted BUNDLE. -/
def peerBundles : Bool :=
  c.currentRemoteDescription.elim false fun description => description.group.any (·.semantic = "BUNDLE")

/-- The owner of an m-line in a local offer. -/
def offerOwner (current : Map String ℕ) : String :=
  let tag := (c.bundleTagOf offer mid).getD mid
  let own := current.get? mid
  if tag = mid ∨ c.bundlePolicy = some .maxBundle ∨ c.peerBundles ∨ own = none ∨ own = current.get? tag then tag
  else mid

/-- The owner of an m-line in a remote offer. -/
def pendingOwner : String := (c.bundleTagOf offer mid).getD mid

/-- No codec is left for an audio or video m-line. -/
def hasNoCodecs (media : MediaDescription) : Bool :=
  (media.kind = "audio" || media.kind = "video") &&
    (c.transceivers.find? (·.mid = media.muxId)).any (·.codecs.isEmpty)

/-- The MIDs of a local offer that get a transport. -/
def offerMids : List String := offer.media.filterMap acceptedMid

/-- The owners of a local offer. -/
def offerOwnerByMid (current : Map String ℕ) : Map String String :=
  ({} : Map String String).setAll (c.offerOwner offer · current) (offerMids offer)

/-- The MIDs of a remote offer that get a transport. -/
def pendingMids : List String := (offer.media.filter (!c.hasNoCodecs ·)).filterMap acceptedMid

/-- The owners of a remote offer. -/
def pendingOwnerByMid : Map String String :=
  ({} : Map String String).setAll (c.pendingOwner offer) (c.pendingMids offer)

/-! ## Waiting -/

/-- What `close` does while the caller waits: nothing, its first part, or all up to the end of `dispose`. -/
inductive Progress
  | none
  | closes
  | disposes

def progress (c : Connection) : Progress → Connection
  | .none => c
  | .closes => { c with isClosed := true }
  | .disposes => if c.isDisposed then c else { c with isClosed := true }.dispose

/-- What becomes of one owner's transport: whether it can be created, what `close` does during `gather`, whether
`gather` succeeds, and what `close` does after the check that follows. -/
structure Attempt where
  creation : Except DOMException Unit := .ok ()
  whileGathering : Progress := .none
  gathering : Except DOMException Unit := .ok ()
  afterwards : Progress := .none

/-- What becomes of the transport of each owner, and what `close` does while transports are stopped. -/
structure Environment where
  attempts : String → Attempt := fun _ => {}
  whileStopping : Progress := .none

/-- The error of a closed connection. -/
def closedError : DOMException := ⟨"RTCPeerConnection is closed", "InvalidStateError"⟩

/-- `findOrCreateTransport(true)`. -/
def createTransport (creation : Except DOMException Unit) : Except DOMException (ℕ × Connection) :=
  if c.isClosed then .error closedError
  else
    match creation with
    | .error error => .error error
    | .ok () => .ok (c.nextTransport,
        { c with
          createdTransports := c.createdTransports ++ [c.nextTransport]
          nextTransport := c.nextTransport + 1 })

variable (env : Environment)

def assertOpen (created : List ℕ) : Connection × Except DOMException Unit :=
  if c.isClosed then ((c.stopAll created).progress env.whileStopping, .error closedError) else (c, .ok ())

/-- Create a transport for an owner, register it, and wait for its candidates. -/
def provide (register : ℕ → Connection → Connection) (owner : String) (created : List ℕ) :
    Connection × List ℕ × Except DOMException ℕ :=
  let attempt := env.attempts owner
  match c.createTransport attempt.creation with
  | .error error => (c, created, .error error)
  | .ok (transport, c) =>
    let created := created ++ [transport]
    let c := (register transport c).progress attempt.whileGathering
    match attempt.gathering with
    | .error error => (c, created, .error error)
    | .ok () =>
      match c.assertOpen env created with
      | (c, .error error) => (c, created, .error error)
      | (c, .ok ()) => (c.progress attempt.afterwards, created, .ok transport)

/-! ## Local offers -/

/-- The transports chosen so far, those in use, and those created. -/
structure Staging where
  ownerTransport : Map String (ℕ × Bool) := {}
  used : List ℕ := []
  created : List ℕ := []

def stageOwners (current : Map String ℕ) : List String → Staging → Connection →
    Connection × Staging × Except DOMException Unit
  | [], staging, c => (c, staging, .ok ())
  | owner :: owners, staging, c =>
    match Claiming.claim current.get? staging.used owner with
    | some transport =>
      stageOwners current owners
        { staging with
          ownerTransport := staging.ownerTransport.set owner (transport, false)
          used := transport :: staging.used } c
    | none =>
      match c.provide env (fun _ c => c) owner staging.created with
      | (c, created, .error error) => (c, { staging with created }, .error error)
      | (c, created, .ok transport) =>
        stageOwners current owners
          { ownerTransport := staging.ownerTransport.set owner (transport, true)
            used := transport :: staging.used
            created } c

/-- The transport of an m-line. -/
structure StagedTransport where
  mid : String
  owner : String
  transport : Option ℕ
  pendingOnly : Option Bool
deriving DecidableEq

def stageLocalOffer (assigned : Map String ℕ) : Connection × Except DOMException (List StagedTransport) :=
  let current := c.currentByMid assigned
  let ownerByMid := c.offerOwnerByMid offer current
  match stageOwners env current (FrontOrder.distinct ownerByMid.values) {} c with
  | (c, staging, .error error) => ((c.stopAll staging.created).progress env.whileStopping, .error error)
  | (c, staging, .ok ()) => (c, .ok (ownerByMid.entries.map fun (mid, owner) =>
      ⟨mid, owner, (staging.ownerTransport.get? owner).map Prod.fst,
        (staging.ownerTransport.get? owner).map Prod.snd⟩))

/-! ## Remote offers -/

/-- The live transport that each owner would reuse. -/
def planPending : List (String × Option ℕ) :=
  Claiming.plan c.liveTransportByMid.get? [] (FrontOrder.distinct (c.pendingOwnerByMid offer).values)

/-- The error of a move of a connected association. -/
def movedError : DOMException :=
  ⟨"Moving a connected SCTP association to another DTLS transport is unsupported", "InvalidModificationError"⟩

def assertPendingSctpBinding : Except DOMException Unit :=
  match c.sctpTransport with
  | none => .ok ()
  | some sctp =>
    match sctp.mid.filter (· ≠ "") with
    | none => .ok ()
    | some mid =>
      if c.currentRemoteDescription = none ∨ sctp.associationState ≠ some .established then .ok ()
      else
        match (c.pendingOwnerByMid offer).get? mid with
        | none => .ok ()
        | some owner =>
          if (Map.lookup (c.planPending offer) owner).join = some sctp.dtlsTransport then .ok ()
          else .error movedError

def prepareOwners : List (String × Option ℕ) → Map String ℕ → List ℕ → Connection →
    Connection × List ℕ × Except DOMException (Map String ℕ)
  | [], ownerTransports, created, c => (c, created, .ok ownerTransports)
  | (owner, some transport) :: owners, ownerTransports, created, c =>
    prepareOwners owners (ownerTransports.set owner transport) created c
  | (owner, none) :: owners, ownerTransports, created, c =>
    match c.provide env (fun transport c => c.prepareTransport offer owner transport true) owner created with
    | (c, created, .error error) => (c, created, .error error)
    | (c, created, .ok transport) => prepareOwners owners (ownerTransports.set owner transport) created c

/-- Prepare the transport of its owner for each m-line. -/
def prepareAll (ownerTransports : Map String ℕ) (entries : List (String × String)) : Connection :=
  entries.foldl (fun c entry =>
    match ownerTransports.get? entry.2 with
    | some transport => c.prepareTransport offer entry.1 transport false
    | none => c) c

/-- The remote offer that transports are to be prepared for. -/
def unpreparedOffer : Option SessionDescription :=
  (c.pendingRemoteDescription.filter fun offer =>
    offer.type = .offer && c.resources.preparedFor.map (·.id) ≠ some offer.id).filter
      fun _ => c.currentRemoteDescription.isSome

def preparePending : Connection × Except DOMException Unit :=
  match c.unpreparedOffer with
  | none => (c, .ok ())
  | some offer =>
    match c.assertPendingSctpBinding offer with
    | .error error => (c, .error error)
    | .ok () =>
      match prepareOwners offer env (c.planPending offer) {} [] c with
      | (c, _, .error error) => (c.discardPreparedTransports.progress env.whileStopping, .error error)
      | (c', _, .ok ownerTransports) =>
        (c'.prepareAll offer ownerTransports (c.pendingOwnerByMid offer).entries, .ok ())

end Connection

end Werift.Webrtc.BundleTopology
