import DirectPlayLite.Lib.Monitor.Machine
import DirectPlayLite.Peer.Methods

/-!
# The machine of a peer object

The bodies of the procedures, and which of them a new thread may start with: the
application may call any method at any time, and the worker threads may run any
callback as long as there is a worker pool.
-/

namespace DirectPlayLite

open Monitor

namespace Proc

def isMethod : Proc -> Bool
  | initialiseObject | cancelAsyncOperation .. | connect .. | sendTo ..
  | host .. | setApplicationDesc .. | createGroup .. | destroyGroup ..
  | addPlayerToGroup .. | removePlayerFromGroup .. | setPeerInfo .. | close ..
  | enumHosts .. | destroyPeer .. | terminateSession .. => true
  | _ => false

def isWorkerEvent : Proc -> Bool
  | handleUdpSocketEvent | handleOtherSocketEvent | handleWork
  | ioPeerTriggered .. => true
  | _ => false

/-- A new thread may start with the procedure. -/
def entry (proc : Proc) (s : DirectPlay8Peer) : Bool :=
  proc.isMethod || (proc.isWorkerEvent && s.workerPool)

def body : Proc -> Action Unit
  | initialiseObject => Action.initialiseObject
  | cancelAsyncOperation handle flags =>
      Action.cancelAsyncOperation handle flags
  | connect args => Action.connect args
  | sendTo player payload ctx flags => Action.sendTo player payload ctx flags
  | host args => Action.host args
  | setApplicationDesc desc => Action.setApplicationDesc desc
  | createGroup info groupCtx asyncCtx flags =>
      Action.createGroup info groupCtx asyncCtx flags
  | destroyGroup group ctx flags => Action.destroyGroup group ctx flags
  | addPlayerToGroup group client ctx flags =>
      Action.addPlayerToGroup group client ctx flags
  | removePlayerFromGroup group client ctx flags =>
      Action.removePlayerFromGroup group client ctx flags
  | setPeerInfo info ctx flags => Action.setPeerInfo info ctx flags
  | close flags => Action.close flags
  | enumHosts ctx flags => Action.enumHosts ctx flags
  | destroyPeer client data => Action.destroyPeer client data
  | terminateSession data => Action.terminateSession data
  | handleUdpSocketEvent => Action.workerCallback Action.handleUdpSocketEvent
  | handleOtherSocketEvent => Action.workerCallback Action.handleOtherSocketEvent
  | handleWork => Action.workerCallback Action.handleWork
  | ioPeerTriggered peerId => Action.workerCallback (Action.ioPeerTriggered peerId)
  | sendCompleteThread completion => Action.sendCompleteThread completion
  | createGroupThread group ctx completion =>
      Action.createGroupThread group ctx completion
  | destroyGroupThread group completion =>
      Action.destroyGroupThread group completion
  | addPlayerThread group groupCtx completion =>
      Action.addPlayerThread group groupCtx completion
  | removePlayerThread group groupCtx completion =>
      Action.removePlayerThread group groupCtx completion
  | enumHostsThread handle ctx => Action.enumHostsThread handle ctx
  | ioUdpSend => Action.ioUdpSend
  | ioPeerConnected peerId => Action.ioPeerConnected peerId
  | ioPeerSend peerId => Action.ioPeerSend peerId
  | ioPeerRecv peerId => Action.ioPeerRecv peerId
  | ioPeerRecvClaimed peerId received =>
      Action.ioPeerRecvClaimed peerId received
  | ioPeerRecvNext peerId => Action.ioPeerRecvNext peerId
  | ioPeerRecvPackets peerId => Action.ioPeerRecvPackets peerId
  | peerAccept => Action.peerAccept
  | peerDestroy peerId result reason => Action.peerDestroy peerId result reason
  | peerDestroySends peerId result reason =>
      Action.peerDestroySends peerId result reason
  | peerDestroyAcks peerId result reason =>
      Action.peerDestroyAcks peerId result reason
  | peerDestroyDrained peerId result reason =>
      Action.peerDestroyDrained peerId result reason
  | peerDestroyAll result reason => Action.peerDestroyAll result reason
  | peerShutdown peerId result reason => Action.peerShutdown peerId result reason
  | peerShutdownAll result reason => Action.peerShutdownAll result reason
  | groupDestroyAll reason => Action.groupDestroyAll reason
  | terminateDestroyPeers peerId => Action.terminateDestroyPeers peerId
  | closing flags wasHosting wasConnected =>
      Action.closing flags wasHosting wasConnected
  | handleHostEnumRequest pd sender => Action.handleHostEnumRequest pd sender
  | handleHostConnectRequest peerId pd =>
      Action.handleHostConnectRequest peerId pd
  | handleHostConnectOk peerId pd => Action.handleHostConnectOk peerId pd
  | handleHostConnectFail peerId pd => Action.handleHostConnectFail peerId pd
  | handleConnectPeer peerId pd => Action.handleConnectPeer peerId pd
  | handleConnectPeerOk peerId pd => Action.handleConnectPeerOk peerId pd
  | handleConnectPeerFail peerId pd => Action.handleConnectPeerFail peerId pd
  | handleMessage pd => Action.handleMessage pd
  | handlePlayerinfo peerId pd => Action.handlePlayerinfo peerId pd
  | handleAck peerId pd => Action.handleAck peerId pd
  | handleAppdesc peerId pd => Action.handleAppdesc peerId pd
  | handleDestroyPeer peerId pd => Action.handleDestroyPeer peerId pd
  | handleTerminateSession peerId pd => Action.handleTerminateSession peerId pd
  | handleGroupAllocate peerId pd => Action.handleGroupAllocate peerId pd
  | handleGroupCreate peerId pd => Action.handleGroupCreate peerId pd
  | handleGroupDestroy peerId pd => Action.handleGroupDestroy peerId pd
  | handleGroupJoin peerId pd => Action.handleGroupJoin peerId pd
  | handleGroupJoined peerId pd => Action.handleGroupJoined peerId pd
  | handleGroupLeave peerId pd => Action.handleGroupLeave peerId pd
  | handleGroupLeft peerId pd => Action.handleGroupLeft peerId pd
  | connectCheck => Action.connectCheck
  | connectFail result reply => Action.connectFail result reply
  | connectUnwind toPeers => Action.connectUnwind toPeers
  | invokeCallback callback result => Action.invokeCallback callback result
  | invokeAck callback result data => Action.invokeAck callback result data
  | dispatchDestroyPlayer player ctx reason =>
      Action.dispatchDestroyPlayer player ctx reason
  | cancelPlayerSends player flags => Action.cancelPlayerSends player flags
  | cancelAllSends => Action.cancelAllSends

end Proc

def machine : Machine DirectPlay8Peer Command Query Answer Proc Fault where
  apply := Command.apply
  answers := answers
  body := Proc.body
  entry := Proc.entry

abbrev Run := Config DirectPlay8Peer Command Query Answer Proc Fault

abbrev StepLabel := Label Command Query Answer Proc Fault

/-!
## Runs by their choices
-/

section Replay

variable (cond : DirectPlay8Peer -> Multiset Proc -> StepLabel -> Prop)
  [forall s M label, Decidable (cond s M label)]

def replay (choices : List (Choice Answer Proc)) : Option Run :=
  schedule machine cond 200 (Config.initial .zeroed) choices

def replayTo (wanted : StepLabel -> Bool) (choices : List (Choice Answer Proc))
    (choice : Choice Answer Proc) : Option (Run × Run) :=
  (replay cond choices).bind fun c =>
    chooseTo machine cond wanted 200 c choice

variable {cond} {choices : List (Choice Answer Proc)}
  {choice : Choice Answer Proc} {wanted : StepLabel -> Bool}

theorem replay_reaches {test : Run -> Bool}
    (h : (replay cond choices).any test = true) :
    exists c, Reaches machine DirectPlay8Peer.Constructed cond c ∧
      test c = true := by
  rcases (Option.any_eq_true test _).mp h with ⟨c, hc, htest⟩
  exact ⟨c, schedule_reaches (.initial DirectPlay8Peer.zeroed_constructed) hc,
    htest⟩

theorem replayTo_step {test : Run × Run -> Bool}
    (h : (replayTo cond wanted choices choice).any test = true) :
    exists c c' label,
      Reaches machine DirectPlay8Peer.Constructed cond c ∧
        wanted label = true ∧ Step machine c label c' ∧ test (c, c') = true := by
  rcases (Option.any_eq_true test _).mp h with ⟨⟨c, c'⟩, hc, htest⟩
  rcases Option.bind_eq_some_iff.mp hc with ⟨c₀, hc₀, hto⟩
  have hreaches := schedule_reaches (.initial DirectPlay8Peer.zeroed_constructed)
    hc₀
  rcases chooseTo_step hreaches hto with ⟨hbefore, label, hwanted, hstep⟩
  exact ⟨c, c', label, hbefore, hwanted, hstep, htest⟩

end Replay

def plainSession : HostArgs where
  appDesc :=
    { sizeOk := true, flags := dpnSessionNoDpnsvr, guidApplication := guidNull,
      maxPlayers := 0, sessionName := none, password := none,
      applicationReservedData := [] }
  devices := [{ serviceProvider := some clsidDP8SPTcpip, port := some 6073 }]
  playerCtx := contextNull

def choicesInitialise : List (Choice Answer Proc) :=
  [.start .initialiseObject, .answer {}]

def choicesHost : List (Choice Answer Proc) :=
  .start (.host plainSession) :: List.replicate 4 (.answer {})

def plainConnect : ConnectArgs where
  guidApplication := guidNull
  guidInstance := guidNull
  hostAddress := some ⟨0x0100007f, 6073⟩
  userConnectData := []
  playerCtx := contextNull
  asyncCtx := contextNull
  flags := 0

def choicesConnect : List (Choice Answer Proc) :=
  .start (.connect plainConnect) :: List.replicate 5 (.answer {}) ++
    [.answer { ret := -1, err := wsaEWouldBlock }, .answer {}, .answer {}]

def choicesAccept : List (Choice Answer Proc) :=
  [.start .handleOtherSocketEvent, .answer { ret := 1 }, .answer {}, .answer {}]

def choicesReceive (peerId : UInt32) (packet : List UInt8) :
    List (Choice Answer Proc) :=
  [.start (.ioPeerTriggered peerId),
    .answer { ret := packet.length, bytes := packet }, .answer {}, .answer {}]

def choicesIndicate : List (Choice Answer Proc) :=
  choicesInitialise ++ choicesHost ++ [.answer {}, .resume 0 {}] ++
    choicesAccept ++
    choicesReceive 0 (Action.connectHostPacket .zeroed).rawPacket

def choicesAdmit : List (Choice Answer Proc) :=
  choicesIndicate ++ [.resume 0 {}, .resume 0 {},
    .answer { ret := -1, err := wsaEWouldBlock }, .answer {}]

end DirectPlayLite
