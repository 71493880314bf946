import DirectPlayLite.Lib.Monitor.Custody
import DirectPlayLite.Peer.Answers

/-!
# Custody of peers

What all accounts of the connections of the object share: looking up a peer, and the
changes of the state that leave a peer, its address and its buffers as they are.
-/

namespace DirectPlayLite

open Monitor Program

/-!
## Looking up peers
-/

section Lookups

variable {E T α : Type} {K : Custody DirectPlay8Peer Command Query Answer Proc Fault E T}
  {p : Proc} {s : DirectPlay8Peer} {es : List E} {own rest : Multiset T}
  {peerId : UInt32}

theorem custody_peerAt {missing : Fault} {f : Peer -> Action α}
    {post : α -> DirectPlay8Peer -> List E -> Multiset T -> Multiset T -> Prop}
    (h : forall peer, s.peers[peerId]? = some peer ->
      K.wp machine p (f peer) post s es own rest) :
    K.wp machine p (Action.peerAt peerId missing >>= f) post s es own rest := by
  rw [bind_eq, Custody.wp_bind]
  apply Custody.wp_get
  split
  · rename_i peer hpeer
    exact h peer hpeer
  · trivial

theorem custody_renewPeer {next : Peer -> Action Unit}
    {post : Unit -> DirectPlay8Peer -> List E -> Multiset T -> Multiset T -> Prop}
    (hsome : forall peer, s.peers[peerId]? = some peer ->
      K.wp machine p (next peer) post s es own rest)
    (hnone : s.peers[peerId]? = none -> post () s es own rest) :
    K.wp machine p (Action.renewPeer peerId next) post s es own rest := by
  apply Custody.wp_get
  split
  · rename_i peer hpeer
    exact hsome peer hpeer
  · rename_i hmissing
    exact hnone hmissing

end Lookups

end DirectPlayLite
