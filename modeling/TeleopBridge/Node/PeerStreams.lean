import TeleopBridge.Node.Session

/-!
# Receiving the Peer's Streams

`peerSubscriptionRetryTimerCallback` subscribes to the streams of the paired peer and
fetches its audio config. It works on a snapshot of the peer taken before the RPCs and
compares the peer again before it commits.
-/

namespace TeleopBridge.Node

/-- `std::sort`, then `std::unique`. -/
def sortedPrefixes (prefixes : List ℕ) : List ℕ := (prefixes.insertionSort (· ≤ ·)).dedup

/-- `GrpcModule::getStreamPrefixes`: the one-byte prefixes of the manifest. -/
def getStreamPrefixes (manifest : List ℕ) : List ℕ :=
  sortedPrefixes (manifest.filter fun code => code ≤ 0xFF)

namespace MainNode

variable (n : MainNode)

/-- The requested prefixes the peer declares. -/
def availableRequests (available : List ℕ) : List ℕ :=
  -- both pose streams or none
  let pose :=
    if n.config.subscribe_vr_pose_flag &&
        (available.contains kPoseControllerPrefix && available.contains kBody24RawPrefix) then
      [kPoseControllerPrefix, kBody24RawPrefix]
    else []
  let audio :=
    if n.wantsRemoteAudio && available.contains kAudioPrefix then [kAudioPrefix] else []
  sortedPrefixes (pose ++ audio)

/-- Whether the peer declares every prefix the node asks for. -/
def allRequestsAvailable (available : List ℕ) : Bool :=
  (!n.config.subscribe_vr_pose_flag ||
    (available.contains kPoseControllerPrefix && available.contains kBody24RawPrefix)) &&
    (!n.wantsRemoteAudio || available.contains kAudioPrefix)

/-- The last critical section of `ensurePeerSubscriptions`. -/
def commitSubscriptions (peer : StdString) (prefixes : List ℕ) (complete : Bool) :
    Bool × MainNode :=
  -- another peer was paired while the RPCs ran
  if n.paired_peer_session_id ≠ peer then (false, n)
  else
    (complete, { n with peer_subscribed_prefixes := prefixes, peer_streams_subscribed := complete })

/-- `MainNode::ensurePeerSubscriptions`. -/
def ensurePeerSubscriptions : Bool × MainNode :=
  if n.peer_streams_subscribed then (true, n)
  else if n.paired_peer_session_id = [] then (false, n)
  else if !n.config.subscribe_vr_pose_flag && !n.wantsRemoteAudio then
    (true, { n with peer_streams_subscribed := true, peer_subscribed_prefixes := [] })
  else
    -- the snapshot the RPCs work on
    let peer := n.paired_peer_session_id
    let subscribed := n.peer_subscribed_prefixes
    let manifest := n.rpc
    if !manifest.1 then (false, manifest.2)
    else
      let n := manifest.2
      let available := getStreamPrefixes n.replies.manifest
      let prefixes := n.availableRequests available
      -- prefixes that did not change are not subscribed again
      let subscribe := if prefixes ≠ subscribed && prefixes ≠ [] then n.rpc else (true, n)
      if !subscribe.1 then (false, subscribe.2)
      else subscribe.2.commitSubscriptions peer prefixes (n.allRequestsAvailable available)

/-- `MainNode::validateRemoteAudioConfig`, against the local audio parameters. -/
def validateRemoteAudioConfig (remote : AudioConfig) : Bool :=
  n.wantsRemoteAudio &&
    !(remote.sample_rate = 0 || remote.channels = 0 || remote.frame_duration_ms = 0 ||
      remote.samples_per_channel = 0 || remote.bitrate_bps = 0) &&
    -- the bridge does not resample, so the parameters must agree
    remote = n.config.audio_config

/-- The last critical section of `fetchRemoteAudioConfig`, with
`AudioModule::applyRemoteConfig`, which accepts what was validated. -/
def commitRemoteAudio (peer : StdString) : Bool × MainNode :=
  if n.paired_peer_session_id ≠ peer then (false, n)
  else
    (true, n.setAudio { n.audio with
      remote_config_ready := true
      remote_config_id := n.replies.remote_config_id })

/-- `MainNode::fetchRemoteAudioConfig`. -/
def fetchRemoteAudioConfig : Bool × MainNode :=
  if !n.wantsRemoteAudio then (true, n)
  else if n.paired_peer_session_id = [] then (false, n)
  -- a config that was applied is kept until it is reset
  else if n.audio.remote_config_ready then (true, n)
  else
    let peer := n.paired_peer_session_id
    let fetched := n.rpc
    if !fetched.1 then (false, fetched.2)
    else if !fetched.2.validateRemoteAudioConfig fetched.2.replies.remote_audio then
      (false, fetched.2)
    else fetched.2.commitRemoteAudio peer

/-- `MainNode::peerSubscriptionRetryTimerCallback`. -/
def peerSubscriptionRetryTimerCallback : MainNode :=
  if !n.state.active || n.paired_peer_session_id = [] then n.stopPeerSubscriptionRetryTimer
  else
    let subscriptions := n.ensurePeerSubscriptions
    -- the audio half runs whatever the first half returned
    let audio := subscriptions.2.fetchRemoteAudioConfig
    if subscriptions.1 && audio.1 then audio.2.stopPeerSubscriptionRetryTimer else audio.2

end MainNode

end TeleopBridge.Node
