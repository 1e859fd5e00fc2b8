import Mathlib.Algebra.Order.Ring.Rat
import TeleopBridge.Grpc.PendingRpcs
import TeleopBridge.Node.PeerStreams

/-!
# The Audio Stream Config

Embeds the audio part of `src/grpc/grpc_module.cpp`: the config that a bridge publishes as JSON,
and what another bridge makes of an item that it fetches. The JSON functions of protobuf are a
parameter. `MainNode::validateRemoteAudioConfig` decides about what was fetched.

## Key Results

- `readAudioConfig_eq_some`: which documents are read, and as which config.
- `audio_config_agreed`: a bridge accepts exactly the documents that have the fields that it
  would publish itself.
-/

namespace TeleopBridge.Grpc

/-! ## Documents -/

/-- `google::protobuf::Value`; a double is its value, if it is finite. -/
inductive JsonValue
  | nullValue
  | numberValue (number : Option ℚ)
  | stringValue (text : String)
  | boolValue (value : Bool)
  | structValue
  | listValue
  deriving DecidableEq, Repr

/-- `google::protobuf::Struct`, as its fields. -/
abbrev Struct := List (String × JsonValue)

def findJsonField (document : Struct) (name : String) : Option JsonValue := document.lookup name

def readJsonString (document : Struct) (name : String) : Option String :=
  match findJsonField document name with
  | some (.stringValue text) => some text
  | _ => none

/-- A positive integer in the range of `uint32_t`. -/
def readJsonUint32 (document : Struct) (name : String) : Option UInt32 :=
  match findJsonField document name with
  | some (.numberValue (some number)) =>
      if number ≤ 0 ∨ 4294967295 < number ∨ (number.floor : ℚ) ≠ number then none
      else some (UInt32.ofNat number.floor.toNat)
  | _ => none

def readJsonBool (document : Struct) (name : String) : Option Bool :=
  match findJsonField document name with
  | some (.boolValue value) => some value
  | _ => none

/-! ## The config -/

/-- `GrpcModule::AudioConfig` -/
structure AudioConfig where
  sample_rate : UInt32 := 48000
  channels : UInt32 := 1
  frame_duration_ms : UInt32 := 20
  samples_per_channel : UInt32 := 960
  bitrate_bps : UInt32 := 64000
  opus_inband_fec_enabled : Bool := true
  opus_dtx_enabled : Bool := false
  deriving DecidableEq, Repr

/-- The parameters `audio.*`, as the node holds them. -/
structure AudioParams where
  sample_rate : Int32 := 48000
  channels : Int32 := 1
  frame_duration_ms : Int32 := 20
  samples_per_channel : Int32 := 960
  bitrate_bps : Int32 := 64000
  opus_inband_fec_enabled : Bool := true
  opus_dtx_enabled : Bool := false

/-- `static_cast<uint32_t>(std::max(1, value))` -/
def atLeastOne (value : Int32) : UInt32 := UInt32.ofNat (max 1 value.toInt).toNat

/-- `GrpcModule::audioConfigFromRosParam`; `AudioModule::configFromRosParam` reads these fields
in the same way. -/
def audioConfigFromRosParam (params : AudioParams) : AudioConfig where
  sample_rate := atLeastOne params.sample_rate
  channels := atLeastOne params.channels
  frame_duration_ms := atLeastOne params.frame_duration_ms
  samples_per_channel := atLeastOne params.samples_per_channel
  bitrate_bps := atLeastOne params.bitrate_bps
  opus_inband_fec_enabled := params.opus_inband_fec_enabled
  opus_dtx_enabled := params.opus_dtx_enabled

/-- `set_number_value` of a `uint32_t`, which a double holds exactly. -/
def JsonValue.ofUint32 (value : UInt32) : JsonValue := .numberValue (some (value.toNat : ℚ))

/-- The document of `publishAudioConfig`. -/
def audioDocument (config : AudioConfig) : Struct :=
  [("codec", .stringValue "OPUS"),
    ("sample_rate", .ofUint32 config.sample_rate),
    ("channels", .ofUint32 config.channels),
    ("frame_duration_ms", .ofUint32 config.frame_duration_ms),
    ("samples_per_channel", .ofUint32 config.samples_per_channel),
    ("bitrate_bps", .ofUint32 config.bitrate_bps),
    ("opus_inband_fec_enabled", .boolValue config.opus_inband_fec_enabled),
    ("opus_dtx_enabled", .boolValue config.opus_dtx_enabled)]

/-- The checks of `fetchAudioConfig`, in their order. -/
def readAudioConfig (document : Struct) : Option AudioConfig :=
  if readJsonString document "codec" ≠ some "OPUS" then none
  else do
    let sample_rate ← readJsonUint32 document "sample_rate"
    let channels ← readJsonUint32 document "channels"
    let frame_duration_ms ← readJsonUint32 document "frame_duration_ms"
    let samples_per_channel ← readJsonUint32 document "samples_per_channel"
    let bitrate_bps ← readJsonUint32 document "bitrate_bps"
    let opus_inband_fec_enabled ← readJsonBool document "opus_inband_fec_enabled"
    let opus_dtx_enabled ← readJsonBool document "opus_dtx_enabled"
    some ⟨sample_rate, channels, frame_duration_ms, samples_per_channel, bitrate_bps,
      opus_inband_fec_enabled, opus_dtx_enabled⟩

/-! ## Publishing and fetching -/

def kAudioPrefix : UInt32 := 0x04
def kMediaConfigSchemaVersion : UInt32 := 1

/-- The JSON functions of protobuf. -/
structure JsonLibrary where
  messageToJsonString : Struct → Option StdString
  jsonStringToMessage : StdString → Option Struct

/-- `signaling::StreamConfigItem`, as far as it is read. -/
structure StreamConfigItem where
  prefix_ : UInt32
  schema_version : UInt32
  payload : StdString
  config_id : StdString := []
  deriving DecidableEq, Repr

/-- What `GrpcModule::publishAudioConfig` asks to be published. -/
def publishAudioConfig (library : JsonLibrary) (config : AudioConfig) :
    Option StreamConfigItem :=
  (library.messageToJsonString (audioDocument config)).map fun payload =>
    { prefix_ := kAudioPrefix
      schema_version := kMediaConfigSchemaVersion
      payload := payload }

/-- `GrpcModule::fetchAudioConfig`, with the item that `GetStreamConfig` gave. -/
def fetchAudioConfig (library : JsonLibrary) (item : Option StreamConfigItem) :
    Option (AudioConfig × StdString) :=
  match item with
  | none => none
  | some item =>
      if item.prefix_ ≠ kAudioPrefix ∨ item.schema_version ≠ kMediaConfigSchemaVersion then
        none
      else
        match library.jsonStringToMessage item.payload with
        | none => none
        | some document =>
            (readAudioConfig document).map fun config => (config, item.config_id)

/-- The config as the node compares it. -/
def AudioConfig.toNode (config : AudioConfig) : Node.AudioConfig where
  sample_rate := config.sample_rate.toNat
  channels := config.channels.toNat
  frame_duration_ms := config.frame_duration_ms.toNat
  samples_per_channel := config.samples_per_channel.toNat
  bitrate_bps := config.bitrate_bps.toNat
  opus_inband_fec_enabled := config.opus_inband_fec_enabled
  opus_dtx_enabled := config.opus_dtx_enabled

/-! ## What is read -/

variable {document : Struct} {name : String}

theorem readJsonString_eq_some {text : String} :
    readJsonString document name = some text ↔
      findJsonField document name = some (.stringValue text) := by
  unfold readJsonString
  split
  · rename_i other hfield
    rw [hfield]
    simp
  · rename_i hother
    constructor
    · rintro ⟨⟩
    -- a field of another kind is not read
    · exact fun hfield => absurd hfield (hother text)

theorem readJsonBool_eq_some {value : Bool} :
    readJsonBool document name = some value ↔
      findJsonField document name = some (.boolValue value) := by
  unfold readJsonBool
  split
  · rename_i other hfield
    rw [hfield]
    simp
  · rename_i hother
    constructor
    · rintro ⟨⟩
    · exact fun hfield => absurd hfield (hother value)

/-- A number is read if it is what is written for a `uint32_t` other than 0. -/
theorem readJsonUint32_eq_some {value : UInt32} :
    readJsonUint32 document name = some value ↔
      findJsonField document name = some (.ofUint32 value) ∧ value ≠ 0 := by
  unfold readJsonUint32 JsonValue.ofUint32
  split
  · rename_i number hfield
    rw [hfield]
    constructor
    · intro hread
      split_ifs at hread with hrefused
      obtain ⟨hpos, hmax, hwhole⟩ : 0 < number ∧ number ≤ 4294967295 ∧
          (number.floor : ℚ) = number := by
        simpa only [not_or, not_le, not_lt, not_not] using hrefused
      cases hread
      -- the number is a natural number that fits
      have hint : (number.floor.toNat : ℤ) = number.floor :=
        Int.toNat_of_nonneg (Rat.le_floor_iff.mpr (by exact_mod_cast hpos.le))
      have hnat : ((number.floor.toNat : ℕ) : ℚ) = number := by
        rw [← Int.cast_natCast, hint, hwhole]
      have hlt : number.floor.toNat < UInt32.size := by
        rw [← hnat] at hmax
        exact Nat.lt_succ_of_le (by exact_mod_cast hmax)
      have hvalue : (UInt32.ofNat number.floor.toNat).toNat = number.floor.toNat :=
        UInt32.toNat_ofNat_of_lt' hlt
      rw [hvalue]
      refine ⟨by rw [hnat], fun hzero => ?_⟩
      rw [hzero] at hvalue
      rw [← hnat, ← hvalue] at hpos
      simp at hpos
    · rintro ⟨heq, hne⟩
      cases heq
      have hpos : 0 < value.toNat := Nat.pos_of_ne_zero fun hzero =>
        hne (UInt32.toNat_inj.mp hzero)
      have hlt : value.toNat < 4294967296 := value.toNat_lt
      have hfloor : ((value.toNat : ℚ)).floor = value.toNat := Rat.floor_intCast value.toNat
      rw [hfloor, if_neg]
      · simp
      · simp only [not_or, not_le, not_lt, not_not]
        refine ⟨by exact_mod_cast hpos, ?_, by simp⟩
        exact_mod_cast Nat.le_of_lt_succ hlt
  · rename_i hother
    constructor
    · rintro ⟨⟩
    · exact fun hfield => absurd hfield.1 (hother _)

/-- A config without a zero. -/
def AudioConfig.Positive (config : AudioConfig) : Prop :=
  config.sample_rate ≠ 0 ∧ config.channels ≠ 0 ∧ config.frame_duration_ms ≠ 0 ∧
    config.samples_per_channel ≠ 0 ∧ config.bitrate_bps ≠ 0

/-- The document has the fields that are published for the config, and maybe others. -/
def Describes (document : Struct) (config : AudioConfig) : Prop :=
  ∀ field ∈ audioDocument config, findJsonField document field.1 = some field.2

theorem describes_audioDocument (config : AudioConfig) :
    Describes (audioDocument config) config := by
  intro field hfield
  simp only [audioDocument, List.mem_cons, List.not_mem_nil, or_false] at hfield
  rcases hfield with rfl | rfl | rfl | rfl | rfl | rfl | rfl | rfl <;> rfl

/-- What is read is what the document describes. -/
theorem readAudioConfig_eq_some {config : AudioConfig} :
    readAudioConfig document = some config ↔ Describes document config ∧ config.Positive := by
  obtain ⟨sample_rate, channels, frame_duration_ms, samples_per_channel, bitrate_bps, fec, dtx⟩ :=
    config
  -- the document has eight fields, the codec among them
  have hdescribes : Describes document ⟨sample_rate, channels, frame_duration_ms,
      samples_per_channel, bitrate_bps, fec, dtx⟩ ↔
      findJsonField document "codec" = some (.stringValue "OPUS") ∧
        findJsonField document "sample_rate" = some (.ofUint32 sample_rate) ∧
        findJsonField document "channels" = some (.ofUint32 channels) ∧
        findJsonField document "frame_duration_ms" = some (.ofUint32 frame_duration_ms) ∧
        findJsonField document "samples_per_channel" = some (.ofUint32 samples_per_channel) ∧
        findJsonField document "bitrate_bps" = some (.ofUint32 bitrate_bps) ∧
        findJsonField document "opus_inband_fec_enabled" = some (.boolValue fec) ∧
        findJsonField document "opus_dtx_enabled" = some (.boolValue dtx) := by
    simp [Describes, audioDocument]
  rw [hdescribes]
  unfold readAudioConfig AudioConfig.Positive
  constructor
  · intro hread
    split_ifs at hread with hcodec
    simp only [Option.bind_eq_bind, Option.bind_eq_some_iff, Option.some.injEq,
      AudioConfig.mk.injEq] at hread
    obtain ⟨_, hrate, _, hchannels, _, hduration, _, hsamples, _, hbitrate, _, hfec, _, hdtx,
      rfl, rfl, rfl, rfl, rfl, rfl, rfl⟩ := hread
    -- a number is read only where it is not zero
    obtain ⟨hrate, hrate'⟩ := readJsonUint32_eq_some.mp hrate
    obtain ⟨hchannels, hchannels'⟩ := readJsonUint32_eq_some.mp hchannels
    obtain ⟨hduration, hduration'⟩ := readJsonUint32_eq_some.mp hduration
    obtain ⟨hsamples, hsamples'⟩ := readJsonUint32_eq_some.mp hsamples
    obtain ⟨hbitrate, hbitrate'⟩ := readJsonUint32_eq_some.mp hbitrate
    exact ⟨⟨readJsonString_eq_some.mp (not_not.mp hcodec), hrate, hchannels, hduration, hsamples,
      hbitrate, readJsonBool_eq_some.mp hfec, readJsonBool_eq_some.mp hdtx⟩,
      hrate', hchannels', hduration', hsamples', hbitrate'⟩
  · rintro ⟨⟨hcodec, hrate, hchannels, hduration, hsamples, hbitrate, hfec, hdtx⟩, hne⟩
    obtain ⟨hrate', hchannels', hduration', hsamples', hbitrate'⟩ := hne
    rw [if_neg (not_not.mpr (readJsonString_eq_some.mpr hcodec)),
      readJsonUint32_eq_some.mpr ⟨hrate, hrate'⟩,
      readJsonUint32_eq_some.mpr ⟨hchannels, hchannels'⟩,
      readJsonUint32_eq_some.mpr ⟨hduration, hduration'⟩,
      readJsonUint32_eq_some.mpr ⟨hsamples, hsamples'⟩,
      readJsonUint32_eq_some.mpr ⟨hbitrate, hbitrate'⟩, readJsonBool_eq_some.mpr hfec,
      readJsonBool_eq_some.mpr hdtx]
    rfl

/-! ## What a bridge accepts -/

theorem atLeastOne_ne_zero (value : Int32) : atLeastOne value ≠ 0 := by
  have hlt := Int32.toInt_lt value
  have hvalue : (atLeastOne value).toNat = (max 1 value.toInt).toNat :=
    UInt32.toNat_ofNat_of_lt' (by rw [UInt32.size]; omega)
  intro hzero
  rw [hzero, UInt32.toNat_zero] at hvalue
  omega

/-- The parameters never give a zero, whatever was set. -/
theorem positive_audioConfigFromRosParam (params : AudioParams) :
    (audioConfigFromRosParam params).Positive :=
  ⟨atLeastOne_ne_zero _, atLeastOne_ne_zero _, atLeastOne_ne_zero _, atLeastOne_ne_zero _,
    atLeastOne_ne_zero _⟩

theorem toNode_inj {config other : AudioConfig} :
    config.toNode = other.toNode ↔ config = other := by
  constructor
  · intro h
    simp only [AudioConfig.toNode, Node.AudioConfig.mk.injEq, UInt32.toNat_inj] at h
    obtain ⟨hrate, hchannels, hduration, hsamples, hbitrate, hfec, hdtx⟩ := h
    -- the node keeps every number as it is
    cases config
    cases other
    subst hrate hchannels hduration hsamples hbitrate hfec hdtx
    rfl
  · exact congrArg AudioConfig.toNode

theorem validateRemoteAudioConfig_iff {config : AudioConfig} (n : Node.MainNode)
    (hpositive : config.Positive) :
    n.validateRemoteAudioConfig config.toNode = true ↔
      n.wantsRemoteAudio = true ∧ config.toNode = n.config.audio_config := by
  obtain ⟨hrate, hchannels, hduration, hsamples, hbitrate⟩ := hpositive
  have hne {value : UInt32} (h : value ≠ 0) : value.toNat ≠ 0 :=
    fun hzero => h (UInt32.toNat_inj.mp hzero)
  -- none of the fields is zero, so the comparison decides
  simp only [Node.MainNode.validateRemoteAudioConfig, AudioConfig.toNode, hne hrate,
    hne hchannels, hne hduration, hne hsamples, hne hbitrate, decide_false, Bool.or_false,
    Bool.not_false, Bool.and_true, Bool.and_eq_true]
  exact and_congr_right fun _ => decide_eq_true_iff

/-- The node accepts the item as the audio config of its peer. -/
def Accepts (library : JsonLibrary) (n : Node.MainNode) (item : StreamConfigItem) : Prop :=
  ∃ fetched, fetchAudioConfig library (some item) = some fetched ∧
    n.validateRemoteAudioConfig fetched.1.toNode = true

variable {library : JsonLibrary} {n : Node.MainNode} {params : AudioParams}
  {item : StreamConfigItem}

theorem fetchAudioConfig_eq_some {fetched : AudioConfig × StdString} :
    fetchAudioConfig library (some item) = some fetched ↔
      item.prefix_ = kAudioPrefix ∧ item.schema_version = kMediaConfigSchemaVersion ∧
        item.config_id = fetched.2 ∧ ∃ document,
          library.jsonStringToMessage item.payload = some document ∧
            Describes document fetched.1 ∧ fetched.1.Positive := by
  obtain ⟨config, config_id⟩ := fetched
  unfold fetchAudioConfig
  simp only
  by_cases hheader : item.prefix_ ≠ kAudioPrefix ∨
      item.schema_version ≠ kMediaConfigSchemaVersion
  · rw [if_pos hheader]
    constructor
    · rintro ⟨⟩
    · rintro ⟨hkind, hschema, -⟩
      exact absurd hheader (not_or.mpr ⟨not_not.mpr hkind, not_not.mpr hschema⟩)
  · rw [if_neg hheader]
    obtain ⟨hkind, hschema⟩ := not_or.mp hheader
    -- what does not parse is no configuration
    cases hparse : library.jsonStringToMessage item.payload with
    | none => simp
    | some document =>
      simp only [Option.map_eq_some_iff, Prod.mk.injEq, readAudioConfig_eq_some]
      constructor
      · rintro ⟨other, hread, rfl, hid⟩
        exact ⟨not_not.mp hkind, not_not.mp hschema, hid, document, rfl, hread⟩
      · rintro ⟨-, -, hid, other, hsame, hread⟩
        cases hsame
        exact ⟨config, hread, rfl, hid⟩

theorem accepts_iff (hlocal : n.config.audio_config = (audioConfigFromRosParam params).toNode) :
    Accepts library n item ↔ n.wantsRemoteAudio = true ∧ item.prefix_ = kAudioPrefix ∧
      item.schema_version = kMediaConfigSchemaVersion ∧ ∃ document,
        library.jsonStringToMessage item.payload = some document ∧
          Describes document (audioConfigFromRosParam params) := by
  constructor
  · rintro ⟨⟨config, config_id⟩, hfetch, hvalid⟩
    obtain ⟨hkind, hschema, -, document, hparse, hdescribes, hpositive⟩ :=
      fetchAudioConfig_eq_some.mp hfetch
    obtain ⟨hwants, hsame⟩ := (validateRemoteAudioConfig_iff n hpositive).mp hvalid
    -- what passes the comparison is the own configuration
    rw [hlocal, toNode_inj] at hsame
    exact ⟨hwants, hkind, hschema, document, hparse, hsame ▸ hdescribes⟩
  · rintro ⟨hwants, hkind, hschema, document, hparse, hdescribes⟩
    have hpositive := positive_audioConfigFromRosParam params
    refine ⟨(audioConfigFromRosParam params, item.config_id), ?_, ?_⟩
    · exact fetchAudioConfig_eq_some.mpr
        ⟨hkind, hschema, rfl, document, hparse, hdescribes, hpositive⟩
    · exact (validateRemoteAudioConfig_iff n hpositive).mpr ⟨hwants, hlocal.symm⟩

/-- A document is read back with its fields, whatever their order. -/
def JsonLibrary.ReadsBack (library : JsonLibrary) (document : Struct) : Prop :=
  ∀ payload, library.messageToJsonString document = some payload →
    ∃ other, library.jsonStringToMessage payload = some other ∧
      ∀ name, findJsonField other name = findJsonField document name

/-- A bridge accepts the items whose document has the fields that it would publish itself. What
another bridge publishes it accepts exactly when their audio parameters give the same config. -/
theorem audio_config_agreed
    (hlocal : n.config.audio_config = (audioConfigFromRosParam params).toNode) :
    (∀ item, Accepts library n item ↔
      n.wantsRemoteAudio = true ∧ item.prefix_ = kAudioPrefix ∧
        item.schema_version = kMediaConfigSchemaVersion ∧ ∃ document,
          library.jsonStringToMessage item.payload = some document ∧
            Describes document (audioConfigFromRosParam params)) ∧
      ∀ remote request config_id,
        library.ReadsBack (audioDocument (audioConfigFromRosParam remote)) →
        publishAudioConfig library (audioConfigFromRosParam remote) = some request →
        (Accepts library n { request with config_id := config_id } ↔
          n.wantsRemoteAudio = true ∧
            audioConfigFromRosParam remote = audioConfigFromRosParam params) := by
  refine ⟨fun item => accepts_iff hlocal, fun remote request config_id hreads hpublish => ?_⟩
  obtain ⟨payload, hprint, rfl⟩ := Option.map_eq_some_iff.mp hpublish
  obtain ⟨document, hparse, hfields⟩ := hreads payload hprint
  -- the fields are those that were published
  have hdescribes (config : AudioConfig) : Describes document config ↔
      Describes (audioDocument (audioConfigFromRosParam remote)) config :=
    forall₂_congr fun field _ => by rw [hfields field.1]
  rw [accepts_iff hlocal]
  constructor
  · rintro ⟨hwants, -, -, other, hother, hlocal⟩
    cases hparse.symm.trans hother
    refine ⟨hwants, ?_⟩
    -- one document is read as one config
    have hremote := readAudioConfig_eq_some.mpr
      ⟨describes_audioDocument _, positive_audioConfigFromRosParam remote⟩
    have hsame := readAudioConfig_eq_some.mpr
      ⟨(hdescribes _).mp hlocal, positive_audioConfigFromRosParam params⟩
    exact Option.some.inj (hremote.symm.trans hsame)
  · rintro ⟨hwants, hsame⟩
    refine ⟨hwants, rfl, rfl, document, hparse, (hdescribes _).mpr ?_⟩
    rw [← hsame]
    exact describes_audioDocument _

/-- A library that knows the JSON text of one document. -/
def libraryOf (document : Struct) (payload : StdString) : JsonLibrary where
  messageToJsonString other := if other = document then some payload else none
  jsonStringToMessage text := if text = payload then some document else none

/-- The text of the default config. -/
def defaultPayload : StdString :=
  "\x7b\"bitrate_bps\":64000,\"channels\":1,\"codec\":\"OPUS\",\"frame_duration_ms\":20,".toList ++
    "\"opus_dtx_enabled\":false,\"opus_inband_fec_enabled\":true,".toList ++
    "\"sample_rate\":48000,\"samples_per_channel\":960\x7d".toList

/-- Two bridges with the default parameters; the other one's channel count of 0 counts as 1. -/
theorem audio_config_agreed_default :
    Accepts (libraryOf (audioDocument (audioConfigFromRosParam {})) defaultPayload)
      { config := { audio_enabled := true, audio_config := (audioConfigFromRosParam {}).toNode } }
      { prefix_ := kAudioPrefix, schema_version := kMediaConfigSchemaVersion
        payload := defaultPayload, config_id := ['7'] } := by
  have hprint : publishAudioConfig
      (libraryOf (audioDocument (audioConfigFromRosParam {})) defaultPayload)
      (audioConfigFromRosParam { channels := 0 }) =
        some { prefix_ := kAudioPrefix, schema_version := kMediaConfigSchemaVersion
               payload := defaultPayload } := by
    have hsame : audioConfigFromRosParam { channels := 0 } = audioConfigFromRosParam {} := by decide
    rw [hsame, publishAudioConfig, libraryOf]
    simp
  refine ((@audio_config_agreed _ _ {} rfl).2 { channels := 0 } _ ['7'] ?_ hprint).mpr
    ⟨rfl, by decide⟩
  intro payload hpayload
  have hsame : audioConfigFromRosParam { channels := 0 } = audioConfigFromRosParam {} := by decide
  rw [hsame] at hpayload ⊢
  simp only [libraryOf, if_true, Option.some.injEq] at hpayload
  exact ⟨_, if_pos hpayload.symm, fun _ => rfl⟩

end TeleopBridge.Grpc
