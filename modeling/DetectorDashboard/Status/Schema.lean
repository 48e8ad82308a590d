import DetectorDashboard.Flag
import DetectorDashboard.Status.Basic

/-!
The shapes of the status responses. A body that does not have the shape of its endpoint is refused
as a whole; members beyond those named here are passed over. A unit is decoded only when it says
that it is connected, and whatever else it holds is passed over.
-/

namespace DetectorDashboard

/-- A response that does not have the shape of its endpoint. -/
structure SchemaError where
  endpoint : Endpoint
  cause : Schema.DecodeError

namespace SchemaError

def message (e : SchemaError) : String :=
  s!"response from {e.endpoint.name} does not match its schema: {e.cause.message}"

end SchemaError

open Schema in
/-- A parameter stands in an object of its own, as its value. -/
def parameter {α : Type} (d : Decoder α) : Decoder α :=
  record "Param" (.required "value" d)

namespace StatusResponse

open Schema

/-- A version is sent as a text or as a bare number. -/
def version : Decoder String
  | .string s => .ok s
  | .number n => .ok n.text
  | v => .error (.notVersion v)

def apiInfo : Decoder String :=
  record "ApiInfo" (.required "api" version)

def adapterList : Decoder (List String) :=
  record "AdapterList" (.required "adapters" (list string))

def config : Decoder DetectorConfig :=
  record "DetectorConfig"
    (DetectorConfig.mk <$> .required "count_time" (parameter binary64)
      <*> .required "frame_time" (parameter binary64) <*> .required "nimages" (parameter number))

def status : Decoder DetectorStatus :=
  record "DetectorStatus"
    (DetectorStatus.mk <$> .required "acquisition_complete" (parameter Flag.decoder)
      <*> .optional "state" (parameter string))

/-- The configuration flags of a receiver, in the order in which it goes through them. -/
structure ReceiverFlags where
  bufferManager : Bool
  receiveThread : Bool
  decoder : Bool
  channel : Bool
  complete : Bool

structure ReceiverFrames where
  received : UInt64
  timedOut : UInt64
  released : UInt64

structure Writer where
  processes : UInt64
  rank : Int64
  written : UInt64
  maximum : UInt64
  fileName : Option String
  writing : Bool

def receiverFlags : Decoder ReceiverFlags :=
  record "ReceiverFlags"
    (ReceiverFlags.mk <$> .required "buffer_manager_configured" Flag.decoder
      <*> .required "rx_thread_configured" Flag.decoder
      <*> .required "decoder_configured" Flag.decoder <*> .required "ipc_configured" Flag.decoder
      <*> .required "configuration_complete" Flag.decoder)

def receiverBuffers : Decoder UInt64 :=
  record "ReceiverBuffers" (.required "empty" uint64)

def receiverFrames : Decoder ReceiverFrames :=
  record "ReceiverFrames"
    (ReceiverFrames.mk <$> .required "received" uint64 <*> .required "timedout" uint64
      <*> .required "released" uint64)

def receiverOf (flags : ReceiverFlags) (emptyBuffers : UInt64) (frames : ReceiverFrames) :
    Receiver where
  bufferManager := flags.bufferManager
  receiveThread := flags.receiveThread
  decoder := flags.decoder
  channel := flags.channel
  complete := flags.complete
  emptyBuffers := emptyBuffers
  received := frames.received
  timedOut := frames.timedOut
  released := frames.released

def receiver : Decoder Receiver :=
  record "ReceiverDetail"
    (receiverOf <$> .required "status" receiverFlags <*> .required "buffers" receiverBuffers
      <*> .required "frames" receiverFrames)

def sharedMemory : Decoder Bool :=
  record "SharedMemory" (.required "configured" Flag.decoder)

def writer : Decoder Writer :=
  record "HdfStatus"
    (Writer.mk <$> .required "processes" uint64 <*> .required "rank" int64
      <*> .required "frames_written" uint64 <*> .required "frames_max" uint64
      <*> .optional "file_name" string <*> .required "writing" Flag.decoder)

def processorOf (sharedMemory : Bool) (writer : Writer) : Processor where
  sharedMemory := sharedMemory
  processes := writer.processes
  rank := writer.rank
  written := writer.written
  maximum := writer.maximum
  fileName := writer.fileName
  writing := writer.writing

def processor : Decoder Processor :=
  record "ProcessorDetail"
    (processorOf <$> .required "shared_memory" sharedMemory <*> .required "hdf" writer)

/-- A unit that says that it is connected has to be described in full. -/
def unit {α : Type} (detail : Decoder α) : Decoder (UnitStatus α) := fun v =>
  if (v.member? "connected").any Flag.isConnected then (detail v).map .connected
  else .ok .disconnected

/-- The list is taken apart before any of its units is looked at. -/
def units {α : Type} (detail : Decoder α) : Decoder (List (UnitStatus α)) := fun body => do
  let items ← record "UnitList" (.required "value" (list anything)) body
  items.mapM (unit detail)

def decoder : Endpoint → Decoder StatusResponse
  | .apiVersion => apiInfo.map .apiVersion
  | .adapters => adapterList.map .adapters
  | .detectorConfig => config.map .detectorConfig
  | .detectorStatus => status.map .detectorStatus
  | .receivers => (units receiver).map .receivers
  | .processors => (units processor).map .processors

/-- The response that a body is, coming from an endpoint. -/
def decode (endpoint : Endpoint) (body : Json) : Except SchemaError StatusResponse :=
  (decoder endpoint body).mapError fun cause => ⟨endpoint, cause⟩

end StatusResponse

end DetectorDashboard
